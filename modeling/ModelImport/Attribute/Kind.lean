/-!
# Attribute kinds

The ten kinds of value an attribute can hold.
-/

namespace ModelImport

inductive AttributeKind where
  | int | float | string | tensor | graph
  | ints | floats | strings | tensors | graphs
deriving DecidableEq, Repr, Inhabited

namespace AttributeKind

/-- Every kind. -/
def all : List AttributeKind := [.int, .float, .string, .tensor, .graph, .ints, .floats, .strings, .tensors, .graphs]

/-- The kind as it is named in messages. -/
def text : AttributeKind → String
  | int => "int"
  | float => "float"
  | string => "string"
  | tensor => "tensor"
  | graph => "graph"
  | ints => "list of ints"
  | floats => "list of floats"
  | strings => "list of strings"
  | tensors => "list of tensors"
  | graphs => "list of graphs"

end AttributeKind

end ModelImport
