import ModelImport.Graph.Basic
import ModelImport.Numeric.Bytes
/-!
# Serialized models as messages

The messages of a serialized model as plain records. They are close to the wire: every field of a message is there, set
or not, and it is left to decoding to tell which of them count.
-/

namespace ModelImport

structure TensorMessage where
  name : String
  dataType : Int
  dims : List Int
  floats : List Single
  int32s : List Int32
  strings : List Bytes
  int64s : List Int64
  raw : Bytes
  doubles : List Double
  uint64s : List UInt64
  /-- Where external data are: keys and values. -/
  externalData : List (String × String)
deriving DecidableEq, Repr, Inhabited

/-- One axis of a declared shape: a size or a name, if any. -/
inductive DimMessage where
  | value (size : Int)
  | param (name : String)
  | unset
deriving DecidableEq, Repr, Inhabited

structure TensorTypeMessage where
  elemType : Int
  shape : Option (List DimMessage)
deriving DecidableEq, Repr, Inhabited

structure ValueMessage where
  name : String
  /-- The tensor type, if the value is declared with one. -/
  type : Option TensorTypeMessage
deriving DecidableEq, Repr, Inhabited

structure NodeMessageOf (α : Type) where
  inputs : List String
  outputs : List String
  name : String
  opType : String
  domain : String
  attributes : List α
deriving Inhabited

structure GraphMessageOf (α : Type) where
  nodes : List (NodeMessageOf α)
  name : String
  initializers : List TensorMessage
  inputs : List ValueMessage
  outputs : List ValueMessage
deriving Inhabited

/-- An attribute: a tag for its kind, which may be missing, and a field for each kind. -/
structure AttributeMessage where
  name : String
  tag : Int
  float : Single
  int : Int
  string : Bytes
  tensor : Option TensorMessage
  graph : Option (GraphMessageOf AttributeMessage)
  floats : List Single
  ints : List Int
  strings : List Bytes
  tensors : List TensorMessage
  graphs : List (GraphMessageOf AttributeMessage)
deriving Inhabited

abbrev NodeMessage := NodeMessageOf AttributeMessage

abbrev GraphMessage := GraphMessageOf AttributeMessage

/-- The version of the operator set of one domain. -/
structure OpsetMessage where
  domain : String
  version : Int
deriving DecidableEq, Repr, Inhabited

structure ModelMessage where
  irVersion : Int
  producer : String
  graph : Option GraphMessage
  opsets : List OpsetMessage
deriving Inhabited

end ModelImport
