import ModelImport.Error
import ModelImport.Graph.Basic
import ModelImport.Text.Names
/-!
# Reading attributes

A view of a node's attributes answers each read strictly by kind, never by coercion, and remembers which of the stored
keys were asked for, whether or not the answer was a failure.
-/

namespace ModelImport

/-- The type of the values of each kind. -/
abbrev AttributeKind.Carrier : AttributeKind → Type
  | int => Int
  | float => Single
  | string => String
  | tensor => StoredTensor
  | graph => Graph
  | ints => List Int
  | floats => List Single
  | strings => List String
  | tensors => List StoredTensor
  | graphs => List Graph

/-- The value as one of the given kind, if it is of that kind. -/
def AttributeValue.as? : (k : AttributeKind) → AttributeValue → Option k.Carrier
  | .int, int v => some v
  | .float, float v => some v
  | .string, string v => some v
  | .tensor, tensor v => some v
  | .graph, graph v => some v
  | .ints, ints v => some v
  | .floats, floats v => some v
  | .strings, strings v => some v
  | .tensors, tensors v => some v
  | .graphs, graphs v => some v
  | _, _ => none

/-- The attributes of a node with the keys that have been read. -/
structure AttributeView where
  bag : AttributeBag
  reads : List String

namespace AttributeView

/-- The view in which nothing has been read. -/
def ofBag (bag : AttributeBag) : AttributeView := ⟨bag, []⟩

def contains (v : AttributeView) (key : String) : Bool := AttributeBag.contains v.bag key

/-- What a read of `key` as the kind `k` answers: nothing for an absent key, a failure for a value of another kind. -/
def value (v : AttributeView) (k : AttributeKind) (key : String) : Except ImportError (Option k.Carrier) :=
  match AttributeBag.find? v.bag key with
  | none => .ok none
  | some stored =>
    match stored.as? k with
    | some value => .ok (some value)
    | none => .error (.attributeTypeMismatch key k stored.kind)

/-- The view after a read of `key`. -/
def note (v : AttributeView) (key : String) : AttributeView :=
  if v.contains key then { v with reads := key :: v.reads } else v

/-- Reads an attribute that may be absent. -/
def get (v : AttributeView) (k : AttributeKind) (key : String) :
    Except ImportError (Option k.Carrier) × AttributeView :=
  (v.value k key, v.note key)

/-- Reads an attribute with a default. -/
def getOr (v : AttributeView) (k : AttributeKind) (key : String) (default : k.Carrier) :
    Except ImportError k.Carrier × AttributeView :=
  ((v.value k key).map (·.getD default), v.note key)

/-- Reads an attribute that must be present. -/
def required (v : AttributeView) (k : AttributeKind) (key : String) :
    Except ImportError k.Carrier × AttributeView :=
  (do
    match ← v.value k key with
    | some value => .ok value
    | none => .error (.missingAttribute key), v.note key)

/-- The stored keys that nothing has read, in increasing order. -/
def unread (v : AttributeView) : List String :=
  Text.sortNames ((AttributeBag.keys v.bag).filter fun key => !v.reads.contains key)

end AttributeView

end ModelImport
