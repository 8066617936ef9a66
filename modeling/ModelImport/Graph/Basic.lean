import ModelImport.Attribute.Kind
import ModelImport.Numeric.FloatBits
/-!
# Models

A model as it is handed to the conversion: a graph of nodes over named values, with declared inputs and outputs and
constant tensors still in the form in which they were stored. A node carries a bag of named attributes, and an
attribute may hold a graph of its own (the body of a loop), so attribute values, nodes and graphs refer to one another;
`NodeOf` and `GraphOf` leave the attribute value open, and `AttributeValue` closes the circle.
-/

namespace ModelImport

/-! ## Stored tensors and declared values -/

/-- Where the elements of a stored tensor are. The narrow integer types, booleans and the bit patterns of half and brain
floats are stored as 32-bit integers, and 32-bit unsigned integers as 64-bit ones. -/
inductive Payload where
  /-- The bytes of the elements, least significant first. -/
  | raw (bytes : List UInt8)
  | floats (values : List Single)
  | int32s (values : List Int32)
  | int64s (values : List Int64)
  | doubles (values : List Double)
  | uint64s (values : List UInt64)
  | strings (values : List (List UInt8))
  /-- Outside the model, at the given location. -/
  | external (location : String)
  | empty
deriving DecidableEq, Repr, Inhabited

/-- A tensor as it is stored in a model. -/
structure StoredTensor where
  name : String
  /-- The data type code. -/
  code : Int
  dims : List Int
  payload : Payload
deriving DecidableEq, Repr, Inhabited

/-- One axis of a declared value. -/
inductive DeclaredDim where
  | value (size : Int)
  | param (name : String)
  | unknown
deriving DecidableEq, Repr, Inhabited

/-- A declared input or output. -/
structure DeclaredValue where
  name : String
  /-- The data type code, if the declaration has a tensor type. -/
  code : Option Int
  /-- The axes, if the rank is known. -/
  shape : Option (List DeclaredDim)
deriving DecidableEq, Repr, Inhabited

/-! ## Nodes and graphs -/

/-- One application of an operator, over attribute values of type `α`. An empty name stands for an omitted input or
output. -/
structure NodeOf (α : Type) where
  name : String
  opType : String
  domain : String
  inputs : List String
  outputs : List String
  attributes : List (String × α)
deriving Inhabited

structure GraphOf (α : Type) where
  name : String
  nodes : List (NodeOf α)
  inputs : List DeclaredValue
  outputs : List DeclaredValue
  initializers : List StoredTensor
deriving Inhabited

/-- The value of an attribute. -/
inductive AttributeValue where
  | int (value : Int)
  | float (value : Single)
  | string (value : String)
  | tensor (value : StoredTensor)
  | graph (value : GraphOf AttributeValue)
  | ints (values : List Int)
  | floats (values : List Single)
  | strings (values : List String)
  | tensors (values : List StoredTensor)
  | graphs (values : List (GraphOf AttributeValue))
deriving Inhabited

abbrev Node := NodeOf AttributeValue

abbrev Graph := GraphOf AttributeValue

/-- The attributes of a node. The first entry for a key is the one that counts. -/
abbrev AttributeBag := List (String × AttributeValue)

/-- A graph with the version of the operator set it is written for. -/
structure Model where
  irVersion : Int
  opset : Int
  producer : String
  graph : Graph
deriving Inhabited

/-- The operator set version of a model that declares none. -/
def defaultOpset : Int := 13

/-- Whether a domain is that of the standard operators. -/
def isStandardDomain (domain : String) : Bool := domain == "" || domain == "ai.onnx"

namespace NodeOf

variable {α : Type}

/-- The name a node goes by in messages: its own, else that of its first named output. -/
def displayName (n : NodeOf α) : String :=
  if n.name ≠ "" then n.name else (n.outputs.find? (· ≠ "")).getD "<anonymous>"

end NodeOf

namespace AttributeValue

def kind : AttributeValue → AttributeKind
  | int _ => .int
  | float _ => .float
  | string _ => .string
  | tensor _ => .tensor
  | graph _ => .graph
  | ints _ => .ints
  | floats _ => .floats
  | strings _ => .strings
  | tensors _ => .tensors
  | graphs _ => .graphs

end AttributeValue

namespace AttributeBag

/-- The value stored under a key. -/
def find? (bag : AttributeBag) (key : String) : Option AttributeValue := (List.find? (·.1 == key) bag).map (·.2)

def contains (bag : AttributeBag) (key : String) : Bool := (find? bag key).isSome

/-- The keys, each once. -/
def keys (bag : AttributeBag) : List String := (bag.map (·.1)).eraseDups

/-- The bag of a list of entries in which a later entry replaces an earlier one with its key. -/
def ofEntries : List (String × AttributeValue) → AttributeBag
  | [] => []
  | (key, value) :: rest =>
    let bag := ofEntries rest
    if contains bag key then bag else (key, value) :: bag

/-- A stored value is smaller than the bag it is stored in. -/
theorem sizeOf_find? {bag : AttributeBag} {key : String} {value : AttributeValue}
    (h : find? bag key = some value) : sizeOf value < sizeOf bag := by
  simp only [find?, Option.map_eq_some_iff] at h
  obtain ⟨⟨key', value'⟩, hm, rfl⟩ := h
  have := List.sizeOf_lt_of_mem (List.mem_of_find?_eq_some hm)
  simp only [Prod.mk.sizeOf_spec] at this
  simp only
  omega

end AttributeBag

end ModelImport
