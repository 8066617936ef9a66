import ModelImport.Tensor.ElementType
/-!
# Tensor types

The static knowledge about a value: its element type and, when the rank is known, what is known of each axis. An axis
is of a fixed size, or dynamic with or without the model's name for it.
-/

namespace ModelImport

/-- One axis of a tensor type. -/
inductive Dim where
  | static (size : Nat)
  | dynamic (name : Option String)
deriving DecidableEq, Repr, Inhabited

namespace Dim

/-- A dynamic axis without a name. -/
def unknown : Dim := .dynamic none

/-- The size of a static axis. -/
def size? : Dim → Option Nat
  | static n => some n
  | dynamic _ => none

/-- A static axis of the given size, or an unnamed dynamic one. -/
def ofSize? : Option Nat → Dim
  | some n => static n
  | none => unknown

def text : Dim → String
  | static n => toString n
  | dynamic (some name) => name
  | dynamic none => "?"

end Dim

/-- An element type with a shape, of which even the rank may be unknown. -/
structure TensorType where
  element : ElementType
  shape : Option (List Dim)
deriving DecidableEq, Repr, Inhabited

namespace TensorType

/-- A type of known rank. -/
def ranked (element : ElementType) (dims : List Dim) : TensorType := ⟨element, some dims⟩

def unranked (element : ElementType) : TensorType := ⟨element, none⟩

def scalar (element : ElementType) : TensorType := ranked element []

/-- A type with every axis of a fixed size. -/
def ofSizes (element : ElementType) (sizes : List Nat) : TensorType := ranked element (sizes.map .static)

/-- A type of known rank with every axis dynamic. -/
def ofRank (element : ElementType) (rank : Nat) : TensorType := ranked element (List.replicate rank .unknown)

/-- A type of known rank, or an unranked one. -/
def ofDims? (element : ElementType) : Option (List Dim) → TensorType
  | some dims => ranked element dims
  | none => unranked element

def rank? (t : TensorType) : Option Nat := t.shape.map List.length

/-- The sizes, when every axis is static. -/
def sizes? (t : TensorType) : Option (List Nat) := t.shape.bind fun dims => dims.mapM Dim.size?

def withElement (t : TensorType) (element : ElementType) : TensorType := { t with element }

/-- The element type followed by the axes in square brackets, or by a star when the rank is unknown. -/
def text (t : TensorType) : String :=
  match t.shape with
  | none => t.element.name ++ "[*]"
  | some dims => t.element.name ++ "[" ++ ",".intercalate (dims.map Dim.text) ++ "]"

end TensorType

end ModelImport
