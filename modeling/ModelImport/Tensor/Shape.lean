/-!
# Shapes

A shape is the list of its sizes. Elements are laid out with the last axis running fastest; `flatIndex` is the place of
an index in that layout.
-/

namespace ModelImport

/-- The sizes of a tensor, outermost axis first. -/
structure Shape where
  dims : List Nat
deriving DecidableEq, Repr, Inhabited

namespace Shape

/-- The shape of a single element. -/
def scalar : Shape := ⟨[]⟩

/-- The shape of a list of `n` elements. -/
def vector (n : Nat) : Shape := ⟨[n]⟩

def rank (s : Shape) : Nat := s.dims.length

/-- The number of elements. It has no bound: sizes whose product is `2 ^ 64` or more have it as their volume, where a
product of words would wrap or stop. -/
def volume (s : Shape) : Nat := s.dims.foldr (· * ·) 1

/-- For each axis, how far apart in the layout two neighbours along it are. -/
def strides : List Nat → List Nat
  | [] => []
  | _ :: rest => rest.foldr (· * ·) 1 :: strides rest

/-- Whether an index has the right rank and each component is below its size. -/
def inBounds : List Nat → List Nat → Bool
  | [], [] => true
  | i :: is, d :: ds => i < d && inBounds is ds
  | _, _ => false

/-- The place of an index in the layout, if it is one of the shape's. -/
def flatIndex (s : Shape) (index : List Nat) : Option Nat :=
  if inBounds index s.dims then some ((List.zipWith (· * ·) (strides s.dims) index).foldr (· + ·) 0) else none

/-- The sizes in square brackets. -/
def text (s : Shape) : String := "[" ++ ",".intercalate (s.dims.map toString) ++ "]"

end Shape

end ModelImport
