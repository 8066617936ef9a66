import ModelImport.Infer.Axis
import ModelImport.Numeric.Word
/-!
# Reshaping

The axes of a value laid out anew. A target size of 0 keeps the axis of the input at its place, unless zeros are allowed
as sizes; one size of -1 stands for whatever the others leave over.
-/

namespace ModelImport.Infer

/-- The axis at `index` of a target, before the size left over is filled in. -/
def targetDim (input : Option (List Dim)) (allowZero : Bool) (index : Nat) (size : Int) : Dim :=
  if size = 0 then
    if allowZero then .static 0 else (input.bind (·[index]?)).getD .unknown
  else .ofSize? (Word.size? size)

/-- The axes of a target from `index` on; `inferred` says that a -1 came before. -/
def targetDims (input : Option (List Dim)) (allowZero : Bool) :
    (index : Nat) → (inferred : Bool) → List Int → Except ImportError (List Dim)
  | _, _, [] => .ok []
  | index, inferred, size :: rest =>
    if size = -1 ∧ inferred then .error (.invalidAttribute "shape" "more than one -1")
    else if size < -1 then .error (.invalidAttribute "shape" s!"invalid dimension {size}")
    else do
      let dims ← targetDims input allowZero (index + 1) (inferred || size == -1) rest
      return targetDim input allowZero index size :: dims

/-- The size left over for the axis at `index`, when all others and the input are static and divide evenly. -/
def leftOver? (input : Option (List Dim)) (dims : List Dim) (index : Nat) : Option Nat := do
  let total ← input.bind product?
  let known ← product? (dims.eraseIdx index)
  if known ≠ 0 ∧ total % known = 0 then some (total / known) else none

/-- The axes of a reshaped value. -/
def reshapeDims (input : Option (List Dim)) (target : List Int) (allowZero : Bool) :
    Except ImportError (List Dim) := do
  let dims ← targetDims input allowZero 0 false target
  match target.findIdx? (· == -1) with
  | none => return dims
  | some index =>
    match leftOver? input dims index with
    | some size => return dims.set index (.static size)
    | none => return dims

/-- The two axes of a flattened value: the product of those before the axis and of those from it on. The axis may be
the rank itself. -/
def flattenDims (dims : List Dim) (axis : Int) : Except ImportError (Nat × List Dim) := do
  let axis ← normalizeAxis "axis" axis (dims.length + 1)
  return (axis, [.ofSize? (product? (dims.take axis)), .ofSize? (product? (dims.drop axis))])

/-- The permutation of axes: the given one, or the reversal. -/
def permutation (perm : Option (List Int)) (rank : Nat) : Except ImportError (List Nat) :=
  match perm with
  | none => .ok (List.range rank).reverse
  | some perm =>
    if perm.length ≠ rank then .error (.invalidAttribute "perm" s!"{perm.length} entries for rank {rank}")
    else normalizeAxes "perm" perm rank

/-- The axes in the order of a permutation. -/
def permute (dims : List Dim) (perm : List Nat) : List Dim := perm.filterMap (dims[·]?)

/-- The axes at other places than the given ones. -/
def dropAxes (dims : List Dim) (axes : List Nat) : List Dim :=
  (dims.zipIdx.filter fun (_, i) => !axes.contains i).map (·.1)

/-- Refuses the first of the axes that has a size other than 1. -/
def checkUnitAxes (dims : List Dim) : List Nat → Except ImportError Unit
  | [] => .ok ()
  | axis :: rest =>
    match (dims[axis]?).bind Dim.size? with
    | some size =>
      if size = 1 then checkUnitAxes dims rest
      else .error (.invalidAttribute "axes" s!"axis {axis} has size {size}, not 1")
    | none => checkUnitAxes dims rest

/-- The places of the axes to be squeezed out, and the axes that stay. -/
def squeezeDims (dims : List Dim) (axes : List Int) : Except ImportError (List Nat × List Dim) := do
  let axes ← normalizeAxes "axes" axes dims.length
  checkUnitAxes dims axes
  return (axes, dropAxes dims axes)

/-- The places of the axes of size 1. -/
def unitAxes (dims : List Dim) : List Nat :=
  (dims.zipIdx.filter fun (d, _) => d == .static 1).map (·.2)

/-- Axes with one of size 1 at each of the given places of the result, from place `index` on. -/
def insertUnits (axes : List Nat) : (index count : Nat) → List Dim → List Dim
  | _, 0, _ => []
  | index, count + 1, dims =>
    if index ∈ axes then .static 1 :: insertUnits axes (index + 1) count dims
    else dims.head?.getD .unknown :: insertUnits axes (index + 1) count dims.tail

/-- The places of the new axes in the result, and the axes of the result. -/
def unsqueezeDims (dims : List Dim) (axes : List Int) : Except ImportError (List Nat × List Dim) := do
  let rank := dims.length + axes.length
  let places ← normalizeAxes "axes" axes rank
  return (places, insertUnits places 0 rank dims)

end ModelImport.Infer
