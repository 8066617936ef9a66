import ModelImport.Error
import ModelImport.Numeric.Word
import ModelImport.Tensor.Type
/-!
# Axes

An axis is counted from the front, or from the back when it is negative. `normalizeAxis` gives its place from the
front, and `normalizeAxes` does so for a list in which no axis may stand twice.
-/

namespace ModelImport.Infer

/-- The place of an axis among `rank` ones; `key` is the attribute to blame when it is out of range. -/
def normalizeAxis (key : String) (axis : Int) (rank : Nat) : Except ImportError Nat :=
  let place := if axis < 0 then axis + rank else axis
  if 0 ≤ place ∧ place < rank then .ok place.toNat
  else .error (.invalidAttribute key s!"axis {axis} out of range for rank {rank}")

/-- The places of axes none of which is among those already `seen`. -/
def normalizeAxesAfter (key : String) (rank : Nat) (seen : List Nat) : List Int → Except ImportError (List Nat)
  | [] => .ok []
  | axis :: rest => do
    let place ← normalizeAxis key axis rank
    if place ∈ seen then .error (.invalidAttribute key s!"axis {place} listed twice")
    else return place :: (← normalizeAxesAfter key rank (place :: seen) rest)

/-- The places of axes, which must be distinct. -/
def normalizeAxes (key : String) (axes : List Int) (rank : Nat) : Except ImportError (List Nat) :=
  normalizeAxesAfter key rank [] axes

/-- The product of the sizes as a 64-bit word, if all are static. -/
def product? (dims : List Dim) : Option Nat := (dims.mapM Dim.size?).map fun sizes => Word.wrap (sizes.foldr (· * ·) 1)

/-- The sum of the sizes as a 64-bit word, if all are static. -/
def sum? (dims : List Dim) : Option Nat := (dims.mapM Dim.size?).map fun sizes => Word.wrap (sizes.foldr (· + ·) 0)

end ModelImport.Infer
