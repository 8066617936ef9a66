/-!
# Ranges of code points

A set of characters as a list of inclusive ranges of code points, in increasing order. The tables follow Unicode 17.
-/

namespace ModelImport.Text

/-- Whether a code point lies in one of the ranges. -/
def inRanges (ranges : List (Nat × Nat)) (code : Nat) : Bool :=
  ranges.any fun (first, last) => first ≤ code && code ≤ last

end ModelImport.Text
