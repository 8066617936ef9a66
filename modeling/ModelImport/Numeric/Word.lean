/-!
# 64-bit sizes and offsets

Sizes are natural numbers, attribute values are integers. Both stand for 64-bit words at the edges of the
library, and the operations here say what happens there: sums and products of sizes stop at the largest word,
a size shown as an attribute value is read as two's complement, and an integer taken as a size, like the product
of all the sizes of a shape and the sum of those along an axis, is reduced modulo `2 ^ 64`. Reducing products and sums
is what words do in a build without overflow checks; with checks, the run would end there.
-/

namespace ModelImport.Word

/-- The number of 64-bit words. -/
def count : Nat := Nat.pow 2 64

/-- The largest size. -/
def largest : Nat := count - 1

/-- A number reduced to a 64-bit word. -/
def wrap (n : Nat) : Nat := n % count

/-- Addition that stops at the largest size. -/
def satAdd (a b : Nat) : Nat := min (a + b) largest

/-- Multiplication that stops at the largest size. -/
def satMul (a b : Nat) : Nat := min (a * b) largest

/-- The quotient by a positive number, rounded up. -/
def ceilDiv (a b : Nat) : Nat := (a + b - 1) / b

/-- A size read as a signed 64-bit value. -/
def toSigned (n : Nat) : Int := Int.bmod n count

/-- A signed value read as a size, modulo `2 ^ 64`. -/
def ofSigned (i : Int) : Nat := (i % count).toNat

/-- The integers that a signed 64-bit value can hold. -/
def FitsSigned (i : Int) : Prop := -Int.pow 2 63 ≤ i ∧ i < Int.pow 2 63

instance (i : Int) : Decidable (FitsSigned i) := inferInstanceAs (Decidable (_ ∧ _))

/-- An integer as a size, when it is not negative. -/
def size? (i : Int) : Option Nat := if 0 ≤ i then some i.toNat else none

/-- A size as a signed value, when one can hold it. -/
def signed? (n : Nat) : Option Int := if n < Nat.pow 2 63 then some n else none

/-- The sum of two signed values, when a signed value can hold it. -/
def checkedAdd (a b : Int) : Option Int := if FitsSigned (a + b) then some (a + b) else none

end ModelImport.Word
