/-!
# The shortest decimal that reads back

A positive binary number is given with the interval of reals that round to it. `shortest` is the decimal with the
fewest significant digits inside that interval; of two with the same number of digits it is the nearer one, and
an exact tie goes to the larger. Everything is natural number arithmetic over one common denominator.
-/

namespace ModelImport

/-- A number `value / denominator` with the interval `[low / denominator, high / denominator]` of what rounds to it.
The ends belong to the interval when `closed` holds. -/
structure RoundingInterval where
  value : Nat
  low : Nat
  high : Nat
  denominator : Nat
  closed : Bool

/-- The number `digits * 10 ^ exponent`. -/
structure Decimal where
  digits : Nat
  exponent : Int
deriving DecidableEq, Repr

/-- The number of decimal digits; zero has none. -/
def decimalLength (n : Nat) : Nat := if n = 0 then 0 else decimalLength (n / 10) + 1

namespace Decimal

/-- The same number without trailing zeros in its digits. -/
def normalize (d : Decimal) : Decimal :=
  if h : d.digits % 10 = 0 ∧ d.digits ≠ 0 then normalize ⟨d.digits / 10, d.exponent + 1⟩ else d
termination_by d.digits
decreasing_by omega

end Decimal

namespace RoundingInterval

variable (r : RoundingInterval)

/-- The greatest `e` with `10 ^ e` at most the number. -/
def leadingExponent : Int :=
  if r.denominator ≤ r.value then decimalLength (r.value / r.denominator) - 1
  else -decimalLength ((r.denominator + r.value - 1) / r.value - 1)

/-- A numerator over the common denominator, in units of `10 ^ exponent`: what it is to be compared with is
`digits * unit exponent`. -/
def scaled (numerator : Nat) (exponent : Int) : Nat := numerator * Nat.pow 10 (-exponent).toNat

/-- The numerator of `10 ^ exponent` on the scale of `scaled`. -/
def unit (exponent : Int) : Nat := r.denominator * Nat.pow 10 exponent.toNat

/-- Whether `digits * 10 ^ exponent` lies in the interval. -/
def holds (digits : Nat) (exponent : Int) : Bool :=
  let x := digits * r.unit exponent
  let low := scaled r.low exponent
  let high := scaled r.high exponent
  if r.closed then low ≤ x && x ≤ high else low < x && x < high

/-- The better of the two neighbours of the number among the multiples of `10 ^ exponent`, if one lies in the
interval. -/
def onGrid (exponent : Int) : Option Decimal :=
  let v := scaled r.value exponent
  let u := r.unit exponent
  let below := v / u
  match r.holds below exponent, r.holds (below + 1) exponent with
  | true, true => some ⟨if u ≤ 2 * (v - below * u) then below + 1 else below, exponent⟩
  | true, false => some ⟨below, exponent⟩
  | false, true => some ⟨below + 1, exponent⟩
  | false, false => none

/-- The shortest decimal in the interval. Twenty digits are more than any double needs; past them the number is cut
off. -/
def shortest : Decimal :=
  let e := r.leadingExponent
  let found := (List.range 20).findSome? fun n : Nat => r.onGrid (e - n)
  (found.getD ⟨r.value / r.denominator, 0⟩).normalize

end RoundingInterval

end ModelImport
