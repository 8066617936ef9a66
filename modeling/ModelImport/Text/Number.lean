import ModelImport.Numeric.FloatBits
import ModelImport.Numeric.Shortest
/-!
# Text of numbers

A single is written with the fewest digits that read back. Zero and magnitudes from `1e-4` up to `1e16` are written
positionally with at least one fractional digit, all others with one leading digit and an exponent. Lists stand in
square brackets with a comma and a blank between elements.
-/

namespace ModelImport

namespace Single

/-- The rounding interval of a finite nonzero single. Below a power of two the neighbours are half as far away. -/
def roundingInterval (x : Single) : RoundingInterval :=
  let bits := x.bits.toNat
  let e := BinaryFormat.single.exponent bits
  let m := BinaryFormat.single.fraction bits
  let significand := if e = 0 then m else m + Nat.pow 2 23
  let lower := if m = 0 && 1 < e then 1 else 2
  let power : Int := (if e = 0 then 1 else e) - 152
  let scale := Nat.pow 2 power.toNat
  { value := 4 * significand * scale
    low := (4 * significand - lower) * scale
    high := (4 * significand + 2) * scale
    denominator := Nat.pow 2 (-power).toNat
    closed := significand % 2 == 0 }

/-- The bit pattern of `1e16`, from which on magnitudes are written with an exponent. -/
def exponentFrom : Nat := 0x5a0e1bca

/-- The bit pattern of `1e-4`, below which magnitudes are written with an exponent. -/
def exponentBelow : Nat := 0x38d1b717

end Single

namespace Decimal

/-- Positional notation with at least one fractional digit. -/
def positional (d : Decimal) : String :=
  let ds := toString d.digits
  if 0 ≤ d.exponent then ds ++ String.ofList (List.replicate d.exponent.toNat '0') ++ ".0"
  else
    let places := (-d.exponent).toNat
    let digits := List.replicate (places + 1 - ds.length) '0' ++ ds.toList
    String.ofList (digits.take (digits.length - places)) ++ "." ++ String.ofList (digits.drop (digits.length - places))

/-- One digit, the others after a point, and the exponent. -/
def scientific (d : Decimal) : String :=
  let ds := (toString d.digits).toList
  let fraction := if ds.length ≤ 1 then "" else "." ++ String.ofList (ds.drop 1)
  String.ofList (ds.take 1) ++ fraction ++ "e" ++ toString (d.exponent + ((ds.length : Int) - 1))

end Decimal

/-- The text of a single. -/
def Single.text (x : Single) : String :=
  let bits := x.bits.toNat
  let magnitude := bits % Nat.pow 2 31
  let sign := if BinaryFormat.single.sign bits = 1 then "-" else ""
  if x.isNaN then "NaN"
  else if BinaryFormat.single.exponent bits = BinaryFormat.single.topExponent then sign ++ "inf"
  else if magnitude = 0 then sign ++ "0.0"
  else
    let d := x.roundingInterval.shortest
    if magnitude < Single.exponentBelow || Single.exponentFrom ≤ magnitude then sign ++ d.scientific
    else sign ++ d.positional

/-- Elements in square brackets. -/
def listText (items : List String) : String := "[" ++ ", ".intercalate items ++ "]"

/-- The text of a list of integers. -/
def intsText (xs : List Int) : String := listText (xs.map toString)

/-- The text of a list of singles. -/
def singlesText (xs : List Single) : String := listText (xs.map Single.text)

end ModelImport
