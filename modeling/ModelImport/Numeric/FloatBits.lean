/-!
# Floating-point values as bit patterns

Every floating-point value is kept as its bit pattern, so that equality, storage and printing never depend on how
a not-a-number compares. Arithmetic happens on doubles only, through `Float`; the three narrower formats widen
to a double exactly.
-/

namespace ModelImport

/-- An IEEE half-precision value. -/
structure Half where
  bits : UInt16
deriving DecidableEq, Repr, Inhabited

/-- A brain float: the upper half of a single. -/
structure Brain where
  bits : UInt16
deriving DecidableEq, Repr, Inhabited

/-- An IEEE single-precision value. -/
structure Single where
  bits : UInt32
deriving DecidableEq, Repr, Inhabited

/-- An IEEE double-precision value. -/
structure Double where
  bits : UInt64
deriving DecidableEq, Repr, Inhabited

/-! ## Layout -/

/-- The widths of the exponent and of the fraction of a binary format. -/
structure BinaryFormat where
  exponentWidth : Nat
  fractionWidth : Nat

namespace BinaryFormat

def half : BinaryFormat := ⟨5, 10⟩
def brain : BinaryFormat := ⟨8, 7⟩
def single : BinaryFormat := ⟨8, 23⟩

/-- The exponent field of a bit pattern. -/
def exponent (f : BinaryFormat) (bits : Nat) : Nat := bits / Nat.pow 2 f.fractionWidth % Nat.pow 2 f.exponentWidth

/-- The fraction field of a bit pattern. -/
def fraction (f : BinaryFormat) (bits : Nat) : Nat := bits % Nat.pow 2 f.fractionWidth

/-- The sign bit of a bit pattern. -/
def sign (f : BinaryFormat) (bits : Nat) : Nat := bits / Nat.pow 2 (f.fractionWidth + f.exponentWidth) % 2

/-- The exponent field of infinities and of every not-a-number. -/
def topExponent (f : BinaryFormat) : Nat := Nat.pow 2 f.exponentWidth - 1

/-- The exponent field of the numbers in `[1, 2)`. -/
def bias (f : BinaryFormat) : Nat := Nat.pow 2 (f.exponentWidth - 1) - 1

/-- The double with the same value, as a bit pattern. A number below the normal range has its leading fraction bit
moved to the implicit place; infinities and not-a-numbers keep their fraction. -/
def widen (f : BinaryFormat) (bits : Nat) : Nat :=
  let signPart := f.sign bits * Nat.pow 2 63
  let e := f.exponent bits
  let m := f.fraction bits
  if e = f.topExponent then signPart + 2047 * Nat.pow 2 52 + m * Nat.pow 2 (52 - f.fractionWidth)
  else if e ≠ 0 then signPart + (e + 1023 - f.bias) * Nat.pow 2 52 + m * Nat.pow 2 (52 - f.fractionWidth)
  else if m = 0 then signPart
  else
    let top := m.log2
    signPart + (1024 - f.bias + top - f.fractionWidth) * Nat.pow 2 52 + (m - Nat.pow 2 top) * Nat.pow 2 (52 - top)

end BinaryFormat

/-! ## Conversions -/

namespace Single

/-- A not-a-number, whatever its fraction. -/
def isNaN (x : Single) : Bool :=
  BinaryFormat.single.exponent x.bits.toNat == BinaryFormat.single.topExponent &&
    BinaryFormat.single.fraction x.bits.toNat != 0

/-- Zero of either sign. -/
def isZero (x : Single) : Bool := x.bits.toNat % Nat.pow 2 31 == 0

end Single

namespace Double

/-- A not-a-number, whatever its fraction. -/
def isNaN (x : Double) : Bool := x.bits.toNat / Nat.pow 2 52 % Nat.pow 2 11 == 2047 && x.bits.toNat % Nat.pow 2 52 != 0

def toFloat (x : Double) : Float := Float.ofBits x.bits

def ofFloat (x : Float) : Double := ⟨x.toBits⟩

def ofHalf (x : Half) : Double := ⟨UInt64.ofNat (BinaryFormat.half.widen x.bits.toNat)⟩

def ofBrain (x : Brain) : Double := ⟨UInt64.ofNat (BinaryFormat.brain.widen x.bits.toNat)⟩

def ofSingle (x : Single) : Double := ⟨UInt64.ofNat (BinaryFormat.single.widen x.bits.toNat)⟩

/-- The double nearest to a signed 64-bit value. -/
def ofInt (i : Int) : Double := ofFloat (Int64.ofInt i).toFloat

/-- The double nearest to a size. -/
def ofSize (n : Nat) : Double := ofFloat (UInt64.ofNat n).toFloat

/-- The nearest single. -/
def toSingle (x : Double) : Single := ⟨x.toFloat.toFloat32.toBits⟩

/-- The size a double stands for: its fraction is cut off, what is out of range goes to the nearer end of the range,
and a not-a-number counts as zero. -/
def toSize (x : Double) : Nat := x.toFloat.toUInt64.toNat

def sub (x y : Double) : Double := ofFloat (x.toFloat - y.toFloat)
def mul (x y : Double) : Double := ofFloat (x.toFloat * y.toFloat)
def div (x y : Double) : Double := ofFloat (x.toFloat / y.toFloat)
def ceil (x : Double) : Double := ofFloat x.toFloat.ceil
def floor (x : Double) : Double := ofFloat x.toFloat.floor

/-- Equal as a number to zero of either sign. -/
def isZero (x : Double) : Bool := x.toFloat == 0

/-- Equal as a number to one. -/
def isOne (x : Double) : Bool := x.toFloat == 1

end Double

end ModelImport
