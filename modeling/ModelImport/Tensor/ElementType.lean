import ModelImport.Numeric.FloatBits
/-!
# Element types

The thirteen element types, their names and sizes, and the type of the values each stands for. Floating-point elements
are bit patterns.
-/

namespace ModelImport

inductive ElementType where
  | f16 | bf16 | f32 | f64
  | i8 | i16 | i32 | i64
  | u8 | u16 | u32 | u64
  | bool
deriving DecidableEq, Repr, Inhabited

namespace ElementType

/-- Every element type. -/
def all : List ElementType := [.f16, .bf16, .f32, .f64, .i8, .i16, .i32, .i64, .u8, .u16, .u32, .u64, .bool]

def name : ElementType → String
  | f16 => "f16"
  | bf16 => "bf16"
  | f32 => "f32"
  | f64 => "f64"
  | i8 => "i8"
  | i16 => "i16"
  | i32 => "i32"
  | i64 => "i64"
  | u8 => "u8"
  | u16 => "u16"
  | u32 => "u32"
  | u64 => "u64"
  | bool => "bool"

/-- The number of bytes of one element. -/
def size : ElementType → Nat
  | i8 | u8 | bool => 1
  | f16 | bf16 | i16 | u16 => 2
  | f32 | i32 | u32 => 4
  | f64 | i64 | u64 => 8

def isFloat : ElementType → Bool
  | f16 | bf16 | f32 | f64 => true
  | _ => false

def isInteger (e : ElementType) : Bool := !e.isFloat && e != .bool

/-- The element type of a data type code of the model format. Text and complex numbers have none. -/
def ofCode? (code : Int) : Option ElementType :=
  match code with
  | 1 => some f32
  | 2 => some u8
  | 3 => some i8
  | 4 => some u16
  | 5 => some i16
  | 6 => some i32
  | 7 => some i64
  | 9 => some bool
  | 10 => some f16
  | 11 => some f64
  | 12 => some u32
  | 13 => some u64
  | 16 => some bf16
  | _ => none

/-- The data type code of an element type. -/
def code : ElementType → Int
  | f32 => 1
  | u8 => 2
  | i8 => 3
  | u16 => 4
  | i16 => 5
  | i32 => 6
  | i64 => 7
  | bool => 9
  | f16 => 10
  | f64 => 11
  | u32 => 12
  | u64 => 13
  | bf16 => 16

/-- The data type code of text, which no element type has. -/
def textCode : Int := 8

/-- The type of the values that an element of the given type can have. -/
abbrev Carrier : ElementType → Type
  | f16 => Half
  | bf16 => Brain
  | f32 => Single
  | f64 => Double
  | i8 => Int8
  | i16 => Int16
  | i32 => Int32
  | i64 => Int64
  | u8 => UInt8
  | u16 => UInt16
  | u32 => UInt32
  | u64 => UInt64
  | bool => Bool

instance : (e : ElementType) → DecidableEq e.Carrier
  | f16 => inferInstanceAs (DecidableEq Half)
  | bf16 => inferInstanceAs (DecidableEq Brain)
  | f32 => inferInstanceAs (DecidableEq Single)
  | f64 => inferInstanceAs (DecidableEq Double)
  | i8 => inferInstanceAs (DecidableEq Int8)
  | i16 => inferInstanceAs (DecidableEq Int16)
  | i32 => inferInstanceAs (DecidableEq Int32)
  | i64 => inferInstanceAs (DecidableEq Int64)
  | u8 => inferInstanceAs (DecidableEq UInt8)
  | u16 => inferInstanceAs (DecidableEq UInt16)
  | u32 => inferInstanceAs (DecidableEq UInt32)
  | u64 => inferInstanceAs (DecidableEq UInt64)
  | bool => inferInstanceAs (DecidableEq Bool)

theorem ofCode?_code (e : ElementType) : ofCode? e.code = some e := by cases e <;> rfl

end ElementType

end ModelImport
