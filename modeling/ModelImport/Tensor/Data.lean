import ModelImport.Numeric.Word
import ModelImport.Tensor.ElementType
import ModelImport.Tensor.Shape
/-!
# Tensors

A tensor is a flat list of values with a shape; tensor data is a tensor together with its element type. Constants are
read either as integers, when the element type is not a floating-point one, or as doubles.
-/

namespace ModelImport

/-- Values laid out along a shape, last axis fastest. -/
structure Tensor (α : Type) where
  values : List α
  shape : Shape

namespace Tensor

variable {α : Type}

/-- A tensor of the given values, if there are as many as the shape needs. -/
def ofList? (values : List α) (shape : Shape) : Option (Tensor α) :=
  if values.length = shape.volume then some ⟨values, shape⟩ else none

/-- The tensor of the given shape with one value everywhere. -/
def filled (value : α) (shape : Shape) : Tensor α := ⟨List.replicate shape.volume value, shape⟩

/-- The tensor of rank one with the given values. -/
def vector (values : List α) : Tensor α := ⟨values, .vector values.length⟩

/-- The value at an index. -/
def get? (t : Tensor α) (index : List Nat) : Option α := (t.shape.flatIndex index).bind (t.values[·]?)

end Tensor

/-- A tensor of any element type. -/
structure TensorData where
  element : ElementType
  tensor : Tensor element.Carrier

namespace TensorData

def shape (t : TensorData) : Shape := t.tensor.shape

/-- The number of elements. -/
def length (t : TensorData) : Nat := t.shape.volume

/-- One integer or boolean element as a signed 64-bit value. -/
def elementInt : (e : ElementType) → e.Carrier → Int
  | .i8, v => v.toInt
  | .i16, v => v.toInt
  | .i32, v => v.toInt
  | .i64, v => v.toInt
  | .u8, v => v.toNat
  | .u16, v => v.toNat
  | .u32, v => v.toNat
  | .u64, v => Word.toSigned v.toNat
  | .bool, v => if v then 1 else 0
  | .f16, _ | .bf16, _ | .f32, _ | .f64, _ => 0

/-- The elements as signed 64-bit values, for integer and boolean tensors only. -/
def ints? (t : TensorData) : Option (List Int) :=
  if t.element.isFloat then none else some (t.tensor.values.map (elementInt t.element))

/-- One element as a double. -/
def elementDouble : (e : ElementType) → e.Carrier → Double
  | .f16, v => .ofHalf v
  | .bf16, v => .ofBrain v
  | .f32, v => .ofSingle v
  | .f64, v => v
  | e, v => .ofInt (elementInt e v)

/-- The elements as doubles. -/
def doubles (t : TensorData) : List Double := t.tensor.values.map (elementDouble t.element)

/-- The element type followed by the shape. -/
def text (t : TensorData) : String := t.element.name ++ t.shape.text

/-- A constant of rank zero. -/
def scalarInt (i : Int) : TensorData := ⟨.i64, .filled (Int64.ofInt i) .scalar⟩

/-- A constant list of integers. -/
def vectorInts (is : List Int) : TensorData := ⟨.i64, .vector (is.map Int64.ofInt)⟩

def scalarSingle (x : Single) : TensorData := ⟨.f32, .filled x .scalar⟩

def vectorSingles (xs : List Single) : TensorData := ⟨.f32, .vector xs⟩

end TensorData

end ModelImport
