import ModelImport.Error
import ModelImport.Graph.Basic
import ModelImport.Numeric.Bytes
import ModelImport.Tensor.Data
import ModelImport.Tensor.Type
import ModelImport.Text.Number
/-!
# From stored form to tensors and types

`StoredTensor.materialize` turns a stored tensor into tensor data, checking that the payload holds exactly the elements
that the dimensions call for, in the field that belongs to the element type or as raw bytes. How many these are is
`Shape.volume`, which has no bound; dimensions whose product is `2 ^ 64` or more are therefore refused with any payload,
also where a product of words would wrap to the length of the payload. `DeclaredValue.type` is the tensor type of a
declared input or output.
-/

namespace ModelImport

/-- The element type of a data type code. -/
def resolveElement (code : Int) : Except ImportError ElementType :=
  match ElementType.ofCode? code with
  | some e => .ok e
  | none => .error (.unsupportedElementType code)

/-- A negative size is as unknown as none at all. -/
def DeclaredDim.dim : DeclaredDim → Dim
  | value n => .ofSize? (Word.size? n)
  | param name => .dynamic (some name)
  | unknown => .unknown

/-- The tensor type of a declaration. A declaration without a tensor type counts as one of type code 0, which no
element type has. -/
def DeclaredValue.type (d : DeclaredValue) : Except ImportError TensorType := do
  let element ← resolveElement (d.code.getD 0)
  return ⟨element, d.shape.map fun dims => dims.map DeclaredDim.dim⟩

/-! ## Raw bytes -/

/-- One element from its bytes. Every nonzero byte is a true boolean. -/
def ElementType.ofBytes (e : ElementType) (bytes : List UInt8) : e.Carrier :=
  let n := littleEndian bytes
  match e with
  | f16 => ⟨UInt16.ofNat n⟩
  | bf16 => ⟨UInt16.ofNat n⟩
  | f32 => ⟨UInt32.ofNat n⟩
  | f64 => ⟨UInt64.ofNat n⟩
  | i8 => (UInt8.ofNat n).toInt8
  | i16 => (UInt16.ofNat n).toInt16
  | i32 => (UInt32.ofNat n).toInt32
  | i64 => (UInt64.ofNat n).toInt64
  | u8 => UInt8.ofNat n
  | u16 => UInt16.ofNat n
  | u32 => UInt32.ofNat n
  | u64 => UInt64.ofNat n
  | bool => n ≠ 0

/-! ## Typed fields -/

namespace Payload

/-- The elements of the given type in a typed field, if the field is the one that holds them. Elements narrower than
their field lose the upper bits of it. -/
def elements? : (e : ElementType) → Payload → Option (List e.Carrier)
  | .f32, floats vs => some vs
  | .f64, doubles vs => some vs
  | .i64, int64s vs => some vs
  | .i32, int32s vs => some vs
  | .i16, int32s vs => some (vs.map Int32.toInt16)
  | .i8, int32s vs => some (vs.map Int32.toInt8)
  | .u16, int32s vs => some (vs.map fun v => v.toInt16.toUInt16)
  | .u8, int32s vs => some (vs.map fun v => v.toInt8.toUInt8)
  | .bool, int32s vs => some (vs.map (· ≠ 0))
  | .f16, int32s vs => some (vs.map fun v => ⟨v.toInt16.toUInt16⟩)
  | .bf16, int32s vs => some (vs.map fun v => ⟨v.toInt16.toUInt16⟩)
  | .u32, uint64s vs => some (vs.map UInt64.toUInt32)
  | .u64, uint64s vs => some vs
  | _, _ => none

/-- The number of entries of a field. -/
def entries : Payload → Nat
  | raw bytes => bytes.length
  | floats vs => vs.length
  | int32s vs => vs.length
  | int64s vs => vs.length
  | doubles vs => vs.length
  | uint64s vs => vs.length
  | strings vs => vs.length
  | external _ | empty => 0

/-- The name of the field that a payload fills. -/
def field : Payload → String
  | raw _ => "raw_data"
  | floats _ => "float_data"
  | int32s _ => "int32_data"
  | int64s _ => "int64_data"
  | doubles _ => "double_data"
  | uint64s _ => "uint64_data"
  | strings _ => "string_data"
  | external _ => "external_data"
  | empty => "empty"

/-- The `count` elements of a payload of a tensor called `name`. -/
def read (p : Payload) (name : String) (e : ElementType) (count : Nat) : Except ImportError (List e.Carrier) :=
  let malformed (reason : String) := Except.error (ImportError.malformedTensorPayload name reason)
  match p with
  | raw bytes =>
    let expected := count * e.size
    if bytes.length ≠ expected then
      malformed s!"{count} x {e.name} needs {expected} bytes, payload has {bytes.length}"
    else .ok ((byteGroups e.size count bytes).map e.ofBytes)
  | external location => malformed s!"data stored externally at `{location}` is not loaded"
  | strings _ => .error (.unsupportedElementType ElementType.textCode)
  | empty => if count ≠ 0 then malformed s!"{count} elements declared, payload is empty" else .ok []
  | typed =>
    if typed.entries ≠ count then malformed s!"{count} elements declared, payload holds {typed.entries}"
    else
      match typed.elements? e with
      | some values => .ok values
      | none => malformed s!"{typed.field} field cannot hold {e.name} elements"

end Payload

/-- The tensor that a stored tensor stands for. -/
def StoredTensor.materialize (t : StoredTensor) : Except ImportError TensorData := do
  let e ← resolveElement t.code
  match t.dims.find? (· < 0) with
  | some d => .error (.malformedTensorPayload t.name s!"negative dimension {d} in {intsText t.dims}")
  | none =>
    let shape : Shape := ⟨t.dims.map Int.toNat⟩
    let values ← t.payload.read t.name e shape.volume
    match Tensor.ofList? values shape with
    | some tensor => .ok ⟨e, tensor⟩
    | none => .error (.malformedTensorPayload t.name "element count mismatch")

end ModelImport
