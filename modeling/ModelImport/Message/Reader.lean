import ModelImport.Error
import ModelImport.Message.Basic
import ModelImport.Numeric.Word
import ModelImport.Wire.Field
/-!
# Reading messages

Each reader takes the runs of bytes that make up one message and the levels of nesting left, its own included. All
fields of the schema are checked, also those that no record keeps.
-/

namespace ModelImport.Wire

open Fields

/-! ## Numbers -/

/-- A signed 64-bit integer from its variable-length form. -/
def int64 (n : Nat) : Int := Word.toSigned n

/-- The low 32 bits, signed. -/
def int32 (n : Nat) : Int := (UInt32.ofNat n).toInt32.toInt

def single (n : Nat) : Single := ⟨UInt32.ofNat n⟩

/-! ## Small messages -/

/-- A key with a value. -/
def readEntry : Nat → List Bytes → Option (String × String)
  | 0, _ => none
  | level + 1, runs => do
    let fs ← Fields.read level [1, 2] runs
    return (← fs.text 1, ← fs.text 2)

def readOpset : Nat → List Bytes → Option OpsetMessage
  | 0, _ => none
  | level + 1, runs => do
    let fs ← Fields.read level [1, 2] runs
    return { domain := ← fs.text 1, version := int64 (← fs.varint 2) }

/-- A part of a tensor, of which only the form is checked. -/
def checkSegment : Nat → List Bytes → Option Unit
  | 0, _ => none
  | level + 1, runs => do
    let fs ← Fields.read level [1, 2] runs
    let _ ← fs.varint 1
    let _ ← fs.varint 2

/-! ## Tensors -/

def readTensor : Nat → List Bytes → Option TensorMessage
  | 0, _ => none
  | level + 1, runs => do
    let fs ← Fields.read level [1, 2, 3, 4, 5, 6, 7, 8, 9, 10, 11, 12, 13, 14] runs
    let _ ← fs.message? 3 (checkSegment level)
    let _ ← fs.text 12
    let _ ← fs.varint 14
    return {
      dims := (← fs.varints 1).map int64
      dataType := int32 (← fs.varint 2)
      floats := (← fs.fixed32s 4).map single
      int32s := (← fs.varints 5).map fun n => (UInt32.ofNat n).toInt32
      strings := ← fs.payloads 6
      int64s := (← fs.varints 7).map fun n => (UInt64.ofNat n).toInt64
      name := ← fs.text 8
      raw := ← fs.payload 9
      doubles := (← fs.fixed64s 10).map fun n => ⟨UInt64.ofNat n⟩
      uint64s := (← fs.varints 11).map UInt64.ofNat
      externalData := ← fs.messages 13 (readEntry level) }

/-- A sparse tensor, of which only the form is checked. -/
def checkSparse : Nat → List Bytes → Option Unit
  | 0, _ => none
  | level + 1, runs => do
    let fs ← Fields.read level [1, 2, 3] runs
    let _ ← fs.message? 1 (readTensor level)
    let _ ← fs.message? 2 (readTensor level)
    let _ ← fs.varints 3

/-! ## Declared values -/

/-- A size and a name exclude each other: the last of them counts. -/
def readDim : Nat → List Bytes → Option DimMessage
  | 0, _ => none
  | level + 1, runs => do
    let fs ← Fields.read level [1, 2, 3] runs
    let size ← fs.varint 1
    let name ← fs.text 2
    let _ ← fs.text 3
    match (fs.list.filter fun f => f.number == 1 || f.number == 2).getLast? with
    | none => return .unset
    | some last => return if last.number == 1 then .value (int64 size) else .param name

def readShape : Nat → List Bytes → Option (List DimMessage)
  | 0, _ => none
  | level + 1, runs => do
    let fs ← Fields.read level [1] runs
    fs.messages 1 (readDim level)

def readTensorType : Nat → List Bytes → Option TensorTypeMessage
  | 0, _ => none
  | level + 1, runs => do
    let fs ← Fields.read level [1, 2] runs
    return { elemType := int32 (← fs.varint 1), shape := ← fs.message? 2 (readShape level) }

def readType : Nat → List Bytes → Option (Option TensorTypeMessage)
  | 0, _ => none
  | level + 1, runs => do
    let fs ← Fields.read level [1, 6] runs
    let _ ← fs.text 6
    fs.message? 1 (readTensorType level)

def readValue : Nat → List Bytes → Option ValueMessage
  | 0, _ => none
  | level + 1, runs => do
    let fs ← Fields.read level [1, 2, 3] runs
    let _ ← fs.text 3
    return { name := ← fs.text 1, type := (← fs.message? 2 (readType level)).join }

/-- A note on a tensor, of which only the form is checked. -/
def checkNote : Nat → List Bytes → Option Unit
  | 0, _ => none
  | level + 1, runs => do
    let fs ← Fields.read level [1, 2] runs
    let _ ← fs.text 1
    let _ ← fs.messages 2 (readEntry level)

/-! ## Graphs -/

mutual

def readGraph (levels : Nat) (runs : List Bytes) : Option GraphMessage :=
  match levels with
  | 0 => none
  | level + 1 => do
    let fs ← Fields.read level [1, 2, 5, 10, 11, 12, 13, 14, 15] runs
    let _ ← fs.text 10
    let _ ← fs.messages 13 (readValue level)
    let _ ← fs.messages 14 (checkNote level)
    let _ ← fs.messages 15 (checkSparse level)
    return {
      nodes := ← fs.messages 1 fun runs => readNode level runs
      name := ← fs.text 2
      initializers := ← fs.messages 5 (readTensor level)
      inputs := ← fs.messages 11 (readValue level)
      outputs := ← fs.messages 12 (readValue level) }
termination_by structural levels

def readNode (levels : Nat) (runs : List Bytes) : Option NodeMessage :=
  match levels with
  | 0 => none
  | level + 1 => do
    let fs ← Fields.read level [1, 2, 3, 4, 5, 6, 7] runs
    let _ ← fs.text 6
    return {
      inputs := ← fs.texts 1
      outputs := ← fs.texts 2
      name := ← fs.text 3
      opType := ← fs.text 4
      attributes := ← fs.messages 5 fun runs => readAttribute level runs
      domain := ← fs.text 7 }
termination_by structural levels

def readAttribute (levels : Nat) (runs : List Bytes) : Option AttributeMessage :=
  match levels with
  | 0 => none
  | level + 1 => do
    let fs ← Fields.read level [1, 2, 3, 4, 5, 6, 7, 8, 9, 10, 11, 13, 15, 20, 21, 22, 23] runs
    let _ ← fs.text 13
    let _ ← fs.messages 15 (readType level)
    let _ ← fs.text 21
    let _ ← fs.message? 22 (checkSparse level)
    let _ ← fs.messages 23 (checkSparse level)
    return {
      name := ← fs.text 1
      float := single (← fs.fixed32 2)
      int := int64 (← fs.varint 3)
      string := ← fs.payload 4
      tensor := ← fs.message? 5 (readTensor level)
      graph := ← fs.message? 6 fun runs => readGraph level runs
      floats := (← fs.fixed32s 7).map single
      ints := (← fs.varints 8).map int64
      strings := ← fs.payloads 9
      tensors := ← fs.messages 10 (readTensor level)
      graphs := ← fs.messages 11 fun runs => readGraph level runs
      tag := int32 (← fs.varint 20) }
termination_by structural levels

end

/-! ## Models -/

/-- How a model is trained, of which only the form is checked. -/
def checkTraining : Nat → List Bytes → Option Unit
  | 0, _ => none
  | level + 1, runs => do
    let fs ← Fields.read level [1, 2, 3, 4] runs
    let _ ← fs.message? 1 (readGraph level)
    let _ ← fs.message? 2 (readGraph level)
    let _ ← fs.messages 3 (readEntry level)
    let _ ← fs.messages 4 (readEntry level)

/-- A function of a model, of which only the form is checked. -/
def checkFunction : Nat → List Bytes → Option Unit
  | 0, _ => none
  | level + 1, runs => do
    let fs ← Fields.read level [1, 4, 5, 6, 7, 8, 9, 10] runs
    let _ ← fs.text 1
    let _ ← fs.texts 4
    let _ ← fs.texts 5
    let _ ← fs.texts 6
    let _ ← fs.messages 7 (readNode level)
    let _ ← fs.text 8
    let _ ← fs.messages 9 (readOpset level)
    let _ ← fs.text 10

/-- How deep messages may be nested inside a model. -/
def nestingLimit : Nat := 100

/-- A model from its bytes. -/
def readModel (bytes : Bytes) : Option ModelMessage := do
  let level := nestingLimit
  let fs ← Fields.read level [1, 2, 3, 4, 5, 6, 7, 8, 14, 20, 25] [bytes]
  let _ ← fs.text 3
  let _ ← fs.text 4
  let _ ← fs.varint 5
  let _ ← fs.text 6
  let _ ← fs.messages 14 (readEntry level)
  let _ ← fs.messages 20 (checkTraining level)
  let _ ← fs.messages 25 (checkFunction level)
  return {
    irVersion := int64 (← fs.varint 1)
    producer := ← fs.text 2
    graph := ← fs.message? 7 (readGraph level)
    opsets := ← fs.messages 8 (readOpset level) }

end ModelImport.Wire

namespace ModelImport

/-- The message of a serialized model. Malformed bytes are not told apart. -/
def ModelMessage.ofBytes (bytes : Bytes) : Except ImportError ModelMessage :=
  match Wire.readModel bytes with
  | some message => .ok message
  | none => .error (.decode "<protobuf>")

end ModelImport
