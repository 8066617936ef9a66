import ModelImport.Attribute.View
import ModelImport.Function.Builder
/-!
# Converters

A converter turns one node into values. It looks at the node, at the types and constants of its operands and at its
attributes, and adds what the node becomes to the function under construction. Steps that only look are kept apart from
those that act on the builder. What a step has added is there from then on, also when a later step fails.
-/

namespace ModelImport

/-- What a converter is given of the node it converts. -/
structure Context where
  node : Node
  /-- The values of the inputs, `none` for an omitted one. -/
  operands : List (Option ValueId)
  /-- The version of the operator set. -/
  opset : Int

/-- What a converter sees: the node with its operands, in a function as built so far. -/
structure Site extends Context where
  function : Function

/-- Steps that look: they may fail, they see the site, and they note which attributes were read. -/
abbrev LookM := ReaderT Site (StateT AttributeView (Except ImportError))

/-- The steps of a converter. They may also add to the function, and nothing takes that back. -/
abbrev ConverterM := ReaderT Context (StateT AttributeView (ExceptT ImportError (StateM Builder)))

instance : MonadLift LookM ConverterM where
  monadLift m := fun context view b => (m ⟨context, b.function⟩ view, b)

/-- A converter: the values that the node stands for. Running one that `cancels` also sets the cancellation token of the
import. -/
structure Converter where
  lower : ConverterM (List ValueId)
  cancels : Bool

namespace Converter

/-- A converter without effect on the cancellation token. -/
def of (lower : ConverterM (List ValueId)) : Converter := ⟨lower, false⟩

/-- Runs a converter over a node of which no attribute has been read. The builder is returned as the converter leaves it,
whether it fails or not. -/
def run (c : Converter) (context : Context) (b : Builder) :
    Except ImportError (List ValueId × AttributeView) × Builder :=
  c.lower context (.ofBag context.node.attributes) b

end Converter

namespace LookM

/-! ## Failing -/

def invalid {α : Type} (key reason : String) : LookM α := throw (.invalidAttribute key reason)

/-! ## Attributes -/

/-- An attribute that may be absent. -/
def attr? (k : AttributeKind) (key : String) : LookM (Option k.Carrier) := do
  let (answer, view) := (← get).get k key
  set view
  answer

/-- An attribute with a default. -/
def attrOr (k : AttributeKind) (key : String) (default : k.Carrier) : LookM k.Carrier := do
  let (answer, view) := (← get).getOr k key default
  set view
  answer

/-- An attribute that must be present. -/
def attr (k : AttributeKind) (key : String) : LookM k.Carrier := do
  let (answer, view) := (← get).required k key
  set view
  answer

def hasAttr (key : String) : LookM Bool := return (← get).contains key

/-- An integer attribute taken as a truth value. -/
def flag (key : String) (default : Int) : LookM Bool := return (← attrOr .int key default) != 0

/-! ## Inputs and outputs -/

def opType : LookM String := return (← read).node.opType

def opset : LookM Int := return (← read).opset

/-- The number of declared outputs, omitted ones included. -/
def outputCount : LookM Nat := return (← read).node.outputs.length

/-- The name of the first output. -/
def firstOutput : LookM String := return (← read).node.outputs.head?.getD ""

def checkCount (what : String) (actual least : Nat) (most : Option Nat) : LookM Unit := do
  if actual < least || most.any (· < actual) then throw (.arity (← opType) what least most actual)

/-- Checks the number of inputs, omitted ones included. -/
def checkInputs (least : Nat) (most : Option Nat) : LookM Unit := do
  checkCount "inputs" (← read).operands.length least most

/-- Checks the number of outputs, omitted ones included. -/
def checkOutputs (least : Nat) (most : Option Nat) : LookM Unit := do
  checkCount "outputs" (← outputCount) least most

/-- Checks for exactly so many inputs and one output. -/
def checkArity (inputs : Nat) : LookM Unit := do
  checkInputs inputs (some inputs)
  checkOutputs 1 (some 1)

/-- The value of an input that may be omitted. -/
def input? (index : Nat) : LookM (Option ValueId) := return ((← read).operands[index]?).join

/-- The value of an input that must be present. -/
def input (index : Nat) : LookM ValueId := do
  match ← input? index with
  | some v => return v
  | none =>
    let present := (← read).operands.countP Option.isSome
    throw (.arity (← opType) "inputs" (index + 1) none present)

def typeOf (v : ValueId) : LookM TensorType := do
  match (← read).function.type? v with
  | some type => return type
  | none => throw (.nameNotFound v.text)

def inputType (index : Nat) : LookM TensorType := do typeOf (← input index)

/-- The types of all inputs, each of which must be present. -/
def inputTypes : LookM (List TensorType) := do
  (List.range (← read).operands.length).mapM inputType

/-- The data of an input, if it is a constant. -/
def constant? (index : Nat) : LookM (Option TensorData) :=
  return (← input? index).bind (← read).function.constant?

/-- The elements of a constant integer input. -/
def constantInts? (index : Nat) : LookM (Option (List Int)) :=
  return (← constant? index).bind TensorData.ints?

/-- The first element of a constant input, as a double. -/
def constantDouble? (index : Nat) : LookM (Option Double) :=
  return (← constant? index).bind fun t => t.doubles.head?

end LookM

namespace ConverterM

open LookM

/-! ## Additions -/

/-- Appends an instruction to the innermost open block. -/
def append (op : OpSpec) : ConverterM (List ValueId) := modifyGetThe Builder (·.append op)

/-- Adds a constant. -/
def createConstant (name : String) (data : TensorData) : ConverterM ValueId :=
  modifyGetThe Builder (·.createConstant name data)

/-- One instruction in place of the node, with an operator and operands of its own. -/
def emitOp (opType : String) (operands : List (Option ValueId)) (params : Params) (types : List TensorType) :
    ConverterM (List ValueId) := do
  let node := (← read).node
  append ⟨opType, node.displayName, operands, params, node.outputs, types⟩

/-- One instruction of the node's own kind over all its inputs. -/
def emit (params : Params) (types : List TensorType) : ConverterM (List ValueId) := do
  emitOp (← opType) (← read).operands params types

/-- One constant in place of the node. -/
def fold (data : TensorData) : ConverterM (List ValueId) := return [← createConstant (← firstOutput) data]

end ConverterM

end ModelImport
