import ModelImport.Infer.Broadcast
import ModelImport.Infer.Reshape
import ModelImport.Operator.Converter
/-!
# Operators that lay a value out anew

Reshaping, flattening, transposing, adding and removing axes of size 1, and expanding. Configuration that used to be an
attribute and became an input is read from either, by the version of the operator set.
-/

namespace ModelImport.Operator

open LookM ConverterM Infer

/-- Axes as a parameter. -/
def axesParam (axes : List Nat) : Param := .ints (axes.map Int.ofNat)

/-- A list of integers that is an attribute before operator set `since` and a constant input from then on. -/
def intsByOpset (key : String) (index : Nat) (since : Int) : LookM (Option (List Int)) := do
  if (← opset) < since then attr? .ints key else constantInts? index

/-- The same for a list that must be given: the attribute or the input has to be there. -/
def requiredInts (key : String) (since : Int) : LookM (Option (List Int)) := do
  if (← opset) < since then
    checkInputs 1 (some 1)
    return some (← attr .ints key)
  else
    checkInputs 2 (some 2)
    let _ ← input 1
    constantInts? 1

/-- The size of the only axis of a type, if it is static. -/
def lengthOf (type : TensorType) : Option Nat :=
  match type.sizes? with
  | some [n] => some n
  | _ => none

/-- A type whose rank is the static length of another. -/
def ofLength (element : ElementType) (lengths : TensorType) : TensorType :=
  match lengthOf lengths with
  | some rank => .ofRank element rank
  | none => .unranked element

def reshape : ConverterM (List ValueId) := do
  checkOutputs 1 (some 1)
  let allowZero ← flag "allowzero" 0
  let target ← requiredInts "shape" 5
  let x ← inputType 0
  let params : Params := [("allowzero", .int (if allowZero then 1 else 0))]
  match target with
  | some target =>
    let dims ← reshapeDims x.shape target allowZero
    emit (params.insert "shape" (.ints target)) [.ranked x.element dims]
  | none => emit params [ofLength x.element (← inputType 1)]

def flatten : ConverterM (List ValueId) := do
  checkArity 1
  let axis ← attrOr .int "axis" 1
  let x ← inputType 0
  match x.shape with
  | none => emit [("axis", .int axis)] [.ofRank x.element 2]
  | some dims =>
    let (axis, dims) ← flattenDims dims axis
    emit [("axis", .int axis)] [.ranked x.element dims]

def transpose : ConverterM (List ValueId) := do
  checkArity 1
  let perm ← attr? .ints "perm"
  let x ← inputType 0
  match x.shape with
  | none => emit (Params.insert? "perm" (perm.map .ints) []) [x]
  | some dims =>
    let perm ← permutation perm dims.length
    emit [("perm", axesParam perm)] [.ranked x.element (permute dims perm)]

/-- Without axes, every axis of size 1 goes, provided that all sizes are static. -/
def squeeze : ConverterM (List ValueId) := do
  checkInputs 1 (some (if (← opset) < 13 then 1 else 2))
  checkOutputs 1 (some 1)
  let given := ((← opset) < 13 && (← hasAttr "axes")) || (← input? 1).isSome
  let axes ← intsByOpset "axes" 1 13
  let x ← inputType 0
  match x.shape, axes with
  | some dims, some axes =>
    let (axes, dims) ← squeezeDims dims axes
    emit [("axes", axesParam axes)] [.ranked x.element dims]
  | some dims, none =>
    if !given && dims.all (·.size?.isSome) then
      let axes := unitAxes dims
      emit [("axes", axesParam axes)] [.ranked x.element (dropAxes dims axes)]
    else emit [] [.unranked x.element]
  | none, _ => emit [] [.unranked x.element]

def unsqueeze : ConverterM (List ValueId) := do
  checkOutputs 1 (some 1)
  let axes ← requiredInts "axes" 13
  let x ← inputType 0
  match x.shape, axes with
  | some dims, some axes =>
    let (axes, dims) ← unsqueezeDims dims axes
    emit [("axes", axesParam axes)] [.ranked x.element dims]
  | none, some axes => emit [("axes", .ints axes)] [.unranked x.element]
  | _, none => emit [] [.unranked x.element]

/-- Broadcasts the operand against a shape, in which a negative size is unknown. -/
def expand : ConverterM (List ValueId) := do
  checkArity 2
  let x ← inputType 0
  match ← constantInts? 1 with
  | some shape =>
    let target := TensorType.ranked x.element (shape.map fun d => .ofSize? (Word.size? d))
    emit [("shape", .ints shape)] [broadcastType x.element [x, target]]
  | none =>
    match x.rank?, lengthOf (← inputType 1) with
    | some rank, some length => emit [] [.ofRank x.element (max rank length)]
    | _, _ => emit [] [.unranked x.element]

/-- The node stands for its operand. -/
def identity : ConverterM (List ValueId) := do
  checkArity 1
  return [← input 0]

/-- The operators of this family. -/
def layouts : List (String × Converter) :=
  [("Reshape", .of reshape), ("Flatten", .of flatten), ("Transpose", .of transpose), ("Squeeze", .of squeeze),
    ("Unsqueeze", .of unsqueeze), ("Expand", .of expand), ("Identity", .of identity)]

end ModelImport.Operator
