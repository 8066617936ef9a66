import ModelImport.Infer.Broadcast
import ModelImport.Operator.Converter
import ModelImport.Text.Quoted
/-!
# Elementwise operators

Operators of two or more operands that broadcast. The element type of the result follows one of the operands, or is
boolean for comparisons.
-/

namespace ModelImport.Operator

open LookM ConverterM Infer

def arithmeticNames : List String := ["Add", "Sub", "Mul", "Div", "Pow", "And", "Or", "Xor"]

def comparisonNames : List String := ["Equal", "Less", "LessOrEqual", "Greater", "GreaterOrEqual"]

def variadicNames : List String := ["Max", "Min", "Sum", "Mean"]

/-- The operands broadcast, with the element type of the first. -/
def likeFirst (params : Params) : ConverterM (List ValueId) := do
  let first ← inputType 0
  emit params [broadcastType first.element (← inputTypes)]

/-- Two operands, one result. -/
def binary (params : Params) : ConverterM (List ValueId) := do
  checkArity 2
  likeFirst params

def comparison : ConverterM (List ValueId) := do
  checkArity 2
  emit [] [broadcastType .bool (← inputTypes)]

/-- One operand or more, one result. -/
def variadic : ConverterM (List ValueId) := do
  checkInputs 1 none
  checkOutputs 1 (some 1)
  likeFirst []

def modulo : ConverterM (List ValueId) := do
  let fmod ← attrOr .int "fmod" 0
  if fmod ≠ 0 ∧ fmod ≠ 1 then invalid "fmod" s!"expected 0 or 1, got {fmod}"
  binary [("fmod", .int fmod)]

def bitShift : ConverterM (List ValueId) := do
  let direction ← attr .string "direction"
  if direction ≠ "LEFT" ∧ direction ≠ "RIGHT" then
    invalid "direction" s!"expected LEFT or RIGHT, got {Text.quoted direction}"
  binary [("direction", .string direction)]

/-- A choice between the second and the third operand, typed like the second. -/
def select : ConverterM (List ValueId) := do
  checkArity 3
  let types ← inputTypes
  let x ← inputType 1
  emit [] [broadcastType x.element types]

/-- The operators of this family. -/
def elementwise : List (String × Converter) :=
  arithmeticNames.map (fun name => (name, .of (binary []))) ++
    comparisonNames.map (fun name => (name, .of comparison)) ++
    variadicNames.map (fun name => (name, .of variadic)) ++
    [("Mod", .of modulo), ("BitShift", .of bitShift), ("Where", .of select)]

end ModelImport.Operator
