import ModelImport.Infer.Axis
import ModelImport.Infer.Broadcast
import ModelImport.Operator.Converter
import ModelImport.Text.Quoted
/-!
# Activations and other operators of one operand

Most of them keep the type of their operand and differ only in their parameters.
-/

namespace ModelImport.Operator

open LookM ConverterM Infer

/-- The operators without parameters that keep the type of their only operand. -/
def unaryNames : List String :=
  ["Abs", "Acos", "Acosh", "Asin", "Asinh", "Atan", "Atanh", "Ceil", "Cos", "Cosh", "Erf", "Exp", "Floor", "Log", "Neg",
    "Not", "Reciprocal", "Relu", "Round", "Sigmoid", "Sign", "Sin", "Sinh", "Softplus", "Softsign", "Sqrt", "Tan",
    "Tanh", "HardSwish"]

/-- One operand, one result of the same type. -/
def sameType (params : Params) : ConverterM (List ValueId) := do
  checkArity 1
  emit params [← inputType 0]

def unary : ConverterM (List ValueId) := sameType []

def isNaN : ConverterM (List ValueId) := do
  checkArity 1
  emit [] [(← inputType 0).withElement .bool]

/-- A single parameter `alpha`. -/
def withAlpha (default : Single) : ConverterM (List ValueId) := do
  let alpha ← attrOr .float "alpha" default
  sameType [("alpha", .float alpha)]

/-- The single 1.0. -/
def one : Single := ⟨0x3f800000⟩

/-- The single 0.01. -/
def hundredth : Single := ⟨0x3c23d70a⟩

/-- The slopes default to 0.2 and 0.5. -/
def hardSigmoid : ConverterM (List ValueId) := do
  let alpha ← attrOr .float "alpha" ⟨0x3e4ccccd⟩
  let beta ← attrOr .float "beta" ⟨0x3f000000⟩
  sameType (.ofList [("alpha", .float alpha), ("beta", .float beta)])

/-- The constants default to 1.6732632 and 1.050701. -/
def selu : ConverterM (List ValueId) := do
  let alpha ← attrOr .float "alpha" ⟨0x3fd62d7d⟩
  let gamma ← attrOr .float "gamma" ⟨0x3f867d5f⟩
  sameType (.ofList [("alpha", .float alpha), ("gamma", .float gamma)])

def gelu : ConverterM (List ValueId) := do
  let approximate ← attrOr .string "approximate" "none"
  if approximate ≠ "none" ∧ approximate ≠ "tanh" then
    invalid "approximate" ("expected \"none\" or \"tanh\", got " ++ Text.quoted approximate)
  sameType [("approximate", .string approximate)]

def prelu : ConverterM (List ValueId) := do
  checkArity 2
  let x ← inputType 0
  let slope ← inputType 1
  emit [] [broadcastType x.element [x, slope]]

/-- The bounds are attributes before operator set 11, with the extreme singles as defaults, and inputs from then on. A
bound given by a constant input becomes a parameter too. -/
def clip : ConverterM (List ValueId) := do
  checkOutputs 1 (some 1)
  if (← opset) < 11 then
    checkInputs 1 (some 1)
    let least ← attrOr .float "min" ⟨0xff7fffff⟩
    let most ← attrOr .float "max" ⟨0x7f7fffff⟩
    let type ← inputType 0
    emit (.ofList [("min", .float least), ("max", .float most)]) [type]
  else
    checkInputs 1 (some 3)
    let type ← inputType 0
    let least := (← constantDouble? 1).map fun x => Param.float x.toSingle
    let most := (← constantDouble? 2).map fun x => Param.float x.toSingle
    emit (Params.insert? "max" most (Params.insert? "min" least [])) [type]

/-- Before operator set 13 the operand is flattened to two axes at `axis`, by default the second; from then on the
operator works along `axis`, by default the last. -/
def softmax : ConverterM (List ValueId) := do
  checkArity 1
  let legacy := (← opset) < 13
  let axis ← attrOr .int "axis" (if legacy then 1 else -1)
  let type ← inputType 0
  let axis ← match type.rank? with
    | some rank => pure (((← normalizeAxis "axis" axis rank) : Nat) : Int)
    | none => pure axis
  let params : Params := [("axis", .int axis)]
  emit (if legacy then params.insert "coerce_2d" (.int 1) else params) [type]

/-- The operators of this family. -/
def activations : List (String × Converter) :=
  unaryNames.map (fun name => (name, .of unary)) ++
    [("IsNaN", .of isNaN), ("Elu", .of (withAlpha one)), ("Celu", .of (withAlpha one)),
      ("ThresholdedRelu", .of (withAlpha one)), ("LeakyRelu", .of (withAlpha hundredth)),
      ("HardSigmoid", .of hardSigmoid), ("Selu", .of selu), ("Gelu", .of gelu), ("PRelu", .of prelu),
      ("Clip", .of clip), ("Softmax", .of softmax), ("LogSoftmax", .of softmax), ("Hardmax", .of softmax)]

end ModelImport.Operator
