import ModelImport.Einsum.Inference
import ModelImport.Infer.MatMul
import ModelImport.Operator.Converter
/-!
# Products

Matrix products, the general product of two matrices with scaling and transposition, and einsum.
-/

namespace ModelImport.Operator

open LookM ConverterM Infer

def matMul : ConverterM (List ValueId) := do
  checkArity 2
  emit [] [matMulType (← inputType 0) (← inputType 1)]

/-- The axis of a matrix that is left in a product: its first, or its second when `second` holds. -/
def matrixAxis (type : TensorType) (second : Bool) : Dim :=
  match type.shape with
  | some [a, b] => if second then b else a
  | _ => .unknown

def flagParam (b : Bool) : Param := .int (if b then 1 else 0)

/-- The scaled product of two matrices, each transposed on demand, plus a scaled third operand. -/
def gemm : ConverterM (List ValueId) := do
  checkInputs 2 (some 3)
  checkOutputs 1 (some 1)
  let alpha ← attrOr .float "alpha" ⟨0x3f800000⟩
  let beta ← attrOr .float "beta" ⟨0x3f800000⟩
  let transA ← flag "transA" 0
  let transB ← flag "transB" 0
  let a ← inputType 0
  let b ← inputType 1
  let params := Params.ofList
    [("alpha", .float alpha), ("beta", .float beta), ("transA", flagParam transA), ("transB", flagParam transB)]
  emit params [.ranked a.element [matrixAxis a transA, matrixAxis b (!transB)]]

def einsum : ConverterM (List ValueId) := do
  checkInputs 1 none
  checkOutputs 1 (some 1)
  let equation ← attr .string "equation"
  let parsed ← Einsum.parse equation
  let first ← inputType 0
  let type ← Einsum.outputType parsed first.element (← inputTypes)
  emit [("equation", .string equation)] [type]

/-- The operators of this family. -/
def products : List (String × Converter) :=
  [("MatMul", .of matMul), ("Gemm", .of gemm), ("Einsum", .of einsum)]

end ModelImport.Operator
