import ModelImport.Infer.Axis
import ModelImport.Operator.Converter
/-!
# Normalizations and dropout
-/

namespace ModelImport.Operator

open LookM ConverterM Infer

/-- The single 1e-5. -/
def defaultEpsilon : Single := ⟨0x3727c5ac⟩

/-- Outputs after the first are typed like the running mean. -/
def batchNormalization : ConverterM (List ValueId) := do
  checkInputs 5 (some 5)
  checkOutputs 1 (some 5)
  let epsilon ← attrOr .float "epsilon" defaultEpsilon
  let momentum ← attrOr .float "momentum" ⟨0x3f666666⟩
  let training ← attrOr .int "training_mode" 0
  let spatial ← attrOr .int "spatial" 1
  if spatial ≠ 1 then invalid "spatial" "only spatial=1 is supported"
  let x ← inputType 0
  let mean ← inputType 3
  let params := Params.ofList
    [("epsilon", .float epsilon), ("momentum", .float momentum), ("training_mode", .int training)]
  emit params (x :: List.replicate ((← outputCount) - 1) mean)

def instanceNormalization : ConverterM (List ValueId) := do
  checkArity 3
  let epsilon ← attrOr .float "epsilon" defaultEpsilon
  emit [("epsilon", .float epsilon)] [← inputType 0]

/-- The mean and the deviation, where asked for, keep the axes before `axis` and collapse the others to size 1. -/
def layerNormalization : ConverterM (List ValueId) := do
  checkInputs 2 (some 3)
  checkOutputs 1 (some 3)
  let epsilon ← attrOr .float "epsilon" defaultEpsilon
  let stash ← attrOr .int "stash_type" 1
  let axis ← attrOr .int "axis" (-1)
  let x ← inputType 0
  let (axis, statistics) ← match x.shape with
    | none => pure (axis, TensorType.unranked .f32)
    | some dims => do
      let place ← normalizeAxis "axis" axis dims.length
      pure ((place : Int), .ranked .f32 (dims.take place ++ List.replicate (dims.length - place) (.static 1)))
  let params := Params.ofList [("axis", .int axis), ("epsilon", .float epsilon), ("stash_type", .int stash)]
  emit params (x :: List.replicate ((← outputCount) - 1) statistics)

/-- Normalization over `size` neighbouring channels. -/
def localResponse : ConverterM (List ValueId) := do
  checkArity 1
  let size ← attr .int "size"
  if size < 1 then invalid "size" s!"must be positive, got {size}"
  let alpha ← attrOr .float "alpha" ⟨0x38d1b717⟩
  let beta ← attrOr .float "beta" ⟨0x3f400000⟩
  let bias ← attrOr .float "bias" ⟨0x3f800000⟩
  let params := Params.ofList
    [("size", .int size), ("alpha", .float alpha), ("beta", .float beta), ("bias", .float bias)]
  emit params [← inputType 0]

/-- The data passes through untouched. A mask that is asked for comes from an instruction of its own. -/
def dropout : ConverterM (List ValueId) := do
  checkInputs 1 (some 3)
  checkOutputs 1 (some 2)
  let _ ← attr? .float "ratio"
  let _ ← attr? .int "seed"
  let data ← input 0
  let node := (← read).node
  match node.outputs.drop 1 with
  | [] => return [data]
  | mask :: rest =>
    if mask = "" then return [data]
    let type := (← typeOf data).withElement .bool
    return data :: (← append ⟨"DropoutMask", node.displayName, [some data], [], mask :: rest, [type]⟩)

/-- The operators of this family. -/
def normalizations : List (String × Converter) :=
  [("BatchNormalization", .of batchNormalization), ("InstanceNormalization", .of instanceNormalization),
    ("LayerNormalization", .of layerNormalization), ("LRN", .of localResponse), ("Dropout", .of dropout)]

end ModelImport.Operator
