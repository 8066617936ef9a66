import ModelImport.Proofs.StrictOperators
/-!
# Strict converters of the table

The converters that lay values out anew, select, reduce and fold them, in terms of strict accesses, and with them a
strict converter for each operator. They stand in a table of pairs (`Strict.table`), each a strict converter and that of
the library with the proof that at every site the two come to the same, without a fault.
-/

namespace ModelImport.Strict

open LookM ConverterM Infer Operator StrictM

variable {site : Site}

/-! ## Layouts -/

def reshape : StrictM (List ValueId) := do
  checkOutputs 1 (some 1)
  let allowZero ← flag "allowzero" 0
  let target ← requiredInts "shape" 5
  let x ← inputType 0
  let params : Params := [("allowzero", .int (if allowZero then 1 else 0))]
  match target with
  | some target =>
    let dims ← reshapeDims x.shape target allowZero
    emit (params.insert "shape" (.ints target)) [.ranked x.element dims]
  | none => emit params [ofLength x.element (← inputType 1)]

theorem reshape_agrees : Agrees site reshape Operator.reshape := by
  refine .step .lift fun _ => .step .lift fun allowZero => .step .lift fun target => .step .lift fun x => ?_
  cases target with
  | some target => exact .step (.except (reshapeDims_agrees ..)) fun _ => .emit
  | none => exact .step .lift fun _ => .emit

def flatten : StrictM (List ValueId) := do
  checkArity 1
  let axis ← attrOr .int "axis" 1
  let x ← inputType 0
  match x.shape with
  | none => emit [("axis", .int axis)] [.ofRank x.element 2]
  | some dims =>
    let (axis, dims) ← flattenDims dims axis
    emit [("axis", .int axis)] [.ranked x.element dims]

theorem flatten_agrees : Agrees site flatten Operator.flatten := by
  refine .step .lift fun _ => .step .lift fun axis => .step .lift fun x => ?_
  cases x.shape with
  | none => exact .emit
  | some dims => exact .step (.except (flattenDims_agrees ..)) fun _ => .emit

def transpose : StrictM (List ValueId) := do
  checkArity 1
  let perm ← attr? .ints "perm"
  let x ← inputType 0
  match x.shape with
  | none => emit (Params.insert? "perm" (perm.map .ints) []) [x]
  | some dims =>
    let perm ← permutation perm dims.length
    let permuted ← permute dims perm
    emit [("perm", axesParam perm)] [.ranked x.element permuted]

theorem transpose_agrees : Agrees site transpose Operator.transpose := by
  refine .step .lift fun _ => .step .lift fun perm => .step .lift fun x => ?_
  cases x.shape with
  | none => exact .emit
  | some dims =>
    refine .bind .fallible returns_lift fun places hplaces => ?_
    exact .access (permute_eq (lt_of_permutation hplaces)) .emit

def squeeze : StrictM (List ValueId) := do
  checkInputs 1 (some (if (← opset) < 13 then 1 else 2))
  checkOutputs 1 (some 1)
  let given := ((← opset) < 13 && (← hasAttr "axes")) || (← input? 1).isSome
  let axes ← intsByOpset "axes" 1 13
  let x ← inputType 0
  match x.shape, axes with
  | some dims, some axes =>
    let (axes, dims) ← squeezeDims dims axes
    emit [("axes", axesParam axes)] [.ranked x.element dims]
  | some dims, none =>
    if !given && dims.all (·.size?.isSome) then
      let axes ← unitAxes dims
      emit [("axes", axesParam axes)] [.ranked x.element (dropAxes dims axes)]
    else emit [] [.unranked x.element]
  | none, _ => emit [] [.unranked x.element]

theorem squeeze_agrees : Agrees site squeeze Operator.squeeze := by
  refine .step .lift fun _ => .step .lift fun _ => .step .lift fun _ => .step .lift fun _ => .step .lift fun _ => ?_
  refine .step .lift fun _ => .step .lift fun axes => .step .lift fun x => ?_
  rcases x.shape with _ | dims
  · exact .emit
  · cases axes with
    | some axes => exact .step (.except (squeezeDims_agrees ..)) fun _ => .emit
    | none =>
      dsimp only
      split
      · exact .access (unitAxes_eq dims) .emit
      · exact .emit

def expand : StrictM (List ValueId) := do
  checkArity 2
  let x ← inputType 0
  match ← constantInts? 1 with
  | some shape =>
    let target := TensorType.ranked x.element (shape.map fun d => .ofSize? (Word.size? d))
    let type ← broadcastType x.element [x, target]
    emit [("shape", .ints shape)] [type]
  | none =>
    match x.rank?, lengthOf (← inputType 1) with
    | some rank, some length => emit [] [.ofRank x.element (max rank length)]
    | _, _ => emit [] [.unranked x.element]

theorem expand_agrees : Agrees site expand Operator.expand := by
  refine .step .lift fun _ => .step .lift fun x => .step .lift fun shape => ?_
  cases shape with
  | some shape => exact .access (broadcastType_eq ..) .emit
  | none =>
    refine .step .lift fun lengths => ?_
    cases x.rank? <;> cases lengthOf lengths <;> exact .emit

/-! ## Selections -/

def concat : StrictM (List ValueId) := do
  checkInputs 1 none
  checkOutputs 1 (some 1)
  let axis ← attr .int "axis"
  let types ← inputTypes
  let start ← index types 0
  match types.mapM TensorType.shape with
  | some shapes =>
    let (axis, dims) ← concatDims shapes axis
    emit [("axis", .int axis)] [.ranked start.element dims]
  | none => emit [("axis", .int axis)] [.unranked start.element]

theorem concat_agrees : Agrees site concat Operator.concat := by
  refine .bind .lift returns_checkInputs fun _ hinputs => .step .lift fun _ => .step .lift fun axis => ?_
  refine .inputTypes ?_ fun start rest => .access rfl ?_
  · intro hnone
    simp [hnone] at hinputs
  · cases hshapes : (start :: rest).mapM TensorType.shape with
    | none => exact .emit
    | some shapes =>
      have hsome : shapes ≠ [] := by
        rintro rfl
        simp [Option.bind_eq_some_iff] at hshapes
      exact .step (.except (concatDims_agrees hsome axis)) fun _ => .emit

def split : StrictM (List ValueId) := do
  checkInputs 1 (some (if (← opset) < 13 then 1 else 2))
  checkOutputs 1 none
  let axis ← attrOr .int "axis" 0
  let declared ← attr? .int "num_outputs"
  let sizes ← intsByOpset "split" 1 13
  let outputs ← outputCount
  if let some n := declared then
    if Word.ofSigned n ≠ outputs then invalid "num_outputs" s!"{n} declared, node has {outputs} outputs"
  if let some sizes := sizes then
    if sizes.length ≠ outputs then invalid "split" s!"{sizes.length} sizes for {outputs} outputs"
  let x ← inputType 0
  let sizesParam := sizes.map Param.ints
  match x.shape with
  | some dims =>
    let axis ← normalizeAxis "axis" axis dims.length
    let chunks ← splitDims dims axis sizes outputs
    emit (Params.insert? "split" sizesParam [("axis", .int axis)]) (chunks.map (.ranked x.element))
  | none =>
    emit (Params.insert? "split" sizesParam [("axis", .int axis)]) (List.replicate outputs (.unranked x.element))

theorem split_agrees : Agrees site split Operator.split := by
  refine .step .lift fun _ => .step .lift fun _ => .bind .lift returns_checkOutputs fun _ hleast => ?_
  refine .step .lift fun axis => .step .lift fun declared => .step .lift fun sizes => ?_
  refine .bind .lift returns_outputCount fun outputs hcount => ?_
  -- there is an output, so the even chunks of an axis are divided by a number other than 0
  have houtputs : outputs ≠ 0 := by omega
  cases declared
  case' some n => refine .guard fun _ => ?_
  all_goals
    cases sizes
    case' some l => refine .guard fun _ => ?_
    all_goals
      refine .step .lift fun x => ?_
      cases x.shape with
      | none => exact .emit
      | some dims =>
        refine .bind .fallible returns_lift fun place hplace => ?_
        refine .access (splitDims_eq (lt_of_normalizeAxis hplace) houtputs _) ?_
        rw [List.map_map]
        exact .emit

def slice : StrictM (List ValueId) := do
  checkOutputs 1 (some 1)
  let bounds ← readSliceBounds
  let axesKnown := bounds.axes.isSome || (← input? 3).isNone
  let stepsKnown := bounds.steps.isSome || (← input? 4).isNone
  let x ← inputType 0
  match x.shape with
  | none => emit [] [.unranked x.element]
  | some dims =>
    match bounds.starts, bounds.ends, axesKnown && stepsKnown with
    | some starts, some ends, true =>
      let (params, dims) ← sliceAll dims starts ends bounds.axes bounds.steps
      emit params [.ranked x.element dims]
    | _, _, _ => emit [] [.ofRank x.element dims.length]

theorem slice_agrees : Agrees site slice Operator.slice := by
  refine .step .lift fun _ => .step .lift fun bounds => .step .lift fun axes => .step .lift fun steps => ?_
  refine .step .lift fun x => ?_
  cases x.shape with
  | none => exact .emit
  | some dims =>
    dsimp only
    generalize ((bounds.axes.isSome || axes.isNone) && (bounds.steps.isSome || steps.isNone)) = known
    cases bounds.starts <;> cases bounds.ends <;> cases known
    case some.some.true => exact .step (.except (sliceAll_agrees ..)) fun _ => .emit
    all_goals exact .emit

def gather : StrictM (List ValueId) := do
  checkArity 2
  let axis ← attrOr .int "axis" 0
  let data ← inputType 0
  let indices ← inputType 1
  match data.shape with
  | none => emit [("axis", .int axis)] [.unranked data.element]
  | some dims =>
    let axis ← normalizeAxis "axis" axis dims.length
    match indices.shape with
    | none => emit [("axis", .int axis)] [.unranked data.element]
    | some inner =>
      let before ← upTo dims axis
      let after ← since dims (axis + 1)
      emit [("axis", .int axis)] [.ranked data.element (before ++ inner ++ after)]

theorem gather_agrees : Agrees site gather Operator.gather := by
  refine .step .lift fun _ => .step .lift fun axis => .step .lift fun data => .step .lift fun indices => ?_
  cases data.shape with
  | none => exact .emit
  | some dims =>
    refine .bind .fallible returns_lift fun place hplace => ?_
    have hlt := lt_of_normalizeAxis hplace
    dsimp only
    cases indices.shape with
    | none => exact .emit
    | some inner => exact .access (upTo_eq (Nat.le_of_lt hlt)) (.access (since_eq hlt) .emit)

def pad : StrictM (List ValueId) := do
  checkOutputs 1 (some 1)
  let mode ← attrOr .string "mode" "constant"
  if !padModes.contains mode then invalid "mode" s!"unknown mode {Text.quoted mode}"
  let (pads, axes, params) ← readPads [("mode", .string mode)]
  let axesKnown := axes.isSome || (← input? 3).isNone
  let x ← inputType 0
  match x.shape with
  | none => emit params [.unranked x.element]
  | some dims =>
    match pads, axesKnown with
    | some pads, true =>
      let (axes, out) ← padAll dims pads axes
      emit (params.insert "pads" (.ints pads) |>.insert "axes" (axesParam axes)) [.ranked x.element out]
    | _, _ => emit params [.ofRank x.element dims.length]

theorem pad_agrees : Agrees site pad Operator.pad := by
  refine .step .lift fun _ => .step .lift fun mode => .guard fun _ => .step .lift fun r => ?_
  obtain ⟨pads, axes, params⟩ := r
  refine .step .lift fun value => .step .lift fun x => ?_
  cases x.shape with
  | none => exact .emit
  | some dims =>
    dsimp only
    generalize (axes.isSome || value.isNone) = known
    cases pads <;> cases known
    case some.true => exact .step (.except (padAll_agrees ..)) fun _ => .emit
    all_goals exact .emit

/-! ## Reductions -/

def topK : StrictM (List ValueId) := do
  checkOutputs 2 (some 2)
  let k ← readTopCount
  let axis ← attrOr .int "axis" (-1)
  let largest ← attrOr .int "largest" 1
  let sorted ← attrOr .int "sorted" 1
  let x ← inputType 0
  let (axis, shape) ← match x.shape with
    | some dims => do
      let place ← normalizeAxis "axis" axis dims.length
      let top ← topDim k
      let dims ← replace dims place top
      pure ((place : Int), some dims)
    | none => pure (axis, none)
  let params := Params.ofList [("axis", .int axis), ("largest", .int largest), ("sorted", .int sorted)]
  emit (params.insert? "k" (k.map .int)) [⟨x.element, shape⟩, ⟨.i64, shape⟩]

theorem topK_agrees : Agrees site topK Operator.topK := by
  refine .step .lift fun _ => .step .lift fun k => .step .lift fun axis => .step .lift fun _ => .step .lift fun _ => ?_
  refine .step .lift fun x => ?_
  cases x.shape with
  | none => exact .step .pure fun _ => .emit
  | some dims =>
    refine .bind .fallible returns_lift fun place hplace => .step .fallible fun top => ?_
    exact .access (replace_eq (lt_of_normalizeAxis hplace) top) (.step .pure fun _ => .emit)

/-! ## Constants -/

/-- One constant in place of the node. The strides of its shape are computed with it. -/
def fold (data : TensorData) : StrictM (List ValueId) := do
  let _ ← strides data.shape.dims
  let name ← index (← read).node.outputs 0
  return [← modifyGetThe Builder (·.createConstant name data)]

theorem fold_agrees (h : site.node.outputs.length = 1) (data : TensorData) :
    Agrees site (fold data) (ConverterM.fold data) := by
  obtain ⟨name, hname⟩ := List.length_eq_one_iff.1 h
  have hfirst : Answers site firstOutput (.ok name) := by
    intro view
    show Except.ok (site.node.outputs.head?.getD "", view) = _
    rw [hname]
    rfl
  refine .looked hfirst (.access (strides_eq _) (.peek (.access ?_ fun _ _ _ => rfl)))
  rw [hname]
  rfl

def readValue (key : String) : StrictLookM TensorData := do
  if key = "value" then materialize (← attr .tensor key)
  else Operator.readValue key

theorem readValue_agrees (key : String) : StrictLookM.Agrees site (readValue key) (Operator.readValue key) := by
  by_cases hkey : key = "value"
  · subst hkey
    exact .step .lift fun tensor => .except (materialize_agrees tensor)
  · rw [readValue, if_neg hkey]
    exact .lift

/-- Exactly one of the attributes for the value must be there. -/
def constant : StrictM (List ValueId) := do
  checkInputs 0 (some 0)
  checkOutputs 1 (some 1)
  let present ← presentKeys
  match present with
  | [] => (throw (.missingAttribute "value") : LookM (List ValueId))
  | [key] => fold (← readValue key)
  | _ =>
    let second ← index present 1
    let first ← index present 0
    (invalid second s!"conflicts with {first}" : LookM (List ValueId))

theorem constant_agrees : Agrees site constant Operator.constant := by
  refine .step .lift fun _ => .bind .lift returns_checkOutputs fun _ houtputs => .step .lift fun present => ?_
  have hone : site.node.outputs.length = 1 := Nat.le_antisymm (houtputs.2 1 rfl) houtputs.1
  rcases present with _ | ⟨key, _ | ⟨second, rest⟩⟩
  · exact .throw
  · exact .step (readValue_agrees key) fun data => fold_agrees hone data
  · exact .access rfl (.access rfl .throw)

def constantOfShape : StrictM (List ValueId) := do
  checkArity 1
  let value ← match ← attr? .tensor "value" with
    | some tensor => materialize tensor
    | none => pure (TensorData.scalarSingle ⟨0⟩)
  if value.length ≠ 1 then invalid "value" s!"expected one element, got {value.length}"
  let fill ← fillParam value
  let params : Params := [("value", fill)]
  match ← constantInts? 0 with
  | some shape =>
    let sizes ← fillSizes shape
    emit (params.insert "shape" (.ints shape)) [.ofSizes value.element sizes]
  | none => emit params [ofLength value.element (← inputType 0)]

theorem constantOfShape_agrees : Agrees site constantOfShape Operator.constantOfShape := by
  refine .step .lift fun _ => .step .lift fun stored => ?_
  cases stored
  case' some tensor =>
    refine .bind (.except (materialize_agrees tensor)) returns_lift fun value hvalue => ?_
    have hfull := full_of_materialize hvalue
  case' none =>
    have hzero : Full (.scalarSingle ⟨0⟩) := rfl
    refine .bind .pure (returns_pure hzero) fun value hfull => ?_
  all_goals
    refine .guard fun hone => .access (fillParam_eq hfull (not_not.1 hone)) (.step .lift fun shape => ?_)
    cases shape with
    | some shape => exact .step .fallible fun _ => .emit
    | none => exact .step .lift fun _ => .emit

/-- A bound on the axes, counted from the back when it is negative and kept within them. -/
def axisBound (rank : Nat) (bound : Int) : Except Fault Nat := return (← clamp 0 rank (fromBack rank bound)).toNat

theorem axisBound_eq (rank : Nat) (bound : Int) : axisBound rank bound = .ok (Operator.axisBound rank bound) := by
  rw [axisBound, clamp_eq (Int.natCast_nonneg rank)]
  rfl

theorem axisBound_le (rank : Nat) (bound : Int) : Operator.axisBound rank bound ≤ rank := by
  unfold Operator.axisBound Infer.clamp
  omega

def shapeOf : StrictM (List ValueId) := do
  checkArity 1
  let start ← attrOr .int "start" 0
  let stop ← attr? .int "end"
  let x ← inputType 0
  match x.shape with
  | none => emit [("start", .int start)] [.ofRank .i64 1]
  | some dims =>
    let first ← axisBound dims.length start
    let last ← axisBound dims.length (stop.getD dims.length)
    let selected ← segment dims first (max last first)
    match selected.mapM Dim.size? with
    | some sizes => fold (.vectorInts (sizes.map Word.toSigned))
    | none =>
      emit (.ofList [("start", .int first), ("end", .int last)]) [.ofSizes .i64 [selected.length]]

theorem shapeOf_agrees : Agrees site shapeOf Operator.shapeOf := by
  refine .bind .lift returns_checkArity fun _ harity => .step .lift fun start => .step .lift fun stop => ?_
  refine .step .lift fun x => ?_
  cases x.shape with
  | none => exact .emit
  | some dims =>
    refine .access (axisBound_eq ..) (.access (axisBound_eq ..) (.access (segment_eq ?_ ?_) ?_))
    · exact Nat.le_max_right ..
    · exact Nat.max_le.2 ⟨axisBound_le .., axisBound_le ..⟩
    · dsimp only
      generalize List.drop _ _ = selected
      cases selected.mapM Dim.size? with
      | some sizes => exact fold_agrees harity.2 _
      | none => exact .emit

def volumeOf : StrictM (List ValueId) := do
  checkArity 1
  let x ← inputType 0
  match x.shape.bind product? with
  | some volume => fold (.scalarInt (Word.toSigned volume))
  | none => emit [] [.scalar .i64]

theorem volumeOf_agrees : Agrees site volumeOf Operator.sizeOf := by
  refine .bind .lift returns_checkArity fun _ harity => .step .lift fun x => ?_
  cases x.shape.bind product? with
  | some volume => exact fold_agrees harity.2 _
  | none => exact .emit

def oneHot : StrictM (List ValueId) := do
  checkArity 3
  let axis ← attrOr .int "axis" (-1)
  let indices ← inputType 0
  let values ← inputType 2
  let depth := Dim.ofSize? ((← constantDouble? 1).map Double.toSize)
  match indices.shape with
  | some dims =>
    let axis ← normalizeAxis "axis" axis (dims.length + 1)
    let dims ← insert dims axis depth
    emit [("axis", .int axis)] [.ranked values.element dims]
  | none => emit [("axis", .int axis)] [.unranked values.element]

theorem oneHot_agrees : Agrees site oneHot Operator.oneHot := by
  refine .step .lift fun _ => .step .lift fun axis => .step .lift fun indices => .step .lift fun values => ?_
  refine .step .lift fun depth => ?_
  cases indices.shape with
  | none => exact .emit
  | some dims =>
    refine .bind .fallible returns_lift fun place hplace => ?_
    exact .access (insert_eq (Nat.le_of_lt_succ (lt_of_normalizeAxis hplace)) _) .emit

/-! ## The table -/

/-- A strict converter and one of the library that come to the same at every site, under the name of their operator. -/
structure Twins where
  name : String
  strict : StrictM (List ValueId)
  lower : ConverterM (List ValueId)
  agrees : ∀ site, Agrees site strict lower

/-- A converter that makes no access but that to the block which it adds to. -/
def Twins.plain (name : String) (m : ConverterM (List ValueId)) : Twins := ⟨name, lift m, m, fun _ => .lift⟩

def activations : List Twins :=
  unaryNames.map (.plain · unary) ++
    [.plain "IsNaN" isNaN, .plain "Elu" (withAlpha one), .plain "Celu" (withAlpha one),
      .plain "ThresholdedRelu" (withAlpha one), .plain "LeakyRelu" (withAlpha hundredth),
      .plain "HardSigmoid" hardSigmoid, .plain "Selu" selu, .plain "Gelu" gelu,
      ⟨"PRelu", prelu, Operator.prelu, fun _ => prelu_agrees⟩, .plain "Clip" clip, .plain "Softmax" softmax,
      .plain "LogSoftmax" softmax, .plain "Hardmax" softmax]

def elementwise : List Twins :=
  arithmeticNames.map (⟨·, binary [], Operator.binary [], fun _ => binary_agrees []⟩) ++
    comparisonNames.map (⟨·, comparison, Operator.comparison, fun _ => comparison_agrees⟩) ++
    variadicNames.map (⟨·, variadic, Operator.variadic, fun _ => variadic_agrees⟩) ++
    [⟨"Mod", modulo, Operator.modulo, fun _ => modulo_agrees⟩,
      ⟨"BitShift", bitShift, Operator.bitShift, fun _ => bitShift_agrees⟩,
      ⟨"Where", select, Operator.select, fun _ => select_agrees⟩]

def products : List Twins :=
  [⟨"MatMul", matMul, Operator.matMul, fun _ => matMul_agrees⟩, .plain "Gemm" gemm,
    ⟨"Einsum", einsum, Operator.einsum, fun _ => einsum_agrees⟩]

def windowed : List Twins :=
  [⟨"Conv", conv, Operator.conv, fun _ => conv_agrees⟩,
    ⟨"ConvTranspose", convTranspose, Operator.convTranspose, fun _ => convTranspose_agrees⟩,
    ⟨"MaxPool", maxPool, Operator.maxPool, fun _ => maxPool_agrees⟩,
    ⟨"AveragePool", averagePool, Operator.averagePool, fun _ => averagePool_agrees⟩,
    ⟨"GlobalAveragePool", globalPool, Operator.globalPool, fun _ => globalPool_agrees⟩,
    ⟨"GlobalMaxPool", globalPool, Operator.globalPool, fun _ => globalPool_agrees⟩]

def normalizations : List Twins :=
  [⟨"BatchNormalization", batchNormalization, Operator.batchNormalization, fun _ => batchNormalization_agrees⟩,
    .plain "InstanceNormalization" instanceNormalization,
    ⟨"LayerNormalization", layerNormalization, Operator.layerNormalization, fun _ => layerNormalization_agrees⟩,
    .plain "LRN" localResponse, ⟨"Dropout", dropout, Operator.dropout, fun _ => dropout_agrees⟩]

def layouts : List Twins :=
  [⟨"Reshape", reshape, Operator.reshape, fun _ => reshape_agrees⟩,
    ⟨"Flatten", flatten, Operator.flatten, fun _ => flatten_agrees⟩,
    ⟨"Transpose", transpose, Operator.transpose, fun _ => transpose_agrees⟩,
    ⟨"Squeeze", squeeze, Operator.squeeze, fun _ => squeeze_agrees⟩, .plain "Unsqueeze" unsqueeze,
    ⟨"Expand", expand, Operator.expand, fun _ => expand_agrees⟩, .plain "Identity" identity]

def selections : List Twins :=
  [⟨"Concat", concat, Operator.concat, fun _ => concat_agrees⟩,
    ⟨"Split", split, Operator.split, fun _ => split_agrees⟩,
    ⟨"Slice", slice, Operator.slice, fun _ => slice_agrees⟩,
    ⟨"Gather", gather, Operator.gather, fun _ => gather_agrees⟩, .plain "GatherElements" gatherElements,
    .plain "Tile" tile, ⟨"Pad", pad, Operator.pad, fun _ => pad_agrees⟩]

def reductions : List Twins :=
  reductionNames.map (.plain · reduce) ++
    [.plain "ArgMax" argReduce, .plain "ArgMin" argReduce, ⟨"TopK", topK, Operator.topK, fun _ => topK_agrees⟩]

def constants : List Twins :=
  [⟨"Constant", constant, Operator.constant, fun _ => constant_agrees⟩,
    ⟨"ConstantOfShape", constantOfShape, Operator.constantOfShape, fun _ => constantOfShape_agrees⟩,
    ⟨"Shape", shapeOf, Operator.shapeOf, fun _ => shapeOf_agrees⟩,
    ⟨"Size", volumeOf, Operator.sizeOf, fun _ => volumeOf_agrees⟩, .plain "NonZero" nonZero, .plain "Cast" cast,
    .plain "Range" range, ⟨"OneHot", oneHot, Operator.oneHot, fun _ => oneHot_agrees⟩, .plain "Resize" resize]

/-- A strict converter for every operator. -/
def table : List Twins :=
  activations ++ elementwise ++ products ++ windowed ++ normalizations ++ layouts ++ selections ++ reductions ++
    constants

/-- The operators and their converters are those of the library. -/
theorem map_table : table.map (fun twins => (twins.name, Converter.of twins.lower)) = Registry.builtin.entries := rfl

/-- The strict converter of an operator. -/
def find? (opType : String) : Option Twins := table.find? (·.name == opType)

theorem builtin_find? (opType : String) :
    Registry.builtin.find? opType = (find? opType).map fun twins => .of twins.lower := by
  rw [Registry.find?, ← map_table, List.find?_map, Option.map_map]
  rfl

end ModelImport.Strict
