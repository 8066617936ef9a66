import ModelImport.Proofs.LocalFailures
import ModelImport.Proofs.Lowering
/-!
# What converters fail with

A converter sees one node and the function, so it can only find fault with those: with an attribute, a tensor, a type or
a count. It never blames a name, the table of converters or the import as a whole, and in particular it never says that
the import was cancelled (`Registry.builtin_failsLocally`). There is a rule for each step that converters are made of,
so that the proof for a converter follows its text.
-/

namespace ModelImport

/-! ## Steps that look -/

namespace LookM

/-- Steps that only find fault with their node, at every site. -/
def Contained {α : Type} (m : LookM α) : Prop := ∀ site view, FailsLocally (m site view)

namespace Contained
variable {α β : Type}

theorem bind {m : LookM α} {f : α → LookM β} (hm : Contained m) (hf : ∀ a, Contained (f a)) :
    Contained (m >>= f) :=
  fun site view => FailsWith.bind (hm site view) fun x => hf x.1 site x.2

theorem pure {a : α} : Contained (pure a) := fun _ _ => .ok

theorem throw {e : ImportError} (he : e.Local) : Contained (throw e : LookM α) := fun _ _ => .error he

theorem invalid {key reason : String} : Contained (invalid key reason : LookM α) := .throw trivial

theorem lift {x : Except ImportError α} (hx : FailsLocally x) : Contained (liftM x : LookM α) :=
  fun _ _ => .bind hx fun _ => .ok

theorem map {f : α → β} {m : LookM α} (hm : Contained m) : Contained (f <$> m) := by
  rw [map_eq_pure_bind]
  exact .bind hm fun _ => .pure

theorem ite {c : Prop} [Decidable c] {m m' : LookM α} (hm : Contained m) (hm' : Contained m') :
    Contained (if c then m else m') := by
  split
  · exact hm
  · exact hm'

/-- A check before the rest. -/
theorem guard {c : Prop} [Decidable c] {key reason : String} {f : β → LookM α} {m : LookM α}
    (h : Contained m) : Contained (if c then LookM.invalid key reason >>= f else m) :=
  .ite (throw trivial) h

theorem mapM {f : β → LookM α} (hf : ∀ b, Contained (f b)) (l : List β) : Contained (l.mapM f) := by
  induction l with
  | nil =>
    rw [List.mapM_nil]
    exact .pure
  | cons b l ih =>
    rw [List.mapM_cons]
    exact .bind (hf b) fun _ => .bind ih fun _ => .pure

theorem filterM {f : β → LookM Bool} (hf : ∀ b, Contained (f b)) (l : List β) : Contained (l.filterM f) := by
  have haux : ∀ acc, Contained (l.filterAuxM f acc) := by
    induction l with
    | nil => exact fun _ => .pure
    | cons b l ih => exact fun acc => .bind (hf b) fun _ => ih _
  exact .bind (haux []) fun _ => .pure

theorem read : Contained (read : LookM Site) := fun _ _ => .ok

theorem attr? {k : AttributeKind} {key : String} : Contained (attr? k key) :=
  fun _ view => .bind (AttributeView.value_local (v := view)) fun _ => .ok

theorem attrOr {k : AttributeKind} {key : String} {default : k.Carrier} : Contained (attrOr k key default) :=
  fun _ view => .bind (.map (AttributeView.value_local (v := view))) fun _ => .ok

theorem attr {k : AttributeKind} {key : String} : Contained (attr k key) :=
  fun _ view => .bind (AttributeView.required_local (v := view)) fun _ => .ok

theorem hasAttr {key : String} : Contained (hasAttr key) := fun _ _ => .ok

theorem flag {key : String} {default : Int} : Contained (flag key default) := .bind .attrOr fun _ => .pure

theorem opType : Contained opType := fun _ _ => .ok

theorem opset : Contained opset := fun _ _ => .ok

theorem outputCount : Contained outputCount := fun _ _ => .ok

theorem checkCount {what : String} {actual least : Nat} {most : Option Nat} :
    Contained (checkCount what actual least most) :=
  .ite (.bind .opType fun _ => .throw trivial) .pure

theorem checkInputs {least : Nat} {most : Option Nat} : Contained (checkInputs least most) :=
  .bind .read fun _ => .checkCount

theorem checkOutputs {least : Nat} {most : Option Nat} : Contained (checkOutputs least most) :=
  .bind .outputCount fun _ => .checkCount

theorem checkArity {inputs : Nat} : Contained (checkArity inputs) := .bind .checkInputs fun _ => .checkOutputs

theorem input? {index : Nat} : Contained (input? index) := fun _ _ => .ok

theorem input {index : Nat} : Contained (input index) := by
  refine .bind .input? fun v => ?_
  cases v with
  | some v => exact .pure
  | none => exact .bind .read fun _ => .bind .opType fun _ => .throw trivial

theorem typeOf {v : ValueId} : Contained (typeOf v) := by
  refine .bind .read fun site => ?_
  cases site.function.type? v with
  | some type => exact .pure
  | none => exact .throw trivial

theorem inputType {index : Nat} : Contained (inputType index) := .bind .input fun _ => .typeOf

theorem inputTypes : Contained inputTypes := .bind .read fun _ => .mapM (fun _ => .inputType) _

theorem constant? {index : Nat} : Contained (constant? index) := fun _ _ => .ok

theorem constantInts? {index : Nat} : Contained (constantInts? index) := fun _ _ => .ok

theorem constantDouble? {index : Nat} : Contained (constantDouble? index) := fun _ _ => .ok

end Contained

end LookM

/-! ## Steps of converters -/

namespace ConverterM

open LookM

/-- Steps that only find fault with their node, whatever they do to the builder before that. -/
def Contained {α : Type} (m : ConverterM α) : Prop := ∀ context view b, FailsLocally (m context view b).1

namespace Contained
variable {α β : Type}

theorem bind {m : ConverterM α} {look : LookM α} [hm : Looks m look] {f : α → ConverterM β}
    (hlook : LookM.Contained look) (hf : ∀ a, Contained (f a)) : Contained (m >>= f) := by
  intro context view b
  rw [hm.eq, look_bind]
  have hlocal := hlook ⟨context, b.function⟩ view
  cases hrun : look ⟨context, b.function⟩ view with
  | error e =>
    rw [hrun] at hlocal
    exact .error (hlocal e rfl)
  | ok r => exact hf r.1 context r.2 b

theorem pure {a : α} : Contained (pure a) := fun _ _ _ => .ok

theorem throw {e : ImportError} (he : e.Local) : Contained (throw e : ConverterM α) := fun _ _ _ => .error he

theorem invalid {key reason : String} : Contained (liftM (invalid key reason : LookM α)) := fun _ _ _ => .error trivial

theorem ite {c : Prop} [Decidable c] {m m' : ConverterM α} (hm : Contained m) (hm' : Contained m') :
    Contained (if c then m else m') := by
  split
  · exact hm
  · exact hm'

/-- A check before the rest. -/
theorem guard {c : Prop} [Decidable c] {key reason : String} {f : β → ConverterM α} {m : ConverterM α}
    (h : Contained m) : Contained (if c then (liftM (LookM.invalid key reason : LookM β) >>= f) else m) :=
  .ite (fun _ _ _ => .error trivial) h

theorem emitOp {opType : String} {operands : List (Option ValueId)} {params : Params} {types : List TensorType} :
    Contained (emitOp opType operands params types) :=
  fun _ _ _ => .ok

theorem emit {params : Params} {types : List TensorType} : Contained (emit params types) := fun _ _ _ => .ok

theorem fold {data : TensorData} : Contained (fold data) := fun _ _ _ => .ok

end Contained

end ConverterM

namespace Operator

open LookM hiding Contained
open ConverterM Infer

/-! ## Activations -/

theorem contained_sameType (params : Params) : Contained (sameType params) :=
  .bind .checkArity fun _ => .bind .inputType fun _ => .emit

theorem contained_isNaN : Contained isNaN := .bind .checkArity fun _ => .bind .inputType fun _ => .emit

theorem contained_withAlpha (default : Single) : Contained (withAlpha default) :=
  .bind .attrOr fun _ => contained_sameType _

theorem contained_hardSigmoid : Contained hardSigmoid :=
  .bind .attrOr fun _ => .bind .attrOr fun _ => contained_sameType _

theorem contained_selu : Contained selu :=
  .bind .attrOr fun _ => .bind .attrOr fun _ => contained_sameType _

theorem contained_gelu : Contained gelu := .bind .attrOr fun _ => .guard (contained_sameType _)

theorem contained_prelu : Contained prelu :=
  .bind .checkArity fun _ => .bind .inputType fun _ => .bind .inputType fun _ => .emit

theorem contained_clip : Contained clip := by
  refine .bind .checkOutputs fun _ => .bind .opset fun _ => .ite ?_ ?_
  · exact .bind .checkInputs fun _ => .bind .attrOr fun _ => .bind .attrOr fun _ =>
      .bind .inputType fun _ => .emit
  · exact .bind .checkInputs fun _ => .bind .inputType fun _ => .bind .constantDouble? fun _ =>
      .bind .constantDouble? fun _ => .emit

theorem contained_softmax : Contained softmax := by
  refine .bind .checkArity fun _ => .bind .opset fun _ => .bind .attrOr fun _ => .bind .inputType fun type => ?_
  cases type.rank? with
  | some rank => exact .bind (.lift normalizeAxis_local) fun _ => .bind .pure fun _ => .emit
  | none => exact .bind .pure fun _ => .emit

/-! ## Elementwise operators and products -/

theorem contained_likeFirst (params : Params) : Contained (likeFirst params) :=
  .bind .inputType fun _ => .bind .inputTypes fun _ => .emit

theorem contained_binary (params : Params) : Contained (binary params) :=
  .bind .checkArity fun _ => contained_likeFirst params

theorem contained_comparison : Contained comparison := .bind .checkArity fun _ => .bind .inputTypes fun _ => .emit

theorem contained_variadic : Contained variadic :=
  .bind .checkInputs fun _ => .bind .checkOutputs fun _ => contained_likeFirst _

theorem contained_modulo : Contained modulo := .bind .attrOr fun _ => .guard (contained_binary _)

theorem contained_bitShift : Contained bitShift := .bind .attr fun _ => .guard (contained_binary _)

theorem contained_select : Contained select :=
  .bind .checkArity fun _ => .bind .inputTypes fun _ => .bind .inputType fun _ => .emit

theorem contained_matMul : Contained matMul :=
  .bind .checkArity fun _ => .bind .inputType fun _ => .bind .inputType fun _ => .emit

theorem contained_gemm : Contained gemm :=
  .bind .checkInputs fun _ => .bind .checkOutputs fun _ => .bind .attrOr fun _ => .bind .attrOr fun _ =>
    .bind .flag fun _ => .bind .flag fun _ => .bind .inputType fun _ => .bind .inputType fun _ => .emit

theorem contained_einsum : Contained einsum :=
  .bind .checkInputs fun _ => .bind .checkOutputs fun _ => .bind .attr fun _ =>
    .bind (.lift Einsum.parse_local) fun _ => .bind .inputType fun _ => .bind .inputTypes fun _ =>
      .bind (.lift Einsum.outputType_local) fun _ => .emit

/-! ## Convolutions and pools -/

theorem contained_perAxis {key : String} {count default : Nat} : LookM.Contained (perAxis key count default) := by
  refine .bind .attr? fun values => ?_
  cases values with
  | none => exact .pure
  | some values => exact .ite .invalid (.lift nonNegative_local)

theorem contained_readKernel {spatial : Nat} {weights : Option TensorType} :
    LookM.Contained (readKernel spatial weights) := by
  refine .bind .attr? fun kernel => ?_
  cases kernel with
  | some kernel => exact .lift nonNegative_local
  | none =>
    cases weights with
    | none => exact .throw trivial
    | some w =>
      dsimp only
      cases w.sizes? with
      | some sizes => exact .pure
      | none => exact .pure

theorem contained_readAutoPad : LookM.Contained readAutoPad := by
  refine .bind .attrOr fun name => ?_
  cases Infer.AutoPad.ofName? name with
  | some autoPad => exact .pure
  | none => exact .invalid

theorem contained_readWindow {spatial : Nat} {weights : Option TensorType} :
    LookM.Contained (readWindow spatial weights) := by
  refine .bind contained_readKernel fun _ => .guard (.bind contained_readAutoPad fun _ => ?_)
  exact .bind contained_perAxis fun _ => .bind contained_perAxis fun _ => .bind contained_perAxis fun _ => .pure

theorem contained_spatialAxes {x : TensorType} {weights : Option TensorType} :
    LookM.Contained (spatialAxes x weights) := by
  unfold spatialAxes
  cases x.rank? with
  | some rank => exact .ite (.bind .opType fun _ => .invalid) .pure
  | none =>
    dsimp only
    cases weights.bind TensorType.rank? with
    | some rank => exact .pure
    | none => exact .bind .attr? fun _ => .pure

theorem contained_readGroup : LookM.Contained readGroup := .bind .attrOr fun _ => .ite .invalid .pure

theorem contained_conv : Contained conv :=
  .bind .checkInputs fun _ => .bind .checkOutputs fun _ => .bind .inputType fun _ => .bind .inputType fun _ =>
    .bind contained_readGroup fun _ => .bind contained_spatialAxes fun _ => .bind contained_readWindow fun _ => .emit

theorem contained_convTranspose : Contained convTranspose := by
  refine .bind .checkInputs fun _ => .bind .checkOutputs fun _ => .bind .inputType fun x => .bind .inputType fun _ => ?_
  refine .bind contained_readGroup fun _ => .bind contained_spatialAxes fun _ => .bind contained_readWindow fun _ => ?_
  refine .bind contained_perAxis fun _ => .bind .attr? fun shape => ?_
  cases x.shape <;> cases shape
  case some.some => exact .bind (.map (.lift nonNegative_local)) fun _ => .emit
  all_goals exact .bind .pure fun _ => .emit

theorem contained_readPool : LookM.Contained readPool :=
  .bind .inputType fun _ => .bind contained_spatialAxes fun _ => .bind contained_readWindow fun _ =>
    .bind .flag fun _ => .pure

theorem contained_maxPool : Contained maxPool :=
  .bind .checkInputs fun _ => .bind .checkOutputs fun _ => .bind contained_readPool fun _ => .bind .attrOr fun _ =>
    .bind .outputCount fun _ => .emit

theorem contained_averagePool : Contained averagePool :=
  .bind .checkArity fun _ => .bind contained_readPool fun _ => .bind .attrOr fun _ => .emit

theorem contained_globalPool : Contained globalPool := .bind .checkArity fun _ => .bind .inputType fun _ => .emit

/-! ## Normalizations -/

theorem contained_batchNormalization : Contained batchNormalization := by
  refine .bind .checkInputs fun _ => .bind .checkOutputs fun _ => .bind .attrOr fun _ => ?_
  refine .bind .attrOr fun _ => .bind .attrOr fun _ => .bind .attrOr fun _ => .guard ?_
  exact .bind .inputType fun _ => .bind .inputType fun _ => .bind .outputCount fun _ => .emit

theorem contained_instanceNormalization : Contained instanceNormalization :=
  .bind .checkArity fun _ => .bind .attrOr fun _ => .bind .inputType fun _ => .emit

theorem contained_layerNormalization : Contained layerNormalization := by
  refine .bind .checkInputs fun _ => .bind .checkOutputs fun _ => .bind .attrOr fun _ => ?_
  refine .bind .attrOr fun _ => .bind .attrOr fun _ => .bind .inputType fun x => ?_
  cases x.shape with
  | none => exact .bind .pure fun _ => .bind .outputCount fun _ => .emit
  | some dims => exact .bind (.lift normalizeAxis_local) fun _ => .bind .pure fun _ => .bind .outputCount fun _ => .emit

theorem contained_localResponse : Contained localResponse := by
  refine .bind .checkArity fun _ => .bind .attr fun _ => .guard ?_
  exact .bind .attrOr fun _ => .bind .attrOr fun _ => .bind .attrOr fun _ =>
    .bind .inputType fun _ => .emit

theorem contained_dropout : Contained dropout := by
  refine .bind .checkInputs fun _ => .bind .checkOutputs fun _ => .bind .attr? fun _ => ?_
  refine .bind .attr? fun _ => .bind .input fun data => .bind (.bind .read fun _ => .pure) fun context => ?_
  dsimp only
  split
  · exact .pure
  · exact .ite .pure (.bind .typeOf fun _ _ _ _ => .ok)

/-! ## Layout -/

theorem contained_intsByOpset {key : String} {index : Nat} {since : Int} :
    LookM.Contained (intsByOpset key index since) :=
  .bind .opset fun _ => .ite .attr? .constantInts?

theorem contained_requiredInts {key : String} {since : Int} : LookM.Contained (requiredInts key since) := by
  refine .bind .opset fun _ => .ite ?_ ?_
  · exact .bind .checkInputs fun _ => .bind .attr fun _ => .pure
  · exact .bind .checkInputs fun _ => .bind .input fun _ => .constantInts?

theorem contained_reshape : Contained reshape := by
  refine .bind .checkOutputs fun _ => .bind .flag fun _ => .bind contained_requiredInts fun target => ?_
  refine .bind .inputType fun x => ?_
  cases target with
  | some target => exact .bind (.lift reshapeDims_local) fun _ => .emit
  | none => exact .bind .inputType fun _ => .emit

theorem contained_flatten : Contained flatten := by
  refine .bind .checkArity fun _ => .bind .attrOr fun _ => .bind .inputType fun x => ?_
  cases x.shape with
  | none => exact .emit
  | some dims => exact .bind (.lift flattenDims_local) fun _ => .emit

theorem contained_transpose : Contained transpose := by
  refine .bind .checkArity fun _ => .bind .attr? fun _ => .bind .inputType fun x => ?_
  cases x.shape with
  | none => exact .emit
  | some dims => exact .bind (.lift permutation_local) fun _ => .emit

theorem contained_squeeze : Contained squeeze := by
  refine .bind .opset fun _ => .bind .checkInputs fun _ => .bind .checkOutputs fun _ => ?_
  refine .bind .opset fun _ => .bind .hasAttr fun _ => .bind .input? fun _ => ?_
  refine .bind contained_intsByOpset fun axes => .bind .inputType fun x => ?_
  cases x.shape with
  | none => exact .emit
  | some dims =>
    cases axes with
    | some axes => exact .bind (.lift squeezeDims_local) fun _ => .emit
    | none => exact .ite .emit .emit

theorem contained_unsqueeze : Contained unsqueeze := by
  refine .bind .checkOutputs fun _ => .bind contained_requiredInts fun axes => .bind .inputType fun x => ?_
  cases axes with
  | none => cases x.shape <;> exact .emit
  | some axes =>
    cases x.shape with
    | none => exact .emit
    | some dims => exact .bind (.lift unsqueezeDims_local) fun _ => .emit

theorem contained_expand : Contained expand := by
  refine .bind .checkArity fun _ => .bind .inputType fun x => .bind .constantInts? fun shape => ?_
  cases shape with
  | some shape => exact .emit
  | none =>
    refine .bind .inputType fun lengths => ?_
    cases x.rank? <;> cases lengthOf lengths <;> exact .emit

theorem contained_identity : Contained identity := .bind .checkArity fun _ => .bind .input fun _ => .pure

/-! ## Selections -/

theorem contained_concat : Contained concat := by
  refine .bind .checkInputs fun _ => .bind .checkOutputs fun _ => .bind .attr fun _ => ?_
  refine .bind .inputType fun _ => .bind .inputTypes fun types => ?_
  cases types.mapM TensorType.shape with
  | some shapes => exact .bind (.lift concatDims_local) fun _ => .emit
  | none => exact .emit

theorem contained_split : Contained split := by
  refine .bind .opset fun _ => .bind .checkInputs fun _ => .bind .checkOutputs fun _ => .bind .attrOr fun _ => ?_
  refine .bind .attr? fun declared => .bind contained_intsByOpset fun sizes => .bind .outputCount fun _ => ?_
  cases declared
  case' some n => refine .guard ?_
  all_goals
    cases sizes
    case' some l => refine .guard ?_
    all_goals
      refine .bind .inputType fun x => ?_
      cases x.shape with
      | none => exact .emit
      | some dims => exact .bind (.lift normalizeAxis_local) fun _ => .emit

theorem contained_readSliceBounds : LookM.Contained readSliceBounds := by
  refine .bind .opset fun _ => .ite ?_ ?_
  · exact .bind .checkInputs fun _ => .bind .attr fun _ => .bind .attr fun _ => .bind .attr? fun _ =>
      .pure
  · refine .bind .checkInputs fun _ => .bind .input fun _ => .bind .input fun _ => ?_
    exact .bind .constantInts? fun _ => .bind .constantInts? fun _ => .bind .constantInts? fun _ =>
      .bind .constantInts? fun _ => .pure

theorem contained_slice : Contained slice := by
  refine .bind .checkOutputs fun _ => .bind contained_readSliceBounds fun bounds => .bind .input? fun _ => ?_
  refine .bind .input? fun _ => .bind .inputType fun x => ?_
  cases x.shape with
  | none => exact .emit
  | some dims =>
    dsimp only
    split
    · exact .bind (.lift sliceAll_local) fun _ => .emit
    · exact .emit

theorem contained_gather : Contained gather := by
  refine .bind .checkArity fun _ => .bind .attrOr fun _ => ?_
  refine .bind .inputType fun data => .bind .inputType fun _ => ?_
  cases data.shape with
  | none => exact .emit
  | some dims => exact .bind (.lift normalizeAxis_local) fun _ => .emit

theorem contained_gatherElements : Contained gatherElements := by
  refine .bind .checkArity fun _ => .bind .attrOr fun _ => ?_
  refine .bind .inputType fun data => .bind .inputType fun _ => ?_
  cases data.rank? with
  | none => exact .bind .pure fun _ => .emit
  | some rank => exact .bind (.lift normalizeAxis_local) fun _ => .bind .pure fun _ => .emit

theorem contained_tile : Contained tile := by
  refine .bind .checkArity fun _ => .bind .inputType fun x => .bind .constantInts? fun repeats => ?_
  cases x.shape with
  | none => exact .emit
  | some dims =>
    cases repeats with
    | none => exact .emit
    | some repeats => exact .guard (.bind (.lift tileDims_local) fun _ => .emit)

theorem contained_readPads {params : Params} : LookM.Contained (readPads params) := by
  refine .bind .opset fun _ => .ite ?_ ?_
  · refine .bind .checkInputs fun _ => .bind .opset fun _ => ?_
    exact .bind .attr fun _ => .bind .attrOr fun _ => .pure
  · refine .bind .checkInputs fun _ => .bind .input fun _ => .bind .constantDouble? fun _ => ?_
    exact .bind .constantInts? fun _ => .bind .constantInts? fun _ => .pure

theorem contained_pad : Contained pad := by
  refine .bind .checkOutputs fun _ => .bind .attrOr fun _ => .guard (.bind contained_readPads fun amounts => ?_)
  refine .bind .input? fun _ => .bind .inputType fun x => ?_
  obtain ⟨pads, axes, params⟩ := amounts
  cases x.shape with
  | none => exact .emit
  | some dims =>
    dsimp only
    split
    · exact .bind (.lift padAll_local) fun _ => .emit
    · exact .emit

/-! ## Reductions -/

theorem contained_readReductionAxes : LookM.Contained readReductionAxes := by
  refine .bind .opset fun _ => .bind .opType fun _ => .ite ?_ ?_
  · exact .bind .checkInputs fun _ => .bind .attr? fun _ => .pure
  · refine .bind .checkInputs fun _ => .bind .input? fun v => ?_
    cases v with
    | none => exact .pure
    | some v =>
      refine .bind .constantInts? fun axes => ?_
      cases axes <;> exact .pure

theorem contained_reduceOver (x : TensorType) (axes : Option (List Int)) (keep : Bool) :
    Contained (reduceOver x axes keep) := by
  unfold reduceOver
  cases x.shape with
  | some dims => exact .bind (.lift reductionPlaces_local) fun _ => .emit
  | none => exact .emit

theorem contained_reduce : Contained reduce := by
  refine .bind .checkOutputs fun _ => .bind .flag fun _ => .bind .flag fun _ => ?_
  refine .bind contained_readReductionAxes fun axes => .bind .inputType fun x => ?_
  cases axes with
  | runtime => exact .emit
  | listed axes => exact contained_reduceOver _ _ _
  | all => exact .ite (.bind .input? fun _ => .emitOp) (contained_reduceOver _ _ _)

theorem contained_argReduce : Contained argReduce := by
  refine .bind .checkArity fun _ => .bind .attrOr fun _ => .bind .flag fun _ => .bind .attrOr fun _ => ?_
  refine .bind .inputType fun x => ?_
  cases x.shape with
  | some dims => exact .bind (.lift normalizeAxis_local) fun _ => .bind .pure fun _ => .emit
  | none => exact .bind .pure fun _ => .emit

theorem contained_readTopCount : LookM.Contained readTopCount := by
  refine .bind .opset fun _ => .ite ?_ ?_
  · exact .bind .checkInputs fun _ => .bind .attr fun _ => .pure
  · exact .bind .checkInputs fun _ => .bind .input fun _ => .bind .constantInts? fun _ => .pure

theorem contained_topK : Contained topK := by
  refine .bind .checkOutputs fun _ => .bind contained_readTopCount fun _ => .bind .attrOr fun _ => ?_
  refine .bind .attrOr fun _ => .bind .attrOr fun _ => .bind .inputType fun x => ?_
  cases x.shape with
  | some dims =>
    exact .bind (.lift normalizeAxis_local) fun _ => .bind (.lift topDim_local) fun _ => .bind .pure fun _ => .emit
  | none => exact .bind .pure fun _ => .emit

/-! ## Constants -/

theorem contained_readValue {key : String} : LookM.Contained (readValue key) := by
  refine .ite (.bind .attr fun _ => .lift StoredTensor.materialize_local) (.ite (.bind .attr fun _ => .pure) ?_)
  refine .ite (.bind .attr fun _ => .pure) (.ite (.bind .attr fun _ => .pure) ?_)
  exact .ite (.bind .attr fun _ => .pure) (.throw trivial)

theorem contained_constant : Contained constant := by
  refine .bind .checkInputs fun _ => .bind .checkOutputs fun _ => .bind (.filterM (fun _ => .hasAttr) _) fun keys => ?_
  rcases keys with _ | ⟨key, _ | ⟨second, rest⟩⟩
  · exact .throw trivial
  · exact .bind contained_readValue fun _ => .fold
  · exact .invalid

theorem contained_constantOfShape : Contained constantOfShape := by
  refine .bind .checkArity fun _ => .bind .attr? fun value => ?_
  cases value
  case' some tensor => refine .bind (.lift StoredTensor.materialize_local) fun value => .guard ?_
  case' none => refine .bind .pure fun value => .guard ?_
  all_goals
    refine .bind .constantInts? fun shape => ?_
    cases shape with
    | some shape => exact .bind (.lift fillSizes_local) fun _ => .emit
    | none => exact .bind .inputType fun _ => .emit

theorem contained_shapeOf : Contained shapeOf := by
  refine .bind .checkArity fun _ => .bind .attrOr fun _ => .bind .attr? fun _ => ?_
  refine .bind .inputType fun x => ?_
  cases x.shape with
  | none => exact .emit
  | some dims =>
    dsimp only
    split
    · exact .fold
    · exact .emit

theorem contained_sizeOf : Contained Operator.sizeOf := by
  refine .bind .checkArity fun _ => .bind .inputType fun x => ?_
  cases x.shape.bind Infer.product? with
  | some volume => exact .fold
  | none => exact .emit

theorem contained_nonZero : Contained nonZero := .bind .checkArity fun _ => .bind .inputType fun _ => .emit

theorem contained_cast : Contained Operator.cast :=
  .bind .checkArity fun _ => .bind .attr fun _ => .bind .attrOr fun _ => .bind (.lift resolveElement_local) fun _ =>
    .bind .inputType fun _ => .emit

theorem contained_range : Contained range := by
  refine .bind .checkArity fun _ => .bind .inputType fun _ => .bind .constantDouble? fun start => ?_
  refine .bind .constantDouble? fun limit => .bind .constantDouble? fun delta => ?_
  cases start <;> cases limit <;> cases delta
  case some.some.some => exact .guard (.bind .pure fun _ => .emit)
  all_goals exact .bind .pure fun _ => .emit

theorem contained_oneHot : Contained oneHot := by
  refine .bind .checkArity fun _ => .bind .attrOr fun _ => .bind .inputType fun indices => ?_
  refine .bind .inputType fun _ => .bind .constantDouble? fun _ => ?_
  cases indices.shape with
  | some dims => exact .bind (.lift normalizeAxis_local) fun _ => .emit
  | none => exact .emit

theorem contained_resize : Contained resize := by
  refine .bind .checkOutputs fun _ => .bind .opset fun _ => .ite ?_ ?_
  all_goals
    refine .bind .checkInputs fun _ => .bind .attrOr fun _ => .guard ?_
    refine .bind .attrOr fun _ => .bind .attrOr fun _ => .bind .attrOr fun _ => ?_
    refine .bind .attrOr fun _ => .bind .attrOr fun _ => .bind .attrOr fun _ => ?_
    refine .bind .inputType fun x => .ite (.bind .pure fun _ => ?_) (.bind .constantInts? fun _ => ?_)
    all_goals
      refine .bind .constant? fun _ => ?_
      cases x.shape with
      | some dims => exact .bind (.map (.lift resizedDims_local)) fun _ => .emit
      | none => exact .bind .pure fun _ => .emit

/-! ## The table -/

theorem activations_contained : ∀ entry ∈ activations, Contained entry.2.lower := by
  simp only [activations, List.forall_mem_append, List.forall_mem_map, List.forall_mem_cons]
  exact ⟨fun _ _ => contained_sameType _, contained_isNaN, contained_withAlpha _, contained_withAlpha _,
    contained_withAlpha _, contained_withAlpha _, contained_hardSigmoid, contained_selu, contained_gelu,
    contained_prelu, contained_clip, contained_softmax, contained_softmax, contained_softmax, List.forall_mem_nil _⟩

theorem elementwise_contained : ∀ entry ∈ elementwise, Contained entry.2.lower := by
  simp only [elementwise, List.forall_mem_append, List.forall_mem_map, List.forall_mem_cons]
  exact ⟨⟨⟨fun _ _ => contained_binary _, fun _ _ => contained_comparison⟩, fun _ _ => contained_variadic⟩,
    contained_modulo, contained_bitShift, contained_select, List.forall_mem_nil _⟩

theorem products_contained : ∀ entry ∈ products, Contained entry.2.lower := by
  simp only [products, List.forall_mem_cons]
  exact ⟨contained_matMul, contained_gemm, contained_einsum, List.forall_mem_nil _⟩

theorem windowed_contained : ∀ entry ∈ windowed, Contained entry.2.lower := by
  simp only [windowed, List.forall_mem_cons]
  exact ⟨contained_conv, contained_convTranspose, contained_maxPool, contained_averagePool, contained_globalPool,
    contained_globalPool, List.forall_mem_nil _⟩

theorem normalizations_contained : ∀ entry ∈ normalizations, Contained entry.2.lower := by
  simp only [normalizations, List.forall_mem_cons]
  exact ⟨contained_batchNormalization, contained_instanceNormalization, contained_layerNormalization,
    contained_localResponse, contained_dropout, List.forall_mem_nil _⟩

theorem layouts_contained : ∀ entry ∈ layouts, Contained entry.2.lower := by
  simp only [layouts, List.forall_mem_cons]
  exact ⟨contained_reshape, contained_flatten, contained_transpose, contained_squeeze, contained_unsqueeze,
    contained_expand, contained_identity, List.forall_mem_nil _⟩

theorem selections_contained : ∀ entry ∈ selections, Contained entry.2.lower := by
  simp only [selections, List.forall_mem_cons]
  exact ⟨contained_concat, contained_split, contained_slice, contained_gather, contained_gatherElements, contained_tile,
    contained_pad, List.forall_mem_nil _⟩

theorem reductions_contained : ∀ entry ∈ reductions, Contained entry.2.lower := by
  simp only [reductions, List.forall_mem_append, List.forall_mem_map, List.forall_mem_cons]
  exact ⟨fun _ _ => contained_reduce, contained_argReduce, contained_argReduce, contained_topK, List.forall_mem_nil _⟩

theorem constants_contained : ∀ entry ∈ constants, Contained entry.2.lower := by
  simp only [constants, List.forall_mem_cons]
  exact ⟨contained_constant, contained_constantOfShape, contained_shapeOf, contained_sizeOf, contained_nonZero,
    contained_cast, contained_range, contained_oneHot, contained_resize, List.forall_mem_nil _⟩

end Operator

/-- Whatever the converters of the table fail with satisfies `P`. -/
def Registry.FailsWith (P : ImportError → Prop) (r : Registry) : Prop :=
  ∀ ⦃opType c⦄, r.find? opType = some c → ∀ context b, ModelImport.FailsWith P (c.run context b).1

open Operator in
theorem Registry.builtin_failsLocally : builtin.FailsWith ImportError.Local := by
  have hall : ∀ entry ∈ builtin.entries, entry.2.lower.Contained := by
    simp only [builtin, List.forall_mem_append]
    exact ⟨⟨⟨⟨⟨⟨⟨⟨activations_contained, elementwise_contained⟩, products_contained⟩, windowed_contained⟩,
      normalizations_contained⟩, layouts_contained⟩, selections_contained⟩, reductions_contained⟩, constants_contained⟩
  intro opType c h context b
  exact hall _ (find?_eq_some h) context _ b

end ModelImport
