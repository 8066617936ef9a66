import ModelImport.Proofs.Lowering
import ModelImport.Proofs.Renaming
/-!
# Converters do not look at names

A converter sees its node, with all its names. That it makes nothing of them is said by running it twice, at a site and
at the same site after a renaming: it fails in the same way, or it asks for the same with the names changed
(`Registry.builtin_relabels`). There is a rule for each step that converters are made of, so that the proof for a
converter follows its text. The one name that a converter does look at is that of the mask of `Dropout`, to see whether
it is empty, and a renaming does not change that.
-/

namespace ModelImport

/-! ## Attributes -/

/-- The kinds of attribute that hold no names of values. -/
def AttributeKind.isPlain (k : AttributeKind) : Bool := k != .graph && k != .graphs

def AttributeView.rename (r : Renaming) (v : AttributeView) : AttributeView := ⟨v.bag.rename r, v.reads⟩

theorem AttributeValue.as?_rename (r : Renaming) {k : AttributeKind} (hk : k.isPlain = true) (v : AttributeValue) :
    (v.rename r).as? k = v.as? k := by
  cases v with
  | graph g => cases k <;> simp_all [rename, as?, AttributeKind.isPlain]
  | graphs gs => cases k <;> simp_all [rename, as?, AttributeKind.isPlain]
  | _ => simp [rename]

namespace AttributeView
variable (r : Renaming) (v : AttributeView)

theorem contains_rename (key : String) : (v.rename r).contains key = v.contains key := by
  simp [contains, AttributeBag.contains, rename, AttributeBag.find?_rename]

theorem value_rename {k : AttributeKind} (hk : k.isPlain = true) (key : String) :
    (v.rename r).value k key = v.value k key := by
  rw [value, value, rename, AttributeBag.find?_rename]
  cases AttributeBag.find? v.bag key with
  | none => rfl
  | some stored => simp only [Option.map_some, AttributeValue.as?_rename r hk, AttributeValue.kind_rename]

theorem note_rename (key : String) : (v.rename r).note key = (v.note key).rename r := by
  rw [note, note, contains_rename]
  split <;> rfl

end AttributeView

/-! ## Sites and lowerings -/

/-- A site after a renaming. The functions may differ in more than their names, as long as operands look the same; of
the names of the inputs nothing is said, because operands stand in their place. -/
structure Site.Renamed (r : Renaming) (site site' : Site) : Prop where
  opType : site'.node.opType = site.node.opType
  outputs : site'.node.outputs = site.node.outputs.map r
  attributes : site'.node.attributes = AttributeBag.rename r site.node.attributes
  operands : site'.operands = site.operands
  types : ∀ v, site'.function.type? v = site.function.type? v
  constants : ∀ v, site'.function.constant? v = site.function.constant? v
  opset : site'.opset = site.opset

/-- An addition after a renaming. An instruction has the display name of its node, which is given. -/
def Addition.rename (r : Renaming) (displayName : String) : Addition → Addition
  | .instruction op => .instruction { op with name := displayName, resultNames := op.resultNames.map r }
  | .constant name data => .constant (r name) data

def Lowering.rename (r : Renaming) (displayName : String) (l : Lowering) : Lowering :=
  ⟨l.forwarded, l.addition.map (Addition.rename r displayName)⟩

def Ending.rename (r : Renaming) (displayName : String) (ending : Ending) : Ending :=
  ending.map fun x => (x.1.rename r displayName, x.2.rename r)

/-! ## Steps that look -/

namespace LookM

/-- Run at a site after a renaming, the steps find what they found before. -/
def Blind {α : Type} (r : Renaming) (m : LookM α) : Prop :=
  ∀ ⦃site site'⦄, site.Renamed r site' → ∀ view, m site' (view.rename r) = (m site view).map fun x => (x.1, x.2.rename r)

theorem read_bind {α : Type} (f : Site → LookM α) (site : Site) (view : AttributeView) :
    (read >>= f) site view = f site site view :=
  rfl

namespace Blind
variable {α β : Type} {r : Renaming}

theorem bind {m : LookM α} {f : α → LookM β} (hm : Blind r m)
    (hf : ∀ a, Blind r (f a)) : Blind r (m >>= f) := by
  intro site site' h view
  simp only [Bind.bind, ReaderT.bind, StateT.bind, Except.bind, hm h view]
  cases m site view with
  | error e => rfl
  | ok x => exact hf x.1 h x.2

theorem pure {a : α} : Blind r (pure a) := fun _ _ _ _ => rfl

theorem throw {e : ImportError} : Blind r (throw e : LookM α) := fun _ _ _ _ => rfl

theorem lift {x : Except ImportError α} : Blind r (liftM x : LookM α) := by
  intro site site' h view
  cases x <;> rfl

theorem map {f : α → β} {m : LookM α} (hm : Blind r m) : Blind r (f <$> m) := by
  rw [map_eq_pure_bind]
  exact .bind hm fun _ => .pure

theorem ite {c : Prop} [Decidable c] {m m' : LookM α} (hm : Blind r m)
    (hm' : Blind r m') : Blind r (if c then m else m') := by
  split
  · exact hm
  · exact hm'

/-- A check that fails or does nothing. -/
theorem guard {c : Prop} [Decidable c] {key reason : String} {f : β → LookM α} {m : LookM α}
    (h : Blind r m) : Blind r (if c then invalid key reason >>= f else m) := by
  split
  · exact throw
  · exact h

theorem mapM {f : β → LookM α} (hf : ∀ b, Blind r (f b)) (l : List β) : Blind r (l.mapM f) := by
  induction l with
  | nil =>
    rw [List.mapM_nil]
    exact .pure
  | cons b l ih =>
    rw [List.mapM_cons]
    exact .bind (hf b) fun _ => .bind ih fun _ => .pure

theorem filterM {f : β → LookM Bool} (hf : ∀ b, Blind r (f b)) (l : List β) : Blind r (l.filterM f) := by
  have haux : ∀ acc, Blind r (l.filterAuxM f acc) := by
    induction l with
    | nil => exact fun _ => .pure
    | cons b l ih => exact fun acc => .bind (hf b) fun _ => ih _
  exact .bind (haux []) fun _ => .pure

/-- A step that looks at the site only through `p`, which a renaming does not change. -/
theorem through {γ : Type} (p : Site → γ) (f : γ → LookM α)
    (hp : ∀ {site site' : Site}, site.Renamed r site' → p site' = p site) (hf : ∀ c, Blind r (f c)) :
    Blind r (read >>= fun site => f (p site)) := by
  intro site site' h view
  rw [read_bind, read_bind, hp h]
  exact hf (p site) h view

theorem attr? {k : AttributeKind} {key : String} (hk : k.isPlain = true) : Blind r (attr? k key) := by
  intro site site' h view
  change Except.bind ((view.rename r).value k key) (fun a => .ok (a, (view.rename r).note key)) =
    (Except.bind (view.value k key) fun a => .ok (a, view.note key)).map _
  rw [view.value_rename r hk, view.note_rename]
  cases view.value k key <;> rfl

theorem attrOr {k : AttributeKind} {key : String} {d : k.Carrier} (hk : k.isPlain = true) :
    Blind r (attrOr k key d) := by
  intro site site' h view
  change Except.bind (((view.rename r).value k key).map _) (fun a => .ok (a, (view.rename r).note key)) =
    (Except.bind ((view.value k key).map _) fun a => .ok (a, view.note key)).map _
  rw [view.value_rename r hk, view.note_rename]
  cases view.value k key <;> rfl

theorem attr {k : AttributeKind} {key : String} (hk : k.isPlain = true) : Blind r (attr k key) := by
  intro site site' h view
  change Except.bind ((view.rename r).required k key).1 (fun a => .ok (a, (view.rename r).note key)) =
    (Except.bind (view.required k key).1 fun a => .ok (a, view.note key)).map _
  rw [AttributeView.required, AttributeView.required, view.value_rename r hk, view.note_rename]
  rcases view.value k key with _ | _ | _ <;> rfl

theorem hasAttr {key : String} : Blind r (hasAttr key) := by
  intro site site' h view
  exact congrArg (fun b => Except.ok (b, view.rename r)) (view.contains_rename r key)

theorem flag {key : String} {d : Int} : Blind r (flag key d) := .bind (.attrOr rfl) fun _ => .pure

theorem opType : Blind r opType :=
  .through (fun site => site.node.opType) Pure.pure (fun h => h.opType) fun _ => .pure

theorem opset : Blind r opset := .through (fun site => site.opset) Pure.pure (fun h => h.opset) fun _ => .pure

theorem outputCount : Blind r outputCount :=
  .through (fun site => site.node.outputs.length) Pure.pure (fun h => by rw [h.outputs, List.length_map]) fun _ => .pure

theorem checkCount {what : String} {actual least : Nat} {most : Option Nat} :
    Blind r (checkCount what actual least most) :=
  .ite (.bind .opType fun _ => .throw) .pure

theorem checkInputs {least : Nat} {most : Option Nat} : Blind r (checkInputs least most) :=
  .through (fun site => site.operands.length) (LookM.checkCount "inputs" · least most)
    (fun h => by rw [h.operands]) fun _ => .checkCount

theorem checkOutputs {least : Nat} {most : Option Nat} : Blind r (checkOutputs least most) :=
  .bind .outputCount fun _ => .checkCount

theorem checkArity {inputs : Nat} : Blind r (checkArity inputs) := .bind .checkInputs fun _ => .checkOutputs

theorem input? {index : Nat} : Blind r (input? index) :=
  .through (fun site => (site.operands[index]?).join) Pure.pure (fun h => by rw [h.operands]) fun _ => .pure

theorem input {index : Nat} : Blind r (input index) := by
  refine .bind .input? fun v => ?_
  cases v with
  | some v => exact .pure
  | none =>
    refine .through (fun site => site.operands.countP Option.isSome)
      (fun present => LookM.opType >>= fun t => MonadExcept.throw (.arity t "inputs" (index + 1) none present))
      (fun h => congrArg _ h.operands) fun _ => ?_
    exact .bind .opType fun _ => .throw

theorem typeOf {v : ValueId} : Blind r (typeOf v) := by
  intro site site' h view
  rw [LookM.typeOf, read_bind, read_bind, h.types]
  cases site.function.type? v <;> rfl

theorem inputType {index : Nat} : Blind r (inputType index) := .bind .input fun _ => .typeOf

theorem inputTypes : Blind r inputTypes :=
  .through (fun site => site.operands.length) (fun n => (List.range n).mapM LookM.inputType)
    (fun h => by rw [h.operands]) fun _ => .mapM (fun _ => .inputType) _

theorem constant? {index : Nat} : Blind r (constant? index) := by
  refine .bind .input? fun v => ?_
  refine .through (fun site => v.bind site.function.constant?) Pure.pure (fun h => ?_) fun _ => .pure
  cases v with
  | none => rfl
  | some v => exact h.constants v

theorem constantInts? {index : Nat} : Blind r (constantInts? index) := .bind .constant? fun _ => .pure

theorem constantDouble? {index : Nat} : Blind r (constantDouble? index) := .bind .constant? fun _ => .pure

end Blind

end LookM

/-! ## Converters -/

namespace ConverterM

open LookM

/-- The steps come to an ending, and at each site after a renaming to the same with the names changed. -/
def Relabels (r : Renaming) (m : ConverterM (List ValueId)) : Prop :=
  ∀ site view, ∃ ending, ComesTo site view m ending ∧
    ∀ site', site.Renamed r site' → ComesTo site' (view.rename r) m (ending.rename r site'.node.displayName)

namespace Relabels
variable {α : Type} {r : Renaming}

theorem bind {m : ConverterM α} {look : LookM α} [Looks m look] {f : α → ConverterM (List ValueId)}
    (hm : Blind r look) (hf : ∀ a, Relabels r (f a)) : Relabels r (m >>= f) := by
  intro site view
  cases hlook : look site view with
  | error e =>
    refine ⟨.error e, .bind_error hlook, fun site' h => .bind_error ?_⟩
    rw [hm h view, hlook]
    rfl
  | ok x =>
    obtain ⟨ending, hcomes, hrenamed⟩ := hf x.1 site x.2
    refine ⟨ending, .bind hlook hcomes, fun site' h => .bind ?_ (hrenamed site' h)⟩
    rw [hm h view, hlook]
    rfl

theorem throw {e : ImportError} : Relabels r (throw e) :=
  fun _ _ => ⟨.error e, fun _ => rfl, fun _ _ _ => rfl⟩

theorem ite {c : Prop} [Decidable c] {m m' : ConverterM (List ValueId)} (hm : Relabels r m) (hm' : Relabels r m') :
    Relabels r (if c then m else m') := by
  split
  · exact hm
  · exact hm'

/-- A check that fails or does nothing. -/
theorem guard {c : Prop} [Decidable c] {key reason : String} {f : α → ConverterM (List ValueId)}
    {m : ConverterM (List ValueId)} (h : Relabels r m) :
    Relabels r (if c then (liftM (invalid key reason : LookM α) >>= f) else m) :=
  .ite (fun _ _ => ⟨.error _, .bind_error rfl, fun _ _ => .bind_error rfl⟩) h

theorem emitOp {opType : String} {operands : List (Option ValueId)} {params : Params} {types : List TensorType} :
    Relabels r (emitOp opType operands params types) := by
  refine fun site view => ⟨_, comesTo_emitOp view, fun site' h => ?_⟩
  have hinstruction : site'.instructionAs opType operands params types =
      ⟨opType, site'.node.displayName, operands, params, site.node.outputs.map r, types⟩ := by
    rw [Site.instructionAs, h.outputs]
  have hcomes : ComesTo site' (view.rename r) (ConverterM.emitOp opType operands params types)
    (.ok (⟨[], some (.instruction (site'.instructionAs opType operands params types))⟩, _)) := comesTo_emitOp _
  rw [hinstruction] at hcomes
  exact hcomes

theorem emit {params : Params} {types : List TensorType} : Relabels r (emit params types) := by
  refine fun site view => ⟨_, comesTo_emit view, fun site' h => ?_⟩
  have hinstruction : site'.instruction params types =
      ⟨site.node.opType, site'.node.displayName, site.operands, params, site.node.outputs.map r, types⟩ := by
    rw [Site.instruction, Site.instructionAs, h.opType, h.operands, h.outputs]
  have hcomes : ComesTo site' (view.rename r) (ConverterM.emit params types)
    (.ok (⟨[], some (.instruction (site'.instruction params types))⟩, _)) := comesTo_emit _
  rw [hinstruction] at hcomes
  exact hcomes

theorem fold {data : TensorData} : Relabels r (fold data) := by
  refine fun site view => ⟨_, comesTo_fold view, fun site' h => ?_⟩
  have hname : site'.node.outputs.head?.getD "" = r (site.node.outputs.head?.getD "") := by
    rw [h.outputs]
    cases site.node.outputs with
    | nil => exact r.empty.symm
    | cons name names => rfl
  have hcomes : ComesTo site' (view.rename r) (ConverterM.fold data)
    (.ok (⟨[], some (.constant (site'.node.outputs.head?.getD "") data)⟩, _)) := comesTo_fold _
  rw [hname] at hcomes
  exact hcomes

theorem forward {v : ValueId} : Relabels r (Pure.pure [v]) :=
  fun _ view => ⟨_, comesTo_forward view, fun _ _ => comesTo_forward _⟩

end Relabels

end ConverterM

namespace Operator

open LookM ConverterM

variable {r : Renaming}

/-! ## Activations -/

theorem relabels_sameType (params : Params) : Relabels r (sameType params) :=
  .bind .checkArity fun _ => .bind .inputType fun _ => .emit

theorem relabels_isNaN : Relabels r isNaN := .bind .checkArity fun _ => .bind .inputType fun _ => .emit

theorem relabels_withAlpha (default : Single) : Relabels r (withAlpha default) :=
  .bind (.attrOr rfl) fun _ => relabels_sameType _

theorem relabels_hardSigmoid : Relabels r hardSigmoid :=
  .bind (.attrOr rfl) fun _ => .bind (.attrOr rfl) fun _ => relabels_sameType _

theorem relabels_selu : Relabels r selu :=
  .bind (.attrOr rfl) fun _ => .bind (.attrOr rfl) fun _ => relabels_sameType _

theorem relabels_gelu : Relabels r gelu := .bind (.attrOr rfl) fun _ => .guard (relabels_sameType _)

theorem relabels_prelu : Relabels r prelu :=
  .bind .checkArity fun _ => .bind .inputType fun _ => .bind .inputType fun _ => .emit

theorem relabels_clip : Relabels r clip := by
  refine .bind .checkOutputs fun _ => .bind .opset fun _ => .ite ?_ ?_
  · exact .bind .checkInputs fun _ => .bind (.attrOr rfl) fun _ => .bind (.attrOr rfl) fun _ =>
      .bind .inputType fun _ => .emit
  · exact .bind .checkInputs fun _ => .bind .inputType fun _ => .bind .constantDouble? fun _ =>
      .bind .constantDouble? fun _ => .emit

theorem relabels_softmax : Relabels r softmax := by
  refine .bind .checkArity fun _ => .bind .opset fun _ => .bind (.attrOr rfl) fun _ => .bind .inputType fun type => ?_
  cases type.rank? with
  | some rank => exact .bind .lift fun _ => .bind .pure fun _ => .emit
  | none => exact .bind .pure fun _ => .emit

/-! ## Elementwise operators and products -/

theorem relabels_likeFirst (params : Params) : Relabels r (likeFirst params) :=
  .bind .inputType fun _ => .bind .inputTypes fun _ => .emit

theorem relabels_binary (params : Params) : Relabels r (binary params) :=
  .bind .checkArity fun _ => relabels_likeFirst params

theorem relabels_comparison : Relabels r comparison := .bind .checkArity fun _ => .bind .inputTypes fun _ => .emit

theorem relabels_variadic : Relabels r variadic :=
  .bind .checkInputs fun _ => .bind .checkOutputs fun _ => relabels_likeFirst _

theorem relabels_modulo : Relabels r modulo := .bind (.attrOr rfl) fun _ => .guard (relabels_binary _)

theorem relabels_bitShift : Relabels r bitShift := .bind (.attr rfl) fun _ => .guard (relabels_binary _)

theorem relabels_select : Relabels r select :=
  .bind .checkArity fun _ => .bind .inputTypes fun _ => .bind .inputType fun _ => .emit

theorem relabels_matMul : Relabels r matMul :=
  .bind .checkArity fun _ => .bind .inputType fun _ => .bind .inputType fun _ => .emit

theorem relabels_gemm : Relabels r gemm :=
  .bind .checkInputs fun _ => .bind .checkOutputs fun _ => .bind (.attrOr rfl) fun _ => .bind (.attrOr rfl) fun _ =>
    .bind .flag fun _ => .bind .flag fun _ => .bind .inputType fun _ => .bind .inputType fun _ => .emit

theorem relabels_einsum : Relabels r einsum :=
  .bind .checkInputs fun _ => .bind .checkOutputs fun _ => .bind (.attr rfl) fun _ => .bind .lift fun _ =>
    .bind .inputType fun _ => .bind .inputTypes fun _ => .bind .lift fun _ => .emit

/-! ## Convolutions and pools -/

theorem blind_perAxis {key : String} {count default : Nat} : Blind r (perAxis key count default) := by
  refine .bind (.attr? rfl) fun values => ?_
  cases values with
  | none => exact .pure
  | some values => exact .ite .throw .lift

theorem blind_readKernel {spatial : Nat} {weights : Option TensorType} : Blind r (readKernel spatial weights) := by
  refine .bind (.attr? rfl) fun kernel => ?_
  cases kernel with
  | some kernel => exact .lift
  | none =>
    cases weights with
    | none => exact .throw
    | some w =>
      dsimp only
      cases w.sizes? with
      | some sizes => exact .pure
      | none => exact .pure

theorem blind_readAutoPad : Blind r readAutoPad := by
  refine .bind (.attrOr rfl) fun name => ?_
  cases Infer.AutoPad.ofName? name with
  | some autoPad => exact .pure
  | none => exact .throw

theorem blind_readWindow {spatial : Nat} {weights : Option TensorType} : Blind r (readWindow spatial weights) := by
  refine .bind blind_readKernel fun _ => .guard (.bind blind_readAutoPad fun _ => ?_)
  exact .bind blind_perAxis fun _ => .bind blind_perAxis fun _ => .bind blind_perAxis fun _ => .pure

theorem blind_spatialAxes {x : TensorType} {weights : Option TensorType} : Blind r (spatialAxes x weights) := by
  unfold spatialAxes
  cases x.rank? with
  | some rank => exact .ite (.bind .opType fun _ => .throw) .pure
  | none =>
    dsimp only
    cases weights.bind TensorType.rank? with
    | some rank => exact .pure
    | none => exact .bind (.attr? rfl) fun _ => .pure

theorem blind_readGroup : Blind r readGroup := .bind (.attrOr rfl) fun _ => .ite .throw .pure

theorem relabels_conv : Relabels r conv :=
  .bind .checkInputs fun _ => .bind .checkOutputs fun _ => .bind .inputType fun _ => .bind .inputType fun _ =>
    .bind blind_readGroup fun _ => .bind blind_spatialAxes fun _ => .bind blind_readWindow fun _ => .emit

theorem relabels_convTranspose : Relabels r convTranspose := by
  refine .bind .checkInputs fun _ => .bind .checkOutputs fun _ => .bind .inputType fun x => .bind .inputType fun _ => ?_
  refine .bind blind_readGroup fun _ => .bind blind_spatialAxes fun _ => .bind blind_readWindow fun _ => ?_
  refine .bind blind_perAxis fun _ => .bind (.attr? rfl) fun shape => ?_
  cases x.shape <;> cases shape
  case some.some => exact .bind (.map .lift) fun _ => .emit
  all_goals exact .bind .pure fun _ => .emit

theorem blind_readPool : Blind r readPool :=
  .bind .inputType fun _ => .bind blind_spatialAxes fun _ => .bind blind_readWindow fun _ => .bind .flag fun _ => .pure

theorem relabels_maxPool : Relabels r maxPool :=
  .bind .checkInputs fun _ => .bind .checkOutputs fun _ => .bind blind_readPool fun _ => .bind (.attrOr rfl) fun _ =>
    .bind .outputCount fun _ => .emit

theorem relabels_averagePool : Relabels r averagePool :=
  .bind .checkArity fun _ => .bind blind_readPool fun _ => .bind (.attrOr rfl) fun _ => .emit

theorem relabels_globalPool : Relabels r globalPool := .bind .checkArity fun _ => .bind .inputType fun _ => .emit

/-! ## Normalizations -/

theorem relabels_batchNormalization : Relabels r batchNormalization := by
  refine .bind .checkInputs fun _ => .bind .checkOutputs fun _ => .bind (.attrOr rfl) fun _ => ?_
  refine .bind (.attrOr rfl) fun _ => .bind (.attrOr rfl) fun _ => .bind (.attrOr rfl) fun _ => .guard ?_
  exact .bind .inputType fun _ => .bind .inputType fun _ => .bind .outputCount fun _ => .emit

theorem relabels_instanceNormalization : Relabels r instanceNormalization :=
  .bind .checkArity fun _ => .bind (.attrOr rfl) fun _ => .bind .inputType fun _ => .emit

theorem relabels_layerNormalization : Relabels r layerNormalization := by
  refine .bind .checkInputs fun _ => .bind .checkOutputs fun _ => .bind (.attrOr rfl) fun _ => ?_
  refine .bind (.attrOr rfl) fun _ => .bind (.attrOr rfl) fun _ => .bind .inputType fun x => ?_
  cases x.shape with
  | none => exact .bind .pure fun _ => .bind .outputCount fun _ => .emit
  | some dims => exact .bind .lift fun _ => .bind .pure fun _ => .bind .outputCount fun _ => .emit

theorem relabels_localResponse : Relabels r localResponse := by
  refine .bind .checkArity fun _ => .bind (.attr rfl) fun _ => .guard ?_
  exact .bind (.attrOr rfl) fun _ => .bind (.attrOr rfl) fun _ => .bind (.attrOr rfl) fun _ =>
    .bind .inputType fun _ => .emit

/-- Whether there is a mask depends on its name, but only on whether that is empty. -/
theorem relabels_dropout : Relabels r dropout := by
  refine .bind .checkInputs fun _ => .bind .checkOutputs fun _ => .bind (.attr? rfl) fun _ => ?_
  refine .bind (.attr? rfl) fun _ => .bind .input fun data => ?_
  refine fun site view => ?_
  have hmask {site' : Site} (h : site.Renamed r site') :
      site'.node.outputs.drop 1 = (site.node.outputs.drop 1).map r := by rw [h.outputs, List.map_drop]
  rcases hnames : site.node.outputs.drop 1 with _ | ⟨mask, rest⟩
  · refine ⟨.ok (.forward data, view), .bind rfl ?_, fun site' h => .bind rfl ?_⟩
    · simp only [hnames]
      exact comesTo_forward view
    · simp only [hmask h, hnames]
      exact comesTo_forward _
  by_cases hempty : mask = ""
  · refine ⟨.ok (.forward data, view), .bind rfl ?_, fun site' h => .bind rfl ?_⟩
    · simp only [hnames, if_pos hempty]
      exact comesTo_forward view
    · simp only [hmask h, hnames, List.map_cons, if_pos (r.eq_empty.2 hempty)]
      exact comesTo_forward _
  -- the mask comes from an instruction, if the type of the data is known
  cases htype : typeOf data site view with
  | error e =>
    refine ⟨.error e, .bind rfl ?_, fun site' h => .bind rfl ?_⟩
    · simp only [hnames, if_neg hempty]
      exact .bind_error htype
    · simp only [hmask h, hnames, List.map_cons, if_neg (mt r.eq_empty.1 hempty)]
      exact .bind_error (by rw [Blind.typeOf h, htype]; rfl)
  | ok x =>
    refine ⟨.ok (⟨[data], some (.instruction ⟨"DropoutMask", site.node.displayName, [some data], [], mask :: rest,
      [x.1.withElement .bool]⟩)⟩, x.2), .bind rfl ?_, fun site' h => .bind rfl ?_⟩
    · simp only [hnames, if_neg hempty]
      exact .bind htype fun _ => rfl
    · simp only [hmask h, hnames, List.map_cons, if_neg (mt r.eq_empty.1 hempty)]
      have htype' : typeOf data site' (view.rename r) = .ok (x.1, x.2.rename r) := by rw [Blind.typeOf h, htype]; rfl
      exact .bind htype' fun _ => rfl

/-! ## Layout -/

theorem blind_intsByOpset {key : String} {index : Nat} {since : Int} : Blind r (intsByOpset key index since) :=
  .bind .opset fun _ => .ite (.attr? rfl) .constantInts?

theorem blind_requiredInts {key : String} {since : Int} : Blind r (requiredInts key since) := by
  refine .bind .opset fun _ => .ite ?_ ?_
  · exact .bind .checkInputs fun _ => .bind (.attr rfl) fun _ => .pure
  · exact .bind .checkInputs fun _ => .bind .input fun _ => .constantInts?

theorem relabels_reshape : Relabels r reshape := by
  refine .bind .checkOutputs fun _ => .bind .flag fun _ => .bind blind_requiredInts fun target => ?_
  refine .bind .inputType fun x => ?_
  cases target with
  | some target => exact .bind .lift fun _ => .emit
  | none => exact .bind .inputType fun _ => .emit

theorem relabels_flatten : Relabels r flatten := by
  refine .bind .checkArity fun _ => .bind (.attrOr rfl) fun _ => .bind .inputType fun x => ?_
  cases x.shape with
  | none => exact .emit
  | some dims => exact .bind .lift fun _ => .emit

theorem relabels_transpose : Relabels r transpose := by
  refine .bind .checkArity fun _ => .bind (.attr? rfl) fun _ => .bind .inputType fun x => ?_
  cases x.shape with
  | none => exact .emit
  | some dims => exact .bind .lift fun _ => .emit

theorem relabels_squeeze : Relabels r squeeze := by
  refine .bind .opset fun _ => .bind .checkInputs fun _ => .bind .checkOutputs fun _ => ?_
  refine .bind .opset fun _ => .bind .hasAttr fun _ => .bind .input? fun _ => ?_
  refine .bind blind_intsByOpset fun axes => .bind .inputType fun x => ?_
  cases x.shape with
  | none => exact .emit
  | some dims =>
    cases axes with
    | some axes => exact .bind .lift fun _ => .emit
    | none => exact .ite .emit .emit

theorem relabels_unsqueeze : Relabels r unsqueeze := by
  refine .bind .checkOutputs fun _ => .bind blind_requiredInts fun axes => .bind .inputType fun x => ?_
  cases axes with
  | none => cases x.shape <;> exact .emit
  | some axes =>
    cases x.shape with
    | none => exact .emit
    | some dims => exact .bind .lift fun _ => .emit

theorem relabels_expand : Relabels r expand := by
  refine .bind .checkArity fun _ => .bind .inputType fun x => .bind .constantInts? fun shape => ?_
  cases shape with
  | some shape => exact .emit
  | none =>
    refine .bind .inputType fun lengths => ?_
    cases x.rank? <;> cases lengthOf lengths <;> exact .emit

theorem relabels_identity : Relabels r identity := .bind .checkArity fun _ => .bind .input fun _ => .forward

/-! ## Selections -/

theorem relabels_concat : Relabels r concat := by
  refine .bind .checkInputs fun _ => .bind .checkOutputs fun _ => .bind (.attr rfl) fun _ => ?_
  refine .bind .inputType fun _ => .bind .inputTypes fun types => ?_
  cases types.mapM TensorType.shape with
  | some shapes => exact .bind .lift fun _ => .emit
  | none => exact .emit

theorem relabels_split : Relabels r split := by
  refine .bind .opset fun _ => .bind .checkInputs fun _ => .bind .checkOutputs fun _ => .bind (.attrOr rfl) fun _ => ?_
  refine .bind (.attr? rfl) fun declared => .bind blind_intsByOpset fun sizes => .bind .outputCount fun _ => ?_
  cases declared
  case' some n => refine .guard ?_
  all_goals
    cases sizes
    case' some l => refine .guard ?_
    all_goals
      refine .bind .inputType fun x => ?_
      cases x.shape with
      | none => exact .emit
      | some dims => exact .bind .lift fun _ => .emit

theorem blind_readSliceBounds : Blind r readSliceBounds := by
  refine .bind .opset fun _ => .ite ?_ ?_
  · exact .bind .checkInputs fun _ => .bind (.attr rfl) fun _ => .bind (.attr rfl) fun _ => .bind (.attr? rfl) fun _ =>
      .pure
  · refine .bind .checkInputs fun _ => .bind .input fun _ => .bind .input fun _ => ?_
    exact .bind .constantInts? fun _ => .bind .constantInts? fun _ => .bind .constantInts? fun _ =>
      .bind .constantInts? fun _ => .pure

theorem relabels_slice : Relabels r slice := by
  refine .bind .checkOutputs fun _ => .bind blind_readSliceBounds fun bounds => .bind .input? fun _ => ?_
  refine .bind .input? fun _ => .bind .inputType fun x => ?_
  cases x.shape with
  | none => exact .emit
  | some dims =>
    dsimp only
    split
    · exact .bind .lift fun _ => .emit
    · exact .emit

theorem relabels_gather : Relabels r gather := by
  refine .bind .checkArity fun _ => .bind (.attrOr rfl) fun _ => ?_
  refine .bind .inputType fun data => .bind .inputType fun _ => ?_
  cases data.shape with
  | none => exact .emit
  | some dims => exact .bind .lift fun _ => .emit

theorem relabels_gatherElements : Relabels r gatherElements := by
  refine .bind .checkArity fun _ => .bind (.attrOr rfl) fun _ => ?_
  refine .bind .inputType fun data => .bind .inputType fun _ => ?_
  cases data.rank? with
  | none => exact .bind .pure fun _ => .emit
  | some rank => exact .bind .lift fun _ => .bind .pure fun _ => .emit

theorem relabels_tile : Relabels r tile := by
  refine .bind .checkArity fun _ => .bind .inputType fun x => .bind .constantInts? fun repeats => ?_
  cases x.shape with
  | none => exact .emit
  | some dims =>
    cases repeats with
    | none => exact .emit
    | some repeats => exact .guard (.bind .lift fun _ => .emit)

theorem blind_readPads {params : Params} : Blind r (readPads params) := by
  refine .bind .opset fun _ => .ite ?_ ?_
  · refine .bind .checkInputs fun _ => .bind .opset fun _ => ?_
    exact .bind (.attr rfl) fun _ => .bind (.attrOr rfl) fun _ => .pure
  · refine .bind .checkInputs fun _ => .bind .input fun _ => .bind .constantDouble? fun _ => ?_
    exact .bind .constantInts? fun _ => .bind .constantInts? fun _ => .pure

theorem relabels_pad : Relabels r pad := by
  refine .bind .checkOutputs fun _ => .bind (.attrOr rfl) fun _ => .guard (.bind blind_readPads fun amounts => ?_)
  refine .bind .input? fun _ => .bind .inputType fun x => ?_
  obtain ⟨pads, axes, params⟩ := amounts
  cases x.shape with
  | none => exact .emit
  | some dims =>
    dsimp only
    split
    · exact .bind .lift fun _ => .emit
    · exact .emit

/-! ## Reductions -/

theorem blind_readReductionAxes : Blind r readReductionAxes := by
  refine .bind .opset fun _ => .bind .opType fun _ => .ite ?_ ?_
  · exact .bind .checkInputs fun _ => .bind (.attr? rfl) fun _ => .pure
  · refine .bind .checkInputs fun _ => .bind .input? fun v => ?_
    cases v with
    | none => exact .pure
    | some v =>
      refine .bind .constantInts? fun axes => ?_
      cases axes <;> exact .pure

theorem relabels_reduceOver (x : TensorType) (axes : Option (List Int)) (keep : Bool) :
    Relabels r (reduceOver x axes keep) := by
  unfold reduceOver
  cases x.shape with
  | some dims => exact .bind .lift fun _ => .emit
  | none => exact .emit

theorem relabels_reduce : Relabels r reduce := by
  refine .bind .checkOutputs fun _ => .bind .flag fun _ => .bind .flag fun _ => ?_
  refine .bind blind_readReductionAxes fun axes => .bind .inputType fun x => ?_
  cases axes with
  | runtime => exact .emit
  | listed axes => exact relabels_reduceOver _ _ _
  | all => exact .ite (.bind .input? fun _ => .emitOp) (relabels_reduceOver _ _ _)

theorem relabels_argReduce : Relabels r argReduce := by
  refine .bind .checkArity fun _ => .bind (.attrOr rfl) fun _ => .bind .flag fun _ => .bind (.attrOr rfl) fun _ => ?_
  refine .bind .inputType fun x => ?_
  cases x.shape with
  | some dims => exact .bind .lift fun _ => .bind .pure fun _ => .emit
  | none => exact .bind .pure fun _ => .emit

theorem blind_readTopCount : Blind r readTopCount := by
  refine .bind .opset fun _ => .ite ?_ ?_
  · exact .bind .checkInputs fun _ => .bind (.attr rfl) fun _ => .pure
  · exact .bind .checkInputs fun _ => .bind .input fun _ => .bind .constantInts? fun _ => .pure

theorem relabels_topK : Relabels r topK := by
  refine .bind .checkOutputs fun _ => .bind blind_readTopCount fun _ => .bind (.attrOr rfl) fun _ => ?_
  refine .bind (.attrOr rfl) fun _ => .bind (.attrOr rfl) fun _ => .bind .inputType fun x => ?_
  cases x.shape with
  | some dims => exact .bind .lift fun _ => .bind .lift fun _ => .bind .pure fun _ => .emit
  | none => exact .bind .pure fun _ => .emit

/-! ## Constants -/

theorem blind_readValue {key : String} : Blind r (readValue key) := by
  refine .ite (.bind (.attr rfl) fun _ => .lift) (.ite (.bind (.attr rfl) fun _ => .pure) ?_)
  refine .ite (.bind (.attr rfl) fun _ => .pure) (.ite (.bind (.attr rfl) fun _ => .pure) ?_)
  exact .ite (.bind (.attr rfl) fun _ => .pure) .throw

theorem relabels_constant : Relabels r constant := by
  refine .bind .checkInputs fun _ => .bind .checkOutputs fun _ => .bind (.filterM (fun _ => .hasAttr) _) fun keys => ?_
  rcases keys with _ | ⟨key, _ | ⟨second, rest⟩⟩
  · exact .throw
  · exact .bind blind_readValue fun _ => .fold
  · exact .throw

theorem relabels_constantOfShape : Relabels r constantOfShape := by
  refine .bind .checkArity fun _ => .bind (.attr? rfl) fun value => ?_
  cases value
  case' some tensor => refine .bind .lift fun value => .guard ?_
  case' none => refine .bind .pure fun value => .guard ?_
  all_goals
    refine .bind .constantInts? fun shape => ?_
    cases shape with
    | some shape => exact .bind .lift fun _ => .emit
    | none => exact .bind .inputType fun _ => .emit

theorem relabels_shapeOf : Relabels r shapeOf := by
  refine .bind .checkArity fun _ => .bind (.attrOr rfl) fun _ => .bind (.attr? rfl) fun _ => ?_
  refine .bind .inputType fun x => ?_
  cases x.shape with
  | none => exact .emit
  | some dims =>
    dsimp only
    split
    · exact .fold
    · exact .emit

theorem relabels_sizeOf : Relabels r Operator.sizeOf := by
  refine .bind .checkArity fun _ => .bind .inputType fun x => ?_
  cases x.shape.bind Infer.product? with
  | some volume => exact .fold
  | none => exact .emit

theorem relabels_nonZero : Relabels r nonZero := .bind .checkArity fun _ => .bind .inputType fun _ => .emit

theorem relabels_cast : Relabels r Operator.cast :=
  .bind .checkArity fun _ => .bind (.attr rfl) fun _ => .bind (.attrOr rfl) fun _ => .bind .lift fun _ =>
    .bind .inputType fun _ => .emit

theorem relabels_range : Relabels r range := by
  refine .bind .checkArity fun _ => .bind .inputType fun _ => .bind .constantDouble? fun start => ?_
  refine .bind .constantDouble? fun limit => .bind .constantDouble? fun delta => ?_
  cases start <;> cases limit <;> cases delta
  case some.some.some => exact .guard (.bind .pure fun _ => .emit)
  all_goals exact .bind .pure fun _ => .emit

theorem relabels_oneHot : Relabels r oneHot := by
  refine .bind .checkArity fun _ => .bind (.attrOr rfl) fun _ => .bind .inputType fun indices => ?_
  refine .bind .inputType fun _ => .bind .constantDouble? fun _ => ?_
  cases indices.shape with
  | some dims => exact .bind .lift fun _ => .emit
  | none => exact .emit

theorem relabels_resize : Relabels r resize := by
  refine .bind .checkOutputs fun _ => .bind .opset fun _ => .ite ?_ ?_
  all_goals
    refine .bind .checkInputs fun _ => .bind (.attrOr rfl) fun _ => .guard ?_
    refine .bind (.attrOr rfl) fun _ => .bind (.attrOr rfl) fun _ => .bind (.attrOr rfl) fun _ => ?_
    refine .bind (.attrOr rfl) fun _ => .bind (.attrOr rfl) fun _ => .bind (.attrOr rfl) fun _ => ?_
    refine .bind .inputType fun x => .ite (.bind .pure fun _ => ?_) (.bind .constantInts? fun _ => ?_)
    all_goals
      refine .bind .constant? fun _ => ?_
      cases x.shape with
      | some dims => exact .bind (.map .lift) fun _ => .emit
      | none => exact .bind .pure fun _ => .emit

/-! ## The table -/

theorem activations_relabel : ∀ entry ∈ activations, Relabels r entry.2.lower := by
  simp only [activations, List.forall_mem_append, List.forall_mem_map, List.forall_mem_cons]
  exact ⟨fun _ _ => relabels_sameType _, relabels_isNaN, relabels_withAlpha _, relabels_withAlpha _,
    relabels_withAlpha _, relabels_withAlpha _, relabels_hardSigmoid, relabels_selu, relabels_gelu, relabels_prelu,
    relabels_clip, relabels_softmax, relabels_softmax, relabels_softmax, List.forall_mem_nil _⟩

theorem elementwise_relabel : ∀ entry ∈ elementwise, Relabels r entry.2.lower := by
  simp only [elementwise, List.forall_mem_append, List.forall_mem_map, List.forall_mem_cons]
  exact ⟨⟨⟨fun _ _ => relabels_binary _, fun _ _ => relabels_comparison⟩, fun _ _ => relabels_variadic⟩,
    relabels_modulo, relabels_bitShift, relabels_select, List.forall_mem_nil _⟩

theorem products_relabel : ∀ entry ∈ products, Relabels r entry.2.lower := by
  simp only [products, List.forall_mem_cons]
  exact ⟨relabels_matMul, relabels_gemm, relabels_einsum, List.forall_mem_nil _⟩

theorem windowed_relabel : ∀ entry ∈ windowed, Relabels r entry.2.lower := by
  simp only [windowed, List.forall_mem_cons]
  exact ⟨relabels_conv, relabels_convTranspose, relabels_maxPool, relabels_averagePool, relabels_globalPool,
    relabels_globalPool, List.forall_mem_nil _⟩

theorem normalizations_relabel : ∀ entry ∈ normalizations, Relabels r entry.2.lower := by
  simp only [normalizations, List.forall_mem_cons]
  exact ⟨relabels_batchNormalization, relabels_instanceNormalization, relabels_layerNormalization,
    relabels_localResponse, relabels_dropout, List.forall_mem_nil _⟩

theorem layouts_relabel : ∀ entry ∈ layouts, Relabels r entry.2.lower := by
  simp only [layouts, List.forall_mem_cons]
  exact ⟨relabels_reshape, relabels_flatten, relabels_transpose, relabels_squeeze, relabels_unsqueeze,
    relabels_expand, relabels_identity, List.forall_mem_nil _⟩

theorem selections_relabel : ∀ entry ∈ selections, Relabels r entry.2.lower := by
  simp only [selections, List.forall_mem_cons]
  exact ⟨relabels_concat, relabels_split, relabels_slice, relabels_gather, relabels_gatherElements, relabels_tile,
    relabels_pad, List.forall_mem_nil _⟩

theorem reductions_relabel : ∀ entry ∈ reductions, Relabels r entry.2.lower := by
  simp only [reductions, List.forall_mem_append, List.forall_mem_map, List.forall_mem_cons]
  exact ⟨fun _ _ => relabels_reduce, relabels_argReduce, relabels_argReduce, relabels_topK, List.forall_mem_nil _⟩

theorem constants_relabel : ∀ entry ∈ constants, Relabels r entry.2.lower := by
  simp only [constants, List.forall_mem_cons]
  exact ⟨relabels_constant, relabels_constantOfShape, relabels_shapeOf, relabels_sizeOf, relabels_nonZero,
    relabels_cast, relabels_range, relabels_oneHot, relabels_resize, List.forall_mem_nil _⟩

end Operator

open Operator LookM ConverterM in
theorem Registry.builtin_relabels (r : Renaming) {opType : String} {c : Converter} (h : builtin.find? opType = some c) :
    Relabels r c.lower := by
  have hall : ∀ entry ∈ builtin.entries, Relabels r entry.2.lower := by
    simp only [builtin, List.forall_mem_append]
    exact ⟨⟨⟨⟨⟨⟨⟨⟨activations_relabel, elementwise_relabel⟩, products_relabel⟩, windowed_relabel⟩,
      normalizations_relabel⟩, layouts_relabel⟩, selections_relabel⟩, reductions_relabel⟩, constants_relabel⟩
  exact hall _ (find?_eq_some h)

/-- A converter does not see the names of the inputs of its node. -/
theorem Registry.builtin_run_inputs {opType : String} {c : Converter} (h : builtin.find? opType = some c)
    (context : Context) (inputs : List String) (b : Builder) :
    c.run { context with node := { context.node with inputs } } b = c.run context b := by
  have hsame (names : List String) : Site.Renamed .refl ⟨context, b.function⟩
      ⟨{ context with node := { context.node with inputs := names } }, b.function⟩ :=
    ⟨rfl, (List.map_id _).symm, (AttributeBag.rename_refl _).symm, rfl, fun _ => rfl, fun _ => rfl, rfl⟩
  obtain ⟨ending, -, hrenamed⟩ :=
    builtin_relabels .refl h ⟨context, b.function⟩ (.ofBag context.node.attributes)
  rw [show AttributeView.rename .refl (.ofBag context.node.attributes) = .ofBag context.node.attributes from
    congrArg AttributeView.ofBag (AttributeBag.rename_refl _)] at hrenamed
  exact (hrenamed _ (hsame inputs) b.stack).trans (hrenamed _ (hsame context.node.inputs) b.stack).symm

end ModelImport
