import ModelImport.Operator.Registry
import ModelImport.Proofs.BuilderGrowth
/-!
# What converters do

A converter may change the function under construction at any of its steps, and may fail after that. Those of the library
do not (`builtin_fits`): as long as they look they leave the function alone, so that one that fails has done nothing,
and what they add, if anything, they add in one step, after which nothing can fail. What such a converter does is a
`Lowering`. It uses no other values than the operands of its node, it makes no loops, and when it adds something it has
a value for each output. All but that of `Dropout` have a value for each output even when they add nothing
(`builtin_covers`). A rule for each step of a converter comes first, so that the proof for a converter follows its text.
-/

namespace ModelImport

/-- Something that is added to a function. -/
inductive Addition where
  | instruction (op : OpSpec)
  | constant (name : String) (data : TensorData)

/-- What a node becomes: values that are there already, followed by those of at most one addition. -/
structure Lowering where
  forwarded : List ValueId
  addition : Option Addition

namespace Site

/-- The instruction that a site becomes, with an operator and operands of its own. -/
def instructionAs (site : Site) (opType : String) (operands : List (Option ValueId)) (params : Params)
    (types : List TensorType) : OpSpec :=
  ⟨opType, site.node.displayName, operands, params, site.node.outputs, types⟩

/-- The instruction of its own kind, over all its operands, that a site becomes. -/
def instruction (site : Site) (params : Params) (types : List TensorType) : OpSpec :=
  site.instructionAs site.node.opType site.operands params types

@[simp] theorem params_instruction (site : Site) (params : Params) (types : List TensorType) :
    (site.instruction params types).params = params := rfl

@[simp] theorem resultTypes_instruction (site : Site) (params : Params) (types : List TensorType) :
    (site.instruction params types).resultTypes = types := rfl

end Site

namespace Lowering

/-- Makes the addition; the values that the node stands for. -/
def apply (l : Lowering) (b : Builder) : List ValueId × Builder :=
  match l.addition with
  | none => (l.forwarded, b)
  | some (.instruction op) =>
    let (results, b) := b.append op
    (l.forwarded ++ results, b)
  | some (.constant name data) =>
    let (v, b) := b.createConstant name data
    (l.forwarded ++ [v], b)

/-- The node stands for a value that is there already. -/
def forward (v : ValueId) : Lowering := ⟨[v], none⟩

/-- The number of values that a lowering comes to. -/
def count (l : Lowering) : Nat :=
  match l.addition with
  | none => l.forwarded.length
  | some (.instruction op) => l.forwarded.length + op.resultTypes.length
  | some (.constant _ _) => l.forwarded.length + 1

/-- What a session relies on. -/
structure Fits (site : Site) (l : Lowering) : Prop where
  forwarded : ∀ v ∈ l.forwarded, some v ∈ site.operands
  operands : ∀ op, l.addition = some (.instruction op) → ∀ v, some v ∈ op.operands → some v ∈ site.operands
  loopFree : site.node.opType ≠ "Loop" → ∀ op, l.addition = some (.instruction op) → op.opType ≠ "Loop"
  /-- A node that adds nothing may come to fewer values than it has outputs; no other may. -/
  enough : l.addition ≠ none → site.node.outputs.length ≤ l.count

/-- There is a value for each output. -/
def Covers (site : Site) (l : Lowering) : Prop := site.node.outputs.length ≤ l.count

/-- Making an addition, in three cases. -/
theorem apply_cases (l : Lowering) (b : Builder) :
    l.addition = none ∧ l.apply b = (l.forwarded, b) ∨
    (∃ op, l.addition = some (.instruction op) ∧ l.apply b = (l.forwarded ++ (b.append op).1, (b.append op).2)) ∨
    ∃ name data, l.addition = some (.constant name data) ∧
      l.apply b = (l.forwarded ++ [(b.createConstant name data).1], (b.createConstant name data).2) := by
  rcases l with ⟨forwarded, _ | op | ⟨name, data⟩⟩
  · exact .inl ⟨rfl, rfl⟩
  · exact .inr (.inl ⟨op, rfl, rfl⟩)
  · exact .inr (.inr ⟨name, data, rfl, rfl⟩)

end Lowering

theorem Builder.grows_apply (l : Lowering) (b : Builder) : b.Grows (l.apply b).2 := by
  rcases l.apply_cases b with ⟨-, he⟩ | ⟨op, -, he⟩ | ⟨name, data, -, he⟩ <;> rw [he]
  · exact .refl b
  · exact grows_append b op
  · exact grows_createConstant b name data

/-- How a converter ends that leaves nothing half done: it fails, or it comes to a lowering, with the attributes that it
has read. -/
abbrev Ending := Except ImportError (Lowering × AttributeView)

/-- What an ending is for a builder: after a failure it is as it was, and a lowering is applied to it. -/
def Ending.on (ending : Ending) (b : Builder) : Except ImportError (List ValueId × AttributeView) × Builder :=
  match ending with
  | .error e => (.error e, b)
  | .ok (l, view) => (.ok ((l.apply b).1, view), (l.apply b).2)

/-! ## Looking -/

namespace LookM

/-- Whatever is found satisfies `P`. The steps may also fail. -/
def Returns {α : Type} (site : Site) (m : LookM α) (P : α → Prop) : Prop :=
  ∀ view a view', m site view = .ok (a, view') → P a

section Rules
variable {α β : Type} {site : Site}

theorem returns_bind {m : LookM α} {f : α → LookM β} {P : α → Prop} {Q : β → Prop} (hm : Returns site m P)
    (hf : ∀ a, P a → Returns site (f a) Q) : Returns site (m >>= f) Q := by
  intro view b view' h
  simp only [bind, ReaderT.bind, StateT.bind, Except.bind] at h
  split at h
  · cases h
  · next r hr => exact hf r.1 (hm view r.1 r.2 hr) r.2 b view' h

theorem returns_pure {a : α} {P : α → Prop} (h : P a) : Returns site (pure a) P := by
  rintro view b view' he
  cases he
  exact h

theorem returns_imp {m : LookM α} {P Q : α → Prop} (hm : Returns site m P) (h : ∀ a, P a → Q a) :
    Returns site m Q := fun view a view' ha => h a (hm view a view' ha)

theorem returns_throw {e : ImportError} {P : α → Prop} : Returns site (throw e) P := by
  rintro view b view' he
  cases he

/-- What is computed from the site. -/
theorem returns_read {g : Site → α} : Returns site (do return g (← read)) (· = g site) := by
  rintro view b view' he
  cases he
  rfl

theorem returns_bind_read {f : Site → LookM β} {Q : β → Prop} (h : Returns site (f site) Q) :
    Returns site (read >>= f) Q := h

/-- A step whose value does not matter. -/
theorem returns_then {m : LookM α} {f : α → LookM β} {Q : β → Prop} (h : ∀ a, Returns site (f a) Q) :
    Returns site (m >>= f) Q :=
  returns_bind (P := fun _ => True) (fun _ _ _ _ => trivial) fun a _ => h a

theorem returns_checkCount {what : String} {actual least : Nat} {most : Option Nat} :
    Returns site (checkCount what actual least most) fun _ => least ≤ actual ∧ ∀ n, most = some n → actual ≤ n := by
  unfold checkCount
  split
  · exact returns_then fun _ => returns_throw
  · next h =>
    refine returns_pure ⟨?_, ?_⟩
    · simp only [Bool.or_eq_true, decide_eq_true_eq, not_or] at h
      exact Nat.le_of_not_lt h.1
    · rintro n rfl
      simp only [Option.any_some, Bool.or_eq_true, decide_eq_true_eq, not_or] at h
      exact Nat.le_of_not_lt h.2

theorem returns_checkOutputs {least : Nat} {most : Option Nat} : Returns site (checkOutputs least most) fun _ =>
    least ≤ site.node.outputs.length ∧ ∀ n, most = some n → site.node.outputs.length ≤ n := by
  refine returns_bind returns_read ?_
  rintro _ rfl
  exact returns_checkCount

theorem returns_input {index : Nat} : Returns site (input index) fun v => some v ∈ site.operands := by
  refine returns_bind returns_read ?_
  rintro _ rfl
  split
  · next v hv =>
    rw [Option.join_eq_some_iff] at hv
    exact returns_pure (List.mem_of_getElem? hv)
  · exact returns_bind_read (returns_then fun _ => returns_throw)

end Rules

end LookM

/-! ## Rules for converters -/

namespace ConverterM

open LookM

/-- Over the function of a site, whichever blocks are open, the steps do what the ending says. -/
def ComesTo (site : Site) (view : AttributeView) (m : ConverterM (List ValueId)) (ending : Ending) : Prop :=
  ∀ stack, m site.toContext view ⟨site.function, stack⟩ = ending.on ⟨site.function, stack⟩

/-- The steps come to an ending, and its lowering satisfies `P`. -/
def Settles (site : Site) (m : ConverterM (List ValueId)) (P : Lowering → Prop) : Prop :=
  ∀ view, ∃ ending, ComesTo site view m ending ∧ ∀ l view', ending = .ok (l, view') → P l

def Fits (site : Site) (m : ConverterM (List ValueId)) : Prop := Settles site m fun l => l.Fits site ∧ l.Covers site

/-- A step of a converter that only looks. -/
class Looks {α : Type} (m : ConverterM α) (look : outParam (LookM α)) : Prop where
  eq : m = liftM (m := LookM) look

instance {α : Type} (look : LookM α) : Looks (liftM look) look := ⟨rfl⟩

instance {α : Type} (a : α) : Looks (pure a) (pure a) := ⟨rfl⟩

instance : Looks read (return (← read).toContext) := ⟨rfl⟩

section Rules
variable {α : Type} {site : Site} {view : AttributeView}

/-- A step that looks does not touch the builder, and what it has found is passed on. -/
theorem look_bind (look : LookM α) {β : Type} (f : α → ConverterM β) (context : Context) (b : Builder) :
    ((liftM look : ConverterM α) >>= f) context view b =
      match look ⟨context, b.function⟩ view with
      | .error e => (.error e, b)
      | .ok (a, view') => f a context view' b := by
  have hcont : ((liftM look : ConverterM α) >>= f) context view b =
      ExceptT.bindCont (m := StateM Builder) (fun r => f r.1 context r.2) (look ⟨context, b.function⟩ view) b := rfl
  rw [hcont]
  cases look ⟨context, b.function⟩ view <;> rfl

instance {β : Type} (g : α → β) (m : ConverterM α) (look : LookM α) [hm : Looks m look] :
    Looks (g <$> m) (g <$> look) where
  eq := by
    obtain rfl := hm.eq
    funext context view b
    have hmap : (liftM (g <$> look) : ConverterM β) context view b =
        (look ⟨context, b.function⟩ view >>= fun r => pure (g r.1, r.2), b) := rfl
    rw [hmap]
    refine (look_bind look (fun a => pure (g a)) context b).trans ?_
    cases look ⟨context, b.function⟩ view <;> rfl

theorem ComesTo.bind {m : ConverterM α} {look : LookM α} [hm : Looks m look] {f : α → ConverterM (List ValueId)} {a : α}
    {view' : AttributeView} {ending : Ending} (ha : look site view = .ok (a, view'))
    (h : ComesTo site view' (f a) ending) : ComesTo site view (m >>= f) ending := by
  intro stack
  rw [hm.eq, look_bind, ha]
  exact h stack

theorem ComesTo.bind_error {m : ConverterM α} {look : LookM α} [hm : Looks m look] {f : α → ConverterM (List ValueId)}
    {e : ImportError} (he : look site view = .error e) : ComesTo site view (m >>= f) (.error e) := by
  intro stack
  rw [hm.eq, look_bind, he]
  rfl

theorem settles_bind {m : ConverterM α} {look : LookM α} [Looks m look] {f : α → ConverterM (List ValueId)}
    {P : α → Prop} {Q : Lowering → Prop} (hm : Returns site look P) (hf : ∀ a, P a → Settles site (f a) Q) :
    Settles site (m >>= f) Q := by
  intro view
  cases hlook : look site view with
  | error e => exact ⟨.error e, .bind_error hlook, nofun⟩
  | ok r =>
    obtain ⟨ending, hcomes, hQ⟩ := hf r.1 (hm view r.1 r.2 hlook) r.2
    exact ⟨ending, .bind hlook hcomes, hQ⟩

theorem settles_throw {e : ImportError} {P : Lowering → Prop} : Settles site (throw e) P :=
  fun _ => ⟨.error e, fun _ => rfl, nofun⟩

theorem settles_imp {m : ConverterM (List ValueId)} {P Q : Lowering → Prop} (hm : Settles site m P)
    (h : ∀ l, P l → Q l) : Settles site m Q := by
  intro view
  obtain ⟨ending, hcomes, hP⟩ := hm view
  exact ⟨ending, hcomes, fun l view' he => h l (hP l view' he)⟩

/-- A step whose value does not matter. -/
theorem settles_then {m : ConverterM α} {look : LookM α} [Looks m look] {f : α → ConverterM (List ValueId)}
    {Q : Lowering → Prop} (h : ∀ a, Settles site (f a) Q) : Settles site (m >>= f) Q :=
  settles_bind (P := fun _ => True) (fun _ _ _ _ => trivial) fun a _ => h a

theorem fits_bind {m : ConverterM α} {look : LookM α} [Looks m look] {f : α → ConverterM (List ValueId)}
    (h : ∀ a, Fits site (f a)) : Fits site (m >>= f) := settles_then h

theorem fits_ite {c : Prop} [Decidable c] {m m' : ConverterM (List ValueId)} (h : Fits site m) (h' : Fits site m') :
    Fits site (if c then m else m') := by
  split
  · exact h
  · exact h'

/-- A check that fails or does nothing. -/
theorem fits_guard {c : Prop} [Decidable c] {key reason : String} {f : α → ConverterM (List ValueId)}
    {m : ConverterM (List ValueId)} (h : ¬c → Fits site m) :
    Fits site (if c then (liftM (invalid key reason : LookM α) >>= f) else m) := by
  split
  · exact settles_bind (P := fun _ => False) returns_throw fun _ hf => hf.elim
  · next hc => exact h hc

theorem fits_checkOutputs {least : Nat} {most : Option Nat} {f : Unit → ConverterM (List ValueId)}
    (h : least ≤ site.node.outputs.length → (∀ n, most = some n → site.node.outputs.length ≤ n) → Fits site (f ())) :
    Fits site (liftM (checkOutputs least most) >>= f) :=
  settles_bind returns_checkOutputs fun _ hc => h hc.1 hc.2

/-- A single output. -/
theorem fits_checkOutput {f : Unit → ConverterM (List ValueId)}
    (h : site.node.outputs.length ≤ 1 → Fits site (f ())) : Fits site (liftM (checkOutputs 1 (some 1)) >>= f) :=
  fits_checkOutputs fun _ hmost => h (hmost 1 rfl)

theorem fits_checkArity {inputs : Nat} {f : Unit → ConverterM (List ValueId)}
    (h : site.node.outputs.length ≤ 1 → Fits site (f ())) : Fits site (liftM (checkArity inputs) >>= f) := by
  refine settles_bind (P := fun _ => site.node.outputs.length ≤ 1) ?_ fun _ hc => h hc
  exact returns_then fun _ => returns_imp returns_checkOutputs fun _ hc => hc.2 1 rfl

theorem fits_outputCount {f : Nat → ConverterM (List ValueId)} (h : Fits site (f site.node.outputs.length)) :
    Fits site (liftM outputCount >>= f) := by
  refine settles_bind returns_read ?_
  rintro _ rfl
  exact h

theorem fits_input? {index : Nat} {f : Option ValueId → ConverterM (List ValueId)}
    (h : ∀ o, (∀ v, o = some v → some v ∈ site.operands) → Fits site (f o)) :
    Fits site (liftM (input? index) >>= f) := by
  refine settles_bind returns_read ?_
  rintro _ rfl
  refine h _ fun v hv => ?_
  rw [Option.join_eq_some_iff] at hv
  exact List.mem_of_getElem? hv

theorem fits_input {index : Nat} {f : ValueId → ConverterM (List ValueId)}
    (h : ∀ v, some v ∈ site.operands → Fits site (f v)) : Fits site (liftM (input index) >>= f) :=
  settles_bind returns_input h

/-! ## Ends -/

theorem fits_throw {e : ImportError} : Fits site (throw e) := settles_throw

/-- What is done comes to the lowering, whatever has been read. -/
theorem settles_of {m : ConverterM (List ValueId)} {l : Lowering} {P : Lowering → Prop}
    (hm : ∀ view, ComesTo site view m (.ok (l, view))) (h : P l) : Settles site m P := by
  refine fun view => ⟨_, hm view, ?_⟩
  rintro _ _ ⟨⟩
  exact h

theorem comesTo_emitOp {opType : String} {operands : List (Option ValueId)} {params : Params}
    {types : List TensorType} (view : AttributeView) : ComesTo site view (emitOp opType operands params types)
      (.ok (⟨[], some (.instruction (site.instructionAs opType operands params types))⟩, view)) :=
  fun _ => rfl

theorem comesTo_emit {params : Params} {types : List TensorType} (view : AttributeView) :
    ComesTo site view (emit params types) (.ok (⟨[], some (.instruction (site.instruction params types))⟩, view)) :=
  fun _ => rfl

theorem comesTo_fold {data : TensorData} (view : AttributeView) : ComesTo site view (fold data)
      (.ok (⟨[], some (.constant (site.node.outputs.head?.getD "") data)⟩, view)) :=
  fun _ => rfl

theorem comesTo_forward {v : ValueId} (view : AttributeView) : ComesTo site view (pure [v]) (.ok (.forward v, view)) :=
  fun _ => rfl

theorem fits_emitOp {opType : String} {operands : List (Option ValueId)} {params : Params} {types : List TensorType}
    (hop : ∀ v, some v ∈ operands → some v ∈ site.operands) (hlen : site.node.outputs.length ≤ types.length)
    (htype : site.node.opType ≠ "Loop" → opType ≠ "Loop") : Fits site (emitOp opType operands params types) := by
  have hcovers : site.node.outputs.length ≤ 0 + types.length := by rwa [Nat.zero_add]
  refine settles_of comesTo_emitOp ⟨⟨nofun, ?_, fun hn => ?_, fun _ => hcovers⟩, hcovers⟩
  · rintro op he
    cases he
    exact hop
  · rintro op he
    cases he
    exact htype hn

theorem fits_emit {params : Params} {types : List TensorType} (h : site.node.outputs.length ≤ types.length) :
    Fits site (emit params types) :=
  fits_emitOp (fun _ hv => hv) h id

theorem fits_fold {data : TensorData} (h : site.node.outputs.length ≤ 1) : Fits site (fold data) :=
  settles_of comesTo_fold ⟨⟨nofun, nofun, nofun, fun _ => h⟩, h⟩

theorem forward_fits {v : ValueId} (h : some v ∈ site.operands) : (Lowering.forward v).Fits site := by
  refine ⟨?_, nofun, nofun, nofun⟩
  rintro w hw
  rw [List.mem_singleton.1 hw]
  exact h

theorem fits_forward {v : ValueId} (h : some v ∈ site.operands) (hlen : site.node.outputs.length ≤ 1) :
    Fits site (pure [v]) :=
  settles_of comesTo_forward ⟨forward_fits h, hlen⟩

end Rules

end ConverterM

namespace Operator

open LookM ConverterM

variable {site : Site}

/-! ## Activations -/

theorem fits_sameType (params : Params) : Fits site (sameType params) :=
  fits_checkArity fun h => fits_bind fun _ => fits_emit h

theorem fits_isNaN : Fits site isNaN := fits_checkArity fun h => fits_bind fun _ => fits_emit h

theorem fits_withAlpha (default : Single) : Fits site (withAlpha default) := fits_bind fun _ => fits_sameType _

theorem fits_hardSigmoid : Fits site hardSigmoid := fits_bind fun _ => fits_bind fun _ => fits_sameType _

theorem fits_selu : Fits site selu := fits_bind fun _ => fits_bind fun _ => fits_sameType _

theorem fits_gelu : Fits site gelu := fits_bind fun _ => fits_guard fun _ => fits_sameType _

theorem fits_prelu : Fits site prelu := fits_checkArity fun h => fits_bind fun _ => fits_bind fun _ => fits_emit h

theorem fits_clip : Fits site clip := by
  refine fits_checkOutput fun h => fits_bind fun opset => fits_ite ?_ ?_
  · exact fits_bind fun _ => fits_bind fun _ => fits_bind fun _ => fits_bind fun _ => fits_emit h
  · exact fits_bind fun _ => fits_bind fun _ => fits_bind fun _ => fits_bind fun _ => fits_emit h

theorem fits_softmax : Fits site softmax := by
  refine fits_checkArity fun h => fits_bind fun opset => fits_bind fun axis => fits_bind fun type => ?_
  cases type.rank? with
  | some rank => exact fits_bind fun _ => fits_bind fun _ => fits_emit h
  | none => exact fits_bind fun _ => fits_emit h

/-! ## Elementwise operators and products -/

theorem fits_binary (params : Params) : Fits site (binary params) :=
  fits_checkArity fun h => fits_bind fun _ => fits_bind fun _ => fits_emit h

theorem fits_comparison : Fits site comparison := fits_checkArity fun h => fits_bind fun _ => fits_emit h

theorem fits_variadic : Fits site variadic :=
  fits_bind fun _ => fits_checkOutput fun h => fits_bind fun _ => fits_bind fun _ => fits_emit h

theorem fits_modulo : Fits site modulo := fits_bind fun _ => fits_guard fun _ => fits_binary _

theorem fits_bitShift : Fits site bitShift := fits_bind fun _ => fits_guard fun _ => fits_binary _

theorem fits_select : Fits site select := fits_checkArity fun h => fits_bind fun _ => fits_bind fun _ => fits_emit h

theorem fits_matMul : Fits site matMul := fits_checkArity fun h => fits_bind fun _ => fits_bind fun _ => fits_emit h

theorem fits_gemm : Fits site gemm := by
  refine fits_bind fun _ => fits_checkOutput fun h => ?_
  exact fits_bind fun _ => fits_bind fun _ => fits_bind fun _ => fits_bind fun _ => fits_bind fun _ =>
    fits_bind fun _ => fits_emit h

theorem fits_einsum : Fits site einsum := by
  refine fits_bind fun _ => fits_checkOutput fun h => ?_
  exact fits_bind fun _ => fits_bind fun _ => fits_bind fun _ => fits_bind fun _ => fits_bind fun _ => fits_emit h

/-! ## Convolutions and pools -/

theorem fits_conv : Fits site conv := by
  refine fits_bind fun _ => fits_checkOutput fun h => ?_
  exact fits_bind fun _ => fits_bind fun _ => fits_bind fun _ => fits_bind fun _ => fits_bind fun _ => fits_emit h

theorem fits_convTranspose : Fits site convTranspose := by
  refine fits_bind fun _ => fits_checkOutput fun h => fits_bind fun x => ?_
  refine fits_bind fun _ => fits_bind fun _ => fits_bind fun _ => fits_bind fun _ => fits_bind fun _ =>
    fits_bind fun shape => ?_
  cases x.shape <;> cases shape <;> exact fits_bind fun _ => fits_emit h

/-- The second type is there when there is a second output. -/
theorem fits_maxPool : Fits site maxPool := by
  refine fits_bind fun _ => fits_checkOutputs fun _ hmost => ?_
  refine fits_bind fun _ => fits_bind fun _ => fits_outputCount (fits_emit ?_)
  have := hmost 2 rfl
  split
  · exact this
  · simp only [List.length_singleton]
    omega

theorem fits_averagePool : Fits site averagePool :=
  fits_checkArity fun h => fits_bind fun _ => fits_bind fun _ => fits_emit h

theorem fits_globalPool : Fits site globalPool := fits_checkArity fun h => fits_bind fun _ => fits_emit h

/-! ## Normalizations -/

theorem fits_batchNormalization : Fits site batchNormalization := by
  refine fits_bind fun _ => fits_checkOutputs fun hleast _ => ?_
  refine fits_bind fun _ => fits_bind fun _ => fits_bind fun _ => fits_bind fun _ => fits_guard fun _ => ?_
  refine fits_bind fun _ => fits_bind fun _ => fits_outputCount (fits_emit ?_)
  rw [List.length_cons, List.length_replicate]
  omega

theorem fits_instanceNormalization : Fits site instanceNormalization :=
  fits_checkArity fun h => fits_bind fun _ => fits_bind fun _ => fits_emit h

theorem fits_layerNormalization : Fits site layerNormalization := by
  refine fits_bind fun _ => fits_checkOutputs fun hleast _ => ?_
  refine fits_bind fun _ => fits_bind fun _ => fits_bind fun _ => fits_bind fun x => ?_
  have hemit : ∀ params type, Fits site (outputCount >>= fun n => emit params (x :: List.replicate (n - 1) type)) := by
    intro params type
    refine fits_outputCount (fits_emit ?_)
    rw [List.length_cons, List.length_replicate]
    omega
  cases x.shape with
  | none => exact fits_bind fun _ => hemit _ _
  | some dims => exact fits_bind fun _ => fits_bind fun _ => hemit _ _

theorem fits_localResponse : Fits site localResponse := by
  refine fits_checkArity fun h => fits_bind fun _ => fits_guard fun _ => ?_
  exact fits_bind fun _ => fits_bind fun _ => fits_bind fun _ => fits_bind fun _ => fits_emit h

/-- Dropout adds an instruction for a mask that is asked for by name. A mask that is declared without a name has no
value, and then there are fewer values than outputs. -/
theorem settles_dropout : Settles site dropout fun l =>
    l.Fits site ∧ (l.Covers site ↔ site.node.outputs[1]? ≠ some "") := by
  refine settles_then fun _ => settles_bind returns_checkOutputs fun _ hcount => ?_
  refine settles_then fun _ => settles_then fun _ => settles_bind returns_input fun data hdata => ?_
  refine settles_bind returns_read ?_
  rintro _ rfl
  have hmost : site.node.outputs.length ≤ 2 := hcount.2 2 rfl
  dsimp only
  rcases houtputs : site.node.outputs with _ | ⟨first, _ | ⟨mask, rest⟩⟩
  · refine settles_of comesTo_forward ⟨forward_fits hdata, ?_⟩
    simp [Lowering.Covers, houtputs]
  · refine settles_of comesTo_forward ⟨forward_fits hdata, ?_⟩
    simp [Lowering.Covers, houtputs, Lowering.count, Lowering.forward]
  · rw [houtputs] at hmost
    simp only [List.drop_succ_cons, List.drop_zero]
    split
    · next hmask =>
      refine settles_of comesTo_forward ⟨forward_fits hdata, ?_⟩
      simp [Lowering.Covers, houtputs, Lowering.count, Lowering.forward, hmask]
    · next hmask =>
      refine settles_then fun type => settles_of (l := ⟨[data], some (.instruction ⟨"DropoutMask",
        site.node.displayName, [some data], [], mask :: rest, [type.withElement .bool]⟩)⟩) (fun _ _ => rfl) ?_
      refine ⟨⟨?_, ?_, fun _ => ?_, fun _ => ?_⟩, ?_⟩
      · simpa using hdata
      · rintro op he
        cases he
        simpa using hdata
      · rintro op he
        cases he
        exact (by decide : "DropoutMask" ≠ "Loop")
      · rw [houtputs]
        exact hmost
      · simpa [Lowering.Covers, houtputs, Lowering.count, hmask] using hmost

/-! ## Layout -/

theorem fits_reshape : Fits site reshape := by
  refine fits_checkOutput fun h => fits_bind fun _ => fits_bind fun target => fits_bind fun x => ?_
  cases target with
  | some target => exact fits_bind fun _ => fits_emit h
  | none => exact fits_bind fun _ => fits_emit h

theorem fits_flatten : Fits site flatten := by
  refine fits_checkArity fun h => fits_bind fun _ => fits_bind fun x => ?_
  cases x.shape with
  | none => exact fits_emit h
  | some dims => exact fits_bind fun _ => fits_emit h

theorem fits_transpose : Fits site transpose := by
  refine fits_checkArity fun h => fits_bind fun _ => fits_bind fun x => ?_
  cases x.shape with
  | none => exact fits_emit h
  | some dims => exact fits_bind fun _ => fits_emit h

theorem fits_squeeze : Fits site squeeze := by
  refine fits_bind fun _ => fits_bind fun _ => fits_checkOutput fun h => ?_
  refine fits_bind fun _ => fits_bind fun _ => fits_bind fun _ => fits_bind fun axes => fits_bind fun x => ?_
  cases x.shape with
  | none => exact fits_emit h
  | some dims =>
    cases axes with
    | some axes => exact fits_bind fun _ => fits_emit h
    | none => exact fits_ite (fits_emit h) (fits_emit h)

theorem fits_unsqueeze : Fits site unsqueeze := by
  refine fits_checkOutput fun h => fits_bind fun axes => fits_bind fun x => ?_
  cases axes with
  | none => cases x.shape <;> exact fits_emit h
  | some axes =>
    cases x.shape with
    | none => exact fits_emit h
    | some dims => exact fits_bind fun _ => fits_emit h

theorem fits_expand : Fits site expand := by
  refine fits_checkArity fun h => fits_bind fun x => fits_bind fun shape => ?_
  cases shape with
  | some shape => exact fits_emit h
  | none =>
    refine fits_bind fun lengths => ?_
    cases x.rank? <;> cases lengthOf lengths <;> exact fits_emit h

theorem fits_identity : Fits site identity := fits_checkArity fun h => fits_input fun _ hv => fits_forward hv h

/-! ## Selections -/

theorem fits_concat : Fits site concat := by
  refine fits_bind fun _ => fits_checkOutput fun h => fits_bind fun _ => fits_bind fun _ => fits_bind fun types => ?_
  cases types.mapM TensorType.shape with
  | some shapes => exact fits_bind fun _ => fits_emit h
  | none => exact fits_emit h

theorem length_chunkDims {sizes : Option (List Int)} {dim : Option Dim} {count : Nat}
    (h : ∀ l, sizes = some l → l.length = count) : (chunkDims sizes dim count).length = count := by
  unfold chunkDims
  split
  · rw [List.length_map]
    exact h _ rfl
  · rw [List.length_map, Infer.evenChunks, List.length_map, List.length_range]
  · exact List.length_replicate

theorem fits_split : Fits site split := by
  refine fits_bind fun _ => fits_bind fun _ => fits_bind fun _ => fits_bind fun axis => ?_
  refine fits_bind fun declared => fits_bind fun sizes => fits_outputCount ?_
  cases declared
  case' some n => refine fits_guard fun _ => ?_
  -- the checks come first; then, whatever was given, there is a piece for each output
  all_goals
    cases sizes
    case' some l => refine fits_guard fun hl => ?_
    all_goals
      refine fits_bind fun x => ?_
      cases x.shape with
      | none => exact fits_emit (Nat.le_of_eq List.length_replicate.symm)
      | some dims =>
        refine fits_bind fun _ => fits_emit (Nat.le_of_eq ?_)
        rw [List.length_map, length_chunkDims]
        simp_all

theorem fits_slice : Fits site slice := by
  refine fits_checkOutput fun h => fits_bind fun bounds => fits_bind fun _ => fits_bind fun _ => fits_bind fun x => ?_
  cases x.shape with
  | none => exact fits_emit h
  | some dims =>
    dsimp only
    split
    · exact fits_bind fun _ => fits_emit h
    · exact fits_emit h

theorem fits_gather : Fits site gather := by
  refine fits_checkArity fun h => fits_bind fun _ => fits_bind fun data => fits_bind fun _ => ?_
  cases data.shape with
  | none => exact fits_emit h
  | some dims => exact fits_bind fun _ => fits_emit h

theorem fits_gatherElements : Fits site gatherElements := by
  refine fits_checkArity fun h => fits_bind fun _ => fits_bind fun data => fits_bind fun _ => ?_
  cases data.rank? with
  | none => exact fits_bind fun _ => fits_emit h
  | some rank => exact fits_bind fun _ => fits_bind fun _ => fits_emit h

theorem fits_tile : Fits site tile := by
  refine fits_checkArity fun h => fits_bind fun x => fits_bind fun repeats => ?_
  cases x.shape with
  | none => exact fits_emit h
  | some dims =>
    cases repeats with
    | none => exact fits_emit h
    | some repeats => exact fits_guard fun _ => fits_bind fun _ => fits_emit h

theorem fits_pad : Fits site pad := by
  refine fits_checkOutput fun h => fits_bind fun _ => fits_guard fun _ => fits_bind fun read => fits_bind fun _ => ?_
  refine fits_bind fun x => ?_
  obtain ⟨pads, axes, params⟩ := read
  cases x.shape with
  | none => exact fits_emit h
  | some dims =>
    dsimp only
    split
    · exact fits_bind fun _ => fits_emit h
    · exact fits_emit h

/-! ## Reductions -/

theorem fits_reduceOver (h : site.node.outputs.length ≤ 1) (x : TensorType) (axes : Option (List Int)) (keep : Bool) :
    Fits site (reduceOver x axes keep) := by
  unfold reduceOver
  cases x.shape with
  | some dims => exact fits_bind fun _ => fits_emit h
  | none => exact fits_emit h

theorem fits_reduce : Fits site reduce := by
  refine fits_checkOutput fun h => fits_bind fun _ => fits_bind fun noop => fits_bind fun axes => fits_bind fun x => ?_
  cases axes with
  | runtime => exact fits_emit h
  | listed axes => exact fits_reduceOver h _ _ _
  | all =>
    refine fits_ite (fits_input? fun o ho => fits_emitOp (fun v hv => ?_) h fun _ => ?_) (fits_reduceOver h _ _ _)
    · exact ho v (List.mem_singleton.1 hv).symm
    · decide

theorem fits_argReduce : Fits site argReduce := by
  refine fits_checkArity fun h => fits_bind fun _ => fits_bind fun _ => fits_bind fun _ => fits_bind fun x => ?_
  cases x.shape with
  | some dims => exact fits_bind fun _ => fits_bind fun _ => fits_emit h
  | none => exact fits_bind fun _ => fits_emit h

theorem fits_topK : Fits site topK := by
  refine fits_checkOutputs fun _ hmost => fits_bind fun k => ?_
  refine fits_bind fun _ => fits_bind fun _ => fits_bind fun _ => fits_bind fun x => ?_
  cases x.shape with
  | some dims => exact fits_bind fun _ => fits_bind fun _ => fits_bind fun _ => fits_emit (hmost 2 rfl)
  | none => exact fits_bind fun _ => fits_emit (hmost 2 rfl)

/-! ## Constants -/

theorem fits_constant : Fits site constant := by
  refine fits_bind fun _ => fits_checkOutput fun h => fits_bind fun keys => ?_
  rcases keys with _ | ⟨key, _ | ⟨second, rest⟩⟩
  · exact fits_throw
  · exact fits_bind fun _ => fits_fold h
  · exact fits_throw

theorem fits_constantOfShape : Fits site constantOfShape := by
  refine fits_checkArity fun h => fits_bind fun value => ?_
  cases value
  all_goals
    refine fits_bind fun value => fits_guard fun _ => fits_bind fun shape => ?_
    cases shape with
    | some shape => exact fits_bind fun _ => fits_emit h
    | none => exact fits_bind fun _ => fits_emit h

theorem fits_shapeOf : Fits site shapeOf := by
  refine fits_checkArity fun h => fits_bind fun _ => fits_bind fun _ => fits_bind fun x => ?_
  cases x.shape with
  | none => exact fits_emit h
  | some dims =>
    dsimp only
    split
    · exact fits_fold h
    · exact fits_emit h

theorem fits_sizeOf : Fits site Operator.sizeOf := by
  refine fits_checkArity fun h => fits_bind fun x => ?_
  cases x.shape.bind Infer.product? with
  | some volume => exact fits_fold h
  | none => exact fits_emit h

theorem fits_nonZero : Fits site nonZero := fits_checkArity fun h => fits_bind fun _ => fits_emit h

theorem fits_cast : Fits site Operator.cast :=
  fits_checkArity fun h => fits_bind fun _ => fits_bind fun _ => fits_bind fun _ => fits_bind fun _ => fits_emit h

theorem fits_range : Fits site range := by
  refine fits_checkArity fun h => fits_bind fun _ => fits_bind fun start => fits_bind fun limit => ?_
  refine fits_bind fun delta => ?_
  cases start <;> cases limit <;> cases delta
  case some.some.some => exact fits_guard fun _ => fits_bind fun _ => fits_emit h
  all_goals exact fits_bind fun _ => fits_emit h

theorem fits_oneHot : Fits site oneHot := by
  refine fits_checkArity fun h => fits_bind fun _ => fits_bind fun indices => fits_bind fun _ => fits_bind fun _ => ?_
  cases indices.shape with
  | some dims => exact fits_bind fun _ => fits_emit h
  | none => exact fits_emit h

theorem fits_resize : Fits site resize := by
  refine fits_checkOutput fun h => fits_bind fun opset => ?_
  refine fits_ite ?_ ?_
  all_goals
    refine fits_bind fun _ => fits_bind fun _ => fits_guard fun _ => ?_
    refine fits_bind fun _ => fits_bind fun _ => fits_bind fun _ => fits_bind fun _ => fits_bind fun _ => ?_
    refine fits_bind fun _ => fits_bind fun x => fits_ite ?_ ?_
    all_goals
      refine fits_bind fun _ => fits_bind fun _ => ?_
      cases x.shape <;> exact fits_bind fun _ => fits_emit h

end Operator

/-! ## The table -/

open ConverterM

/-- What a converter comes to at a site where no attribute has been read. -/
def Converter.ComesTo (c : Converter) (site : Site) (ending : Ending) : Prop :=
  ConverterM.ComesTo site (.ofBag site.node.attributes) c.lower ending

/-- The converter turns the site into the lowering. -/
def Converter.Lowers (c : Converter) (site : Site) (l : Lowering) : Prop := ∃ view, c.ComesTo site (.ok (l, view))

/-- The converter turns the site into one instruction. -/
def Converter.Emits (c : Converter) (site : Site) (op : OpSpec) : Prop := c.Lowers site ⟨[], some (.instruction op)⟩

/-- The converter fails at the site, having done nothing to the function. -/
def Converter.Refuses (c : Converter) (site : Site) (e : ImportError) : Prop := c.ComesTo site (.error e)

theorem Converter.ComesTo.run {c : Converter} {context : Context} {b : Builder} {ending : Ending}
    (h : c.ComesTo ⟨context, b.function⟩ ending) : c.run context b = ending.on b := h b.stack

theorem Converter.Refuses.not_lowers {c : Converter} {site : Site} {e : ImportError} {l : Lowering}
    (h : c.Refuses site e) (h' : c.Lowers site l) : False := by
  obtain ⟨view, h'⟩ := h'
  cases (h []).symm.trans (h' [])

/-- What a converter adds shows in the function. -/
theorem Converter.Lowers.apply_eq {c : Converter} {site : Site} {l l' : Lowering} (h : c.Lowers site l)
    (h' : c.Lowers site l') : (l.apply ⟨site.function, []⟩).2 = (l'.apply ⟨site.function, []⟩).2 := by
  obtain ⟨view, h⟩ := h
  obtain ⟨view', h'⟩ := h'
  have hon : Ending.on (.ok (l, view)) ⟨site.function, []⟩ = Ending.on (.ok (l', view')) ⟨site.function, []⟩ :=
    (h []).symm.trans (h' [])
  exact congrArg (·.2) hon

theorem Converter.Lowers.data_eq {c : Converter} {site : Site} {name name' : String} {data data' : TensorData}
    (h : c.Lowers site ⟨[], some (.constant name data)⟩) (h' : c.Lowers site ⟨[], some (.constant name' data')⟩) :
    data = data' := by
  have hfound : (site.function.constantData.insert ⟨site.function.values.size⟩ data).find? ⟨site.function.values.size⟩ =
      (site.function.constantData.insert ⟨site.function.values.size⟩ data').find? ⟨site.function.values.size⟩ :=
    congrArg (·.function.constant? ⟨site.function.values.size⟩) (h.apply_eq h')
  rw [DataTable.find?_insert_self, DataTable.find?_insert_self] at hfound
  exact Option.some.inj hfound

/-- Instructions are not constants. -/
theorem Converter.Emits.not_folds {c : Converter} {site : Site} {op : OpSpec} {name : String} {data : TensorData}
    (h : c.Emits site op) (h' : c.Lowers site ⟨[], some (.constant name data)⟩) : False := by
  have hconstants : (Builder.append ⟨site.function, []⟩ op).2.function.constants =
    site.function.constants.push ⟨site.function.values.size⟩ := congrArg (·.function.constants) (Lowers.apply_eq h h')
  rw [Builder.constants_append] at hconstants
  simpa using congrArg Array.size hconstants

/-- There is no other instruction that the converter could be said to emit: not one with other results, -/
theorem Converter.Emits.resultTypes_eq {c : Converter} {site : Site} {op op' : OpSpec} (h : c.Emits site op)
    (h' : c.Emits site op') : op.resultTypes = op'.resultTypes := by
  have hvalues : (Builder.append ⟨site.function, []⟩ op).2.function.values.map Value.type =
      (Builder.append ⟨site.function, []⟩ op').2.function.values.map Value.type :=
    congrArg (·.function.values.map Value.type) (Lowers.apply_eq h h')
  simp only [Builder.types_append, Array.append_right_inj] at hvalues
  exact congrArg Array.toList hvalues

/-- nor, in a function that has its entry block, one with other parameters. -/
theorem Converter.Emits.params_eq {c : Converter} {site : Site} {op op' : OpSpec} {blk : Block}
    (hentry : site.function.block? .entry = some blk) (h : c.Emits site op) (h' : c.Emits site op') :
    op.params = op'.params := by
  have hblock : (Builder.append ⟨site.function, []⟩ op).2.function.block? .entry =
      (Builder.append ⟨site.function, []⟩ op').2.function.block? .entry :=
    congrArg (·.function.block? .entry) (Lowers.apply_eq h h')
  have hcurrent : Builder.current ⟨site.function, []⟩ = .entry := rfl
  simp only [Builder.block?_append, hcurrent, if_true, hentry, Option.map_some, Option.some.injEq, Block.mk.injEq,
    true_and, and_true] at hblock
  exact congrArg Instruction.params (Array.push_eq_push.1 hblock).1

/-- A run of a converter that leaves nothing half done. -/
theorem Converter.run_cases {c : Converter} {context : Context} {b : Builder} {P : Lowering → Prop}
    (h : Settles ⟨context, b.function⟩ c.lower P) :
    (∃ e, c.run context b = (.error e, b)) ∨
      ∃ l view, P l ∧ c.run context b = (.ok ((l.apply b).1, view), (l.apply b).2) := by
  obtain ⟨_ | ⟨l, view⟩, hcomes, hP⟩ := h (.ofBag context.node.attributes)
  · exact .inl ⟨_, ComesTo.run hcomes⟩
  · exact .inr ⟨l, view, hP l view rfl, ComesTo.run hcomes⟩

/-- A converter that keeps to what sessions rely on and leaves the cancellation token alone. -/
structure Converter.Fits (c : Converter) : Prop where
  fits : ∀ site, Settles site c.lower (Lowering.Fits site)
  cancels : c.cancels = false

/-- An entry of the table of converters. -/
structure Registry.EntryFits (entry : String × Converter) : Prop where
  fits : entry.2.Fits
  covers : entry.1 ≠ "Dropout" → ∀ site, Settles site entry.2.lower (Lowering.Covers site)

theorem Registry.fits_of {opType : String} {m : ConverterM (List ValueId)} (h : ∀ {site}, ConverterM.Fits site m) :
    EntryFits (opType, .of m) :=
  ⟨⟨fun _ => settles_imp h fun _ hl => hl.1, rfl⟩, fun _ _ => settles_imp h fun _ hl => hl.2⟩

namespace Operator

open Registry

theorem activations_fit : ∀ entry ∈ activations, EntryFits entry := by
  simp only [activations, List.forall_mem_append, List.forall_mem_map, List.forall_mem_cons]
  exact ⟨fun _ _ => fits_of (fits_sameType _), fits_of fits_isNaN, fits_of (fits_withAlpha _),
    fits_of (fits_withAlpha _), fits_of (fits_withAlpha _), fits_of (fits_withAlpha _), fits_of fits_hardSigmoid,
    fits_of fits_selu, fits_of fits_gelu, fits_of fits_prelu, fits_of fits_clip, fits_of fits_softmax,
    fits_of fits_softmax, fits_of fits_softmax, nofun⟩

theorem elementwise_fit : ∀ entry ∈ elementwise, EntryFits entry := by
  simp only [elementwise, List.forall_mem_append, List.forall_mem_map, List.forall_mem_cons]
  exact ⟨⟨⟨fun _ _ => fits_of (fits_binary _), fun _ _ => fits_of fits_comparison⟩,
    fun _ _ => fits_of fits_variadic⟩, fits_of fits_modulo, fits_of fits_bitShift, fits_of fits_select, nofun⟩

theorem products_fit : ∀ entry ∈ products, EntryFits entry := by
  simp only [products, List.forall_mem_cons]
  exact ⟨fits_of fits_matMul, fits_of fits_gemm, fits_of fits_einsum, nofun⟩

theorem windowed_fit : ∀ entry ∈ windowed, EntryFits entry := by
  simp only [windowed, List.forall_mem_cons]
  exact ⟨fits_of fits_conv, fits_of fits_convTranspose, fits_of fits_maxPool, fits_of fits_averagePool,
    fits_of fits_globalPool, fits_of fits_globalPool, nofun⟩

theorem normalizations_fit : ∀ entry ∈ normalizations, EntryFits entry := by
  simp only [normalizations, List.forall_mem_cons]
  exact ⟨fits_of fits_batchNormalization, fits_of fits_instanceNormalization, fits_of fits_layerNormalization,
    fits_of fits_localResponse,
    ⟨⟨fun _ => settles_imp settles_dropout fun _ hl => hl.1, rfl⟩, fun hne => absurd rfl hne⟩, nofun⟩

theorem layouts_fit : ∀ entry ∈ layouts, EntryFits entry := by
  simp only [layouts, List.forall_mem_cons]
  exact ⟨fits_of fits_reshape, fits_of fits_flatten, fits_of fits_transpose, fits_of fits_squeeze,
    fits_of fits_unsqueeze, fits_of fits_expand, fits_of fits_identity, nofun⟩

theorem selections_fit : ∀ entry ∈ selections, EntryFits entry := by
  simp only [selections, List.forall_mem_cons]
  exact ⟨fits_of fits_concat, fits_of fits_split, fits_of fits_slice, fits_of fits_gather,
    fits_of fits_gatherElements, fits_of fits_tile, fits_of fits_pad, nofun⟩

theorem reductions_fit : ∀ entry ∈ reductions, EntryFits entry := by
  simp only [reductions, List.forall_mem_append, List.forall_mem_map, List.forall_mem_cons]
  exact ⟨fun _ _ => fits_of fits_reduce, fits_of fits_argReduce, fits_of fits_argReduce, fits_of fits_topK, nofun⟩

theorem constants_fit : ∀ entry ∈ constants, EntryFits entry := by
  simp only [constants, List.forall_mem_cons]
  exact ⟨fits_of fits_constant, fits_of fits_constantOfShape, fits_of fits_shapeOf, fits_of fits_sizeOf,
    fits_of fits_nonZero, fits_of fits_cast, fits_of fits_range, fits_of fits_oneHot, fits_of fits_resize, nofun⟩

end Operator

theorem Registry.builtin_entries : ∀ entry ∈ builtin.entries, EntryFits entry := by
  simp only [builtin, List.forall_mem_append]
  exact ⟨⟨⟨⟨⟨⟨⟨⟨Operator.activations_fit, Operator.elementwise_fit⟩, Operator.products_fit⟩, Operator.windowed_fit⟩,
    Operator.normalizations_fit⟩, Operator.layouts_fit⟩, Operator.selections_fit⟩, Operator.reductions_fit⟩,
    Operator.constants_fit⟩

theorem Registry.find?_eq_some {r : Registry} {opType : String} {c : Converter} (h : r.find? opType = some c) :
    (opType, c) ∈ r.entries := by
  obtain ⟨entry, hentry, rfl⟩ := Option.map_eq_some_iff.1 h
  have hname : entry.1 = opType := by simpa using List.find?_some hentry
  rw [← hname]
  exact List.mem_of_find?_eq_some hentry

/-- Every converter of the library uses the operands of its node only, makes no loops and, when it adds something, has a
value for each output. -/
theorem Registry.builtin_fits {opType : String} {c : Converter} (h : builtin.find? opType = some c) : c.Fits :=
  (builtin_entries _ (find?_eq_some h)).fits

/-- Every converter of the library but one has a value for each output. -/
theorem Registry.builtin_covers {opType : String} {c : Converter} (h : builtin.find? opType = some c)
    (hne : opType ≠ "Dropout") (site : Site) : Settles site c.lower (Lowering.Covers site) :=
  (builtin_entries _ (find?_eq_some h)).covers hne site

theorem Registry.builtin_ne_loop {opType : String} {c : Converter} (h : builtin.find? opType = some c) :
    opType ≠ "Loop" := by
  rintro rfl
  exact absurd h (by rw [show builtin.find? "Loop" = none from rfl]; exact nofun)

end ModelImport
