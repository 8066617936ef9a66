import ModelImport.Proofs.Completeness
import ModelImport.Proofs.ConverterEffect
/-!
# One loop

What the conversion of one loop leaves in the function: an instruction and a block that agree with each other and with
the body that the model gives (`Agrees`). The counts are checked against the model before anything is built, so each has
to be followed from there into the block: formals become arguments (`bindFormals_arguments`), outputs become the values
that the block yields, and the types of the results come from the operands and from the yielded values.
-/

namespace ModelImport

namespace Function

/-- The type of an argument of a loop body whose formal declares none: that of the iteration number, that of the
condition, and then those of the operands of the loop. -/
def expected? (f : Function) (ins : Instruction) : Nat → Option TensorType
  | 0 => some (.scalar .i64)
  | 1 => some (.scalar .bool)
  | k + 2 => ((ins.operands[k + 2]?).join).bind f.type?

/-- A loop instruction with `n` carried values, its body block and the body that the model gives agree. -/
structure Agrees (f : Function) (n : Nat) (ins : Instruction) (blk : Block) (body : Graph) : Prop where
  operands : ins.operands.length = n + 2
  present : ∀ i < n, ∃ v, ins.operands[i + 2]? = some (some v)
  arguments : blk.arguments.size = n + 2
  yields : n + 1 ≤ blk.results.length
  results : ins.results.length ≤ blk.results.length - 1
  /-- A carried value keeps the type of its operand. -/
  carried : ∀ i v, i < n → ins.results[i]? = some v →
    ∃ w type, ins.operands[i + 2]? = some (some w) ∧ f.type? w = some type ∧ f.type? v = some type
  /-- A scanned value has one axis more than the value that the block yields, if the rank of that is known. -/
  scanned : ∀ i v, n ≤ i → ins.results[i]? = some v →
    ∃ w type, blk.results[i + 1]? = some w ∧ f.type? w = some type ∧
      f.type? v = some ⟨type.element, type.shape.map (.dynamic none :: ·)⟩
  formals : body.inputs.length = n + 2
  untyped : ∀ (k : Nat) formal, body.inputs[k]? = some formal →
    ∃ v r, blk.arguments[k]? = some v ∧ f.value? v = some r ∧ r.name = formal.name ∧
      (formal.code = none → f.expected? ins k = some r.type)

/-- The block is the body of a loop instruction, and the two agree with the body that the model gives. -/
def BodyOf (f : Function) (b : BlockId) (body : Graph) : Prop :=
  ∃ p i ins blk n, f.instruction? p i = some ins ∧ ins.opType = "Loop" ∧
    ins.params.find? "body" = some (.block b) ∧ f.block? b = some blk ∧ f.Agrees n ins blk body

section Extends
variable {f g : Function} (h : f.Extends g)
include h

theorem Extends.type? {v : ValueId} {type : TensorType} (hv : f.type? v = some type) : g.type? v = some type := by
  obtain ⟨r, hr, rfl⟩ := Option.map_eq_some_iff.1 hv
  exact Option.map_eq_some_iff.2 ⟨r, h.values v r hr, rfl⟩

theorem Extends.expected? {ins : Instruction} {k : Nat} {type : TensorType} (hk : f.expected? ins k = some type) :
    g.expected? ins k = some type := by
  match k with
  | 0 | 1 => exact hk
  | k + 2 =>
    obtain ⟨v, hv, ht⟩ := Option.bind_eq_some_iff.1 hk
    exact Option.bind_eq_some_iff.2 ⟨v, hv, h.type? ht⟩

theorem Extends.agrees {n : Nat} {ins : Instruction} {blk : Block} {body : Graph} (ha : f.Agrees n ins blk body) :
    g.Agrees n ins blk body where
  operands := ha.operands
  present := ha.present
  arguments := ha.arguments
  yields := ha.yields
  results := ha.results
  carried i v hi hv := by
    obtain ⟨w, type, hw, htw, htv⟩ := ha.carried i v hi hv
    exact ⟨w, type, hw, h.type? htw, h.type? htv⟩
  scanned i v hi hv := by
    obtain ⟨w, type, hw, htw, htv⟩ := ha.scanned i v hi hv
    exact ⟨w, type, hw, h.type? htw, h.type? htv⟩
  formals := ha.formals
  untyped k formal hk := by
    obtain ⟨v, r, hv, hr, hname, htype⟩ := ha.untyped k formal hk
    exact ⟨v, r, hv, h.values v r hr, hname, fun hcode => h.expected? (htype hcode)⟩

end Extends

end Function

/-- A body that is closed stays what it is. -/
theorem Builder.Grows.bodyOf {b b' : Builder} (h : b.Grows b') {x : BlockId} (hx : x ≠ b.current) {body : Graph}
    (hb : b.function.BodyOf x body) : b'.function.BodyOf x body := by
  obtain ⟨p, i, ins, blk, n, hins, htype, hparam, hblk, ha⟩ := hb
  exact ⟨p, i, ins, blk, n, h.function.instruction? hins, htype, hparam, h.others x blk hx hblk, h.function.agrees ha⟩

/-! ## Plans -/

/-- A plan whose parts fit together, in a function that has the values of its operands. -/
structure LoopPlan.Checked (f : Function) (node : Node) (plan : LoopPlan) : Prop where
  operands : plan.operands.length = plan.carried.length + 2
  carried : ∀ (i : Nat) type, plan.carried[i]? = some type →
    ∃ v, plan.operands[i + 2]? = some (some v) ∧ f.type? v = some type
  inputs : plan.body.inputs.length = plan.carried.length + 2
  yields : plan.carried.length + 1 ≤ plan.body.outputs.length
  outputs : node.outputs.length ≤ plan.body.outputs.length - 1

theorem LoopPlan.Checked.mono {f g : Function} {node : Node} {plan : LoopPlan} (h : plan.Checked f node)
    (hfg : f.Extends g) : plan.Checked g node :=
  { h with
    carried := fun i type hi =>
      let ⟨v, hv, ht⟩ := h.carried i type hi
      ⟨v, hv, hfg.type? ht⟩ }

namespace Session

theorem typeOf_eq_ok {s : Session} {v : ValueId} {type : TensorType} (h : s.typeOf v = .ok type) :
    s.builder.function.type? v = some type := by
  unfold typeOf at h
  split at h
  · next hv =>
    cases h
    exact hv
  · cases h

theorem mapM_typeOf_eq_ok {s : Session} {initial : List (Option ValueId)} {types : List TensorType}
    (hlen : (initial.filterMap id).length = initial.length) (h : (initial.filterMap id).mapM s.typeOf = .ok types) :
    initial.length = types.length ∧ ∀ (i : Nat) type, types[i]? = some type →
      ∃ v, initial[i]? = some (some v) ∧ s.builder.function.type? v = some type := by
  induction initial generalizing types with
  | nil =>
    cases h
    exact ⟨rfl, nofun⟩
  | cons o initial ih =>
    cases o with
    | none =>
      -- an omitted value would make the list of present ones too short
      have := initial.length_filterMap_le id
      simp only [List.filterMap_cons, id, List.length_cons] at hlen this
      omega
    | some v =>
      simp only [List.filterMap_cons, id, List.length_cons, Nat.add_right_cancel_iff] at hlen
      simp only [List.filterMap_cons, id, List.mapM_cons, bind, Except.bind] at h
      split at h
      · cases h
      · next type htype =>
        split at h
        · cases h
        · next rest hrest =>
          cases h
          obtain ⟨hlength, hall⟩ := ih hlen hrest
          refine ⟨congrArg (· + 1) hlength, fun i t ht => ?_⟩
          cases i with
          | zero =>
            cases ht
            exact ⟨v, rfl, typeOf_eq_ok htype⟩
          | succ i => exact hall i t ht

/-- The initial values are all present and have one type each. -/
theorem carriedTypes_eq_ok {s : Session} {initial : List (Option ValueId)} {types : List TensorType}
    (h : s.carriedTypes initial = .ok types) :
    initial.length = types.length ∧ ∀ (i : Nat) type, types[i]? = some type →
      ∃ v, initial[i]? = some (some v) ∧ s.builder.function.type? v = some type := by
  simp only [carriedTypes, bind, Except.bind] at h
  by_cases hlen : (initial.filterMap id).length = initial.length
  · simp only [hlen, ne_eq, not_true_eq_false, if_false] at h
    exact mapM_typeOf_eq_ok hlen h
  · simp only [ne_eq, hlen, not_false_eq_true, if_true] at h
    cases h

theorem checkLoop_eq_ok {node : Node} {body : Graph} {carried : Nat} (h : checkLoop node body carried = .ok ()) :
    body.inputs.length = carried + 2 ∧ carried + 1 ≤ body.outputs.length ∧
      node.outputs.length ≤ body.outputs.length - 1 := by
  simp only [checkLoop, bind, Except.bind, pure, Except.pure] at h
  by_cases hin : body.inputs.length = carried + 2
  · by_cases hout : body.outputs.length < carried + 1
    · simp [hin, hout] at h
    · by_cases hresults : body.outputs.length - 1 < node.outputs.length
      · simp [hin, hout, hresults] at h
      · exact ⟨hin, Nat.le_of_not_lt hout, Nat.le_of_not_lt hresults⟩
  · simp [hin] at h

theorem planLoop_checked {s : Session} {scope : ScopeId} {node : Node} {plan : LoopPlan}
    (h : s.planLoop scope node = .ok plan) : plan.Checked s.builder.function node := by
  obtain ⟨ho, -, hc, hcheck⟩ := planLoop_eq_ok h
  have htwo := (loopOperands_eq_ok ho).2
  obtain ⟨hlength, htypes⟩ := carriedTypes_eq_ok hc
  obtain ⟨hin, hout, hresults⟩ := checkLoop_eq_ok hcheck
  rw [List.length_drop] at hlength
  refine ⟨by omega, fun i type hi => ?_, hin, hout, hresults⟩
  obtain ⟨v, hv, ht⟩ := htypes i type hi
  rw [List.getElem?_drop, Nat.add_comm] at hv
  exact ⟨v, hv, ht⟩

end Session

/-! ## Formals -/

/-- The value is the argument that a formal becomes, for which a type is expected. -/
def Function.Binds (f : Function) (formal : DeclaredValue × TensorType) (v : ValueId) : Prop :=
  ∃ r, f.value? v = some r ∧ r.name = formal.1.name ∧ (formal.1.code = none → r.type = formal.2)

theorem Function.Extends.binds {f g : Function} (h : f.Extends g) {formal : DeclaredValue × TensorType} {v : ValueId}
    (hb : f.Binds formal v) : g.Binds formal v := by
  obtain ⟨r, hr, hrest⟩ := hb
  exact ⟨r, h.values v r hr, hrest⟩

namespace Session

theorem bindName_builder (s : Session) (scope : ScopeId) (name kind : String) (v : ValueId) :
    (s.bindName scope name kind v).builder = s.builder := by
  unfold bindName
  split <;> rfl

/-- A formal becomes an argument, or a failure is recorded. -/
theorem bindFormal_cases (s : Session) (scope : ScopeId) (formal : DeclaredValue) (expected : TensorType) :
    (s.bindFormal scope formal expected).builder = s.builder ∧
        s.diagnostics.length < (s.bindFormal scope formal expected).diagnostics.length ∨
      ∃ type, (formal.code = none → type = expected) ∧
        (s.bindFormal scope formal expected).builder = (s.builder.createArgument formal.name type).2 := by
  unfold bindFormal
  split
  · exact .inl ⟨rfl, by simp [record]⟩
  · next type htype =>
    refine .inr ⟨type, fun hcode => ?_, bindName_builder ..⟩
    simp only [hcode, Option.isSome_none, Bool.false_eq_true, if_false] at htype
    cases htype
    rfl

/-- Formals that are bound without a failure become the last arguments of the block, in order. -/
theorem bindFormals_arguments {s : Session} {scope : ScopeId} {formals : List (DeclaredValue × TensorType)}
    {blk : Block} (hs : s.Additive) (hblk : s.builder.function.block? s.builder.current = some blk)
    (h : (s.bindFormals scope formals).diagnostics.length ≤ s.diagnostics.length) :
    ∃ args : List ValueId,
      (s.bindFormals scope formals).builder.function.block? s.builder.current =
        some { blk with arguments := blk.arguments ++ args } ∧
      List.Forall₂ (s.bindFormals scope formals).builder.function.Binds formals args := by
  induction formals generalizing s blk with
  | nil => exact ⟨[], by simpa [bindFormals] using hblk, .nil⟩
  | cons formal formals ih =>
    have hrest : s.bindFormals scope (formal :: formals) =
      (s.bindFormal scope formal.1 formal.2).bindFormals scope formals := rfl
    have hstep := (evolves_bindFormal s formal.1 formal.2 : s.Evolves scope _)
    have hmore := (evolves_bindFormals (s.bindFormal scope formal.1 formal.2) formals : Evolves scope _ _)
    rw [hrest] at h ⊢
    -- nothing is recorded by the first formal, and nothing by the others
    have hfirst := Nat.le_trans hmore.diagnostics.length_le h
    obtain ⟨type, htype, hb⟩ :=
      (bindFormal_cases s scope formal.1 formal.2).resolve_left fun hfail => Nat.not_lt.2 hfirst hfail.2
    have hblk' : (s.bindFormal scope formal.1 formal.2).builder.function.block? s.builder.current =
        some { blk with arguments := blk.arguments.push s.builder.nextValue } := by
      rw [hb, Builder.createArgument, Builder.block?_modifyBlock, if_pos rfl]
      exact congrArg (Option.map _) hblk
    have hs' := hstep.additive hs
    rw [← (hstep.builder hs).current] at hblk' ⊢
    obtain ⟨args, hargs, hall⟩ := ih hs' hblk' (Nat.le_trans h hstep.diagnostics.length_le)
    refine ⟨s.builder.nextValue :: args, ?_, .cons ((hmore.builder hs').function.binds ?_) hall⟩
    · rw [hargs]
      simp
    · refine ⟨⟨formal.1.name, type, .argument s.builder.current⟩, ?_, rfl, htype⟩
      rw [hb]
      exact (Builder.value?_pushValue ..).trans (if_pos rfl)

/-- What each step leaves alone in the builder, all of them leave alone. -/
theorem foldl_builder {α β : Type} {g : Builder → β} {f : Session → α → Session}
    (h : ∀ (s : Session) a, g (f s a).builder = g s.builder) (l : List α) (s : Session) :
    g (l.foldl f s).builder = g s.builder := by
  induction l generalizing s with
  | nil => rfl
  | cons a l ih => exact (ih (f s a)).trans (h s a)

theorem blocks_bindInitializers (s : Session) (scope : ScopeId) (tensors : List StoredTensor) :
    (s.bindInitializers scope tensors).builder.function.blocks = s.builder.function.blocks := by
  refine foldl_builder (g := (·.function.blocks)) (fun s tensor => ?_) tensors s
  unfold bindInitializer
  split
  · rfl
  · rw [bindName_builder]
    rfl

/-- Entering a body opens one block, without instructions. -/
theorem enterLoop_blocks (s : Session) (scope : ScopeId) (node : Node) (plan : LoopPlan) :
    (s.enterLoop scope node plan).builder.function.blocks.size = s.builder.function.blocks.size + 1 ∧
      ∀ x i, (s.enterLoop scope node plan).builder.function.instruction? x i = s.builder.function.instruction? x i := by
  constructor
  · rw [enterLoop, blocks_bindInitializers]
    refine (foldl_builder (g := (·.function.blocks.size)) (fun t formal => ?_) _ _).trans (Array.size_push _)
    rcases bindFormal_cases t (s.bodyScope scope) formal.1 formal.2 with ⟨he, -⟩ | ⟨type, -, he⟩
    · exact congrArg (·.function.blocks.size) he
    · exact (congrArg (·.function.blocks.size) he).trans Array.size_modify
  · intro x i
    rw [enterLoop, Function.instruction?, Function.block?, blocks_bindInitializers]
    refine (foldl_builder (g := (·.function.instruction? x i)) (fun t formal => ?_) _ _).trans
      (Builder.instruction?_openBlock ..)
    rcases bindFormal_cases t (s.bodyScope scope) formal.1 formal.2 with ⟨he, -⟩ | ⟨type, -, he⟩
    · exact congrArg (·.function.instruction? x i) he
    · exact (congrArg (·.function.instruction? x i) he).trans (Builder.instruction?_createArgument ..)

/-- The block of a body that is entered without a failure has the formals of the body for its arguments. -/
theorem enterLoop_arguments {s : Session} {scope : ScopeId} {node : Node} {plan : LoopPlan} (hr : s.registry.Additive)
    (h : (s.enterLoop scope node plan).diagnostics.length ≤ s.diagnostics.length) :
    ∃ blk, (s.enterLoop scope node plan).builder.function.block? s.bodyBlock = some blk ∧
      List.Forall₂ (s.enterLoop scope node plan).builder.function.Binds (plan.body.inputs.zip plan.expected)
        blk.arguments.toList := by
  have henter : (s.enterBody scope node plan.body).2.2.Additive := ⟨hr, List.cons_ne_nil _ _⟩
  have hbind : Evolves (s.bodyScope scope) _ _ :=
    evolves_bindFormals (s.enterBody scope node plan.body).2.2 (plan.body.inputs.zip plan.expected)
  have ht := hbind.additive henter
  rw [enterLoop] at h ⊢
  generalize hformals : (s.enterBody scope node plan.body).2.2.bindFormals (s.bodyScope scope)
    (plan.body.inputs.zip plan.expected) = t at h ht ⊢
  have hinit := (evolves_bindInitializers t plan.body.initializers : t.Evolves (s.bodyScope scope) _)
  have hblk := (Builder.block?_openBlock s.builder s!"{node.displayName}_body" s.bodyBlock).trans (if_pos rfl)
  obtain ⟨args, hargs, hall⟩ := bindFormals_arguments henter hblk
    (hformals ▸ Nat.le_trans hinit.diagnostics.length_le h)
  rw [hformals] at hargs hall
  refine ⟨_, (congrArg (·[s.bodyBlock.index]?) (blocks_bindInitializers ..)).trans hargs, ?_⟩
  simpa [Block.new] using hall.imp fun _ _ => (hinit.builder ht).function.binds

/-! ## The instruction -/

theorem length_resolveOutputs {s : Session} {scope : ScopeId} {outputs : List DeclaredValue} {values : List ValueId}
    (h : s.resolveOutputs scope outputs = some values) : values.length = outputs.length :=
  (forall₂_of_resolveOutputs h).length_eq.symm

theorem loopTypes_carried {s : Session} {node : Node} {carried : List TensorType} {yielded : List ValueId} {i : Nat}
    {type : TensorType} (h : (s.loopTypes node carried yielded)[i]? = some type) (hi : i < carried.length) :
    carried[i]? = some type := by
  rw [loopTypes, List.getElem?_take] at h
  split at h
  · rwa [List.getElem?_append_left hi] at h
  · cases h

theorem loopTypes_scanned {s : Session} {node : Node} {carried : List TensorType} {yielded : List ValueId} {i : Nat}
    {type : TensorType} (h : (s.loopTypes node carried yielded)[i]? = some type) (hi : carried.length ≤ i) :
    ∃ v, yielded[i + 1]? = some v ∧ type = ((s.builder.function.type? v).getD (.unranked .f32)).stacked := by
  rw [loopTypes, List.getElem?_take] at h
  split at h
  · rw [List.getElem?_append_right hi, List.getElem?_map] at h
    obtain ⟨v, hv, rfl⟩ := Option.map_eq_some_iff.1 h
    rw [List.getElem?_drop, show 1 + carried.length + (i - carried.length) = i + 1 by omega] at hv
    exact ⟨v, hv, rfl⟩
  · cases h

end Session

theorem Builder.Sees.type? {pending : Nesting} {b : Builder} {v : ValueId} (h : b.Sees pending v) :
    ∃ type, b.function.type? v = some type := by
  obtain ⟨d, ⟨⟨r, hr, -⟩, -⟩, -⟩ := h
  exact ⟨r.type, Option.map_eq_some_iff.2 ⟨r, hr, rfl⟩⟩

theorem Builder.type?_append {b : Builder} {op : OpSpec} {i : Nat} {v : ValueId} (hv : (b.append op).1[i]? = some v) :
    (b.append op).2.function.type? v = op.resultTypes[i]? := by
  obtain ⟨results, htypes, -, hvalues, he⟩ := b.append_eq op
  rw [hvalues, List.getElem?_map] at hv
  obtain ⟨index, hi, rfl⟩ := Option.map_eq_some_iff.1 hv
  obtain ⟨hlt, rfl⟩ := List.getElem?_eq_some_iff.1 hi
  rw [he, ← htypes, List.getElem?_map]
  simp [Function.type?, Function.value?, withInstruction, Array.getElem?_append_right]

theorem LoopPlan.Checked.expected? {f : Function} {node : Node} {plan : LoopPlan} (h : plan.Checked f node)
    {ins : Instruction} (hins : ins.operands = plan.operands) {k : Nat} {type : TensorType}
    (hk : plan.expected[k]? = some type) : f.expected? ins k = some type := by
  match k with
  | 0 | 1 => exact hk
  | k + 2 =>
    obtain ⟨v, hv, ht⟩ := h.carried k type hk
    rw [Function.expected?, hins, hv]
    exact ht

/-- The arguments that formals have become, one by one. -/
theorem LoopPlan.Checked.untyped {f : Function} {node : Node} {plan : LoopPlan} (h : plan.Checked f node)
    {arguments : Array ValueId} (ha : List.Forall₂ f.Binds (plan.body.inputs.zip plan.expected) arguments.toList)
    {ins : Instruction} (hins : ins.operands = plan.operands) {k : Nat} {formal : DeclaredValue}
    (hk : plan.body.inputs[k]? = some formal) :
    ∃ v r, arguments[k]? = some v ∧ f.value? v = some r ∧ r.name = formal.name ∧
      (formal.code = none → f.expected? ins k = some r.type) := by
  have hexpected : plan.expected.length = plan.body.inputs.length := h.inputs.symm
  obtain ⟨hlt, rfl⟩ := List.getElem?_eq_some_iff.1 hk
  have hzip : k < (plan.body.inputs.zip plan.expected).length := by
    rw [List.length_zip, hexpected, Nat.min_self]
    exact hlt
  have hlist : k < arguments.toList.length := ha.length_eq ▸ hzip
  obtain ⟨r, hr, hname, htype⟩ := ha.get hzip hlist
  rw [List.get_eq_getElem, List.getElem_zip] at hname htype
  refine ⟨_, r, ?_, hr, hname, fun hcode => h.expected? hins ?_⟩
  · rw [← Array.getElem?_toList]
    exact List.getElem?_eq_getElem hlist
  · rw [htype hcode]
    exact List.getElem?_eq_getElem _

namespace Session

/-- The loop comes after its body, and the two agree with each other and with the plan. -/
theorem bodyOf_finishLoop {s : Session} {pending : Nesting} (hs : s.builder.Scoped pending) {node : Node}
    {plan : LoopPlan} (hp : plan.Checked s.builder.function node) {block : BlockId} (hne : block ≠ s.builder.current)
    {blk : Block} (hblk : s.builder.function.block? block = some blk)
    (harguments : List.Forall₂ s.builder.function.Binds (plan.body.inputs.zip plan.expected) blk.arguments.toList)
    (hyields : blk.results.length = plan.body.outputs.length)
    (htyped : ∀ v ∈ blk.results, ∃ type, s.builder.function.type? v = some type) (scope : ScopeId) :
    (s.finishLoop scope node plan block blk.results).2.builder.function.BodyOf block plan.body := by
  rw [finishLoop_builder]
  generalize hop : s.loopOp node plan block blk.results = op
  have hoperands : (s.builder.instructionOf op).operands = plan.operands := hop ▸ rfl
  have htypes : op.resultTypes = s.loopTypes node plan.carried blk.results := hop ▸ rfl
  have hg := s.builder.grows_append op
  have hresult : ∀ (i : Nat) v, (s.builder.append op).1[i]? = some v → ∃ type,
      (s.loopTypes node plan.carried blk.results)[i]? = some type ∧
        (s.builder.append op).2.function.type? v = some type := by
    intro i v hv
    have hlt : i < op.resultTypes.length := s.builder.length_append op ▸ (List.getElem?_eq_some_iff.1 hv).1
    have ht := List.getElem?_eq_getElem hlt
    exact ⟨_, htypes ▸ ht, (Builder.type?_append hv).trans ht⟩
  refine ⟨s.builder.current, s.builder.position, s.builder.instructionOf op, blk, plan.carried.length,
    Builder.instruction?_append hs op, hop ▸ rfl, hop ▸ rfl, hg.others block blk hne hblk, ?_⟩
  exact {
    operands := (congrArg List.length hoperands).trans hp.operands
    present := fun i hi => by
      obtain ⟨v, hv, -⟩ := hp.carried i _ (List.getElem?_eq_getElem hi)
      exact ⟨v, hoperands.symm ▸ hv⟩
    arguments := by
      have hlen := harguments.length_eq
      rw [List.length_zip, hp.inputs] at hlen
      simpa [LoopPlan.expected] using hlen.symm
    yields := hyields ▸ hp.yields
    results := by
      have hlen : (s.loopTypes node plan.carried blk.results).length ≤ node.outputs.length := List.length_take_le ..
      rw [← htypes, ← s.builder.length_append op] at hlen
      exact hyields ▸ Nat.le_trans hlen hp.outputs
    carried := fun i v hi hv => by
      obtain ⟨type, ht, htv⟩ := hresult i v hv
      obtain ⟨w, hw, htw⟩ := hp.carried i type (loopTypes_carried ht hi)
      exact ⟨w, type, hoperands.symm ▸ hw, hg.function.type? htw, htv⟩
    scanned := fun i v hi hv => by
      obtain ⟨type, ht, htv⟩ := hresult i v hv
      obtain ⟨w, hw, rfl⟩ := loopTypes_scanned ht hi
      obtain ⟨type, htw⟩ := htyped w (List.mem_of_getElem? hw)
      rw [htw, Option.getD_some] at htv
      exact ⟨w, type, hw, hg.function.type? htw, htv⟩
    formals := hp.inputs
    untyped := fun k formal hk => by
      obtain ⟨v, r, hv, hr, hname, htype⟩ := hp.untyped harguments hoperands hk
      exact ⟨v, r, hv, hg.function.values v r hr, hname, fun hcode => hg.function.expected? (htype hcode)⟩ }

end Session

end ModelImport
