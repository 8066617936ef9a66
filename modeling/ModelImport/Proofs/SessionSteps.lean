import ModelImport.Proofs.BuilderGrowth
import ModelImport.Proofs.Lowering
import ModelImport.Proofs.ScopeArena
import ModelImport.Session.Graph
/-!
# Steps of a session

What the small steps of a session change. All of them have one shape (`Evolves`): the names of one scope grow, failures
are added at the end, and nothing else that a later step reads changes. The function under construction grows as well, as
long as the converters do nothing but add to it (`Registry.Additive`), and the same blocks are open as before, as long as
converters leave them so (`Registry.Balanced`); those of the library do both. A session is honest when it has recorded a
failure for everything it has given up; the steps keep it so. The token and the count of converted nodes are for the
loop over the nodes to change, and no step does (`Quiet`).
-/

namespace ModelImport

theorem Lowering.length_apply (l : Lowering) (b : Builder) : (l.apply b).1.length = l.count := by
  rw [apply, count]
  cases l.addition with
  | none => rfl
  | some addition =>
    cases addition with
    | instruction op => exact List.length_append.trans (congrArg _ (b.length_append op))
    | constant name data => exact List.length_append

/-- Whatever the converters do to a builder, failing or not, is to add to it. -/
def Registry.Additive (r : Registry) : Prop :=
  ∀ ⦃opType c⦄, r.find? opType = some c → ∀ context (b : Builder), b.Grows (c.run context b).2

theorem Registry.builtin_additive : builtin.Additive := by
  intro opType c h context b
  rcases Converter.run_cases ((builtin_fits h).fits ⟨context, b.function⟩) with ⟨e, hrun⟩ | ⟨l, view, -, hrun⟩
  · rw [hrun]
    exact .refl b
  · rw [hrun]
    exact Builder.grows_apply l b

/-- Whatever blocks the converters open they close again, failing or not, and they close no others. -/
def Registry.Balanced (r : Registry) : Prop :=
  ∀ ⦃opType c⦄, r.find? opType = some c → ∀ context (b : Builder), (c.run context b).2.stack = b.stack

theorem Registry.Additive.balanced {r : Registry} (h : r.Additive) : r.Balanced :=
  fun _ _ hc context b => (h hc context b).stack

namespace Session

/-- The converters of the session only add to its function, and there is a block to add to. -/
structure Additive (s : Session) : Prop where
  registry : s.registry.Additive
  nonempty : s.builder.stack ≠ []

/-- The converters of the session leave the open blocks as they are, and there is one. -/
structure Balanced (s : Session) : Prop where
  registry : s.registry.Balanced
  nonempty : s.builder.stack ≠ []

/-- Stopping early and outputs that are missing are never without a recorded failure. -/
def Honest (s : Session) : Prop := s.diagnostics = [] → s.cancelled = false ∧ s.failedOutputs = []

theorem honest_of_ne {s : Session} (h : s.diagnostics ≠ []) : s.Honest := fun he => absurd he h

/-- The session has gone on working in a scope. -/
structure Evolves (scope : ScopeId) (s s' : Session) : Prop where
  registry : s'.registry = s.registry
  options : s'.options = s.options
  path : s'.path = s.path
  phase : s'.phase = s.phase
  outputs : s'.outputs = s.outputs
  builder : s.Additive → s.builder.Grows s'.builder
  stack : s.Balanced → s'.builder.stack = s.builder.stack
  scopes : s.scopes.Grows scope s'.scopes
  diagnostics : s.diagnostics <+: s'.diagnostics
  honest : s.Honest → s'.Honest

variable {scope : ScopeId}

theorem Evolves.refl (s : Session) : s.Evolves scope s :=
  ⟨rfl, rfl, rfl, rfl, rfl, fun _ => .refl _, fun _ => rfl, .refl _ _, List.prefix_refl _, id⟩

theorem Evolves.additive {s s' : Session} (h : s.Evolves scope s') (hs : s.Additive) : s'.Additive :=
  ⟨h.registry ▸ hs.registry, (h.builder hs).stack ▸ hs.nonempty⟩

theorem Evolves.balanced {s s' : Session} (h : s.Evolves scope s') (hs : s.Balanced) : s'.Balanced :=
  ⟨h.registry ▸ hs.registry, h.stack hs ▸ hs.nonempty⟩

theorem Evolves.trans {s t u : Session} (h : s.Evolves scope t) (h' : t.Evolves scope u) : s.Evolves scope u where
  registry := h'.registry.trans h.registry
  options := h'.options.trans h.options
  path := h'.path.trans h.path
  phase := h'.phase.trans h.phase
  outputs := h'.outputs.trans h.outputs
  builder := fun hs => (h.builder hs).trans (h'.builder (h.additive hs))
  stack := fun hs => (h'.stack (h.balanced hs)).trans (h.stack hs)
  scopes := h.scopes.trans h'.scopes
  diagnostics := h.diagnostics.trans h'.diagnostics
  honest := h'.honest ∘ h.honest

/-- No failure in the end, no failure on the way. -/
theorem Evolves.clean {s s' : Session} (h : s.Evolves scope s') (hs : s'.diagnostics = []) : s.diagnostics = [] :=
  List.prefix_nil.1 (hs ▸ h.diagnostics)

theorem evolves_foldl {α : Type} {f : Session → α → Session} (h : ∀ (s : Session) a, s.Evolves scope (f s a))
    (l : List α) (s : Session) : s.Evolves scope (l.foldl f s) := by
  induction l generalizing s with
  | nil => exact .refl s
  | cons a l ih => exact (h s a).trans (ih (f s a))

theorem evolves_builder (s : Session) {b : Builder} (h : s.builder.Grows b) :
    s.Evolves scope { s with builder := b } :=
  { Evolves.refl s with builder := fun _ => h, stack := fun _ => h.stack }

theorem evolves_scopes (s : Session) {t : ScopeTree} (h : s.scopes.Grows scope t) :
    s.Evolves scope { s with scopes := t } :=
  { (Evolves.refl s : s.Evolves scope s) with scopes := h }

/-! ## Failures, names and outputs -/

theorem record_ne_nil (s : Session) (node opType : String) (e : ImportError) :
    (s.record node opType e).diagnostics ≠ [] := List.append_ne_nil_of_right_ne_nil _ (List.cons_ne_nil _ _)

theorem evolves_record (s : Session) (node opType : String) (e : ImportError) :
    s.Evolves scope (s.record node opType e) :=
  { Evolves.refl s with
    diagnostics := List.prefix_append _ _
    honest := fun _ => honest_of_ne (record_ne_nil s node opType e) }

theorem evolves_warnUnread (s : Session) (node : Node) (view : AttributeView) :
    s.Evolves scope (s.warnUnread node view) :=
  { Evolves.refl s with }

theorem evolves_ask (s : Session) (token : CancelToken) : s.Evolves scope { s with token } :=
  { Evolves.refl s with }

theorem evolves_bindName (s : Session) (name kind : String) (v : ValueId) :
    s.Evolves scope (s.bindName scope name kind v) := by
  unfold bindName
  split
  · next t ht => exact evolves_scopes s (ScopeTree.grows_insert ht)
  · exact evolves_record ..

theorem evolves_bindInput (s : Session) (input : DeclaredValue) : s.Evolves scope (s.bindInput scope input) := by
  unfold bindInput
  split
  · exact evolves_record ..
  · exact (evolves_builder s (Builder.grows_createPlaceholder ..)).trans (evolves_bindName ..)

theorem evolves_bindInputs (s : Session) (graph : Graph) : s.Evolves scope (s.bindInputs scope graph) :=
  evolves_foldl (fun s input => evolves_bindInput s input) _ s

theorem evolves_bindFormal (s : Session) (formal : DeclaredValue) (expected : TensorType) :
    s.Evolves scope (s.bindFormal scope formal expected) := by
  unfold bindFormal
  split
  · exact evolves_record ..
  · exact (evolves_builder s (Builder.grows_createArgument ..)).trans (evolves_bindName ..)

theorem evolves_bindFormals (s : Session) (formals : List (DeclaredValue × TensorType)) :
    s.Evolves scope (s.bindFormals scope formals) :=
  evolves_foldl (fun s (x : DeclaredValue × TensorType) => evolves_bindFormal s x.1 x.2) _ s

theorem evolves_bindInitializer (s : Session) (tensor : StoredTensor) :
    s.Evolves scope (s.bindInitializer scope tensor) := by
  unfold bindInitializer
  split
  · exact evolves_record ..
  · exact (evolves_builder s (Builder.grows_createConstant ..)).trans (evolves_bindName ..)

theorem evolves_bindInitializers (s : Session) (tensors : List StoredTensor) :
    s.Evolves scope (s.bindInitializers scope tensors) :=
  evolves_foldl (fun s tensor => evolves_bindInitializer s tensor) _ s

theorem evolves_checkOutputs (s : Session) (outputs : List DeclaredValue) :
    s.Evolves scope (s.checkOutputs scope outputs) := by
  refine evolves_foldl (fun s output => ?_) _ s
  unfold checkOutput
  split
  · exact .refl s
  · exact evolves_record ..

/-- Outputs whose check records nothing are all there, unless the nodes that should have made them failed. -/
theorem checkOutputs_same {s : Session} {outputs : List DeclaredValue}
    (hf : ∀ name, (scope, name) ∉ s.failedOutputs)
    (h : (s.checkOutputs scope outputs).diagnostics = s.diagnostics) :
    s.checkOutputs scope outputs = s ∧ ∃ values, s.resolveOutputs scope outputs = some values := by
  induction outputs with
  | nil => exact ⟨rfl, [], rfl⟩
  | cons output outputs ih =>
    rw [checkOutputs, List.foldl_cons] at h ⊢
    -- a check that records nothing has found its output, since no node of the scope has failed
    have hfirst : s.checkOutput scope output = s ∧ ∃ v, s.scopes.find? scope output.name = some v := by
      have hpre := (evolves_checkOutputs (s.checkOutput scope output) outputs : Evolves scope _ _).diagnostics
      rw [checkOutputs, h] at hpre
      by_cases hc : s.scopes.contains scope output.name || s.failedOutputs.contains (scope, output.name)
      · refine ⟨if_pos hc, Option.isSome_iff_exists.1 ?_⟩
        simpa [ScopeTree.contains, hf output.name] using hc
      · rw [checkOutput, if_neg hc] at hpre
        have hlen := hpre.length_le
        rw [record, List.length_append] at hlen
        exact absurd hlen (Nat.not_succ_le_self _)
    obtain ⟨hsame, v, hv⟩ := hfirst
    rw [hsame] at h ⊢
    obtain ⟨hrest, values, hvalues⟩ := ih h
    refine ⟨hrest, v :: values, ?_⟩
    rw [resolveOutputs] at hvalues ⊢
    rw [List.mapM_cons, hv, hvalues]
    rfl

/-! ## Values of inputs and outputs -/

theorem exists_of_mem_resolveInputs {s : Session} {node : Node} {operands : List (Option ValueId)}
    (h : s.resolveInputs scope node = .ok operands) {v : ValueId} (hv : some v ∈ operands) :
    ∃ name ∈ node.inputs, s.scopes.find? scope name = some v := by
  rw [resolveInputs] at h
  -- for any list of names, so that the induction can take them one by one
  generalize node.inputs = names at h ⊢
  induction names generalizing operands with
  | nil => cases h; cases hv
  | cons name names ih =>
    rw [List.mapM_cons] at h
    cases hname : s.resolveInput scope name with
    | error e => rw [hname] at h; cases h
    | ok o =>
      cases hrest : names.mapM (s.resolveInput scope) with
      | error e => rw [hname, hrest] at h; cases h
      | ok os =>
        rw [hname, hrest] at h
        cases h
        rcases List.mem_cons.1 hv with rfl | hv
        · refine ⟨name, List.mem_cons_self, ?_⟩
          rw [resolveInput] at hname
          split at hname
          · cases hname
          · split at hname
            · next hw => cases hname; exact hw
            · cases hname
        · obtain ⟨x, hx, hfind⟩ := ih hv hrest
          exact ⟨x, List.mem_cons_of_mem _ hx, hfind⟩

theorem exists_of_mem_resolveOutputs {s : Session} {outputs : List DeclaredValue} {values : List ValueId}
    (h : s.resolveOutputs scope outputs = some values) {v : ValueId} (hv : v ∈ values) :
    ∃ output ∈ outputs, s.scopes.find? scope output.name = some v := by
  rw [resolveOutputs] at h
  induction outputs generalizing values with
  | nil => cases h; cases hv
  | cons output outputs ih =>
    rw [List.mapM_cons] at h
    obtain ⟨w, hw, h⟩ := Option.bind_eq_some_iff.1 h
    obtain ⟨ws, hws, h⟩ := Option.bind_eq_some_iff.1 h
    cases h
    rcases List.mem_cons.1 hv with rfl | hv
    · exact ⟨output, List.mem_cons_self, hw⟩
    · obtain ⟨x, hx, hfind⟩ := ih hws hv
      exact ⟨x, List.mem_cons_of_mem _ hx, hfind⟩

/-! ## One node -/

theorem grows_insertAll (scope : ScopeId) (t : ScopeTree) (pairs : List (String × ValueId)) :
    t.Grows scope (t.insertAll scope pairs).2 := by
  induction pairs generalizing t with
  | nil => exact .refl t scope
  | cons pair pairs ih =>
    rw [ScopeTree.insertAll]
    split
    · exact ih t
    · split
      · next t' ht => exact (ScopeTree.grows_insert ht).trans (ih t')
      · exact .refl t scope

/-- The outputs of a node: too few values, or names bound until one cannot be. -/
theorem bindOutputs_cases (s : Session) (scope : ScopeId) (node : Node) (values : List ValueId) :
    values.length < node.outputs.length ∧ s.bindOutputs scope node values =
        (.failed (.arity node.opType "results" node.outputs.length (some node.outputs.length) values.length), s) ∨
    node.outputs.length ≤ values.length ∧ ∃ t,
      s.scopes.insertAll scope (node.outputs.zip values) = (none, t) ∧
          s.bindOutputs scope node values = (.converted, { s with scopes := t }) ∨
        ∃ e, s.scopes.insertAll scope (node.outputs.zip values) = (some e, t) ∧
          s.bindOutputs scope node values = (.failed e, { s with scopes := t }) := by
  rw [bindOutputs]
  by_cases hlen : values.length < node.outputs.length
  · exact .inl ⟨hlen, if_pos hlen⟩
  · refine .inr ⟨Nat.le_of_not_lt hlen, ?_⟩
    rcases hi : s.scopes.insertAll scope (node.outputs.zip values) with ⟨_ | e, t⟩
    · exact ⟨t, .inl ⟨rfl, if_neg hlen⟩⟩
    · exact ⟨t, .inr ⟨e, rfl, if_neg hlen⟩⟩

/-- Whether or not they can all be bound, outputs change nothing but names. -/
theorem bindOutputs_snd (s : Session) (scope : ScopeId) (node : Node) (values : List ValueId) :
    (s.bindOutputs scope node values).2 = s ∨ (s.bindOutputs scope node values).2 =
      { s with scopes := (s.scopes.insertAll scope (node.outputs.zip values)).2 } := by
  rcases bindOutputs_cases s scope node values with ⟨-, he⟩ | ⟨-, t, ⟨hi, he⟩ | ⟨e, hi, he⟩⟩
  · exact .inl (by rw [he])
  · exact .inr (by rw [he, hi])
  · exact .inr (by rw [he, hi])

theorem evolves_bindOutputs (s : Session) (node : Node) (values : List ValueId) :
    s.Evolves scope (s.bindOutputs scope node values).2 := by
  rcases bindOutputs_snd s scope node values with he | he
  · rw [he]; exact .refl s
  · rw [he]; exact evolves_scopes s (grows_insertAll ..)

theorem bindOutputs_builder (s : Session) (scope : ScopeId) (node : Node) (values : List ValueId) :
    (s.bindOutputs scope node values).2.builder = s.builder := by
  rcases bindOutputs_snd s scope node values with he | he <;> rw [he]

theorem evolves_conclude (s : Session) (node : Node) (values : List ValueId) (view : AttributeView) :
    s.Evolves scope (s.conclude scope node values view).2 :=
  (evolves_warnUnread s node view).trans (evolves_bindOutputs _ node values)

theorem conclude_builder (s : Session) (scope : ScopeId) (node : Node) (values : List ValueId) (view : AttributeView) :
    (s.conclude scope node values view).2.builder = s.builder := bindOutputs_builder ..

theorem conclude_ne_reported (s : Session) (scope : ScopeId) (node : Node) (values : List ValueId)
    (view : AttributeView) : (s.conclude scope node values view).1 ≠ .reported := by
  rw [conclude]
  rcases bindOutputs_cases (s.warnUnread node view) scope node values with
    ⟨-, he⟩ | ⟨-, t, ⟨-, he⟩ | ⟨e, -, he⟩⟩ <;> rw [he] <;> nofun

theorem dispatch_eq_ok {s : Session} {opset : Int} {node : Node} {c : Converter} {context : Context}
    (h : s.dispatch scope opset node = .ok (c, context)) :
    ∃ operands, s.resolveInputs scope node = .ok operands ∧ s.registry.find? node.opType = some c ∧
      context = ⟨node, operands, opset⟩ := by
  simp only [dispatch, bind, Except.bind] at h
  split at h
  · cases h
  · next operands ho =>
    split at h
    · cases h
    · simp only [Registry.lookup] at h
      split at h
      · cases h
      · next c' hc =>
        cases h
        split at hc
        · next c'' hfind => cases hc; exact ⟨operands, ho, hfind, rfl⟩
        · cases hc

/-- The session in which a converter runs. -/
def prime (s : Session) (c : Converter) : Session := if c.cancels then s.cancel else s

/-- The session once a converter has run. -/
def ran (s : Session) (c : Converter) (context : Context) : Session :=
  { s.prime c with builder := (c.run context s.builder).2 }

/-- A converter may change the builder and set the token, and nothing else. -/
theorem ran_eq (s : Session) (c : Converter) (context : Context) :
    ∃ token, s.ran c context = { s with token, builder := (c.run context s.builder).2 } := by
  unfold ran prime
  split
  · exact ⟨_, rfl⟩
  · exact ⟨s.token, rfl⟩

theorem evolves_ran (s : Session) {opType : String} {c : Converter} (h : s.registry.find? opType = some c)
    (context : Context) : s.Evolves scope (s.ran c context) := by
  obtain ⟨token, hran⟩ := s.ran_eq c context
  rw [hran]
  exact { Evolves.refl s with
    builder := fun hs => hs.registry h context s.builder
    stack := fun hs => hs.registry h context s.builder }

/-- An ordinary node fails before its converter is run, or its converter has been run on the values of its inputs. -/
theorem convertNode_cases (s : Session) (scope : ScopeId) (opset : Int) (node : Node) :
    (∃ e, s.dispatch scope opset node = .error e ∧ s.convertNode scope opset node = (.failed e, s)) ∨
    ∃ operands c, s.resolveInputs scope node = .ok operands ∧ s.registry.find? node.opType = some c ∧
      s.dispatch scope opset node = .ok (c, ⟨node, operands, opset⟩) ∧
      ((∃ e, (c.run ⟨node, operands, opset⟩ s.builder).1 = .error e ∧
          s.convertNode scope opset node = (.failed e, s.ran c ⟨node, operands, opset⟩)) ∨
        ∃ values view, (c.run ⟨node, operands, opset⟩ s.builder).1 = .ok (values, view) ∧
          s.convertNode scope opset node = (s.ran c ⟨node, operands, opset⟩).conclude scope node values view) := by
  rw [convertNode]
  cases hd : s.dispatch scope opset node with
  | error e => exact .inl ⟨e, rfl, rfl⟩
  | ok r =>
    obtain ⟨c, context⟩ := r
    obtain ⟨operands, ho, hc, rfl⟩ := dispatch_eq_ok hd
    refine .inr ⟨operands, c, ho, hc, rfl, ?_⟩
    have hbuilder : (if c.cancels then s.cancel else s).builder = s.builder := by split <;> rfl
    simp only [hbuilder]
    rcases hrun : c.run ⟨node, operands, opset⟩ s.builder with ⟨_ | ⟨values, view⟩, b⟩
    · exact .inl ⟨_, rfl, by simp only [ran, prime, hrun]⟩
    · exact .inr ⟨values, view, rfl, by simp only [ran, prime, hrun]⟩

theorem evolves_convertNode (s : Session) (opset : Int) (node : Node) :
    s.Evolves scope (s.convertNode scope opset node).2 := by
  rcases convertNode_cases s scope opset node with
    ⟨e, -, he⟩ | ⟨operands, c, -, hc, -, ⟨e, -, he⟩ | ⟨values, view, -, he⟩⟩
  · rw [he]; exact .refl s
  · rw [he]; exact evolves_ran s hc _
  · rw [he]; exact (evolves_ran s hc _).trans (evolves_conclude ..)

theorem convertNode_ne_reported (s : Session) (scope : ScopeId) (opset : Int) (node : Node) :
    (s.convertNode scope opset node).1 ≠ .reported := by
  rcases convertNode_cases s scope opset node with
    ⟨e, -, he⟩ | ⟨operands, c, -, -, -, ⟨e, -, he⟩ | ⟨values, view, -, he⟩⟩
  · rw [he]; nofun
  · rw [he]; nofun
  · rw [he]; exact conclude_ne_reported _ _ _ _ _

/-! ## Nodes of the library -/

/-- The session to which the addition of a node has been made, its outputs not yet bound. -/
def added (s : Session) (node : Node) (lowering : Lowering) (view : AttributeView) : Session :=
  { s with builder := (lowering.apply s.builder).2 }.warnUnread node view

/-- Makes the addition of a node and binds its outputs. -/
def applyLowering (s : Session) (scope : ScopeId) (node : Node) (lowering : Lowering) (view : AttributeView) :
    NodeOutcome × Session :=
  (s.added node lowering view).bindOutputs scope node (lowering.apply s.builder).1

theorem additive_of_builtin {s : Session} (hreg : s.registry = .builtin) (h : s.builder.stack ≠ []) : s.Additive :=
  ⟨hreg ▸ Registry.builtin_additive, h⟩

/-- A node of the library fails without a trace, or it has become the lowering that its converter comes to. -/
theorem convertNode_builtin {s : Session} (hreg : s.registry = .builtin) (scope : ScopeId) (opset : Int) (node : Node) :
    (∃ e, s.convertNode scope opset node = (.failed e, s)) ∨
    ∃ operands c lowering view, s.resolveInputs scope node = .ok operands ∧
      Registry.builtin.find? node.opType = some c ∧
      c.ComesTo ⟨⟨node, operands, opset⟩, s.builder.function⟩ (.ok (lowering, view)) ∧
      lowering.Fits ⟨⟨node, operands, opset⟩, s.builder.function⟩ ∧
      s.convertNode scope opset node = s.applyLowering scope node lowering view := by
  rcases convertNode_cases s scope opset node with ⟨e, -, he⟩ | ⟨operands, c, hin, hc, -, hcase⟩
  · exact .inl ⟨e, he⟩
  rw [hreg] at hc
  have hfits := Registry.builtin_fits hc
  have hran : s.ran c ⟨node, operands, opset⟩ = { s with builder := (c.run ⟨node, operands, opset⟩ s.builder).2 } := by
    rw [ran, prime, if_neg (by rw [hfits.cancels]; exact Bool.false_ne_true)]
  obtain ⟨_ | ⟨lowering, view⟩, hcomes, hfit⟩ :=
    hfits.fits ⟨⟨node, operands, opset⟩, s.builder.function⟩ (.ofBag node.attributes)
  · rw [hran, Converter.ComesTo.run hcomes] at hcase
    rcases hcase with ⟨e, -, he⟩ | ⟨values, view, hrun, -⟩
    · exact .inl ⟨e, he⟩
    · cases hrun
  · rw [hran, Converter.ComesTo.run hcomes] at hcase
    rcases hcase with ⟨e, hrun, -⟩ | ⟨values, view', hrun, he⟩
    · cases hrun
    · cases hrun
      exact .inr ⟨operands, c, lowering, view, hin, hc, hcomes, hfit lowering view rfl, he⟩

/-- A failure inside a body is the body's to record; any other is recorded here. -/
theorem evolves_settle {s : Session} (node : Node) {outcome : NodeOutcome} (h : outcome ≠ .reported) :
    s.Evolves scope (s.settle scope node outcome) := by
  cases outcome with
  | converted => exact { Evolves.refl s with }
  | reported => exact absurd rfl h
  | failed e =>
    exact { evolves_record s node.displayName node.opType e with
      honest := fun _ => honest_of_ne (record_ne_nil s node.displayName node.opType e) }

theorem evolves_stop (s : Session) (node : Node) : s.Evolves scope (s.stop node) :=
  { evolves_record s node.displayName node.opType .cancelled with
    honest := fun _ => honest_of_ne (record_ne_nil s node.displayName node.opType .cancelled) }

/-! ## The token and the counter -/

/-- The token and the number of converted nodes are as before. -/
structure Quiet (s s' : Session) : Prop where
  token : s'.token = s.token
  convertedNodes : s'.convertedNodes = s.convertedNodes

theorem Quiet.refl (s : Session) : s.Quiet s := ⟨rfl, rfl⟩

theorem Quiet.trans {s t u : Session} (h : s.Quiet t) (h' : t.Quiet u) : s.Quiet u :=
  ⟨h'.token.trans h.token, h'.convertedNodes.trans h.convertedNodes⟩

theorem quiet_foldl {α : Type} {f : Session → α → Session} (h : ∀ (s : Session) a, s.Quiet (f s a)) (l : List α)
    (s : Session) : s.Quiet (l.foldl f s) := by
  induction l generalizing s with
  | nil => exact .refl s
  | cons a l ih => exact (h s a).trans (ih (f s a))

theorem quiet_builder (s : Session) (builder : Builder) : s.Quiet { s with builder } := ⟨rfl, rfl⟩

theorem quiet_bindName (s : Session) (scope : ScopeId) (name kind : String) (v : ValueId) :
    s.Quiet (s.bindName scope name kind v) := by
  unfold bindName
  split
  · exact ⟨rfl, rfl⟩
  · exact ⟨rfl, rfl⟩

theorem quiet_bindInputs (s : Session) (scope : ScopeId) (graph : Graph) : s.Quiet (s.bindInputs scope graph) := by
  refine quiet_foldl (fun s input => ?_) _ s
  unfold bindInput
  split
  · exact ⟨rfl, rfl⟩
  · exact (quiet_builder s _).trans (quiet_bindName ..)

theorem quiet_bindFormals (s : Session) (scope : ScopeId) (formals : List (DeclaredValue × TensorType)) :
    s.Quiet (s.bindFormals scope formals) := by
  refine quiet_foldl (fun s formal => ?_) _ s
  obtain ⟨formal, expected⟩ := formal
  change s.Quiet (s.bindFormal scope formal expected)
  unfold bindFormal
  split
  · exact ⟨rfl, rfl⟩
  · exact (quiet_builder s _).trans (quiet_bindName ..)

theorem quiet_bindInitializers (s : Session) (scope : ScopeId) (tensors : List StoredTensor) :
    s.Quiet (s.bindInitializers scope tensors) := by
  refine quiet_foldl (fun s tensor => ?_) _ s
  unfold bindInitializer
  split
  · exact ⟨rfl, rfl⟩
  · exact (quiet_builder s _).trans (quiet_bindName ..)

theorem quiet_checkOutputs (s : Session) (scope : ScopeId) (outputs : List DeclaredValue) :
    s.Quiet (s.checkOutputs scope outputs) := by
  refine quiet_foldl (fun s output => ?_) _ s
  unfold checkOutput
  split
  · exact .refl s
  · exact ⟨rfl, rfl⟩

theorem quiet_conclude (s : Session) (scope : ScopeId) (node : Node) (values : List ValueId) (view : AttributeView) :
    s.Quiet (s.conclude scope node values view).2 := by
  rw [conclude]
  rcases bindOutputs_snd (s.warnUnread node view) scope node values with he | he
  · rw [he]; exact ⟨rfl, rfl⟩
  · rw [he]; exact ⟨rfl, rfl⟩

theorem quiet_convertNode {s : Session} (hreg : s.registry = .builtin) (scope : ScopeId) (opset : Int) (node : Node) :
    s.Quiet (s.convertNode scope opset node).2 := by
  rcases convertNode_builtin hreg scope opset node with ⟨_, hc⟩ | ⟨operands, c, lowering, view, -, -, -, -, hc⟩
  · rw [hc]
    exact .refl s
  · rw [hc]
    exact (quiet_builder s _).trans (quiet_conclude ..)

end Session

end ModelImport
