import ModelImport.Import
import ModelImport.Proofs.CleanRun
import ModelImport.Proofs.Dominance
/-!
# Imported functions are well scoped

In the function that an import returns, every use of a value is dominated by its definition (`import_well_scoped`). The
invariant ties the three parts of a session together: whatever a name in scope stands for may be used by the next
instruction of the innermost open block (`Session.Scoped`). In a loop body this rests on the place where the loop itself
will stand, which is kept pending until the loop is there.
-/

namespace ModelImport

/-! ## Names -/

namespace ScopeTree

theorem names_insert {t t' : ScopeTree} {id : ScopeId} {name : String} {w : ValueId} {P : ValueId → Prop}
    (wf : t.WellFormed) (ht : t.insert id name w = .ok t') (h : ∀ x v, t.find? id x = some v → P v) (hw : P w) :
    ∀ x v, t'.find? id x = some v → P v := by
  obtain ⟨r, hr, -, rfl⟩ := insert_eq_ok ht
  intro x v hv
  rw [find?_addNames_self wf hr, List.find?_singleton] at hv
  split at hv
  · cases hv
    exact hw
  · exact h x v hv

theorem names_insertAll {t : ScopeTree} {id : ScopeId} {pairs : List (String × ValueId)} {P : ValueId → Prop}
    (wf : t.WellFormed) (h : ∀ x v, t.find? id x = some v → P v) (hp : ∀ pair ∈ pairs, P pair.2) :
    ∀ x v, (t.insertAll id pairs).2.find? id x = some v → P v := by
  induction pairs generalizing t with
  | nil => exact h
  | cons pair pairs ih =>
    have hrest := fun p hmem => hp p (List.mem_cons_of_mem _ hmem)
    rw [insertAll]
    split
    · exact ih wf h hrest
    · split
      · next t' ht =>
        exact ih ((grows_insert ht).wellFormed wf) (names_insert wf ht h (hp pair List.mem_cons_self)) hrest
      · exact h

end ScopeTree

namespace Session

/-- Every use is dominated so far, and so would be every use of a name in scope. -/
structure Scoped (pending : Nesting) (scope : ScopeId) (s : Session) : Prop where
  usable : s.scopes.Usable scope
  builder : s.builder.Scoped pending
  names : ∀ name v, s.scopes.find? scope name = some v → s.builder.Sees pending v

section Steps
variable {pending : Nesting} {scope : ScopeId} {s : Session}

theorem Scoped.congr {s' : Session} (hs : s.Scoped pending scope) (hb : s'.builder = s.builder)
    (hn : s'.scopes = s.scopes) : s'.Scoped pending scope :=
  ⟨hn ▸ hs.usable, hb ▸ hs.builder, fun name v h => hb ▸ hs.names name v (hn ▸ h)⟩

/-- Adding a value to the function and a name for it. -/
theorem Scoped.bindName (hs : s.Scoped pending scope) {b : Builder} {v : ValueId} (hg : s.builder.Grows b)
    (hb : b.Scoped pending) (hv : b.Sees pending v) (name kind : String) :
    ({ s with builder := b }.bindName scope name kind v).Scoped pending scope := by
  have hnames : ∀ x w, s.scopes.find? scope x = some w → b.Sees pending w := fun x w h => hg.sees (hs.names x w h)
  unfold Session.bindName
  split
  · next t ht =>
    exact ⟨(ScopeTree.grows_insert ht).usable hs.usable, hb, ScopeTree.names_insert hs.usable.wf ht hnames hv⟩
  · exact ⟨hs.usable, hb, hnames⟩

theorem Scoped.bindInput (hs : s.Scoped pending scope) (input : DeclaredValue) :
    (s.bindInput scope input).Scoped pending scope := by
  unfold Session.bindInput
  split
  · exact hs.congr rfl rfl
  · exact hs.bindName (Builder.grows_createPlaceholder ..) (Builder.scoped_createPlaceholder hs.builder ..)
      (Builder.sees_createPlaceholder ..) ..

theorem Scoped.bindFormal (hs : s.Scoped pending scope) (formal : DeclaredValue) (expected : TensorType) :
    (s.bindFormal scope formal expected).Scoped pending scope := by
  unfold Session.bindFormal
  split
  · exact hs.congr rfl rfl
  · exact hs.bindName (Builder.grows_createArgument ..) (Builder.scoped_createArgument hs.builder ..)
      (Builder.sees_createArgument hs.builder ..) ..

theorem Scoped.bindInitializer (hs : s.Scoped pending scope) (tensor : StoredTensor) :
    (s.bindInitializer scope tensor).Scoped pending scope := by
  unfold Session.bindInitializer
  split
  · exact hs.congr rfl rfl
  · exact hs.bindName (Builder.grows_createConstant ..) (Builder.scoped_createConstant hs.builder ..)
      (Builder.sees_createConstant ..) ..

theorem Scoped.foldl {α : Type} {f : Session → α → Session}
    (hf : ∀ (s : Session) a, s.Scoped pending scope → (f s a).Scoped pending scope) (l : List α)
    (hs : s.Scoped pending scope) : (l.foldl f s).Scoped pending scope := by
  induction l generalizing s with
  | nil => exact hs
  | cons a l ih => exact ih (hf s a hs)

/-- What is added from values that may be used may be used, and so may be the outputs bound to it. -/
theorem Scoped.applyLowering (hs : s.Scoped pending scope) (node : Node) {l : Lowering} (view : AttributeView)
    (hl : ∀ v ∈ l.forwarded, s.builder.Sees pending v)
    (hop : ∀ op, l.addition = some (.instruction op) → ∀ v, some v ∈ op.operands → s.builder.Sees pending v)
    (hloop : ∀ op, l.addition = some (.instruction op) → op.opType = "Loop" →
      ∀ c, op.params.find? "body" = some (.block c) → pending s.builder.current s.builder.position c) :
    (s.applyLowering scope node l view).2.Scoped pending scope := by
  have hb := Builder.scoped_apply hs.builder hop hloop
  have hnames : ∀ x w, s.scopes.find? scope x = some w → (l.apply s.builder).2.Sees pending w := fun x w h =>
    (Builder.grows_apply l s.builder).sees (hs.names x w h)
  have hgrow := grows_insertAll scope s.scopes (node.outputs.zip (l.apply s.builder).1)
  have hvalues : ∀ pair ∈ node.outputs.zip (l.apply s.builder).1, (l.apply s.builder).2.Sees pending pair.2 :=
    fun pair hp => Builder.sees_apply hs.builder hl (List.of_mem_zip hp).2
  have hall := ScopeTree.names_insertAll hs.usable.wf hnames hvalues
  rw [Session.applyLowering]
  rcases bindOutputs_snd (s.added node l view) scope node (l.apply s.builder).1 with he | he
  · rw [he]
    exact ⟨hs.usable, hb, hnames⟩
  · rw [he]
    exact ⟨hgrow.usable hs.usable, hb, hall⟩

theorem Scoped.resolveInputs (hs : s.Scoped pending scope) {node : Node} {operands : List (Option ValueId)}
    (h : s.resolveInputs scope node = .ok operands) {v : ValueId} (hv : some v ∈ operands) :
    s.builder.Sees pending v := by
  obtain ⟨name, -, hfind⟩ := exists_of_mem_resolveInputs h hv
  exact hs.names name v hfind

theorem Scoped.resolveOutputs (hs : s.Scoped pending scope) {outputs : List DeclaredValue} {values : List ValueId}
    (h : s.resolveOutputs scope outputs = some values) : ∀ v ∈ values, s.builder.Sees pending v := by
  intro v hv
  obtain ⟨output, -, hfind⟩ := exists_of_mem_resolveOutputs h hv
  exact hs.names output.name v hfind

/-- An ordinary node keeps to the operands that are given to its converter. -/
theorem Scoped.convertNode (hs : s.Scoped pending scope) (hreg : s.registry = .builtin) (opset : Int) (node : Node) :
    (s.convertNode scope opset node).2.Scoped pending scope := by
  rcases convertNode_builtin hreg scope opset node with ⟨e, he⟩ | ⟨operands, c, lowering, view, hin, hc, -, hl, he⟩
  · rw [he]
    exact hs
  · rw [he]
    exact hs.applyLowering node view (fun v hv => hs.resolveInputs hin (hl.forwarded v hv))
      (fun op hop v hv => hs.resolveInputs hin (hl.operands op hop v hv))
      fun op hop htype => absurd htype (hl.loopFree (Registry.builtin_ne_loop hc) op hop)

end Steps

/-! ## Loops -/

section Loop
variable {pending : Nesting} {scope : ScopeId} {s inner : Session} {node : Node} {plan : LoopPlan}

/-- The places of bodies while the body of a loop is converted. -/
def bodyPending (pending : Nesting) (s : Session) : Nesting :=
  pending.add s.builder.current s.builder.position s.bodyBlock

theorem Scoped.enterLoop (hs : s.Scoped pending scope) (node : Node) (plan : LoopPlan) :
    (s.enterLoop scope node plan).Scoped (bodyPending pending s) (s.bodyScope scope) := by
  have henter : (s.enterBody scope node plan.body).2.2.Scoped (bodyPending pending s) (s.bodyScope scope) := by
    refine ⟨hs.usable.createChild, Builder.scoped_openBlock hs.builder _, fun name v h => Builder.sees_openBlock ?_⟩
    refine hs.names name v ?_
    rw [← ScopeTree.find?_createChild_self hs.usable]
    exact h
  have hformals := henter.foldl (fun s (x : DeclaredValue × TensorType) hs => hs.bindFormal x.1 x.2)
    (plan.body.inputs.zip plan.expected)
  exact hformals.foldl (fun s tensor hs => hs.bindInitializer tensor) plan.body.initializers

/-- What a body has been filled with, the values that it yields included. -/
theorem grows_body (hr : s.registry.Additive)
    (hin : (s.enterBody scope node plan.body).2.2.Evolves (s.bodyScope scope) inner) (yielded : List ValueId) :
    (s.enterBody scope node plan.body).2.2.builder.Grows (inner.builder.setResults yielded) :=
  (hin.builder ⟨hr, List.cons_ne_nil _ _⟩).trans (Builder.grows_setResults inner.builder yielded)

/-- Back in the scope of the loop, after its body: the loop may use what it could use before. -/
theorem Scoped.leaveBody (hs : s.Scoped pending scope) (hr : s.registry.Additive) (node : Node) (plan : LoopPlan)
    (hin : (s.enterBody scope node plan.body).2.2.Evolves (s.bodyScope scope) inner)
    (hi : inner.Scoped (bodyPending pending s) (s.bodyScope scope)) {yielded : List ValueId}
    (hy : inner.resolveOutputs (s.bodyScope scope) plan.body.outputs = some yielded) (outer : Phase) :
    (inner.leaveBody (s.bodyScope scope) outer (some yielded)).Scoped (bodyPending pending s) scope := by
  have hgrow := grows_body hr hin yielded
  have hslots := ScopeTree.destroy_createChild hs.usable hin.scopes
  have wf := ScopeTree.wellFormed_destroy hi.usable.wf (s.bodyScope scope)
  refine ⟨⟨wf, (ScopeTree.isLive_congr hslots.symm scope).trans hs.usable.live⟩, ?_, fun name v h => ?_⟩
  · exact Builder.scoped_closeBlock hs.builder hgrow (Builder.scoped_setResults hi.builder (hi.resolveOutputs hy))
  · have hv := hs.names name v ((ScopeTree.find?_congr wf hs.usable.wf hslots scope name).trans h)
    exact ((Builder.grows_openBlock hs.builder.nonempty hgrow).sees hv).of_hosts fun _ _ _ hn => .inl (.inl hn)

/-- The loop comes to stand at the place that was kept for it. -/
theorem hosts_finishLoop {t : Session} {pending' : Nesting} (ht : t.builder.Scoped pending') (scope : ScopeId)
    (node : Node) (plan : LoopPlan) (block : BlockId) (yielded : List ValueId) :
    (t.finishLoop scope node plan block yielded).2.builder.function.Hosts t.builder.current t.builder.position
      block := by
  rw [finishLoop_builder]
  exact ⟨_, Builder.instruction?_append ht _, rfl, rfl⟩

/-- A loop whose body is well scoped and which is itself converted keeps a session well scoped. -/
theorem Scoped.finishLoop (hs : s.Scoped pending scope) (hr : s.registry.Additive)
    (hp : s.planLoop scope node = .ok plan) (hin : (s.enterBody scope node plan.body).2.2.Evolves (s.bodyScope scope) inner)
    (hi : inner.Scoped (bodyPending pending s) (s.bodyScope scope)) {yielded : List ValueId}
    (hy : inner.resolveOutputs (s.bodyScope scope) plan.body.outputs = some yielded) (outer : Phase) :
    ((inner.leaveBody (s.bodyScope scope) outer (some yielded)).finishLoop scope node plan s.bodyBlock
      yielded).2.Scoped pending scope := by
  have hleave := hs.leaveBody hr node plan hin hi hy outer
  have hgrow := grows_body hr hin yielded
  have hsee : ∀ v, s.builder.Sees pending v →
      (inner.leaveBody (s.bodyScope scope) outer (some yielded)).builder.Sees (bodyPending pending s) v := fun v hv =>
    ((Builder.grows_openBlock hs.builder.nonempty hgrow).sees hv).of_hosts fun _ _ _ hn => .inl (.inl hn)
  have hcurrent : (inner.leaveBody (s.bodyScope scope) outer (some yielded)).builder.current = s.builder.current :=
    (Builder.grows_openBlock hs.builder.nonempty hgrow).current
  have hposition : (inner.leaveBody (s.bodyScope scope) outer (some yielded)).builder.position = s.builder.position :=
    Builder.position_closeBlock hs.builder hgrow
  have hfinish : ((inner.leaveBody (s.bodyScope scope) outer (some yielded)).finishLoop scope node plan s.bodyBlock
      yielded).2.Scoped (bodyPending pending s) scope := by
    rw [finishLoop_eq]
    refine hleave.applyLowering node _ nofun (fun op hop v hv => ?_) fun op hop _ c hc => ?_
    · cases hop
      exact hsee v (hs.resolveInputs (loopOperands_eq_ok (planLoop_eq_ok hp).1).1 hv)
    · cases hop
      cases hc
      exact .inr ⟨hcurrent, hposition, rfl⟩
  -- the place that was pending is that of the instruction just added
  have hhosts := hosts_finishLoop hleave.builder scope node plan s.bodyBlock yielded
  rw [hcurrent, hposition] at hhosts
  have hdone : ∀ p i c, bodyPending pending s p i c →
      ((inner.leaveBody (s.bodyScope scope) outer (some yielded)).finishLoop scope node plan s.bodyBlock
        yielded).2.builder.function.nesting pending p i c := by
    rintro p i c (hold | ⟨rfl, rfl, rfl⟩)
    · exact .inl hold
    · exact .inr hhosts
  exact ⟨hfinish.usable, hfinish.builder.of_hosts (fun _ _ _ => .inl) hdone,
    fun name v h => (hfinish.names name v h).of_hosts hdone⟩

end Loop

section Clean
variable {pending : Nesting} {opset : Int} {scope : ScopeId} {s t inner : Session} {node : Node} {plan : LoopPlan}
  {yielded : List ValueId}

/-- An ordinary node that is converted keeps a session well scoped. -/
theorem Scoped.after_node (hs : s.Scoped pending scope) (hreg : s.registry = .builtin)
    (hc : s.ask.convertNode scope opset node = (.converted, t)) :
    (t.settle scope node .converted).Scoped pending scope ∧ (t.settle scope node .converted).registry = .builtin := by
  have hnode := (hs.congr rfl rfl : s.ask.Scoped pending scope).convertNode hreg opset node
  have hev := (evolves_convertNode s.ask opset node : s.ask.Evolves scope _)
  rw [hc] at hnode hev
  exact ⟨hnode.congr rfl rfl, hev.registry.trans hreg⟩

/-- A loop that is converted keeps a session well scoped. -/
theorem Scoped.after_loop (hs : s.Scoped pending scope) (hreg : s.registry = .builtin)
    (hp : s.ask.planLoop scope node = .ok plan)
    (hrun : (s.ask.enterLoop scope node plan).Evolves (s.ask.bodyScope scope) inner)
    (hinner : inner.Scoped (bodyPending pending s.ask) (s.ask.bodyScope scope))
    (hres : inner.resolveOutputs (s.ask.bodyScope scope) plan.body.outputs = some yielded)
    (hc : (inner.leaveBody (s.ask.bodyScope scope) s.phase (some yielded)).finishLoop scope node plan s.ask.bodyBlock
      yielded = (.converted, t)) :
    (t.settle scope node .converted).Scoped pending scope ∧ (t.settle scope node .converted).registry = .builtin := by
  have hin := (evolves_enterLoop s.ask scope node plan).trans hrun
  have hask : s.ask.Scoped pending scope := hs.congr rfl rfl
  have ht := hask.finishLoop (hreg ▸ Registry.builtin_additive) hp hin hinner hres s.phase
  have hev := evolves_finishLoop (inner.leaveBody (s.ask.bodyScope scope) s.phase (some yielded)) scope node plan
    s.ask.bodyBlock yielded
  rw [hc] at ht hev
  exact ⟨ht.congr rfl rfl, hev.registry.trans (hin.registry.trans hreg)⟩

end Clean

theorem CleanRun.scoped {opset : Int} {scope : ScopeId} {nodes : List Node} {s s' : Session}
    (h : CleanRun opset scope nodes s s') (hreg : s.registry = .builtin) {pending : Nesting}
    (hs : s.Scoped pending scope) : s'.Scoped pending scope := by
  -- for any pending places: the body of a loop is converted with one more
  induction h generalizing pending with
  | done => exact hs
  | node _ _ hc _ ih =>
    obtain ⟨hs', hreg'⟩ := hs.after_node hreg hc
    exact ih hreg' hs'
  | @loop scope node rest s t s' plan inner yielded _ _ hp hbody _ hres hc _ ihb ih =>
    have hask : s.ask.Scoped pending scope := hs.congr rfl rfl
    have hinner := ihb ((evolves_enterLoop s.ask scope node plan).registry.trans hreg) (hask.enterLoop node plan)
    have hrun := hbody.run.evolves (usable_enterLoop node plan hask.usable)
    obtain ⟨hs', hreg'⟩ := hs.after_loop hreg hp hrun hinner hres hc
    exact ih hreg' hs'

/-! ## Models -/

theorem finish_eq_ok {s : Session} {f : Function} (h : s.finish = .ok f) :
    s.diagnostics = [] ∧ (s.builder.setResults s.outputs).function = f := by
  unfold finish at h
  split at h
  · next hd =>
    cases h
    exact ⟨List.isEmpty_iff.1 hd, rfl⟩
  · cases h

/-- A session between graphs, all of whose outputs may be used where the function ends. -/
structure Sound (s : Session) : Prop where
  registry : s.registry = .builtin
  stack : s.builder.stack = [.entry]
  names : s.Scoped (fun _ _ _ => False) .root
  outputs : ∀ v ∈ s.outputs, s.builder.Sees (fun _ _ _ => False) v

theorem sound_standard (options : Options) : (standard options).Sound := by
  refine ⟨rfl, rfl, ⟨ScopeTree.wellFormed_new.usable_root, Builder.scoped_new "main", ?_⟩, nofun⟩
  intro name v h
  cases h

theorem Scoped.openGraph {pending : Nesting} {s : Session} (hs : s.Scoped pending .root) (graph : Graph) :
    (s.openGraph graph).Scoped pending .root := by
  have hbegin : { s with phase := .inGraph, path := s.path ++ [graph.name] }.Scoped pending .root := hs.congr rfl rfl
  have hinputs : (Session.bindInputs _ .root graph).Scoped pending .root :=
    hbegin.foldl (fun s input hs => hs.bindInput input) _
  exact hinputs.foldl (fun s tensor hs => hs.bindInitializer tensor) graph.initializers

/-- A graph whose nodes all succeed leaves the session sound. -/
theorem Sound.collected {model : Model} {s inner : Session} {values : List ValueId} (hs : s.Sound)
    (hrun : CleanRun model.opset .root model.graph.nodes (s.openGraph model.graph) inner)
    (hvalues : inner.resolveOutputs .root model.graph.outputs = some values) : (inner.collected values).Sound := by
  have hev := hrun.run.evolves_graph hs.names.usable.wf
  have hopen := evolves_openGraph s model.graph
  have hinner := hrun.scoped (hopen.registry.trans hs.registry) (hs.names.openGraph model.graph)
  have hgrows := hev.builder (additive_of_builtin hs.registry hs.names.builder.nonempty)
  refine ⟨hev.registry.trans hs.registry, hgrows.stack.trans hs.stack, hinner.congr rfl rfl, fun v hv => ?_⟩
  rcases List.mem_append.1 hv with hold | hnew
  · exact hgrows.sees (hs.outputs v (hev.outputs ▸ hold))
  · exact hinner.resolveOutputs hvalues v hnew

theorem CleanImport.sound {models : List Model} {s s' : Session} (h : CleanImport models s s') (hs : s.Sound) :
    s'.Sound := by
  induction h with
  | nil => exact hs
  | cons hrun hvalues _ ih => exact ih (hs.collected hrun hvalues)

end Session

/-- An import that returns a function went without a failure. -/
theorem cleanImport_of_ok {models : List Model} {options : Options} {f : Function}
    (h : (importModels models options).result = .ok f) :
    ∃ s, models.foldl Session.convertModel (.standard options) = s ∧ s.Sound ∧
      Session.CleanImport models (.standard options) s ∧ (s.builder.setResults s.outputs).function = f := by
  obtain ⟨hd, hf⟩ := Session.finish_eq_ok h
  have hclean := Session.cleanImport_of_diagnostics (Session.rests_new ..) hd
  exact ⟨_, rfl, hclean.sound (Session.sound_standard options), hclean, hf⟩

/-- Whatever the models and the options, a function that an import returns has every use dominated by its definition,
and no value of a loop body is used outside that body. -/
theorem import_well_scoped {models : List Model} {options : Options} {f : Function}
    (h : (importModels models options).result = .ok f) :
    f.WellScoped ∧ ∀ body b c i v d, f.Uses b i v → f.Defines v d → d.block? = some c → f.Within body c →
      f.Within body b := by
  obtain ⟨s, -, hs, -, rfl⟩ := cleanImport_of_ok h
  have hscoped := Builder.scoped_setResults hs.names.builder hs.outputs
  have hwell : (s.builder.setResults s.outputs).function.WellScoped :=
    ⟨fun b i v hu => (hscoped.uses b i v hu).imp fun _ _ _ hn => hn.elim False.elim id,
      hscoped.tree.of_le fun _ _ _ => .inr⟩
  exact ⟨hwell, fun _ _ _ _ _ _ hu hv hb hc => hwell.confined hu hv hb hc⟩

/-- A loop that adds `x` to `v` as long as it likes. -/
def accumulator : Model where
  irVersion := 7
  opset := 13
  producer := "p"
  graph :=
    { name := "g"
      nodes := [⟨"", "Loop", "", ["", "", "x"], ["y"], [("body", .graph
        { name := "body"
          nodes := [⟨"", "Add", "", ["v", "x"], ["w"], []⟩]
          inputs := [⟨"i", none, none⟩, ⟨"c", none, none⟩, ⟨"v", none, none⟩]
          outputs := [⟨"c", none, none⟩, ⟨"w", none, none⟩]
          initializers := [] })]⟩]
      inputs := [⟨"x", some 1, some [.value 2]⟩]
      outputs := [⟨"y", none, none⟩]
      initializers := [] }

theorem accumulator_well_scoped :
    ∃ f, (importModels [accumulator] .standard).result = .ok f ∧ f.blocks.size = 2 ∧ f.WellScoped := by
  have hsize : (importModels [accumulator] .standard).result.toOption.map (·.blocks.size) = some 2 := by decide +kernel
  cases h : (importModels [accumulator] .standard).result with
  | ok f =>
    rw [h] at hsize
    exact ⟨f, rfl, Option.some.inj hsize, (import_well_scoped h).1⟩
  | error e => rw [h] at hsize; cases hsize

end ModelImport
