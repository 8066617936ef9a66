import ModelImport.Proofs.SessionSteps
/-!
# Runs over the nodes of a graph

The conversion of nodes as a relation (`Run`), in which the conversion of a loop body is a run inside a run. Every
conversion is a run (`run_convertNodes`) and every run a conversion (`Run.eq_convertNodes`), and what holds of whole
conversions is shown by induction on runs. A run leaves the session as steps in its scope would (`Run.evolves`): the
scopes and blocks of loop bodies are gone when it ends.
-/

namespace ModelImport

namespace Session

/-! ## The parts of a loop -/

/-- The session after the token has been asked. -/
def ask (s : Session) : Session := { s with token := s.token.asked }

/-- The scope that the body of a loop will have. -/
def bodyScope (s : Session) (scope : ScopeId) : ScopeId := (s.scopes.createChild scope).1

/-- The block that the body of a loop will have. -/
def bodyBlock (s : Session) : BlockId := ⟨s.builder.function.blocks.size⟩

/-- The session in which the nodes of a loop body are converted. -/
def enterLoop (s : Session) (scope : ScopeId) (node : Node) (plan : LoopPlan) : Session :=
  ((s.enterBody scope node plan.body).2.2.bindFormals (s.bodyScope scope)
    (plan.body.inputs.zip plan.expected)).bindInitializers (s.bodyScope scope) plan.body.initializers

/-- What a body yields once its nodes are converted, given the number of failures recorded before it. -/
def yieldBody (s : Session) (scope : ScopeId) (before : Nat) (body : Graph) : Option (List ValueId) × Session :=
  if s.cancelled then (none, s)
  else
    let s := s.checkOutputs scope body.outputs
    (if s.diagnostics.length = before then s.resolveOutputs scope body.outputs else none, s)

theorem loopOperands_eq_ok {s : Session} {scope : ScopeId} {node : Node} {operands : List (Option ValueId)}
    (h : s.loopOperands scope node = .ok operands) :
    s.resolveInputs scope node = .ok operands ∧ 2 ≤ operands.length := by
  simp only [loopOperands, bind, Except.bind, pure, Except.pure] at h
  split at h
  · cases h
  · next resolved hin =>
    by_cases hfew : resolved.length < 2
    · simp [hfew] at h
    · simp only [hfew, if_false] at h
      cases h
      exact ⟨hin, Nat.le_of_not_lt hfew⟩

/-- The rest of a loop, once the nodes of its body are converted. -/
def endLoop (s : Session) (scope : ScopeId) (node : Node) (plan : LoopPlan) (inner : Session) : NodeOutcome × Session :=
  let (results, t) := inner.yieldBody (s.bodyScope scope) s.diagnostics.length plan.body
  let t := t.leaveBody (s.bodyScope scope) s.phase results
  match results with
  | none => (.reported, t)
  | some yielded => t.finishLoop scope node plan s.bodyBlock yielded

theorem convertLoop_of_error {s : Session} {scope : ScopeId} {opset : Int} {node : Node} {e : ImportError}
    (h : s.planLoop scope node = .error e) : s.convertLoop scope opset node = (.failed e, s) := by
  rw [convertLoop]
  split
  · next e' he => rw [h] at he; cases he; rfl
  · next plan hp => rw [h] at hp; cases hp

theorem convertLoop_of_ok {s : Session} {scope : ScopeId} {opset : Int} {node : Node} {plan : LoopPlan}
    (h : s.planLoop scope node = .ok plan) :
    s.convertLoop scope opset node = s.endLoop scope node plan
      ((s.enterLoop scope node plan).convertNodes (s.bodyScope scope) opset plan.body.nodes) := by
  rw [convertLoop]
  split
  · next e he => rw [h] at he; cases he
  · next plan' hp =>
    rw [h] at hp
    cases hp
    simp only [convertBody]
    rfl

/-! ## Runs -/

/-- Neither has the token been found set, nor is it set. -/
def Active (s : Session) : Prop := s.cancelled = false ∧ s.token.isSet = false

/-- The session after an ordinary node. -/
def afterNode (s : Session) (scope : ScopeId) (opset : Int) (node : Node) : Session :=
  let r := s.ask.convertNode scope opset node
  r.2.settle scope node r.1

/-- The session after a loop, from that in which the nodes of its body are converted. -/
def afterLoop (s : Session) (scope : ScopeId) (node : Node) (plan : LoopPlan) (inner : Session) : Session :=
  let r := s.ask.endLoop scope node plan inner
  r.2.settle scope node r.1

/-- Converting nodes in a scope takes one session to another. -/
inductive Run (opset : Int) : ScopeId → List Node → Session → Session → Prop
  | done {scope s} : Run opset scope [] s s
  | halted {scope node rest s} : s.cancelled = true → Run opset scope (node :: rest) s s
  | stopped {scope node rest s} : s.cancelled = false → s.token.isSet = true →
      Run opset scope (node :: rest) s (s.stop node)
  | node {scope node rest s s'} : s.Active → node.isLoop = false →
      Run opset scope rest (s.afterNode scope opset node) s' → Run opset scope (node :: rest) s s'
  | refused {scope node rest s s' e} : s.Active → node.isLoop = true → s.ask.planLoop scope node = .error e →
      Run opset scope rest (s.ask.settle scope node (.failed e)) s' → Run opset scope (node :: rest) s s'
  | loop {scope node rest s s' plan inner} : s.Active → node.isLoop = true → s.ask.planLoop scope node = .ok plan →
      Run opset (s.ask.bodyScope scope) plan.body.nodes (s.ask.enterLoop scope node plan) inner →
      Run opset scope rest (s.afterLoop scope node plan inner) s' → Run opset scope (node :: rest) s s'

theorem sizeOf_nodes_lt (body : Graph) : sizeOf body.nodes < sizeOf body := by
  cases body
  simp only [GraphOf.mk.sizeOf_spec]
  omega

theorem run_convertNodes (s : Session) (scope : ScopeId) (opset : Int) (nodes : List Node) :
    Run opset scope nodes s (s.convertNodes scope opset nodes) := by
  -- on the size of the nodes, as `convertNodes` itself: a body is smaller than its loop
  induction hn : sizeOf nodes using Nat.strongRecOn generalizing s scope nodes with
  | _ n ih =>
    subst hn
    cases nodes with
    | nil => rw [convertNodes]; exact .done
    | cons node rest =>
      have hrest : sizeOf rest < sizeOf (node :: rest) := by simp only [List.cons.sizeOf_spec]; omega
      rw [convertNodes]
      split
      · next hc => exact .halted hc
      · next hc =>
        rw [Bool.not_eq_true] at hc
        split
        · next ht => exact .stopped hc ht
        · next ht =>
          rw [Bool.not_eq_true] at ht
          cases hl : node.isLoop with
          | false => exact .node ⟨hc, ht⟩ hl (ih _ hrest _ _ _ rfl)
          | true =>
            change Run opset scope (node :: rest) s (convertNodes ((s.ask.convertLoop scope opset node).2.settle scope
              node (s.ask.convertLoop scope opset node).1) scope opset rest)
            cases hp : s.ask.planLoop scope node with
            | error e =>
              rw [convertLoop_of_error hp]
              exact .refused ⟨hc, ht⟩ hl hp (ih _ hrest _ _ _ rfl)
            | ok plan =>
              have hbody : sizeOf plan.body.nodes < sizeOf (node :: rest) := by
                have := sizeOf_nodes_lt plan.body
                have := sizeOf_planLoop hp
                simp only [List.cons.sizeOf_spec]
                omega
              rw [convertLoop_of_ok hp]
              exact .loop ⟨hc, ht⟩ hl hp (ih _ hbody _ _ _ rfl) (ih _ hrest _ _ _ rfl)

theorem Run.eq_convertNodes {opset : Int} {scope : ScopeId} {nodes : List Node} {s s' : Session}
    (h : Run opset scope nodes s s') : s.convertNodes scope opset nodes = s' := by
  induction h with
  | done => rw [convertNodes]
  | halted hc => rw [convertNodes, if_pos hc]
  | stopped hc ht => rw [convertNodes, if_neg (by simp [hc]), if_pos ht]
  | node ha hl _ ih =>
    rw [convertNodes, if_neg (by simp [ha.1]), if_neg (by simp [ha.2]), ← ih]
    simp only [hl]
    rfl
  | @refused scope node rest s s' e ha hl hp _ ih =>
    have he : s.ask.convertLoop scope opset node = _ := convertLoop_of_error hp
    rw [ask] at he
    rw [convertNodes, if_neg (by simp [ha.1]), if_neg (by simp [ha.2]), ← ih]
    simp only [hl, he]
    rfl
  | @loop scope node rest s s' plan inner ha hl hp _ _ ihb ih =>
    have he : s.ask.convertLoop scope opset node = _ := convertLoop_of_ok hp
    rw [ihb, ask] at he
    rw [convertNodes, if_neg (by simp [ha.1]), if_neg (by simp [ha.2]), ← ih]
    simp only [hl, if_true, he]
    rfl

/-! ## What a run leaves behind -/

section Loop
variable {s inner : Session} {scope : ScopeId} {node : Node} {plan : LoopPlan}

theorem evolves_enterLoop (s : Session) (scope : ScopeId) (node : Node) (plan : LoopPlan) :
    (s.enterBody scope node plan.body).2.2.Evolves (s.bodyScope scope) (s.enterLoop scope node plan) :=
  (evolves_bindFormals ..).trans (evolves_bindInitializers ..)

theorem quiet_enterLoop (s : Session) (scope : ScopeId) (node : Node) (plan : LoopPlan) :
    s.Quiet (s.enterLoop scope node plan) := by
  have henter : s.Quiet (s.enterBody scope node plan.body).2.2 := ⟨rfl, rfl⟩
  exact henter.trans ((quiet_bindFormals ..).trans (quiet_bindInitializers ..))

theorem evolves_yieldBody (s : Session) (scope : ScopeId) (before : Nat) (body : Graph) :
    s.Evolves scope (s.yieldBody scope before body).2 := by
  unfold yieldBody
  split
  · exact .refl s
  · exact evolves_checkOutputs ..

theorem quiet_yieldBody (s : Session) (scope : ScopeId) (before : Nat) (body : Graph) :
    s.Quiet (s.yieldBody scope before body).2 := by
  unfold yieldBody
  split
  · exact .refl s
  · exact quiet_checkOutputs ..

/-- When a body is left, its names are gone and the blocks around it are untouched. -/
theorem evolves_leaveBody (hu : s.scopes.Usable scope) {t : Session}
    (h : (s.enterBody scope node plan.body).2.2.Evolves (s.bodyScope scope) t) (results : Option (List ValueId)) :
    s.Evolves scope (t.leaveBody (s.bodyScope scope) s.phase results) where
  registry := h.registry
  options := h.options
  path := (congrArg List.dropLast h.path).trans List.dropLast_concat
  phase := rfl
  outputs := h.outputs
  builder := fun hs => by
    have hgrows := h.builder ⟨hs.registry, List.cons_ne_nil _ _⟩
    refine Builder.grows_openBlock hs.nonempty (hgrows.trans ?_)
    cases results with
    | none => exact .refl _
    | some results => exact Builder.grows_setResults ..
  stack := fun hs => by
    have hstack := h.stack ⟨hs.registry, List.cons_ne_nil _ _⟩
    cases results with
    | none => exact Builder.stack_closeBlock_of hs.nonempty hstack
    | some results => exact Builder.stack_closeBlock_of hs.nonempty hstack
  scopes := by
    refine .of_slots_eq scope ?_ (ScopeTree.destroy_createChild hu h.scopes)
    obtain ⟨-, -, -, hnext, -, -⟩ := ScopeTree.createChild_spec s.scopes scope
    calc s.scopes.nextSerial
      _ ≤ (s.scopes.createChild scope).2.nextSerial := hnext ▸ Nat.le_succ _
      _ ≤ t.scopes.nextSerial := h.scopes.1
      _ = (t.scopes.destroy (s.bodyScope scope)).nextSerial := (ScopeTree.destroy_nextSerial ..).symm
  diagnostics := h.diagnostics
  honest := h.honest

/-- A body that yields something has recorded nothing. -/
theorem length_of_yieldBody {before : Nat} {body : Graph} {yielded : List ValueId}
    (h : (s.yieldBody scope before body).1 = some yielded) :
    (s.yieldBody scope before body).2.diagnostics.length = before := by
  unfold yieldBody at h ⊢
  split at h
  · cases h
  · next hc =>
    rw [if_neg hc]
    dsimp only at h ⊢
    split at h
    · next hlen => exact hlen
    · cases h

/-- A body in which nothing is recorded yields what its outputs stand for, unless a node of it has failed before. -/
theorem yieldBody_same {before : Nat} {body : Graph} (hc : s.cancelled = false)
    (hf : ∀ name, (scope, name) ∉ s.failedOutputs) (hb : before ≤ s.diagnostics.length)
    (h : (s.yieldBody scope before body).2.diagnostics.length ≤ before) :
    ∃ yielded, s.resolveOutputs scope body.outputs = some yielded ∧
      s.yieldBody scope before body = (some yielded, s) := by
  have hpre := (evolves_yieldBody s scope before body).diagnostics
  have hsame := hpre.eq_of_length_le (Nat.le_trans h hb)
  have hlen : s.diagnostics.length = before := Nat.le_antisymm (Nat.le_trans hpre.length_le h) hb
  simp only [yieldBody, hc, Bool.false_eq_true, if_false] at hsame ⊢
  obtain ⟨hchecked, values, hvalues⟩ := checkOutputs_same hf hsame.symm
  exact ⟨values, hvalues, by rw [hchecked, if_pos hlen, hvalues]⟩

/-- A body without a failure yields what its outputs stand for. -/
theorem yieldBody_clean {before : Nat} {body : Graph} (hh : s.Honest) (hb : before ≤ s.diagnostics.length)
    (h : (s.yieldBody scope before body).2.diagnostics = []) :
    ∃ yielded, s.resolveOutputs scope body.outputs = some yielded ∧
      s.yieldBody scope before body = (some yielded, s) := by
  obtain ⟨hc, hf⟩ := hh ((evolves_yieldBody s scope before body).clean h)
  refine yieldBody_same hc (fun name => by rw [hf]; exact List.not_mem_nil) hb ?_
  rw [h]
  exact Nat.zero_le _

/-- What a loop is made of. -/
def loopOp (s : Session) (node : Node) (plan : LoopPlan) (block : BlockId) (yielded : List ValueId) : OpSpec where
  opType := "Loop"
  name := node.displayName
  operands := plan.operands
  params := [("body", .block block)]
  resultNames := node.outputs
  resultTypes := s.loopTypes node plan.carried yielded

/-- A loop whose body has been converted is finished like a node that becomes one instruction. -/
theorem finishLoop_eq (s : Session) (scope : ScopeId) (node : Node) (plan : LoopPlan) (block : BlockId)
    (yielded : List ValueId) :
    s.finishLoop scope node plan block yielded = s.applyLowering scope node
      ⟨[], some (.instruction (s.loopOp node plan block yielded))⟩ ((AttributeView.ofBag node.attributes).note "body") :=
  rfl

theorem finishLoop_builder (s : Session) (scope : ScopeId) (node : Node) (plan : LoopPlan) (block : BlockId)
    (yielded : List ValueId) : (s.finishLoop scope node plan block yielded).2.builder =
      (s.builder.append (s.loopOp node plan block yielded)).2 :=
  conclude_builder ..

theorem finishLoop_ne_reported (s : Session) (scope : ScopeId) (node : Node) (plan : LoopPlan) (block : BlockId)
    (yielded : List ValueId) : (s.finishLoop scope node plan block yielded).1 ≠ .reported :=
  conclude_ne_reported _ _ _ _ _

theorem evolves_finishLoop (s : Session) (scope : ScopeId) (node : Node) (plan : LoopPlan) (block : BlockId)
    (yielded : List ValueId) :
    s.Evolves scope ((s.finishLoop scope node plan block yielded).2.settle scope node
      (s.finishLoop scope node plan block yielded).1) :=
  (evolves_builder s (Builder.grows_append ..)).trans ((evolves_conclude ..).trans
    (evolves_settle node (finishLoop_ne_reported s scope node plan block yielded)))

theorem endLoop_eq (s inner : Session) (scope : ScopeId) (node : Node) (plan : LoopPlan) :
    s.endLoop scope node plan inner =
      let y := inner.yieldBody (s.bodyScope scope) s.diagnostics.length plan.body
      match y.1 with
      | none => (.reported, y.2.leaveBody (s.bodyScope scope) s.phase none)
      | some yielded => (y.2.leaveBody (s.bodyScope scope) s.phase (some yielded)).finishLoop scope node plan
          s.bodyBlock yielded := by
  unfold endLoop
  dsimp only
  split <;> simp_all

theorem evolves_afterLoop (hu : s.scopes.Usable scope)
    (h : (s.ask.enterLoop scope node plan).Evolves (s.ask.bodyScope scope) inner) :
    s.Evolves scope (s.afterLoop scope node plan inner) := by
  refine (evolves_ask s s.token.asked).trans ?_
  have hin := (evolves_enterLoop s.ask scope node plan).trans h
  have hleave := evolves_leaveBody (s := s.ask) hu
    (hin.trans (evolves_yieldBody inner (s.ask.bodyScope scope) s.ask.diagnostics.length plan.body))
  rw [afterLoop, endLoop_eq]
  dsimp only
  split
  · next hnone =>
    -- a body that yields nothing has recorded why, and its loop adds nothing to that
    refine { hleave none with honest := fun hs => honest_of_ne fun hclean => ?_ }
    have hb : s.ask.diagnostics.length ≤ inner.diagnostics.length := hin.diagnostics.length_le
    obtain ⟨yielded, -, hy⟩ := yieldBody_clean (hin.honest hs) hb hclean
    rw [hy] at hnone
    cases hnone
  · next yielded _ =>
    exact (hleave (some yielded)).trans (evolves_finishLoop ..)

end Loop

theorem evolves_afterNode (s : Session) (scope : ScopeId) (opset : Int) (node : Node) :
    s.Evolves scope (s.afterNode scope opset node) :=
  (evolves_ask s s.token.asked).trans ((evolves_convertNode s.ask opset node).trans
    (evolves_settle node (convertNode_ne_reported s.ask scope opset node)))

/-- The session that a loop body starts from can be gone on from. -/
theorem usable_enterLoop {s : Session} {scope : ScopeId} (node : Node) (plan : LoopPlan)
    (hu : s.scopes.Usable scope) : (s.enterLoop scope node plan).scopes.Usable (s.bodyScope scope) :=
  (evolves_enterLoop s scope node plan).scopes.usable hu.createChild

theorem Run.evolves {opset : Int} {scope : ScopeId} {nodes : List Node} {s s' : Session}
    (h : Run opset scope nodes s s') (hu : s.scopes.Usable scope) : s.Evolves scope s' := by
  induction h with
  | done => exact .refl _
  | halted => exact .refl _
  | stopped => exact evolves_stop ..
  | @node scope node rest s s' ha hl _ ih =>
    have hnode := evolves_afterNode s scope opset node
    exact hnode.trans (ih (hnode.scopes.usable hu))
  | @refused scope node rest s s' e ha hl hp _ ih =>
    have hnode : s.Evolves scope (s.ask.settle scope node (.failed e)) :=
      (evolves_ask s s.token.asked).trans (evolves_settle node nofun)
    exact hnode.trans (ih (hnode.scopes.usable hu))
  | @loop scope node rest s s' plan inner ha hl hp _ _ ihb ih =>
    have hnode := evolves_afterLoop hu (ihb (usable_enterLoop node plan (s := s.ask) hu))
    exact hnode.trans (ih (hnode.scopes.usable hu))

/-! ## Runs one after another -/

theorem Run.of_cancelled {opset : Int} {scope : ScopeId} {nodes : List Node} {s s' : Session}
    (h : Run opset scope nodes s s') (hc : s.cancelled = true) : s' = s := by
  cases h with
  | done | halted => rfl
  | stopped hn => rw [hc] at hn; cases hn
  | node ha | refused ha | loop ha => cases hc.symm.trans ha.1

theorem Run.append {opset : Int} {scope : ScopeId} {pre post : List Node} {s mid s' : Session}
    (h : Run opset scope pre s mid) (h' : Run opset scope post mid s') : Run opset scope (pre ++ post) s s' := by
  induction h with
  | done => exact h'
  | halted hc =>
    rw [h'.of_cancelled hc]
    exact .halted hc
  | stopped hc ht =>
    rw [h'.of_cancelled rfl]
    exact .stopped hc ht
  | node ha hl _ ih => exact .node ha hl (ih h')
  | refused ha hl hp _ ih => exact .refused ha hl hp (ih h')
  | loop ha hl hp hbody _ _ ih => exact .loop ha hl hp hbody (ih h')

/-! ## Graphs -/

/-- The session in which the nodes of a graph are converted. -/
def openGraph (s : Session) (graph : Graph) : Session :=
  ({ s with phase := .inGraph, path := s.path ++ [graph.name] }.bindInputs .root graph).bindInitializers .root
    graph.initializers

/-- The session after a graph, from that in which its nodes are converted. -/
def closeGraph (s : Session) (graph : Graph) : Session :=
  let s := if s.cancelled then s else s.collectOutputs .root graph.outputs
  { s with path := s.path.dropLast, phase := if s.diagnostics.isEmpty then .success else .failed }

theorem convertGraph_eq (s : Session) (graph : Graph) (opset : Int) :
    s.convertGraph graph opset = ((s.openGraph graph).convertNodes .root opset graph.nodes).closeGraph graph := rfl

/-- A session between graphs. -/
structure Rests (s : Session) : Prop where
  scopes : s.scopes.WellFormed
  stack : s.registry.Balanced → s.builder.stack = [.entry]
  honest : s.Honest

theorem rests_new (name : String) (registry : Registry) (options : Options) : (new name registry options).Rests :=
  ⟨ScopeTree.wellFormed_new, fun _ => rfl, fun _ => ⟨rfl, rfl⟩⟩

theorem evolves_openGraph (s : Session) (graph : Graph) :
    { s with phase := .inGraph, path := s.path ++ [graph.name] }.Evolves .root (s.openGraph graph) :=
  (evolves_bindInputs ..).trans (evolves_bindInitializers ..)

theorem quiet_openGraph (s : Session) (graph : Graph) : s.Quiet (s.openGraph graph) := by
  have hbegin : s.Quiet { s with phase := .inGraph, path := s.path ++ [graph.name] } := ⟨rfl, rfl⟩
  exact hbegin.trans ((quiet_bindInputs ..).trans (quiet_bindInitializers ..))

/-- From the beginning of a graph to the end of its nodes. -/
theorem Run.evolves_graph {opset : Int} {graph : Graph} {s s' : Session}
    (h : Run opset .root graph.nodes (s.openGraph graph) s') (wf : s.scopes.WellFormed) :
    { s with phase := .inGraph, path := s.path ++ [graph.name] }.Evolves .root s' := by
  have hopen := evolves_openGraph s graph
  exact hopen.trans (h.evolves (hopen.scopes.usable wf.usable_root))

/-- Closing a graph checks its outputs and changes nothing else but what is kept between graphs. -/
theorem closeGraph_eq (s : Session) (graph : Graph) : ∃ t outputs, s.Evolves .root t ∧
    s.closeGraph graph = { t with
      outputs, path := t.path.dropLast, phase := if t.diagnostics.isEmpty then .success else .failed } := by
  unfold closeGraph
  split
  · exact ⟨s, s.outputs, .refl s, rfl⟩
  · exact ⟨_, _, evolves_checkOutputs s graph.outputs, rfl⟩

theorem rests_convertGraph {s : Session} (h : s.Rests) (graph : Graph) (opset : Int) :
    (s.convertGraph graph opset).Rests ∧ s.diagnostics <+: (s.convertGraph graph opset).diagnostics := by
  obtain ⟨t, outputs, ht, he⟩ := closeGraph_eq ((s.openGraph graph).convertNodes .root opset graph.nodes) graph
  have hrun := ((run_convertNodes ..).evolves_graph h.scopes).trans ht
  rw [convertGraph_eq, he]
  refine ⟨⟨hrun.scopes.wellFormed h.scopes, fun hbalanced => ?_, hrun.honest h.honest⟩, hrun.diagnostics⟩
  have hstack := h.stack (hrun.registry ▸ hbalanced)
  exact (hrun.stack ⟨hrun.registry ▸ hbalanced, hstack ▸ List.cons_ne_nil _ _⟩).trans hstack

theorem report_ne_nil (s : Session) (place : Place) (e : ImportError) : (s.report place e).diagnostics ≠ [] :=
  List.append_ne_nil_of_right_ne_nil _ (List.cons_ne_nil _ _)

theorem rests_convertModel {s : Session} (h : s.Rests) (model : Model) :
    (s.convertModel model).Rests ∧ s.diagnostics <+: (s.convertModel model).diagnostics := by
  unfold convertModel
  split
  · exact ⟨⟨h.scopes, h.stack, honest_of_ne (report_ne_nil s _ _)⟩, List.prefix_append _ _⟩
  · exact rests_convertGraph h model.graph model.opset

theorem foldl_convertModel_diagnostics {s : Session} (h : s.Rests) (models : List Model) :
    s.diagnostics <+: (models.foldl convertModel s).diagnostics := by
  induction models generalizing s with
  | nil => exact List.prefix_refl _
  | cons model models ih =>
    obtain ⟨hrests, hpre⟩ := rests_convertModel h model
    exact hpre.trans (ih hrests)

end Session

end ModelImport
