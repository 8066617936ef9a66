import ModelImport.Proofs.SessionRun
/-!
# Runs without a failure

A run that starts honest and ends without a failure is one in which every node was converted (`Run.clean`): nothing
that was given up on the way goes unrecorded. What holds of successful imports is then shown by induction on `CleanRun`,
where there are no failures to look at.
-/

namespace ModelImport

namespace Session

/-- Converting nodes takes one session to another, and every node succeeds. -/
inductive CleanRun (opset : Int) : ScopeId → List Node → Session → Session → Prop
  | done {scope s} : CleanRun opset scope [] s s
  | node {scope node rest s t s'} : s.Active → node.isLoop = false →
      s.ask.convertNode scope opset node = (.converted, t) →
      CleanRun opset scope rest (t.settle scope node .converted) s' → CleanRun opset scope (node :: rest) s s'
  | loop {scope node rest s t s' plan inner yielded} : s.Active → node.isLoop = true →
      s.ask.planLoop scope node = .ok plan →
      CleanRun opset (s.ask.bodyScope scope) plan.body.nodes (s.ask.enterLoop scope node plan) inner →
      inner.yieldBody (s.ask.bodyScope scope) s.ask.diagnostics.length plan.body = (some yielded, inner) →
      inner.resolveOutputs (s.ask.bodyScope scope) plan.body.outputs = some yielded →
      (inner.leaveBody (s.ask.bodyScope scope) s.phase (some yielded)).finishLoop scope node plan s.ask.bodyBlock
        yielded = (.converted, t) →
      CleanRun opset scope rest (t.settle scope node .converted) s' → CleanRun opset scope (node :: rest) s s'

theorem afterLoop_of_yieldBody {s inner : Session} {scope : ScopeId} {plan : LoopPlan} {yielded : List ValueId}
    (hy : inner.yieldBody (s.ask.bodyScope scope) s.ask.diagnostics.length plan.body = (some yielded, inner))
    (node : Node) :
    s.afterLoop scope node plan inner =
      let r := (inner.leaveBody (s.ask.bodyScope scope) s.phase (some yielded)).finishLoop scope node plan
        s.ask.bodyBlock yielded
      r.2.settle scope node r.1 := by
  rw [afterLoop, endLoop_eq, hy]
  rfl

theorem CleanRun.run {opset : Int} {scope : ScopeId} {nodes : List Node} {s s' : Session}
    (h : CleanRun opset scope nodes s s') : Run opset scope nodes s s' := by
  induction h with
  | done => exact .done
  | @node scope node rest s t s' ha hl hc _ ih =>
    refine .node ha hl ?_
    rw [afterNode, hc]
    exact ih
  | @loop scope node rest s t s' plan inner yielded ha hl hp _ hy _ hc _ ihb ih =>
    refine .loop ha hl hp ihb ?_
    rw [afterLoop_of_yieldBody hy node, hc]
    exact ih

/-- Without a failure in the end, a node has been converted. -/
theorem converted_of_settle {s : Session} {scope : ScopeId} {node : Node} {outcome : NodeOutcome}
    (h : (s.settle scope node outcome).diagnostics = []) (hr : outcome ≠ .reported) : outcome = .converted := by
  cases outcome with
  | converted => rfl
  | reported => exact absurd rfl hr
  | failed e => exact absurd h (record_ne_nil s node.displayName node.opType e)

/-- Without a failure after a loop there is none after its body. -/
theorem yieldBody_of_afterLoop {s inner : Session} {scope : ScopeId} {node : Node} {plan : LoopPlan}
    (h : (s.afterLoop scope node plan inner).diagnostics = []) :
    (inner.yieldBody (s.ask.bodyScope scope) s.ask.diagnostics.length plan.body).2.diagnostics = [] := by
  rw [afterLoop, endLoop_eq] at h
  dsimp only at h
  split at h
  · exact h
  · next yielded _ =>
    have hleave := (evolves_finishLoop _ scope node plan s.ask.bodyBlock yielded).clean h
    exact hleave

theorem Run.clean {opset : Int} {scope : ScopeId} {nodes : List Node} {s s' : Session}
    (h : Run opset scope nodes s s') (hu : s.scopes.Usable scope) (hh : s.Honest)
    (hd : s'.diagnostics = []) : CleanRun opset scope nodes s s' := by
  induction h with
  | done => exact .done
  | halted hc =>
    rw [(hh hd).1] at hc
    cases hc
  | @stopped scope node rest s hc ht => exact absurd hd (record_ne_nil s node.displayName node.opType .cancelled)
  | @node scope node rest s s' ha hl hrest ih =>
    have hnode := evolves_afterNode s scope opset node
    have hu' := hnode.scopes.usable hu
    have hclean := (hrest.evolves hu').clean hd
    have hconv := converted_of_settle hclean (convertNode_ne_reported s.ask scope opset node)
    refine .node ha hl (Prod.ext hconv rfl) ?_
    rw [← hconv]
    exact ih hu' (hnode.honest hh) hd
  | @refused scope node rest s s' e ha hl hp hrest ih =>
    have hnode : s.Evolves scope (s.ask.settle scope node (.failed e)) :=
      (evolves_ask s s.token.asked).trans (evolves_settle node nofun)
    have hclean := (hrest.evolves (hnode.scopes.usable hu)).clean hd
    exact absurd hclean (record_ne_nil s.ask node.displayName node.opType e)
  | @loop scope node rest s s' plan inner ha hl hp hbody hrest ihb ih =>
    -- backwards: no failure after the rest, none after the loop, none after its body
    have hub := usable_enterLoop node plan (s := s.ask) hu
    have hinner := hbody.evolves hub
    have hin := (evolves_enterLoop s.ask scope node plan).trans hinner
    have hnode := evolves_afterLoop hu hinner
    have hu' := hnode.scopes.usable hu
    have hclean := (hrest.evolves hu').clean hd
    have hyclean := yieldBody_of_afterLoop hclean
    have hb : s.ask.diagnostics.length ≤ inner.diagnostics.length := hin.diagnostics.length_le
    obtain ⟨yielded, hres, hy⟩ := yieldBody_clean (hin.honest hh) hb hyclean
    have hafter := afterLoop_of_yieldBody hy node
    rw [hafter] at hclean
    rw [hy] at hyclean
    have hconv := converted_of_settle hclean (finishLoop_ne_reported _ _ _ _ _ _)
    have hbody := ihb hub ((evolves_enterLoop s.ask scope node plan).honest hh) hyclean
    refine .loop ha hl hp hbody hy hres (Prod.ext hconv rfl) ?_
    rw [← hconv, ← hafter]
    exact ih hu' (hnode.honest hh) hd

/-! ## Graphs and models -/

/-- The session after a graph whose outputs stand for the given values. -/
def collected (s : Session) (values : List ValueId) : Session :=
  { s with outputs := s.outputs ++ values, path := s.path.dropLast, phase := .success }

/-- Taking in models takes one session to another, and every node of them succeeds. -/
inductive CleanImport : List Model → Session → Session → Prop
  | nil {s} : CleanImport [] s s
  | cons {model models s inner values s'} :
      CleanRun model.opset .root model.graph.nodes (s.openGraph model.graph) inner →
      inner.resolveOutputs .root model.graph.outputs = some values →
      CleanImport models (inner.collected values) s' → CleanImport (model :: models) s s'

theorem closeGraph_clean {s : Session} {graph : Graph} (hh : s.Honest) (h : (s.closeGraph graph).diagnostics = []) :
    ∃ values, s.resolveOutputs .root graph.outputs = some values ∧ s.closeGraph graph = s.collected values := by
  obtain ⟨t, outputs, ht, he⟩ := closeGraph_eq s graph
  have hs : s.diagnostics = [] := ht.clean (by rw [he] at h; exact h)
  obtain ⟨hc, hf⟩ := hh hs
  simp only [closeGraph, hc, Bool.false_eq_true, if_false, collectOutputs] at h ⊢
  have hnone : ∀ name, (ScopeId.root, name) ∉ s.failedOutputs := by simp [hf]
  obtain ⟨hsame, values, hvalues⟩ := checkOutputs_same hnone (h.trans hs.symm)
  refine ⟨values, hvalues, ?_⟩
  rw [hsame, hvalues, collected]
  simp [hs]

theorem cleanImport_of_diagnostics {models : List Model} {s : Session} (hr : s.Rests)
    (hd : (models.foldl convertModel s).diagnostics = []) : CleanImport models s (models.foldl convertModel s) := by
  induction models generalizing s with
  | nil => exact .nil
  | cons model models ih =>
    obtain ⟨hrests, -⟩ := rests_convertModel hr model
    have hclean : (s.convertModel model).diagnostics = [] :=
      List.prefix_nil.1 (hd ▸ foldl_convertModel_diagnostics hrests models)
    have hrest := ih hrests hd
    rw [List.foldl_cons]
    generalize models.foldl convertModel (s.convertModel model) = s' at hrest ⊢
    rw [convertModel] at hclean hrest
    split at hclean
    · exact absurd hclean (report_ne_nil s _ _)
    · next hopset =>
      rw [if_neg hopset, convertGraph_eq] at hrest
      rw [convertGraph_eq] at hclean
      have hopen := evolves_openGraph s model.graph
      have hu := hopen.scopes.usable hr.scopes.usable_root
      have hrun := run_convertNodes (s.openGraph model.graph) .root model.opset model.graph.nodes
      have hinner := hrun.evolves hu
      obtain ⟨values, hvalues, hclose⟩ := closeGraph_clean (hinner.honest (hopen.honest hr.honest)) hclean
      rw [hclose] at hrest hclean
      exact .cons (hrun.clean hu (hopen.honest hr.honest) hclean) hvalues hrest

end Session

end ModelImport
