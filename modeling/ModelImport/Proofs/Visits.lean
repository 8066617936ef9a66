import ModelImport.Proofs.SessionRun
/-!
# Visits

A run is one visit after another: each node that is reached is converted, whether a loop or not, and what came of it is
taken note of. What is said of every visit does not have to tell the kinds of nodes apart, and `Run.by_visits` is the
induction for it. `Occurs` has the sessions in which a node can be visited.
-/

namespace ModelImport

namespace Session

/-! ## One node -/

/-- Converts a node, whether a loop or not. -/
def attempt (s : Session) (scope : ScopeId) (opset : Int) (node : Node) : NodeOutcome × Session :=
  if node.isLoop then s.convertLoop scope opset node else s.convertNode scope opset node

/-- How a node ends when it is reached, and the session after it. -/
def visit (s : Session) (scope : ScopeId) (opset : Int) (node : Node) : NodeOutcome × Session :=
  let r := s.ask.attempt scope opset node
  (r.1, r.2.settle scope node r.1)

/-- Nodes are visited one after another, until the token is found set. -/
theorem convertNodes_cons {s : Session} (ha : s.Active) (scope : ScopeId) (opset : Int) (node : Node)
    (rest : List Node) :
    s.convertNodes scope opset (node :: rest) = (s.visit scope opset node).2.convertNodes scope opset rest := by
  rw [convertNodes, if_neg (by simp [ha.1]), if_neg (by simp [ha.2])]
  rfl

theorem attempt_of_node (s : Session) (scope : ScopeId) (opset : Int) {node : Node} (hl : node.isLoop = false) :
    s.attempt scope opset node = s.convertNode scope opset node := if_neg (by simp [hl])

theorem attempt_of_loop (s : Session) (scope : ScopeId) (opset : Int) {node : Node} (hl : node.isLoop = true) :
    s.attempt scope opset node = s.convertLoop scope opset node := if_pos hl

theorem evolves_visit {s : Session} {scope : ScopeId} (hu : s.scopes.Usable scope) (opset : Int) (node : Node) :
    s.Evolves scope (s.visit scope opset node).2 := by
  rw [visit]
  cases hl : node.isLoop with
  | false =>
    rw [attempt_of_node s.ask scope opset hl]
    exact evolves_afterNode s scope opset node
  | true =>
    rw [attempt_of_loop s.ask scope opset hl]
    cases hp : s.ask.planLoop scope node with
    | error e =>
      rw [convertLoop_of_error hp]
      have hsettle : s.ask.Evolves scope (s.ask.settle scope node (.failed e)) := evolves_settle node nofun
      exact (evolves_ask s s.token.asked).trans hsettle
    | ok plan =>
      rw [convertLoop_of_ok hp]
      exact evolves_afterLoop hu ((run_convertNodes ..).evolves (usable_enterLoop node plan (s := s.ask) hu))

/-- What the body of a loop yields, and the session when it has been left. -/
def throughBody (s : Session) (scope : ScopeId) (opset : Int) (node : Node) (plan : LoopPlan) :
    Option (List ValueId) × Session :=
  let inner := (s.enterLoop scope node plan).convertNodes (s.bodyScope scope) opset plan.body.nodes
  let y := inner.yieldBody (s.bodyScope scope) s.diagnostics.length plan.body
  (y.1, y.2.leaveBody (s.bodyScope scope) s.phase y.1)

theorem convertLoop_of_plan {s : Session} {scope : ScopeId} {node : Node} {plan : LoopPlan}
    (hp : s.planLoop scope node = .ok plan) (opset : Int) :
    s.convertLoop scope opset node =
      match (s.throughBody scope opset node plan).1 with
      | none => (.reported, (s.throughBody scope opset node plan).2)
      | some yielded =>
        (s.throughBody scope opset node plan).2.finishLoop scope node plan s.bodyBlock yielded := by
  rw [convertLoop_of_ok hp, endLoop_eq, throughBody]
  dsimp only
  split <;> next hy => rw [hy]

/-- From the beginning of a body to its end. -/
theorem evolves_body {s : Session} {scope : ScopeId} (hu : s.scopes.Usable scope) (opset : Int) (node : Node)
    (plan : LoopPlan) :
    let inner := (s.enterLoop scope node plan).convertNodes (s.bodyScope scope) opset plan.body.nodes
    (s.enterBody scope node plan.body).2.2.Evolves (s.bodyScope scope)
      (inner.yieldBody (s.bodyScope scope) s.diagnostics.length plan.body).2 := by
  have hrun := run_convertNodes (s.enterLoop scope node plan) (s.bodyScope scope) opset plan.body.nodes
  exact (evolves_enterLoop s scope node plan).trans
    ((hrun.evolves (usable_enterLoop node plan hu)).trans (evolves_yieldBody ..))

theorem evolves_throughBody {s : Session} {scope : ScopeId} (hu : s.scopes.Usable scope) (opset : Int) (node : Node)
    (plan : LoopPlan) : s.Evolves scope (s.throughBody scope opset node plan).2 :=
  evolves_leaveBody hu (evolves_body hu opset node plan) _

/-! ## Runs, visit by visit -/

/-- What holds of runs can be shown visit by visit; at a loop it may be used of the run inside. -/
theorem Run.by_visits {opset : Int} {motive : ScopeId → List Node → Session → Session → Prop}
    (idle : ∀ scope nodes s, motive scope nodes s s)
    (stopped : ∀ scope node rest (s : Session), motive scope (node :: rest) s (s.stop node))
    (visit : ∀ scope node rest (s s' : Session), s.Active →
      (∀ plan, node.isLoop = true → s.ask.planLoop scope node = .ok plan →
        motive (s.ask.bodyScope scope) plan.body.nodes (s.ask.enterLoop scope node plan)
          ((s.ask.enterLoop scope node plan).convertNodes (s.ask.bodyScope scope) opset plan.body.nodes)) →
      motive scope rest (s.visit scope opset node).2 s' → motive scope (node :: rest) s s')
    {scope : ScopeId} {nodes : List Node} {s s' : Session} (h : Run opset scope nodes s s') :
    motive scope nodes s s' := by
  induction h with
  | done => exact idle ..
  | halted => exact idle ..
  | stopped => exact stopped ..
  | @node scope node rest s s' ha hl _ ih =>
    refine visit scope node rest s s' ha (fun plan hl' => by rw [hl] at hl'; cases hl') ?_
    rw [Session.visit, attempt_of_node s.ask scope opset hl]
    exact ih
  | @refused scope node rest s s' e ha hl hp _ ih =>
    refine visit scope node rest s s' ha (fun plan _ hp' => by rw [hp] at hp'; cases hp') ?_
    rw [Session.visit, attempt_of_loop s.ask scope opset hl, convertLoop_of_error hp]
    exact ih
  | @loop scope node rest s s' plan inner ha hl hp hbody _ ihb ih =>
    have hinner := hbody.eq_convertNodes
    subst hinner
    refine visit scope node rest s s' ha (fun plan' _ hp' => ?_) ?_
    · rw [hp] at hp'
      cases hp'
      exact ihb
    · rw [Session.visit, attempt_of_loop s.ask scope opset hl, convertLoop_of_ok hp]
      exact ih

theorem convertNodes_append (s : Session) (scope : ScopeId) (opset : Int) (before after : List Node) :
    s.convertNodes scope opset (before ++ after) =
      (s.convertNodes scope opset before).convertNodes scope opset after :=
  ((run_convertNodes ..).append (run_convertNodes ..)).eq_convertNodes

/-- A run that ends without cancellation has not found the token set before its first node. -/
theorem active_of_convertNodes {s : Session} {scope : ScopeId} {opset : Int} {node : Node} {rest : List Node}
    (h : (s.convertNodes scope opset (node :: rest)).cancelled = false) : s.Active := by
  have hrun := run_convertNodes s scope opset (node :: rest)
  generalize s.convertNodes scope opset (node :: rest) = s' at h hrun
  cases hrun with
  | halted hc => cases hc.symm.trans h
  | stopped => cases h
  | node ha | refused ha | loop ha => exact ha

theorem not_cancelled_of_convertNodes {s : Session} {scope : ScopeId} {opset : Int} {nodes : List Node}
    (h : (s.convertNodes scope opset nodes).cancelled = false) : s.cancelled = false := by
  cases hc : s.cancelled with
  | false => rfl
  | true =>
    rw [(run_convertNodes s scope opset nodes).of_cancelled hc, hc] at h
    cases h

/-! ## Sessions over any table of converters -/

/-- The sessions that imports over a table of converters come through: between graphs, among the nodes of a graph and
among those of a loop body. Whoever holds the token may set it at any time. -/
inductive Occurs (registry : Registry) : Session → Prop
  | start {name options} : Occurs registry (new name registry options)
  | token {s} (token : CancelToken) : Occurs registry s → Occurs registry { s with token }
  | warn {s} (warnings : List Warning) : Occurs registry s → Occurs registry (s.warn warnings)
  | report {s} (place : Place) (e : ImportError) : Occurs registry s → Occurs registry (s.report place e)
  | graph {s} (graph : Graph) : Occurs registry s → Occurs registry (s.openGraph graph)
  | nodes {s scope} (opset : Int) (nodes : List Node) : Occurs registry s → s.scopes.isLive scope = true →
      Occurs registry (s.convertNodes scope opset nodes)
  | body {s scope node plan} : Occurs registry s → s.scopes.isLive scope = true → s.planLoop scope node = .ok plan →
      Occurs registry (s.enterLoop scope node plan)
  | close {s} (graph : Graph) : Occurs registry s → Occurs registry (s.closeGraph graph)

/-- The scopes of such a session can be gone on from, and its converters are those it started with. -/
theorem Occurs.sound {registry : Registry} {s : Session} (h : s.Occurs registry) :
    s.scopes.WellFormed ∧ s.registry = registry := by
  induction h with
  | start => exact ⟨ScopeTree.wellFormed_new, rfl⟩
  | token _ _ ih | warn _ _ ih | report _ _ _ ih => exact ih
  | @graph s graph _ ih =>
    have hopen := evolves_openGraph s graph
    exact ⟨hopen.scopes.wellFormed ih.1, hopen.registry.trans ih.2⟩
  | @nodes s scope opset nodes _ hlive ih =>
    have hrun := (run_convertNodes s scope opset nodes).evolves ⟨ih.1, hlive⟩
    exact ⟨hrun.scopes.wellFormed ih.1, hrun.registry.trans ih.2⟩
  | @body s scope node plan _ hlive _ ih =>
    have henter := evolves_enterLoop s scope node plan
    exact ⟨(usable_enterLoop node plan ⟨ih.1, hlive⟩).wf, henter.registry.trans ih.2⟩
  | @close s graph _ ih =>
    obtain ⟨t, outputs, ht, he⟩ := closeGraph_eq s graph
    rw [he]
    exact ⟨ht.scopes.wellFormed ih.1, ht.registry.trans ih.2⟩

theorem Occurs.wellFormed {registry : Registry} {s : Session} (h : s.Occurs registry) : s.scopes.WellFormed := h.sound.1

theorem Occurs.usable {registry : Registry} {s : Session} {scope : ScopeId} (h : s.Occurs registry)
    (hlive : s.scopes.isLive scope = true) : s.scopes.Usable scope := ⟨h.wellFormed, hlive⟩

end Session

end ModelImport
