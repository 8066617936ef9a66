import Mathlib.Algebra.Ring.Nat
import Mathlib.Data.List.Forall2
import ModelImport.Proofs.WellScoped
/-!
# Successful imports are complete

An import that returns a function has converted every node, those in the bodies of loops included, and the function
yields what the outputs of the models stand for (`import_complete`). Two steps drop something without a record of their
own, an output that is missing because its node failed and a loop whose body failed; a run without a failure has neither
(`CleanRun`), so that counting its steps is counting nodes.
-/

namespace ModelImport

/-- The number of nodes, with those in the bodies of loops at any depth. -/
def nodeCount (nodes : List Node) : Nat :=
  match nodes with
  | [] => 0
  | node :: rest =>
    let inside :=
      if node.isLoop then
        match h : loopBody node with
        | .ok body =>
          have := Nat.lt_trans (Session.sizeOf_nodes_lt body) (sizeOf_loopBody h)
          nodeCount body.nodes
        | .error _ => 0
      else 0
    1 + inside + nodeCount rest
termination_by sizeOf nodes

theorem nodeCount_nil : nodeCount [] = 0 := by rw [nodeCount]

theorem nodeCount_cons_node {node : Node} (h : node.isLoop = false) (rest : List Node) :
    nodeCount (node :: rest) = 1 + nodeCount rest := by
  rw [nodeCount, h]
  rfl

theorem nodeCount_cons_loop {node : Node} {body : Graph} (h : node.isLoop = true) (hb : loopBody node = .ok body)
    (rest : List Node) : nodeCount (node :: rest) = 1 + nodeCount body.nodes + nodeCount rest := by
  rw [nodeCount, h, if_pos rfl]
  split
  · next body' hb' =>
    rw [hb] at hb'
    cases hb'
    rfl
  · next e he =>
    rw [hb] at he
    cases he

namespace Session

/-! ## Runs count nodes -/

theorem convertedNodes_convertNode (s : Session) (scope : ScopeId) (opset : Int) (node : Node) :
    (s.convertNode scope opset node).2.convertedNodes = s.convertedNodes := by
  have hran : ∀ c context, (s.ran c context).convertedNodes = s.convertedNodes := by
    intro c context
    obtain ⟨token, he⟩ := s.ran_eq c context
    rw [he]
  rcases convertNode_cases s scope opset node with
    ⟨e, -, he⟩ | ⟨operands, c, -, -, -, ⟨e, -, he⟩ | ⟨values, view, -, he⟩⟩
  · rw [he]
  · rw [he]
    exact hran c _
  · rw [he]
    exact (quiet_conclude ..).convertedNodes.trans (hran c _)

theorem CleanRun.convertedNodes {opset : Int} {scope : ScopeId} {nodes : List Node} {s s' : Session}
    (h : CleanRun opset scope nodes s s') : s'.convertedNodes = s.convertedNodes + nodeCount nodes := by
  induction h with
  | done => rw [nodeCount_nil, Nat.add_zero]
  | @node scope node rest s t s' _ hl hc _ ih =>
    have ht := convertedNodes_convertNode s.ask scope opset node
    rw [hc] at ht
    calc s'.convertedNodes
      _ = t.convertedNodes + 1 + nodeCount rest := ih
      _ = s.convertedNodes + 1 + nodeCount rest := by rw [show t.convertedNodes = s.convertedNodes from ht]
      _ = s.convertedNodes + nodeCount (node :: rest) := by rw [nodeCount_cons_node hl, Nat.add_assoc]
  | @loop scope node rest s t s' plan inner yielded _ hl hp _ _ _ hc _ ihb ih =>
    have ht : t.convertedNodes = inner.convertedNodes := by
      rw [← show (Session.finishLoop _ scope node plan s.ask.bodyBlock yielded).2 = t from congrArg Prod.snd hc]
      exact (quiet_conclude ..).convertedNodes
    have hbody : inner.convertedNodes = s.convertedNodes + nodeCount plan.body.nodes :=
      ihb.trans (congrArg (· + _) (quiet_enterLoop s.ask scope node plan).convertedNodes)
    calc s'.convertedNodes
      _ = t.convertedNodes + 1 + nodeCount rest := ih
      _ = s.convertedNodes + nodeCount plan.body.nodes + 1 + nodeCount rest := by rw [ht, hbody]
      _ = s.convertedNodes + nodeCount (node :: rest) := by
        rw [nodeCount_cons_loop hl (planLoop_eq_ok hp).2.1]
        omega

theorem CleanImport.convertedNodes {models : List Model} {s s' : Session} (h : CleanImport models s s') :
    s'.convertedNodes = s.convertedNodes + (models.map fun model => nodeCount model.graph.nodes).sum := by
  induction h with
  | nil => rfl
  | @cons model models s inner values s' hrun _ _ ih =>
    calc s'.convertedNodes
      _ = inner.convertedNodes + (models.map fun model => nodeCount model.graph.nodes).sum := ih
      _ = s.convertedNodes + nodeCount model.graph.nodes +
          (models.map fun model => nodeCount model.graph.nodes).sum := by
        rw [hrun.convertedNodes, (quiet_openGraph s model.graph).convertedNodes]
      _ = _ := by rw [List.map_cons, List.sum_cons, Nat.add_assoc]

/-! ## Outputs -/

theorem CleanImport.grows {models : List Model} {s s' : Session} (h : CleanImport models s s')
    (wf : s.scopes.WellFormed) : s.scopes.Grows .root s'.scopes := by
  induction h with
  | nil => exact .refl _ _
  | @cons model models s inner values s' hrun _ _ ih =>
    have hinner := (hrun.run.evolves_graph wf).scopes
    exact hinner.trans (ih (hinner.wellFormed wf))

theorem forall₂_of_resolveOutputs {s : Session} {scope : ScopeId} {outputs : List DeclaredValue}
    {values : List ValueId} (h : s.resolveOutputs scope outputs = some values) :
    List.Forall₂ (fun output v => s.scopes.find? scope output.name = some v) outputs values := by
  rw [resolveOutputs] at h
  induction outputs generalizing values with
  | nil =>
    cases h
    exact .nil
  | cons output outputs ih =>
    rw [List.mapM_cons] at h
    obtain ⟨v, hfirst, h⟩ := Option.bind_eq_some_iff.1 h
    obtain ⟨rest, hrest, h⟩ := Option.bind_eq_some_iff.1 h
    cases h
    exact .cons hfirst (ih hrest)

/-- The outputs collected from models are, one by one, the values that their outputs have in the end: names of the root
scope stay bound to the same values. -/
theorem CleanImport.outputs {models : List Model} {s s' : Session} (h : CleanImport models s s')
    (wf : s.scopes.WellFormed) :
    ∃ values, s'.outputs = s.outputs ++ values ∧
      List.Forall₂ (fun output v => s'.scopes.find? .root output.name = some v)
        (models.flatMap (·.graph.outputs)) values := by
  induction h with
  | @nil s => exact ⟨[], (List.append_nil _).symm, .nil⟩
  | @cons model models s inner values s' hrun hvalues hrest ih =>
    have hinner := hrun.run.evolves_graph wf
    have wfi := hinner.scopes.wellFormed wf
    obtain ⟨more, houtputs, hmore⟩ := ih wfi
    refine ⟨values ++ more, ?_, ?_⟩
    · rw [houtputs, collected, hinner.outputs, List.append_assoc]
    · have hkept := (forall₂_of_resolveOutputs hvalues).imp fun _ _ hv => (hrest.grows wfi).find?_root wfi hv
      rw [List.flatMap_cons]
      exact List.rel_append hkept hmore

end Session

theorem Builder.block?_setResults {b : Builder} {blk : Block} (h : b.function.block? b.current = some blk)
    (results : List ValueId) : (b.setResults results).function.block? b.current = some { blk with results } := by
  rw [setResults, block?_modifyBlock, if_pos rfl, h]
  rfl

/-- Whatever the models and the options, an import that returns a function has converted all their nodes, and the entry
block yields, one by one, the values that the names of all their outputs stand for. -/
theorem import_complete {models : List Model} {options : Options} {f : Function}
    (h : (importModels models options).result = .ok f) :
    (models.foldl Session.convertModel (.standard options)).convertedNodes =
        (models.map fun model => nodeCount model.graph.nodes).sum ∧
      ∃ entry, f.block? .entry = some entry ∧
        List.Forall₂ (fun output v =>
            (models.foldl Session.convertModel (.standard options)).scopes.find? .root output.name = some v)
          (models.flatMap (·.graph.outputs)) entry.results := by
  obtain ⟨s, hfinal, hs, hclean, rfl⟩ := cleanImport_of_ok h
  rw [hfinal]
  refine ⟨hclean.convertedNodes.trans (Nat.zero_add _), ?_⟩
  obtain ⟨values, houtputs, hvalues⟩ := hclean.outputs ScopeTree.wellFormed_new
  -- between graphs no body is open, so the outputs go to the entry block
  obtain ⟨blk, hblk⟩ := hs.names.builder.opened
  have hentry : s.builder.current = .entry := by rw [Builder.current, hs.stack]; rfl
  have hblock := Builder.block?_setResults hblk s.outputs
  rw [hentry] at hblock
  refine ⟨_, hblock, ?_⟩
  rw [houtputs]
  exact hvalues

/-- The loop yields the last value that is made: `x`, the three arguments of the body and the sum come before it. -/
theorem accumulator_complete :
    ∃ f, (importModels [accumulator] .standard).result = .ok f ∧ nodeCount accumulator.graph.nodes = 2 ∧
      ∃ entry, f.block? .entry = some entry ∧ entry.results = [⟨5⟩] := by
  have hok : (importModels [accumulator] .standard).result.isOk = true := by decide +kernel
  have hy : ([accumulator].foldl Session.convertModel (.standard .standard)).scopes.find? .root "y" = some ⟨5⟩ := by
    decide +kernel
  cases h : (importModels [accumulator] .standard).result with
  | ok f =>
    obtain ⟨hcount, entry, hentry, hresults⟩ := import_complete h
    refine ⟨f, rfl, ?_, entry, hentry, ?_⟩
    · calc nodeCount accumulator.graph.nodes
        _ = ([accumulator].foldl Session.convertModel (.standard .standard)).convertedNodes := hcount.symm
        _ = 2 := by decide +kernel
    · obtain ⟨v, rest, hv, hrest, he⟩ := List.forall₂_cons_left_iff.1 hresults
      cases hrest
      rw [he, Option.some.inj (hv.symm.trans hy)]
  | error e => rw [h] at hok; cases hok

end ModelImport
