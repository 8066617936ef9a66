import ModelImport.Import
import ModelImport.Proofs.Visits
/-!
# A failure stays with its node

A node that fails changes nothing for the nodes after it: without it they would come to the same function and the same
names, and the failures would be the same but for its own (`fault_isolation`). Two facts make it so. A node that fails
has added nothing and bound nothing, unless it binds a name a second time (`convertNode_failed`). And two sessions that
differ by one failure stay so, step by step (`Shadows`): failures are counted and looked up in loop bodies only, and
there only those of the body itself.
-/

namespace ModelImport

/-- In a scope that is alive, a name cannot be bound for one reason only. -/
theorem ScopeTree.insertAll_error {t t' : ScopeTree} {id : ScopeId} {pairs : List (String × ValueId)} {e : ImportError}
    (hlive : t.isLive id = true) (h : t.insertAll id pairs = (some e, t')) : e.kind = .duplicateBinding := by
  induction pairs generalizing t with
  | nil => cases h
  | cons pair pairs ih =>
    rw [insertAll] at h
    split at h
    · exact ih hlive h
    · split at h
      · next u hu => exact ih (((grows_insert hu).isLive id).trans hlive) h
      · next e' hu =>
        cases h
        obtain ⟨r, hr, hser⟩ := isLive_iff.1 hlive
        rcases insert_of_record (record?_eq_some.2 ⟨hr, hser⟩) pair.1 pair.2 with ⟨hdup, -⟩ | ⟨-, hok⟩
        · rw [hdup] at hu
          cases hu
          rfl
        · rw [hok] at hu
          cases hu

namespace Session

/-- Two sessions at the same point of their runs, the second of which has recorded one failure more. Which outputs are
lost in the scope `top` of the runs is left open: nothing in the runs asks for them. -/
structure Shadows (base : List Diagnostic) (fault : Diagnostic) (top : ScopeId) (s t : Session) : Prop where
  registry : t.registry = s.registry
  token : t.token = s.token
  builder : t.builder = s.builder
  scopes : t.scopes = s.scopes
  path : t.path = s.path
  convertedNodes : t.convertedNodes = s.convertedNodes
  cancelled : t.cancelled = s.cancelled
  diagnostics : ∃ rest, s.diagnostics = base ++ rest ∧ t.diagnostics = base ++ fault :: rest
  failedOutputs : ∀ scope name, scope ≠ top →
    t.failedOutputs.contains (scope, name) = s.failedOutputs.contains (scope, name)

section Steps
variable {base : List Diagnostic} {fault : Diagnostic} {top : ScopeId} {s t : Session}

/-! ## Names and outputs -/

theorem Shadows.length (h : Shadows base fault top s t) : t.diagnostics.length = s.diagnostics.length + 1 := by
  obtain ⟨rest, hs, ht⟩ := h.diagnostics
  rw [hs, ht, List.length_append, List.length_append, List.length_cons, Nat.add_assoc]

theorem Shadows.record (h : Shadows base fault top s t) (node opType : String) (e : ImportError) :
    Shadows base fault top (s.record node opType e) (t.record node opType e) := by
  obtain ⟨rest, hs, ht⟩ := h.diagnostics
  refine { h with diagnostics := ⟨rest ++ [⟨⟨"/".intercalate s.path, node, opType⟩, e⟩], ?_, ?_⟩ }
  · rw [Session.record, hs, List.append_assoc]
  · rw [Session.record, ht, h.path, List.append_assoc, List.cons_append]

theorem Shadows.withBuilder (h : Shadows base fault top s t) (builder : Builder) :
    Shadows base fault top { s with builder } { t with builder } :=
  { h with builder := rfl }

theorem Shadows.bindName (h : Shadows base fault top s t) (scope : ScopeId) (name kind : String) (v : ValueId) :
    Shadows base fault top (s.bindName scope name kind v) (t.bindName scope name kind v) := by
  unfold Session.bindName
  rw [h.scopes]
  split
  · exact { h with scopes := rfl }
  · exact h.record ..

theorem Shadows.bindFormal (h : Shadows base fault top s t) (scope : ScopeId) (formal : DeclaredValue)
    (expected : TensorType) :
    Shadows base fault top (s.bindFormal scope formal expected) (t.bindFormal scope formal expected) := by
  unfold Session.bindFormal
  rw [h.builder]
  split
  · exact h.record ..
  · exact (h.withBuilder _).bindName ..

theorem Shadows.bindInitializer (h : Shadows base fault top s t) (scope : ScopeId) (tensor : StoredTensor) :
    Shadows base fault top (s.bindInitializer scope tensor) (t.bindInitializer scope tensor) := by
  unfold Session.bindInitializer
  rw [h.builder]
  split
  · exact h.record ..
  · exact (h.withBuilder _).bindName ..

/-- Only the outputs of other scopes than `top` are alike in both sessions. -/
theorem Shadows.checkOutput (h : Shadows base fault top s t) {scope : ScopeId} (hne : scope ≠ top)
    (output : DeclaredValue) : Shadows base fault top (s.checkOutput scope output) (t.checkOutput scope output) := by
  unfold Session.checkOutput
  rw [h.scopes, h.failedOutputs scope output.name hne]
  split
  · exact h
  · exact h.record ..

theorem Shadows.foldl {α : Type} {f : Session → α → Session}
    (hf : ∀ {s t : Session} a, Shadows base fault top s t → Shadows base fault top (f s a) (f t a)) (l : List α)
    (h : Shadows base fault top s t) : Shadows base fault top (l.foldl f s) (l.foldl f t) := by
  induction l generalizing s t with
  | nil => exact h
  | cons a l ih => exact ih (hf a h)

theorem Shadows.resolveInputs (h : Shadows base fault top s t) (scope : ScopeId) (node : Node) :
    t.resolveInputs scope node = s.resolveInputs scope node := by
  have hone : t.resolveInput scope = s.resolveInput scope := by
    funext name
    simp only [Session.resolveInput, h.scopes]
  rw [Session.resolveInputs, Session.resolveInputs, hone]

/-! ## One node -/

theorem Shadows.bindOutputs (h : Shadows base fault top s t) (scope : ScopeId) (node : Node) (values : List ValueId) :
    (t.bindOutputs scope node values).1 = (s.bindOutputs scope node values).1 ∧
      Shadows base fault top (s.bindOutputs scope node values).2 (t.bindOutputs scope node values).2 := by
  unfold Session.bindOutputs
  rw [h.scopes]
  dsimp only
  split
  · exact ⟨rfl, h⟩
  · split
    · exact ⟨rfl, { h with scopes := rfl }⟩
    · exact ⟨rfl, { h with scopes := rfl }⟩

theorem Shadows.conclude (h : Shadows base fault top s t) (scope : ScopeId) (node : Node) (values : List ValueId)
    (view : AttributeView) :
    (t.conclude scope node values view).1 = (s.conclude scope node values view).1 ∧
      Shadows base fault top (s.conclude scope node values view).2 (t.conclude scope node values view).2 := by
  have hwarned : Shadows base fault top (s.warnUnread node view) (t.warnUnread node view) := { h with }
  exact hwarned.bindOutputs ..

theorem Shadows.dispatch (h : Shadows base fault top s t) (scope : ScopeId) (opset : Int) (node : Node) :
    t.dispatch scope opset node = s.dispatch scope opset node := by
  simp only [Session.dispatch, h.resolveInputs, h.registry]

theorem Shadows.convertNode (h : Shadows base fault top s t) (scope : ScopeId) (opset : Int) (node : Node) :
    (t.convertNode scope opset node).1 = (s.convertNode scope opset node).1 ∧
      Shadows base fault top (s.convertNode scope opset node).2 (t.convertNode scope opset node).2 := by
  have hprime : ∀ c : Converter,
      Shadows base fault top (if c.cancels then s.cancel else s) (if c.cancels then t.cancel else t) := by
    intro c
    split
    · exact { h with token := rfl }
    · exact h
  unfold Session.convertNode
  rw [h.dispatch]
  split
  · exact ⟨rfl, h⟩
  · next c context _ =>
    dsimp only
    rw [(hprime c).builder]
    split
    · exact ⟨rfl, (hprime c).withBuilder _⟩
    · exact ((hprime c).withBuilder _).conclude ..

theorem Shadows.settle (h : Shadows base fault top s t) (scope : ScopeId) (node : Node) (outcome : NodeOutcome) :
    Shadows base fault top (s.settle scope node outcome) (t.settle scope node outcome) := by
  have hlost : ∀ (lost : List (ScopeId × String)) sc name, sc ≠ top →
      (lost ++ t.failedOutputs).contains (sc, name) = (lost ++ s.failedOutputs).contains (sc, name) := by
    intro lost sc name hne
    rw [List.contains_append, List.contains_append, h.failedOutputs sc name hne]
  cases outcome with
  | converted => exact { h with convertedNodes := congrArg (· + 1) h.convertedNodes }
  | reported => exact { h with failedOutputs := hlost _ }
  | failed e => exact { h.record node.displayName node.opType e with failedOutputs := hlost _ }

theorem Shadows.ask (h : Shadows base fault top s t) : Shadows base fault top s.ask t.ask :=
  { h with token := congrArg CancelToken.asked h.token }

theorem Shadows.active (h : Shadows base fault top s t) (ha : s.Active) : t.Active :=
  ⟨h.cancelled.trans ha.1, h.token ▸ ha.2⟩

theorem Shadows.afterNode (h : Shadows base fault top s t) (scope : ScopeId) (opset : Int) (node : Node) :
    Shadows base fault top (s.afterNode scope opset node) (t.afterNode scope opset node) := by
  obtain ⟨houtcome, hnext⟩ := h.ask.convertNode scope opset node
  rw [Session.afterNode, Session.afterNode, houtcome]
  exact hnext.settle ..

/-! ## Loops -/

theorem Shadows.planLoop (h : Shadows base fault top s t) (scope : ScopeId) (node : Node) :
    t.planLoop scope node = s.planLoop scope node := by
  have htype : t.typeOf = s.typeOf := by
    funext v
    simp only [Session.typeOf, h.builder]
  simp only [Session.planLoop, Session.loopOperands, Session.carriedTypes, h.resolveInputs, htype]

theorem Shadows.bodyScope (h : Shadows base fault top s t) (scope : ScopeId) :
    t.bodyScope scope = s.bodyScope scope := by
  rw [Session.bodyScope, h.scopes, Session.bodyScope]

theorem Shadows.bodyBlock (h : Shadows base fault top s t) : t.bodyBlock = s.bodyBlock := by
  rw [Session.bodyBlock, h.builder, Session.bodyBlock]

theorem Shadows.enterBody (h : Shadows base fault top s t) (scope : ScopeId) (node : Node) (body : Graph) :
    Shadows base fault top (s.enterBody scope node body).2.2 (t.enterBody scope node body).2.2 :=
  { h with
    builder := congrArg (fun b => (Builder.openBlock b _).2) h.builder
    scopes := congrArg (fun u => (ScopeTree.createChild u scope).2) h.scopes
    path := congrArg (· ++ [body.name]) h.path }

theorem Shadows.enterLoop (h : Shadows base fault top s t) (scope : ScopeId) (node : Node) (plan : LoopPlan) :
    Shadows base fault top (s.enterLoop scope node plan) (t.enterLoop scope node plan) := by
  rw [Session.enterLoop, Session.enterLoop, h.bodyScope]
  have hformals := (h.enterBody scope node plan.body).foldl
    (fun (x : DeclaredValue × TensorType) hs => hs.bindFormal (s.bodyScope scope) x.1 x.2)
    (plan.body.inputs.zip plan.expected)
  exact hformals.foldl (fun tensor hs => hs.bindInitializer (s.bodyScope scope) tensor) plan.body.initializers

/-- A body is judged by the failures since its beginning, of which there are as many in both sessions. -/
theorem Shadows.yieldBody (h : Shadows base fault top s t) {scope : ScopeId} (hne : scope ≠ top) (before : Nat)
    (body : Graph) :
    (t.yieldBody scope (before + 1) body).1 = (s.yieldBody scope before body).1 ∧
      Shadows base fault top (s.yieldBody scope before body).2 (t.yieldBody scope (before + 1) body).2 := by
  have hcheck : Shadows base fault top (s.checkOutputs scope body.outputs) (t.checkOutputs scope body.outputs) :=
    h.foldl (fun output hs => hs.checkOutput hne output) body.outputs
  unfold Session.yieldBody
  rw [h.cancelled]
  split
  · exact ⟨rfl, h⟩
  · refine ⟨?_, hcheck⟩
    dsimp only
    rw [hcheck.length, Session.resolveOutputs, hcheck.scopes, Session.resolveOutputs]
    simp only [Nat.add_right_cancel_iff]

theorem Shadows.leaveBody (h : Shadows base fault top s t) (child : ScopeId) (outer outer' : Phase)
    (results : Option (List ValueId)) :
    Shadows base fault top (s.leaveBody child outer results) (t.leaveBody child outer' results) := by
  refine { h with builder := ?_, scopes := ?_, path := congrArg List.dropLast h.path }
  · simp only [Session.leaveBody, h.builder]
  · simp only [Session.leaveBody, h.scopes]

theorem Shadows.finishLoop (h : Shadows base fault top s t) (scope : ScopeId) (node : Node) (plan : LoopPlan)
    (block : BlockId) (yielded : List ValueId) :
    (t.finishLoop scope node plan block yielded).1 = (s.finishLoop scope node plan block yielded).1 ∧
      Shadows base fault top (s.finishLoop scope node plan block yielded).2
        (t.finishLoop scope node plan block yielded).2 := by
  have htypes : t.loopTypes node plan.carried yielded = s.loopTypes node plan.carried yielded := by
    simp only [Session.loopTypes, h.builder]
  simp only [Session.finishLoop, htypes, h.builder]
  exact (h.withBuilder _).conclude ..

theorem Shadows.endLoop (h : Shadows base fault top s t) {scope : ScopeId} (hne : s.bodyScope scope ≠ top) (node : Node)
    (plan : LoopPlan) {inner inner' : Session} (hi : Shadows base fault top inner inner') :
    (t.endLoop scope node plan inner').1 = (s.endLoop scope node plan inner).1 ∧
      Shadows base fault top (s.endLoop scope node plan inner).2 (t.endLoop scope node plan inner').2 := by
  obtain ⟨hyielded, hbody⟩ := hi.yieldBody hne s.diagnostics.length plan.body
  rw [endLoop_eq, endLoop_eq, h.bodyScope, h.length, h.bodyBlock]
  dsimp only
  cases hy : (inner.yieldBody (s.bodyScope scope) s.diagnostics.length plan.body).1 with
  | none =>
    rw [hyielded, hy]
    exact ⟨rfl, hbody.leaveBody (s.bodyScope scope) s.phase t.phase none⟩
  | some yielded =>
    rw [hyielded, hy]
    exact (hbody.leaveBody (s.bodyScope scope) s.phase t.phase (some yielded)).finishLoop ..

theorem Shadows.afterLoop (h : Shadows base fault top s t) {scope : ScopeId} (hne : s.bodyScope scope ≠ top)
    (node : Node) (plan : LoopPlan) {inner inner' : Session} (hi : Shadows base fault top inner inner') :
    Shadows base fault top (s.afterLoop scope node plan inner) (t.afterLoop scope node plan inner') := by
  obtain ⟨houtcome, hnext⟩ := h.ask.endLoop hne node plan hi
  rw [Session.afterLoop, Session.afterLoop, houtcome]
  exact hnext.settle ..

end Steps

/-! ## Runs -/

/-- A body that is entered while a scope is alive has another scope. -/
theorem bodyScope_ne {s : Session} {top : ScopeId} (h : top.serial < s.scopes.nextSerial) (scope : ScopeId) :
    s.bodyScope scope ≠ top := by
  obtain ⟨i, hi, -⟩ := ScopeTree.createChild_spec s.scopes scope
  intro he
  rw [← he, bodyScope, hi] at h
  exact Nat.lt_irrefl _ h

theorem Run.shadows {base : List Diagnostic} {fault : Diagnostic} {top : ScopeId} {opset : Int} {scope : ScopeId}
    {nodes : List Node} {s s' : Session} (h : Run opset scope nodes s s') (hu : s.scopes.Usable scope)
    (htop : top.serial < s.scopes.nextSerial) {t : Session} (ht : Shadows base fault top s t) :
    ∃ t', Run opset scope nodes t t' ∧ Shadows base fault top s' t' := by
  induction h generalizing t with
  | done => exact ⟨t, .done, ht⟩
  | halted hc => exact ⟨t, .halted (ht.cancelled.trans hc), ht⟩
  | @stopped scope node rest s hc hset =>
    refine ⟨t.stop node, .stopped (ht.cancelled.trans hc) (ht.token ▸ hset), ?_⟩
    exact { ht.record node.displayName node.opType .cancelled with cancelled := rfl }
  | @node scope node rest s s' ha hl _ ih =>
    have hnode := (evolves_afterNode s scope opset node).scopes
    obtain ⟨t', hrun, ht'⟩ := ih (hnode.usable hu) (Nat.lt_of_lt_of_le htop hnode.1) (ht.afterNode scope opset node)
    exact ⟨t', .node (ht.active ha) hl hrun, ht'⟩
  | @refused scope node rest s s' e ha hl hp _ ih =>
    obtain ⟨t', hrun, ht'⟩ := ih hu htop (ht.ask.settle scope node (.failed e))
    exact ⟨t', .refused (ht.active ha) hl ((ht.ask.planLoop scope node).trans hp) hrun, ht'⟩
  | @loop scope node rest s s' plan inner ha hl hp hbody _ ihb ih =>
    have hub := usable_enterLoop node plan (s := s.ask) hu
    have hopen : s.scopes.nextSerial ≤ (s.ask.enterLoop scope node plan).scopes.nextSerial := by
      obtain ⟨-, -, -, hnext, -⟩ := ScopeTree.createChild_spec s.scopes scope
      calc s.scopes.nextSerial
        _ ≤ (s.scopes.createChild scope).2.nextSerial := hnext ▸ Nat.le_succ _
        _ ≤ _ := (evolves_enterLoop s.ask scope node plan).scopes.1
    -- the body has a scope of its own, in which both sessions have lost the same outputs
    obtain ⟨inner', hrunb, hinner⟩ := ihb hub (Nat.lt_of_lt_of_le htop hopen) (ht.ask.enterLoop scope node plan)
    have hnode := (evolves_afterLoop hu (hbody.evolves hub)).scopes
    obtain ⟨t', hrun, ht'⟩ := ih (hnode.usable hu) (Nat.lt_of_lt_of_le htop hnode.1)
      (ht.afterLoop (bodyScope_ne htop scope) node plan hinner)
    rw [← ht.ask.bodyScope] at hrunb
    exact ⟨t', .loop (ht.active ha) hl ((ht.ask.planLoop scope node).trans hp) hrunb hrun, ht'⟩

/-! ## The node that fails -/

/-- A node that fails has added nothing and bound nothing, unless an output was to be bound a second time. A converter
that adds something has values enough, so what is left to fail after an addition is a name. -/
theorem convertNode_failed {s : Session} {scope : ScopeId} (hreg : s.registry = .builtin)
    (hlive : s.scopes.isLive scope = true) {opset : Int} {node : Node} {e : ImportError}
    (h : (s.convertNode scope opset node).1 = .failed e) (he : e.kind ≠ .duplicateBinding) :
    ∃ warnings, (s.convertNode scope opset node).2 = { s with warnings } := by
  rcases convertNode_builtin hreg scope opset node with ⟨_, hc⟩ | ⟨operands, c, lowering, view, -, -, -, hfits, hc⟩
  · exact ⟨s.warnings, by rw [hc]⟩
  · rw [hc, applyLowering] at h ⊢
    rcases bindOutputs_cases (s.added node lowering view) scope node (lowering.apply s.builder).1 with
      ⟨hfew, hb⟩ | ⟨-, t, ⟨-, hb⟩ | ⟨e', hi, hb⟩⟩
    · -- too few values: then nothing was added
      have hnone : lowering.addition = none := by
        by_contra hne
        have henough := hfits.enough hne
        rw [lowering.length_apply] at hfew
        exact absurd hfew (Nat.not_lt_of_le henough)
      have hsame : (lowering.apply s.builder).2 = s.builder := by rw [Lowering.apply, hnone]
      exact ⟨(s.added node lowering view).warnings, by rw [hb, added, hsame]; rfl⟩
    · rw [hb] at h
      cases h
    · rw [hb] at h
      cases h
      exact absurd (ScopeTree.insertAll_error hlive hi) he

/-- The session after a node that fails is that before it, but for the failure. -/
theorem shadows_afterNode {s : Session} {scope : ScopeId} (hreg : s.registry = .builtin)
    (hlive : s.scopes.isLive scope = true) (htoken : s.token.asked = s.token) {opset : Int} {node : Node}
    {e : ImportError} (h : (s.convertNode scope opset node).1 = .failed e) (he : e.kind ≠ .duplicateBinding) :
    Shadows s.diagnostics ⟨⟨"/".intercalate s.path, node.displayName, node.opType⟩, e⟩ scope s
      (s.afterNode scope opset node) := by
  have hask : s.ask = s := by rw [ask, htoken]
  obtain ⟨warnings, hnext⟩ := convertNode_failed hreg hlive h he
  rw [afterNode, hask, h, hnext]
  refine ⟨rfl, rfl, rfl, rfl, rfl, rfl, rfl, ⟨[], (List.append_nil _).symm, rfl⟩, fun sc name hne => ?_⟩
  -- the outputs of the node are lost in its own scope
  have hlost : ((node.outputs.filter (· ≠ "")).map fun name => (scope, name)).contains (sc, name) = false := by
    rw [List.contains_eq_any_beq, List.any_eq_false]
    rintro x hx heq
    obtain ⟨y, -, rfl⟩ := List.mem_map.1 hx
    exact hne (congrArg Prod.fst (eq_of_beq heq))
  change (_ ++ s.failedOutputs).contains (sc, name) = _
  rw [List.contains_append, hlost, Bool.false_or]

/-! ## The token -/

theorem token_settle (s : Session) (scope : ScopeId) (node : Node) (outcome : NodeOutcome) :
    (s.settle scope node outcome).token = s.token := by
  cases outcome <;> rfl

theorem token_afterLoop (s inner : Session) (scope : ScopeId) (node : Node) (plan : LoopPlan) :
    (s.afterLoop scope node plan inner).token = inner.token := by
  have hyield := (quiet_yieldBody inner (s.ask.bodyScope scope) s.ask.diagnostics.length plan.body).token
  rw [afterLoop, token_settle, endLoop_eq]
  dsimp only
  split
  · exact hyield
  · exact (quiet_conclude ..).token.trans hyield

/-- Questions are all that a run over the library's operators does to its token. -/
theorem Run.token {opset : Int} {scope : ScopeId} {nodes : List Node} {s s' : Session}
    (h : Run opset scope nodes s s') (hu : s.scopes.Usable scope) (hreg : s.registry = .builtin)
    (ht : s.token.asked = s.token) : s'.token = s.token := by
  induction h with
  | done | halted | stopped => rfl
  | @node scope node rest s s' ha hl _ ih =>
    have hnode := evolves_afterNode s scope opset node
    have hsame : (s.afterNode scope opset node).token = s.token := by
      rw [afterNode, token_settle, (quiet_convertNode (s := s.ask) hreg scope opset node).token]
      exact ht
    rw [ih (hnode.scopes.usable hu) (hnode.registry.trans hreg) (by rw [hsame, ht]), hsame]
  | @refused scope node rest s s' e ha hl hp _ ih =>
    exact (ih hu hreg (congrArg CancelToken.asked ht)).trans ht
  | @loop scope node rest s s' plan inner ha hl hp hbody _ ihb ih =>
    have hub := usable_enterLoop node plan (s := s.ask) hu
    have hopen := evolves_enterLoop s.ask scope node plan
    have henter : (s.ask.enterLoop scope node plan).token = s.token := (quiet_enterLoop ..).token.trans ht
    have hnode := evolves_afterLoop hu (hbody.evolves hub)
    have hsame : (s.afterLoop scope node plan inner).token = s.token := by
      rw [token_afterLoop, ihb hub (hopen.registry.trans hreg) (by rw [henter, ht]), henter]
    rw [ih (hnode.scopes.usable hu) (hnode.registry.trans hreg) (by rw [hsame, ht]), hsame]

end Session

/-- Whatever stands around it, an ordinary node that is reached and fails, other than by binding a name again, leaves
the conversion as it would be without the node; its own failure comes after those of the nodes before it. The token is
one that questions do not change: not set during the run, or set before it, and then no node is reached. -/
theorem fault_isolation {s : Session} {scope : ScopeId} (hs : s.Occurs .builtin) (hlive : s.scopes.isLive scope = true)
    (htoken : s.token.asked = s.token) {opset : Int} {pre : List Node} {node : Node} {e : ImportError}
    (hreached : (s.convertNodes scope opset pre).Active) (hloop : node.isLoop = false)
    (hfailed : ((s.convertNodes scope opset pre).convertNode scope opset node).1 = .failed e)
    (hkind : e.kind ≠ .duplicateBinding) (post : List Node) :
    let before := s.convertNodes scope opset pre
    let shorter := s.convertNodes scope opset (pre ++ post)
    let longer := s.convertNodes scope opset (pre ++ [node] ++ post)
    longer.builder = shorter.builder ∧ longer.scopes = shorter.scopes ∧
      longer.convertedNodes = shorter.convertedNodes ∧
      ∃ rest, shorter.diagnostics = before.diagnostics ++ rest ∧ longer.diagnostics = before.diagnostics ++
        ⟨⟨"/".intercalate s.path, node.displayName, node.opType⟩, e⟩ :: rest := by
  intro before shorter longer
  obtain ⟨wf, hreg⟩ := hs.sound
  have hpre := Session.run_convertNodes s scope opset pre
  have hev := hpre.evolves ⟨wf, hlive⟩
  have hu : before.scopes.Usable scope := hev.scopes.usable ⟨wf, hlive⟩
  have htoken' : before.token.asked = before.token := by rw [hpre.token ⟨wf, hlive⟩ hreg htoken, htoken]
  -- the two runs part at the node, and from there on one shadows the other
  have hstart := Session.shadows_afterNode (hev.registry.trans hreg) hu.live htoken' hfailed hkind
  have hpost := Session.run_convertNodes before scope opset post
  obtain ⟨last, hrun, hlast⟩ := hpost.shadows hu hu.serial_lt hstart
  have hshorter : shorter = before.convertNodes scope opset post := (hpre.append hpost).eq_convertNodes
  have hlonger : longer = last := by
    refine Session.Run.eq_convertNodes ?_
    rw [List.append_assoc]
    exact hpre.append (.node hreached hloop hrun)
  rw [hshorter, hlonger]
  refine ⟨hlast.builder, hlast.scopes, hlast.convertedNodes, ?_⟩
  rw [← hev.path]
  exact hlast.diagnostics

/-- A session among the nodes of a graph with the input `x`. -/
def oneInput : Session :=
  (Session.standard .standard).openGraph
    { name := "g", nodes := [], inputs := [⟨"x", some 1, some [.value 2]⟩], outputs := [], initializers := [] }

def relu (input output : String) : Node := ⟨"", "Relu", "", [input], [output], []⟩

theorem missing_input_isolated :
    (oneInput.convertNodes .root 13 [relu "x" "y", relu "missing" "z", relu "y" "w"]).builder =
        (oneInput.convertNodes .root 13 [relu "x" "y", relu "y" "w"]).builder ∧
      (oneInput.convertNodes .root 13 [relu "x" "y", relu "missing" "z", relu "y" "w"]).diagnostics =
        [⟨⟨"g", (relu "missing" "z").displayName, "Relu"⟩, .unresolvedInput "missing"⟩] := by
  have hfailed : ((oneInput.convertNodes .root 13 [relu "x" "y"]).convertNode .root 13 (relu "missing" "z")).1 =
      .failed (.unresolvedInput "missing") := by decide +kernel
  have hclean : (oneInput.convertNodes .root 13 [relu "x" "y", relu "y" "w"]).diagnostics = [] := by decide +kernel
  have hpath : "/".intercalate oneInput.path = "g" := by decide +kernel
  have hoccurs : oneInput.Occurs .builtin := .graph _ .start
  obtain ⟨hbuilder, -, -, rest, hshorter, hlonger⟩ := fault_isolation hoccurs (by decide +kernel) rfl
    ⟨by decide +kernel, by decide +kernel⟩ (by decide) hfailed (by decide) [relu "y" "w"]
  obtain ⟨hbefore, hrest⟩ := List.append_eq_nil_iff.1 (hshorter.symm.trans hclean)
  rw [hbefore, hrest, hpath] at hlonger
  exact ⟨hbuilder, hlonger⟩

end ModelImport
