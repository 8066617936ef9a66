import ModelImport.Proofs.NameBlind
import ModelImport.Proofs.NodeBindings
import ModelImport.Proofs.Redirection
/-!
# A value under a second name

A node that gives a value a second name can be left out, if what reads the second name reads the first instead
(`identity_elimination`). The two sessions, with the node and without, are compared step by step (`Elides`): they build
the same function and record the same failures, and their scopes differ in the one binding. While neither name is bound
again both stand for the one value wherever a node looks them up (`Alias`), in loop bodies as well as around them.
-/

namespace ModelImport

namespace ScopeTree

/-- Two names that stand for one value in a scope. -/
structure Alias (t : ScopeTree) (x y : String) (v : ValueId) (scope : ScopeId) : Prop where
  distinct : x ≠ y
  first_ne : x ≠ ""
  second_ne : y ≠ ""
  first : t.find? scope x = some v
  second : t.find? scope y = some v

theorem Alias.congr {t u : ScopeTree} {x y : String} {v : ValueId} {scope scope' : ScopeId} (h : t.Alias x y v scope)
    (hx : u.find? scope' x = t.find? scope x) (hy : u.find? scope' y = t.find? scope y) : u.Alias x y v scope' :=
  { h with first := hx.trans h.first, second := hy.trans h.second }

end ScopeTree

namespace Session

/-! ## Names that stay as they are -/

/-- A node changes what its own outputs stand for and nothing else. -/
theorem find?_visit {s : Session} {scope : ScopeId} (hu : s.scopes.Usable scope) (opset : Int) {node : Node}
    {name : String} (hname : name ∉ node.outputs) :
    (s.visit scope opset node).2.scopes.find? scope name = s.scopes.find? scope name := by
  obtain ⟨r, hr⟩ := Option.isSome_iff_exists.mp hu.live
  obtain ⟨names, hslots, hnames⟩ := visit_adds hu hr opset node
  have hwf := (evolves_visit hu opset node).scopes.wellFormed hu.wf
  rw [ScopeTree.find?_congr (ScopeTree.wellFormed_addNames hu.wf scope.index names) hwf hslots.symm]
  have hne : ∀ x ∈ names, x.1 ≠ name := by
    rintro x hx rfl
    exact hname (hnames x hx).2.2
  exact ScopeTree.find?_addNames_of_ne hu.wf hne scope

theorem find?_bindName {s : Session} {scope : ScopeId} (wf : s.scopes.WellFormed) {bound kind name : String}
    {v : ValueId} (hne : bound ≠ name) (id : ScopeId) :
    (s.bindName scope bound kind v).scopes.find? id name = s.scopes.find? id name := by
  unfold bindName
  split
  · next t ht =>
    obtain ⟨r, -, -, rfl⟩ := ScopeTree.insert_eq_ok ht
    exact ScopeTree.find?_addNames_of_ne wf (by simpa using hne) id
  · rfl

theorem find?_bindFormal {s : Session} {scope : ScopeId} (wf : s.scopes.WellFormed) {formal : DeclaredValue}
    {name : String} (hne : formal.name ≠ name) (expected : TensorType) (id : ScopeId) :
    (s.bindFormal scope formal expected).scopes.find? id name = s.scopes.find? id name := by
  unfold bindFormal
  split
  · rfl
  · exact find?_bindName (by exact wf) hne id

theorem find?_bindInitializer {s : Session} {scope : ScopeId} (wf : s.scopes.WellFormed) {tensor : StoredTensor}
    {name : String} (hne : tensor.name ≠ name) (id : ScopeId) :
    (s.bindInitializer scope tensor).scopes.find? id name = s.scopes.find? id name := by
  unfold bindInitializer
  split
  · rfl
  · exact find?_bindName (by exact wf) hne id

theorem find?_bindFormals {s : Session} {scope : ScopeId} (wf : s.scopes.WellFormed)
    {formals : List (DeclaredValue × TensorType)} {name : String} (hne : ∀ x ∈ formals, x.1.name ≠ name)
    (id : ScopeId) : (s.bindFormals scope formals).scopes.find? id name = s.scopes.find? id name := by
  rw [bindFormals]
  induction formals generalizing s with
  | nil => rfl
  | cons x formals ih =>
    obtain ⟨hx, hrest⟩ := List.forall_mem_cons.mp hne
    have wf' : (s.bindFormal scope x.1 x.2).scopes.WellFormed := (evolves_bindFormal ..).scopes.wellFormed wf
    rw [List.foldl_cons, ih wf' hrest, find?_bindFormal wf hx]

theorem find?_bindInitializers {s : Session} {scope : ScopeId} (wf : s.scopes.WellFormed)
    {tensors : List StoredTensor} {name : String} (hne : ∀ tensor ∈ tensors, tensor.name ≠ name) (id : ScopeId) :
    (s.bindInitializers scope tensors).scopes.find? id name = s.scopes.find? id name := by
  rw [bindInitializers]
  induction tensors generalizing s with
  | nil => rfl
  | cons tensor tensors ih =>
    obtain ⟨htensor, hrest⟩ := List.forall_mem_cons.mp hne
    have wf' : (s.bindInitializer scope tensor).scopes.WellFormed := (evolves_bindInitializer ..).scopes.wellFormed wf
    rw [List.foldl_cons, ih wf' hrest, find?_bindInitializer wf htensor]

/-- A loop body sees what is around it, under every name but those it declares. -/
theorem find?_enterLoop {s : Session} {scope : ScopeId} (hu : s.scopes.Usable scope) (node : Node) {plan : LoopPlan}
    {name : String} (hformals : ∀ formal ∈ plan.body.inputs, formal.name ≠ name)
    (htensors : ∀ tensor ∈ plan.body.initializers, tensor.name ≠ name) :
    (s.enterLoop scope node plan).scopes.find? (s.bodyScope scope) name = s.scopes.find? scope name := by
  have hentered : (s.enterBody scope node plan.body).2.2.scopes.WellFormed := hu.createChild.wf
  have hbound : ((s.enterBody scope node plan.body).2.2.bindFormals (s.bodyScope scope)
      (plan.body.inputs.zip plan.expected)).scopes.WellFormed := (evolves_bindFormals ..).scopes.wellFormed hentered
  rw [enterLoop, find?_bindInitializers hbound htensors,
    find?_bindFormals hentered fun x hx => hformals x.1 (List.of_mem_zip hx).1]
  exact ScopeTree.find?_createChild_self hu name

/-- Two sessions at the same point of their runs, the second without the name `y` in one scope. -/
structure Elides (y : String) (serial : Nat) (s t : Session) : Prop where
  registry : t.registry = s.registry
  token : t.token = s.token
  builder : t.builder = s.builder
  scopes : t.scopes = s.scopes.forget serial y
  path : t.path = s.path
  diagnostics : t.diagnostics = s.diagnostics
  failedOutputs : t.failedOutputs = s.failedOutputs
  cancelled : t.cancelled = s.cancelled

section Steps
variable {x y : String} {serial : Nat} {v : ValueId} {scope : ScopeId} {s t : Session}

/-! ## Names and outputs -/

theorem Elides.record (h : Elides y serial s t) (node opType : String) (e : ImportError) :
    Elides y serial (s.record node opType e) (t.record node opType e) :=
  { h with diagnostics := by rw [Session.record, Session.record, h.diagnostics, h.path] }

theorem Elides.withBuilder (h : Elides y serial s t) (builder : Builder) :
    Elides y serial { s with builder } { t with builder } :=
  { h with builder := rfl }

theorem Elides.withScopes (h : Elides y serial s t) (scopes : ScopeTree) :
    Elides y serial { s with scopes } { t with scopes := scopes.forget serial y } :=
  { h with scopes := rfl }

theorem Elides.bindName (h : Elides y serial s t) {name : String} (hne : name ≠ y) (scope : ScopeId) (kind : String)
    (v : ValueId) : Elides y serial (s.bindName scope name kind v) (t.bindName scope name kind v) := by
  rw [Session.bindName, Session.bindName, h.scopes, ScopeTree.insert_forget hne]
  cases s.scopes.insert scope name v with
  | ok scopes => exact h.withScopes scopes
  | error e => exact h.record ..

theorem Elides.bindFormal (h : Elides y serial s t) {formal : DeclaredValue} (hne : formal.name ≠ y) (scope : ScopeId)
    (expected : TensorType) :
    Elides y serial (s.bindFormal scope formal expected) (t.bindFormal scope formal expected) := by
  unfold Session.bindFormal
  rw [h.builder]
  split
  · exact h.record ..
  · exact (h.withBuilder _).bindName hne ..

theorem Elides.bindInitializer (h : Elides y serial s t) {tensor : StoredTensor} (hne : tensor.name ≠ y)
    (scope : ScopeId) : Elides y serial (s.bindInitializer scope tensor) (t.bindInitializer scope tensor) := by
  unfold Session.bindInitializer
  rw [h.builder]
  split
  · exact h.record ..
  · exact (h.withBuilder _).bindName hne ..

theorem Elides.foldl {α : Type} {f : Session → α → Session} {l : List α}
    (hf : ∀ a ∈ l, ∀ {s t : Session}, Elides y serial s t → Elides y serial (f s a) (f t a))
    (h : Elides y serial s t) : Elides y serial (l.foldl f s) (l.foldl f t) := by
  induction l generalizing s t with
  | nil => exact h
  | cons a l ih =>
    obtain ⟨ha, hl⟩ := List.forall_mem_cons.mp hf
    exact ih hl (ha h)

/-- The name read instead stands, without the binding, for what the name stood for with it. -/
theorem Elides.find? (h : Elides y serial s t) (halias : s.scopes.Alias x y v scope) (name : String) :
    t.scopes.find? scope (redirectName x y name) = s.scopes.find? scope name := by
  rw [h.scopes, redirectName]
  split
  · next hname => rw [ScopeTree.find?_forget halias.distinct, hname, halias.first, halias.second]
  · next hname => exact ScopeTree.find?_forget hname ..

theorem Elides.resolveInputs (h : Elides y serial s t) (halias : s.scopes.Alias x y v scope) (node : Node) :
    t.resolveInputs scope (node.redirect x y) = s.resolveInputs scope node := by
  have hone (name : String) : t.resolveInput scope (redirectName x y name) = s.resolveInput scope name := by
    rw [Session.resolveInput, Session.resolveInput, h.find? halias]
    by_cases hname : name = y
    · have hred : redirectName x y name = x := if_pos hname
      rw [hred, if_neg halias.first_ne, if_neg (hname ▸ halias.second_ne), hname, halias.second]
    · have hred : redirectName x y name = name := if_neg hname
      rw [hred]
  rw [Session.resolveInputs, Session.resolveInputs, NodeOf.inputs_redirect, List.mapM_map]
  exact congrArg (node.inputs.mapM ·) (funext hone)

theorem Elides.checkOutput (h : Elides y serial s t) (halias : s.scopes.Alias x y v scope)
    (output : DeclaredValue) :
    Elides y serial (s.checkOutput scope output) (t.checkOutput scope (output.redirect x y)) := by
  have hfound : t.scopes.contains scope (redirectName x y output.name) = s.scopes.contains scope output.name := by
    rw [ScopeTree.contains, ScopeTree.contains, h.find? halias]
  rw [Session.checkOutput, Session.checkOutput, DeclaredValue.redirect, hfound, h.failedOutputs]
  by_cases hname : output.name = y
  · -- both names are bound
    have hbound : s.scopes.contains scope output.name = true := by
      rw [ScopeTree.contains, hname, halias.second]
      rfl
    simp only [hbound, Bool.true_or, if_true]
    exact h
  · have hred : redirectName x y output.name = output.name := if_neg hname
    rw [hred]
    split
    · exact h
    · exact h.record ..

theorem scopes_checkOutput (s : Session) (scope : ScopeId) (output : DeclaredValue) :
    (s.checkOutput scope output).scopes = s.scopes := by
  unfold checkOutput
  split <;> rfl

theorem scopes_checkOutputs (s : Session) (scope : ScopeId) (outputs : List DeclaredValue) :
    (s.checkOutputs scope outputs).scopes = s.scopes := by
  rw [checkOutputs]
  induction outputs generalizing s with
  | nil => rfl
  | cons output outputs ih => rw [List.foldl_cons, ih, scopes_checkOutput]

theorem Elides.checkOutputs (h : Elides y serial s t) (halias : s.scopes.Alias x y v scope)
    (outputs : List DeclaredValue) :
    Elides y serial (s.checkOutputs scope outputs)
      (t.checkOutputs scope (outputs.map (DeclaredValue.redirect x y))) := by
  rw [Session.checkOutputs, Session.checkOutputs]
  induction outputs generalizing s t with
  | nil => exact h
  | cons output outputs ih =>
    refine ih (h.checkOutput halias output) ?_
    rwa [scopes_checkOutput]

theorem Elides.resolveOutputs (h : Elides y serial s t) (halias : s.scopes.Alias x y v scope)
    (outputs : List DeclaredValue) :
    t.resolveOutputs scope (outputs.map (DeclaredValue.redirect x y)) = s.resolveOutputs scope outputs := by
  simp only [Session.resolveOutputs, List.mapM_map, Function.comp_def, DeclaredValue.redirect, h.find? halias]

/-! ## One node -/

theorem Elides.bindOutputs (h : Elides y serial s t) {node : Node} (hout : y ∉ node.outputs) (scope : ScopeId)
    (values : List ValueId) :
    (t.bindOutputs scope (node.redirect x y) values).1 = (s.bindOutputs scope node values).1 ∧
      Elides y serial (s.bindOutputs scope node values).2 (t.bindOutputs scope (node.redirect x y) values).2 := by
  have hne : ∀ pair ∈ node.outputs.zip values, pair.1 ≠ y := by
    rintro pair hpair rfl
    exact hout (List.of_mem_zip hpair).1
  unfold Session.bindOutputs
  dsimp only
  rw [NodeOf.outputs_redirect, NodeOf.opType_redirect, h.scopes, ScopeTree.insertAll_forget hne]
  split
  · exact ⟨rfl, h⟩
  · rcases s.scopes.insertAll scope (node.outputs.zip values) with ⟨_ | e, scopes⟩
    · exact ⟨rfl, h.withScopes scopes⟩
    · exact ⟨rfl, h.withScopes scopes⟩

theorem Elides.conclude (h : Elides y serial s t) {node : Node} (hout : y ∉ node.outputs) (scope : ScopeId)
    (values : List ValueId) (view view' : AttributeView) :
    (t.conclude scope (node.redirect x y) values view').1 = (s.conclude scope node values view).1 ∧
      Elides y serial (s.conclude scope node values view).2 (t.conclude scope (node.redirect x y) values view').2 := by
  have hwarned : Elides y serial (s.warnUnread node view) (t.warnUnread (node.redirect x y) view') := { h with }
  exact hwarned.bindOutputs hout scope values

/-- A node that is no loop goes to the same converter, which sees the same but for the names of the inputs. -/
theorem Elides.convertNode (h : Elides y serial s t) (hreg : s.registry = .builtin)
    (halias : s.scopes.Alias x y v scope) (opset : Int) {node : Node} (hl : node.isLoop = false)
    (hout : y ∉ node.outputs) :
    (t.convertNode scope opset (node.redirect x y)).1 = (s.convertNode scope opset node).1 ∧
      Elides y serial (s.convertNode scope opset node).2 (t.convertNode scope opset (node.redirect x y)).2 := by
  have hdispatch : t.dispatch scope opset (node.redirect x y) =
      (s.dispatch scope opset node).map fun r => (r.1, { r.2 with node := node.redirect x y }) := by
    simp only [Session.dispatch, h.resolveInputs halias, h.registry, NodeOf.domain_redirect,
      NodeOf.opType_redirect]
    cases s.resolveInputs scope node with
    | error e => rfl
    | ok operands =>
      simp only [bind, Except.bind]
      split
      · rfl
      · cases s.registry.lookup node.opType <;> rfl
  unfold Session.convertNode
  rw [hdispatch]
  cases hd : s.dispatch scope opset node with
  | error e => exact ⟨rfl, h⟩
  | ok r =>
    obtain ⟨c, context⟩ := r
    obtain ⟨operands, -, hfind, rfl⟩ := dispatch_eq_ok hd
    have hrun (b : Builder) : c.run ⟨node.redirect x y, operands, opset⟩ b = c.run ⟨node, operands, opset⟩ b := by
      rw [NodeOf.redirect_of_node x y hl]
      exact Registry.builtin_run_inputs (hreg ▸ hfind) ⟨node, operands, opset⟩ _ b
    have hprime : Elides y serial (if c.cancels then s.cancel else s) (if c.cancels then t.cancel else t) := by
      split
      · exact { h with token := rfl }
      · exact h
    dsimp only [Except.map]
    rw [hrun, hprime.builder]
    rcases c.run ⟨node, operands, opset⟩ (if c.cancels then s.cancel else s).builder with ⟨_ | ⟨values, view⟩, b⟩
    · exact ⟨rfl, { hprime with builder := rfl }⟩
    · have hran : Elides y serial { (if c.cancels then s.cancel else s) with builder := b }
          { (if c.cancels then t.cancel else t) with builder := b } := { hprime with builder := rfl }
      exact hran.conclude hout ..

theorem Elides.settle (h : Elides y serial s t) (scope : ScopeId) (node : Node) (outcome : NodeOutcome) :
    Elides y serial (s.settle scope node outcome) (t.settle scope (node.redirect x y) outcome) := by
  have hlost : ((node.redirect x y).outputs.filter (· ≠ "")).map (fun name => (scope, name)) ++ t.failedOutputs =
      (node.outputs.filter (· ≠ "")).map (fun name => (scope, name)) ++ s.failedOutputs := by
    rw [NodeOf.outputs_redirect, h.failedOutputs]
  cases outcome with
  | converted => exact { h with }
  | reported => exact { h with failedOutputs := hlost }
  | failed e =>
    rw [Session.settle, Session.settle, NodeOf.opType_redirect, NodeOf.displayName_redirect]
    exact { h.record node.displayName node.opType e with failedOutputs := hlost }

theorem Elides.ask (h : Elides y serial s t) : Elides y serial s.ask t.ask :=
  { h with token := congrArg CancelToken.asked h.token }

theorem Elides.active (h : Elides y serial s t) (ha : s.Active) : t.Active :=
  ⟨h.cancelled.trans ha.1, h.token ▸ ha.2⟩

theorem Elides.afterNode (h : Elides y serial s t) (hreg : s.registry = .builtin)
    (halias : s.scopes.Alias x y v scope) (opset : Int) {node : Node} (hl : node.isLoop = false)
    (hout : y ∉ node.outputs) :
    Elides y serial (s.afterNode scope opset node) (t.afterNode scope opset (node.redirect x y)) := by
  obtain ⟨houtcome, hnext⟩ := h.ask.convertNode hreg halias opset hl hout
  rw [Session.afterNode, Session.afterNode, houtcome]
  exact hnext.settle ..

/-! ## Loops -/

theorem Elides.planLoop (h : Elides y serial s t) (halias : s.scopes.Alias x y v scope) {node : Node}
    (hl : node.isLoop = true) :
    t.planLoop scope (node.redirect x y) = (s.planLoop scope node).map (LoopPlan.redirect x y) := by
  have htype : t.typeOf = s.typeOf := by
    funext value
    rw [Session.typeOf, Session.typeOf, h.builder]
  have hoperands : t.loopOperands scope (node.redirect x y) = s.loopOperands scope node := by
    rw [Session.loopOperands, Session.loopOperands, h.resolveInputs halias]
  unfold Session.planLoop
  rw [hoperands, loopBody_redirect x y hl]
  cases s.loopOperands scope node with
  | error e => rfl
  | ok operands =>
    cases loopBody node with
    | error e => rfl
    | ok body =>
      have hcarried : t.carriedTypes (operands.drop 2) = s.carriedTypes (operands.drop 2) := by
        rw [Session.carriedTypes, Session.carriedTypes, htype]
      simp only [Except.map, hcarried]
      cases s.carriedTypes (operands.drop 2) with
      | error e => rfl
      | ok carried =>
        simp only [bind, Except.bind, checkLoop_redirect]
        cases checkLoop node body carried.length <;> rfl

theorem Elides.bodyScope (h : Elides y serial s t) (scope : ScopeId) : t.bodyScope scope = s.bodyScope scope := by
  rw [Session.bodyScope, h.scopes, ScopeTree.createChild_forget, Session.bodyScope]

theorem Elides.bodyBlock (h : Elides y serial s t) : t.bodyBlock = s.bodyBlock := by
  rw [Session.bodyBlock, h.builder, Session.bodyBlock]

theorem Elides.enterBody (h : Elides y serial s t) (scope : ScopeId) (node : Node) (body : Graph) :
    Elides y serial (s.enterBody scope node body).2.2
      (t.enterBody scope (node.redirect x y) (body.redirect x y)).2.2 := by
  refine { h with builder := ?_, scopes := ?_, path := ?_ }
  · simp only [Session.enterBody, h.builder, NodeOf.displayName_redirect]
  · simp only [Session.enterBody, h.scopes, ScopeTree.createChild_forget]
  · simp only [Session.enterBody, h.path, GraphOf.name_redirect]

theorem Elides.enterLoop (h : Elides y serial s t) (scope : ScopeId) (node : Node) {plan : LoopPlan}
    (hformals : ∀ formal ∈ plan.body.inputs, formal.name ≠ y)
    (htensors : ∀ tensor ∈ plan.body.initializers, tensor.name ≠ y) :
    Elides y serial (s.enterLoop scope node plan) (t.enterLoop scope (node.redirect x y) (plan.redirect x y)) := by
  have hbody : (plan.redirect x y).body = plan.body.redirect x y := rfl
  have hexpected : (plan.redirect x y).expected = plan.expected := rfl
  rw [Session.enterLoop, Session.enterLoop, h.bodyScope, hbody, hexpected, GraphOf.inputs_redirect,
    GraphOf.initializers_redirect]
  have hbound : Elides y serial
      ((s.enterBody scope node plan.body).2.2.bindFormals (s.bodyScope scope) (plan.body.inputs.zip plan.expected))
      ((t.enterBody scope (node.redirect x y) (plan.body.redirect x y)).2.2.bindFormals (s.bodyScope scope)
        (plan.body.inputs.zip plan.expected)) := by
    refine (h.enterBody scope node plan.body).foldl fun z hz s' t' hs => ?_
    exact hs.bindFormal (hformals z.1 (List.of_mem_zip hz).1) (s.bodyScope scope) z.2
  exact hbound.foldl fun tensor ht _ _ hs => hs.bindInitializer (htensors tensor ht) (s.bodyScope scope)

theorem Elides.yieldBody (h : Elides y serial s t) (halias : s.scopes.Alias x y v scope) (before : Nat)
    (body : Graph) :
    (t.yieldBody scope before (body.redirect x y)).1 = (s.yieldBody scope before body).1 ∧
      Elides y serial (s.yieldBody scope before body).2 (t.yieldBody scope before (body.redirect x y)).2 := by
  have hcheck := h.checkOutputs halias body.outputs
  have halias' : (s.checkOutputs scope body.outputs).scopes.Alias x y v scope := by
    rwa [scopes_checkOutputs]
  unfold Session.yieldBody
  rw [h.cancelled, GraphOf.outputs_redirect]
  split
  · exact ⟨rfl, h⟩
  · dsimp only
    rw [hcheck.diagnostics, hcheck.resolveOutputs halias']
    exact ⟨rfl, hcheck⟩

theorem Elides.leaveBody (h : Elides y serial s t) (child : ScopeId) (outer outer' : Phase)
    (results : Option (List ValueId)) :
    Elides y serial (s.leaveBody child outer results) (t.leaveBody child outer' results) := by
  refine { h with builder := ?_, scopes := ?_, path := congrArg List.dropLast h.path }
  · simp only [Session.leaveBody, h.builder]
  · simp only [Session.leaveBody, h.scopes, ScopeTree.destroy_forget]

theorem Elides.finishLoop (h : Elides y serial s t) {node : Node} (hout : y ∉ node.outputs) (scope : ScopeId)
    (plan : LoopPlan) (block : BlockId) (yielded : List ValueId) :
    (t.finishLoop scope (node.redirect x y) (plan.redirect x y) block yielded).1 =
        (s.finishLoop scope node plan block yielded).1 ∧
      Elides y serial (s.finishLoop scope node plan block yielded).2
        (t.finishLoop scope (node.redirect x y) (plan.redirect x y) block yielded).2 := by
  have hop : t.loopOp (node.redirect x y) (plan.redirect x y) block yielded = s.loopOp node plan block yielded := by
    simp only [loopOp, loopTypes, LoopPlan.redirect, h.builder, NodeOf.outputs_redirect, NodeOf.displayName_redirect]
  have hadded : Elides y serial { s with builder := (s.builder.append (s.loopOp node plan block yielded)).2 }
      { t with builder := (s.builder.append (s.loopOp node plan block yielded)).2 } := { h with builder := rfl }
  rw [finishLoop_eq, finishLoop_eq, hop, applyLowering, applyLowering, added, added, h.builder]
  exact hadded.conclude hout ..

theorem Elides.afterLoop (h : Elides y serial s t) {node : Node} (hout : y ∉ node.outputs) (plan : LoopPlan)
    {inner inner' : Session} (hi : Elides y serial inner inner')
    (halias : inner.scopes.Alias x y v (s.bodyScope scope)) :
    Elides y serial (s.afterLoop scope node plan inner)
      (t.afterLoop scope (node.redirect x y) (plan.redirect x y) inner') := by
  obtain ⟨hyielded, hbody⟩ := hi.yieldBody halias s.ask.diagnostics.length plan.body
  have hends : (t.ask.endLoop scope (node.redirect x y) (plan.redirect x y) inner').1 =
        (s.ask.endLoop scope node plan inner).1 ∧
      Elides y serial (s.ask.endLoop scope node plan inner).2
        (t.ask.endLoop scope (node.redirect x y) (plan.redirect x y) inner').2 := by
    rw [endLoop_eq, endLoop_eq, h.ask.bodyScope, h.ask.diagnostics, h.ask.bodyBlock]
    dsimp only [LoopPlan.redirect]
    change (inner'.yieldBody (s.ask.bodyScope scope) _ _).1 = (inner.yieldBody (s.ask.bodyScope scope) _ _).1
      at hyielded
    rw [hyielded]
    cases (inner.yieldBody (s.ask.bodyScope scope) s.ask.diagnostics.length plan.body).1 with
    | none => exact ⟨rfl, hbody.leaveBody _ _ _ none⟩
    | some yielded => exact (hbody.leaveBody _ _ _ (some yielded)).finishLoop hout scope plan _ yielded
  rw [Session.afterLoop, Session.afterLoop, hends.1]
  exact hends.2.settle ..

end Steps

/-! ## Runs -/

/-- Nothing in some nodes binds a name. -/
def Leaves (name : String) (nodes : List Node) : Prop := ∀ node ∈ nodes, ¬node.Binds name

theorem Leaves.head {name : String} {node : Node} {rest : List Node} (h : Leaves name (node :: rest)) :
    name ∉ node.outputs :=
  fun hmem => h node List.mem_cons_self (.output hmem)

theorem Leaves.tail {name : String} {node : Node} {rest : List Node} (h : Leaves name (node :: rest)) :
    Leaves name rest :=
  fun other hmem => h other (List.mem_cons_of_mem _ hmem)

/-- What is not bound by a loop is not bound in its body. -/
theorem Leaves.body {name : String} {node : Node} {rest : List Node} (h : Leaves name (node :: rest))
    (hl : node.isLoop = true) {body : Graph} (hbody : loopBody node = .ok body) :
    (∀ formal ∈ body.inputs, formal.name ≠ name) ∧ (∀ tensor ∈ body.initializers, tensor.name ≠ name) ∧
      Leaves name body.nodes := by
  have hnode := h node List.mem_cons_self
  exact ⟨fun formal hmem he => hnode (.formal hl hbody hmem he),
    fun tensor hmem he => hnode (.initializer hl hbody hmem he),
    fun inner hmem hbinds => hnode (.inner hl hbody hmem hbinds)⟩

/-- A node that binds neither of two names leaves them standing for one value. -/
theorem alias_visit {s : Session} {scope : ScopeId} {x y : String} {v : ValueId} (hu : s.scopes.Usable scope)
    (halias : s.scopes.Alias x y v scope) (opset : Int) {node : Node} {rest : List Node} (hx : Leaves x (node :: rest))
    (hy : Leaves y (node :: rest)) : (s.visit scope opset node).2.scopes.Alias x y v scope :=
  halias.congr (find?_visit hu opset hx.head) (find?_visit hu opset hy.head)

/-- Step by step, a run without the second name goes as one with it. -/
theorem Run.elides {x y : String} {serial : Nat} {v : ValueId} {opset : Int} {scope : ScopeId} {nodes : List Node}
    {s s' : Session} (h : Run opset scope nodes s s') (hu : s.scopes.Usable scope) (hreg : s.registry = .builtin)
    (halias : s.scopes.Alias x y v scope) (hx : Leaves x nodes) (hy : Leaves y nodes) {t : Session}
    (ht : Elides y serial s t) :
    ∃ t', Run opset scope (nodes.map (NodeOf.redirect x y)) t t' ∧ Elides y serial s' t' ∧
      s'.scopes.Alias x y v scope := by
  induction h generalizing t with
  | done => exact ⟨t, .done, ht, halias⟩
  | halted hc => exact ⟨t, .halted (ht.cancelled.trans hc), ht, halias⟩
  | @stopped scope node rest s hc hset =>
    refine ⟨t.stop (node.redirect x y), .stopped (ht.cancelled.trans hc) (ht.token ▸ hset), ?_, halias⟩
    rw [stop, stop, NodeOf.displayName_redirect, NodeOf.opType_redirect]
    exact { ht.record node.displayName node.opType .cancelled with cancelled := rfl }
  | @node scope node rest s s' ha hl _ ih =>
    have hnode := evolves_afterNode s scope opset node
    have hvisit : (s.visit scope opset node).2 = s.afterNode scope opset node := by
      rw [visit, attempt_of_node s.ask scope opset hl, afterNode]
    obtain ⟨t', hrun, ht', halias'⟩ := ih (hnode.scopes.usable hu) (hnode.registry.trans hreg)
      (hvisit ▸ alias_visit hu halias opset hx hy) hx.tail hy.tail (ht.afterNode hreg halias opset hl hy.head)
    exact ⟨t', .node (ht.active ha) ((node.isLoop_redirect x y).trans hl) hrun, ht', halias'⟩
  | @refused scope node rest s s' e ha hl hp _ ih =>
    have hplan := ht.ask.planLoop halias hl
    rw [hp] at hplan
    obtain ⟨t', hrun, ht', halias'⟩ := ih hu hreg halias hx.tail hy.tail (ht.ask.settle scope node (.failed e))
    exact ⟨t', .refused (ht.active ha) ((node.isLoop_redirect x y).trans hl) hplan hrun, ht', halias'⟩
  | @loop scope node rest s s' plan inner ha hl hp hbody _ ihb ih =>
    have hplan := ht.ask.planLoop halias hl
    rw [hp] at hplan
    have hloopBody := (planLoop_eq_ok hp).2.1
    obtain ⟨hxformals, hxtensors, hxnodes⟩ := hx.body hl hloopBody
    obtain ⟨hyformals, hytensors, hynodes⟩ := hy.body hl hloopBody
    have hub := usable_enterLoop node plan (s := s.ask) hu
    -- the body sees both names from outside
    have haliasb : (s.ask.enterLoop scope node plan).scopes.Alias x y v (s.ask.bodyScope scope) :=
      halias.congr (find?_enterLoop (s := s.ask) hu node hxformals hxtensors)
        (find?_enterLoop (s := s.ask) hu node hyformals hytensors)
    obtain ⟨inner', hrunb, hinner, haliasi⟩ := ihb hub ((evolves_enterLoop s.ask scope node plan).registry.trans hreg)
      haliasb hxnodes hynodes (ht.ask.enterLoop scope node hyformals hytensors)
    have hnode := evolves_afterLoop hu (hbody.evolves hub)
    have hvisit : (s.visit scope opset node).2 = s.afterLoop scope node plan inner := by
      rw [visit, attempt_of_loop s.ask scope opset hl, convertLoop_of_ok hp, hbody.eq_convertNodes, afterLoop]
    obtain ⟨t', hrun, ht', halias'⟩ := ih (hnode.scopes.usable hu) (hnode.registry.trans hreg)
      (hvisit ▸ alias_visit hu halias opset hx hy) hx.tail hy.tail (ht.afterLoop hy.head plan hinner haliasi)
    rw [← ht.ask.bodyScope, ← GraphOf.nodes_redirect] at hrunb
    exact ⟨t', .loop (ht.active ha) ((node.isLoop_redirect x y).trans hl) hplan hrunb hrun, ht', halias'⟩

/-! ## The node that gives a second name -/

theorem resolveInputs_singleton {s : Session} {scope : ScopeId} {node : Node} {x : String}
    {operands : List (Option ValueId)} (hin : node.inputs = [x]) (hx : x ≠ "")
    (h : s.resolveInputs scope node = .ok operands) :
    ∃ v, s.scopes.find? scope x = some v ∧ operands = [some v] := by
  rw [resolveInputs, hin, List.mapM_cons, List.mapM_nil, resolveInput, if_neg hx] at h
  cases hfound : s.scopes.find? scope x with
  | none =>
    rw [hfound] at h
    cases h
  | some v =>
    rw [hfound] at h
    cases h
    exact ⟨v, rfl, rfl⟩

theorem insert_of_insertAll {t t' : ScopeTree} {scope : ScopeId} {y : String} {v : ValueId} (hy : y ≠ "")
    (h : t.insertAll scope [(y, v)] = (none, t')) : t.insert scope y v = .ok t' := by
  rw [ScopeTree.insertAll, if_neg hy] at h
  cases hok : t.insert scope y v with
  | error e =>
    rw [hok] at h
    cases h
  | ok bound =>
    rw [hok] at h
    cases h
    rfl

/-- An identity that is converted binds its output to the value of its input, and does nothing else. -/
theorem convertNode_identity {s : Session} {scope : ScopeId} (hreg : s.registry = .builtin) {opset : Int} {node : Node}
    {x y : String} (hop : node.opType = "Identity") (hin : node.inputs = [x]) (hout : node.outputs = [y]) (hx : x ≠ "")
    (hy : y ≠ "") (h : (s.convertNode scope opset node).1 = .converted) :
    ∃ v scopes warnings, s.scopes.find? scope x = some v ∧ s.scopes.insert scope y v = .ok scopes ∧
      s.convertNode scope opset node = (.converted, { s with scopes, warnings }) := by
  rcases convertNode_builtin hreg scope opset node with
    ⟨e, hc⟩ | ⟨operands, c, lowering, view, hresolve, hfind, hcomes, -, hc⟩
  · rw [hc] at h
    cases h
  · have hidentity : c = .of Operator.identity := by
      have hkind : Registry.builtin.find? "Identity" = some (.of Operator.identity) := rfl
      rw [hop, hkind] at hfind
      exact (Option.some.inj hfind).symm
    subst hidentity
    obtain ⟨v, hv, rfl⟩ := resolveInputs_singleton hin hx hresolve
    have hforward : lowering.apply s.builder = ([v], s.builder) := by
      have hrun := Converter.ComesTo.run hcomes
      obtain ⟨name, opType, domain, inputs, outputs, attributes⟩ := node
      dsimp only at hout
      subst hout
      exact Prod.ext (congrArg Prod.fst (Except.ok.inj (congrArg Prod.fst hrun))).symm (congrArg Prod.snd hrun).symm
    rw [hc, applyLowering, hforward] at h ⊢
    rcases bindOutputs_cases (s.added node lowering view) scope node [v] with
      ⟨-, hb⟩ | ⟨-, scopes, ⟨hi, hb⟩ | ⟨e, -, hb⟩⟩
    · cases (congrArg Prod.fst hb).symm.trans h
    · rw [hout] at hi
      refine ⟨v, scopes, (s.added node lowering view).warnings, hv, insert_of_insertAll hy hi, hb.trans ?_⟩
      rw [added, hforward]
      rfl
    · cases (congrArg Prod.fst hb).symm.trans h

/-- Once it has been converted, the two names stand for one value, and without the second the session is as before. -/
theorem elides_afterNode {s : Session} {scope : ScopeId} (hu : s.scopes.Usable scope) (hreg : s.registry = .builtin)
    (htoken : s.token.asked = s.token) {opset : Int} {node : Node} {x y : String} (hop : node.opType = "Identity")
    (hin : node.inputs = [x]) (hout : node.outputs = [y]) (hxy : x ≠ y) (hx : x ≠ "") (hy : y ≠ "")
    (h : (s.convertNode scope opset node).1 = .converted) :
    Elides y scope.serial (s.afterNode scope opset node) s ∧
      ∃ v, (s.afterNode scope opset node).scopes.Alias x y v scope := by
  have hask : s.ask = s := by rw [ask, htoken]
  obtain ⟨v, scopes, warnings, hfind, hinsert, hconvert⟩ := convertNode_identity hreg hop hin hout hx hy h
  rw [afterNode, hask, hconvert]
  refine ⟨⟨rfl, rfl, rfl, (ScopeTree.forget_insert hu.wf hinsert).symm, rfl, rfl, rfl, rfl⟩, v, hxy, hx, hy, ?_, ?_⟩
  all_goals obtain ⟨r, hr, -, rfl⟩ := ScopeTree.insert_eq_ok hinsert
  · exact (ScopeTree.find?_addNames_of_ne hu.wf (by simpa using Ne.symm hxy) scope).trans hfind
  · refine (ScopeTree.find?_addNames_self hu.wf hr [(y, v)] y).trans ?_
    simp

end Session

/-- Let an identity be converted that gives the value of `x` the name `y`, and let nothing after it bind `x` or `y`
again, in loop bodies neither. Without it, and with everything after it reading `x` for `y`, the conversion comes to the
same function with the same failures, and every other name stands for what it stands for, in every scope. -/
theorem identity_elimination {s : Session} {scope : ScopeId} (hs : s.Occurs .builtin)
    (hlive : s.scopes.isLive scope = true) (htoken : s.token.asked = s.token) {opset : Int} {pre : List Node}
    {node : Node} {x y : String} (hop : node.opType = "Identity") (hin : node.inputs = [x]) (hout : node.outputs = [y])
    (hxy : x ≠ y) (hx : x ≠ "") (hy : y ≠ "") (hreached : (s.convertNodes scope opset pre).Active)
    (hconverted : ((s.convertNodes scope opset pre).convertNode scope opset node).1 = .converted) {post : List Node}
    (hfree : ∀ other ∈ post, ¬other.Binds x ∧ ¬other.Binds y) :
    let longer := s.convertNodes scope opset (pre ++ [node] ++ post)
    let shorter := s.convertNodes scope opset (pre ++ post.map (NodeOf.redirect x y))
    longer.builder = shorter.builder ∧ longer.diagnostics = shorter.diagnostics ∧
      ∀ id name, name ≠ y → longer.scopes.find? id name = shorter.scopes.find? id name := by
  intro longer shorter
  obtain ⟨wf, hreg⟩ := hs.sound
  have hpre := Session.run_convertNodes s scope opset pre
  have hev := hpre.evolves ⟨wf, hlive⟩
  have hu := hev.scopes.usable ⟨wf, hlive⟩
  have htoken' : (s.convertNodes scope opset pre).token.asked = (s.convertNodes scope opset pre).token := by
    rw [hpre.token ⟨wf, hlive⟩ hreg htoken, htoken]
  -- the two runs part at the node, and from there on the one without the name follows the other
  obtain ⟨hstart, v, halias⟩ := Session.elides_afterNode hu (hev.registry.trans hreg) htoken' hop hin hout hxy hx hy
    hconverted
  have hnode := Session.evolves_afterNode (s.convertNodes scope opset pre) scope opset node
  have hpost := Session.run_convertNodes ((s.convertNodes scope opset pre).afterNode scope opset node) scope opset post
  have hregistry := hnode.registry.trans (hev.registry.trans hreg)
  obtain ⟨last, hrun, hlast, -⟩ := hpost.elides (hnode.scopes.usable hu) hregistry halias
    (fun other h => (hfree other h).1) (fun other h => (hfree other h).2) hstart
  have hloop : node.isLoop = false := by simp [Node.isLoop, hop]
  have hlonger : longer =
      ((s.convertNodes scope opset pre).afterNode scope opset node).convertNodes scope opset post := by
    refine Session.Run.eq_convertNodes ?_
    rw [List.append_assoc]
    exact hpre.append (.node hreached hloop hpost)
  have hshorter : shorter = last := (hpre.append hrun).eq_convertNodes
  rw [hlonger, hshorter]
  refine ⟨hlast.builder.symm, hlast.diagnostics.symm, fun id name hne => ?_⟩
  rw [hlast.scopes, ScopeTree.find?_forget hne]

def identityNode (input output : String) : Node := ⟨"", "Identity", "", [input], [output], []⟩

def addNode (first second output : String) : Node := ⟨"", "Add", "", [first, second], [output], []⟩

/-- A loop body that adds a value from outside and yields it as well. -/
def readingBody (input : String) : Graph where
  name := "body"
  nodes := [addNode "v" input "w"]
  inputs := [⟨"i", none, none⟩, ⟨"c", none, none⟩, ⟨"v", none, none⟩]
  outputs := [⟨"c", none, none⟩, ⟨"w", none, none⟩, ⟨input, none, none⟩]
  initializers := []

def readingLoop (input : String) : Node :=
  ⟨"", "Loop", "", ["", "", input], ["z", "zs"], [("body", .graph (readingBody input))]⟩

theorem identity_before_loop_eliminated :
    let longer := oneInput.convertNodes .root 13 [relu "x" "a", identityNode "a" "y", readingLoop "y", relu "y" "b"]
    let shorter := oneInput.convertNodes .root 13 [relu "x" "a", readingLoop "a", relu "a" "b"]
    longer.diagnostics = [] ∧ longer.builder = shorter.builder ∧
      longer.scopes.find? .root "zs" = shorter.scopes.find? .root "zs" := by
  intro longer shorter
  have hfree : ∀ other ∈ [readingLoop "y", relu "y" "b"], ¬other.Binds "a" ∧ ¬other.Binds "y" := by
    have hrelu (name : String) : (relu "y" "b").Binds name ↔ name ∈ ["b"] := NodeOf.binds_of_node rfl name
    have hadd (name : String) : (addNode "v" "y" "w").Binds name ↔ name ∈ ["w"] := NodeOf.binds_of_node rfl name
    have hloop (name : String) := NodeOf.binds_of_loop (show (readingLoop "y").isLoop = true from rfl)
      (show loopBody (readingLoop "y") = .ok (readingBody "y") from rfl) name
    simp only [List.forall_mem_cons, hloop, hrelu]
    simp [readingLoop, readingBody, hadd]
  have hredirect : [readingLoop "y", relu "y" "b"].map (NodeOf.redirect "a" "y") = [readingLoop "a", relu "a" "b"] := by
    simp [readingLoop, readingBody, addNode, relu, NodeOf.redirect_eq, AttributeValue.redirect, GraphOf.redirect_eq,
      DeclaredValue.redirect, redirectName, Node.isLoop, isStandardDomain]
  have hclean : longer.diagnostics = [] := by decide +kernel
  have hconverted : ((oneInput.convertNodes .root 13 [relu "x" "a"]).convertNode .root 13 (identityNode "a" "y")).1 =
      .converted := by decide +kernel
  obtain ⟨hbuilder, -, hnames⟩ := identity_elimination (.graph _ .start) (by decide +kernel) rfl rfl rfl rfl
    (by decide) (by decide) (by decide) ⟨by decide +kernel, by decide +kernel⟩ hconverted hfree
  rw [hredirect] at hbuilder hnames
  exact ⟨hclean, hbuilder, hnames .root "zs" (by decide)⟩

end ModelImport
