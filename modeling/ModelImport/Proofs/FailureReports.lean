import ModelImport.Proofs.NodeBindings
/-!
# Every failure is reported once, in its place

Each node that is reached without cancellation is accounted for (`failures_reported_once`). It is converted and counted,
or it has failed and there is one diagnostic with its name, or it is a loop and there is at least one diagnostic from
inside its body. A loop never has both. Each input, initializer and output that fails has one diagnostic as well. The
diagnostics of a graph stand in the order of its places, which `nodePlaces` lists depth first.

The hard part is a loop that fails without a diagnostic of its own: it relies on its body to have recorded one. The body
records nothing for an output whose node has failed, and a body that is cut short records nothing more. So it is shown
of runs that whatever they give up is recorded (`Run.discloses`), and of scopes that those of a body are new, so that no
failure of the past can hide a missing output (`Dated`).
-/

namespace ModelImport

/-! ## Places -/

namespace Place

/-- A place inside graphs of the given names, outermost first. -/
def within (graphs : List String) (node opType : String) : Place := ⟨"/".intercalate graphs, node, opType⟩

def ofNode (graphs : List String) (node : Node) : Place := .within graphs node.displayName node.opType

def ofInputs (graphs : List String) (inputs : List DeclaredValue) : List Place :=
  inputs.map fun input => within graphs input.name "<input>"

def ofInitializers (graphs : List String) (tensors : List StoredTensor) : List Place :=
  tensors.map fun tensor => within graphs tensor.name "<initializer>"

def ofOutputs (graphs : List String) (outputs : List DeclaredValue) : List Place :=
  outputs.map fun output => within graphs output.name "<output>"

/-- The places of a graph in the order of their declaration, given those of its nodes. -/
def around (graphs : List String) (graph : Graph) (nodes : List Place) : List Place :=
  ofInputs graphs graph.inputs ++ ofInitializers graphs graph.initializers ++ nodes ++ ofOutputs graphs graph.outputs

end Place

/-- The places of nodes, each behind those of its body if it is a loop. -/
def nodePlaces (graphs : List String) (nodes : List Node) : List Place :=
  match nodes with
  | [] => []
  | node :: rest =>
    let inside :=
      if node.isLoop then
        match h : loopBody node with
        | .ok body =>
          have := Nat.lt_trans (Session.sizeOf_nodes_lt body) (sizeOf_loopBody h)
          Place.around (graphs ++ [body.name]) body (nodePlaces (graphs ++ [body.name]) body.nodes)
        | .error _ => []
      else []
    inside ++ .ofNode graphs node :: nodePlaces graphs rest
termination_by sizeOf nodes

/-- The places of a graph inside others, depth first. -/
def graphPlaces (graphs : List String) (graph : Graph) : List Place :=
  Place.around (graphs ++ [graph.name]) graph (nodePlaces (graphs ++ [graph.name]) graph.nodes)

/-- The places in the body of a node. -/
def bodyPlaces (graphs : List String) (node : Node) : List Place :=
  if node.isLoop then
    match loopBody node with
    | .ok body => graphPlaces graphs body
    | .error _ => []
  else []

theorem nodePlaces_cons (graphs : List String) (node : Node) (rest : List Node) :
    nodePlaces graphs (node :: rest) =
      bodyPlaces graphs node ++ .ofNode graphs node :: nodePlaces graphs rest := by
  rw [nodePlaces, bodyPlaces]
  cases node.isLoop with
  | false => rfl
  | true =>
    simp only [if_true]
    congr 1
    split
    · next body hb =>
      rw [hb]
      rfl
    · next e he => rw [he]

theorem bodyPlaces_of_loop {node : Node} {body : Graph} (hl : node.isLoop = true) (hb : loopBody node = .ok body)
    (graphs : List String) : bodyPlaces graphs node = graphPlaces graphs body := by
  rw [bodyPlaces, if_pos hl, hb]

namespace Session

/-! ## Small steps -/

/-- All that has been recorded since is at some of the places, in their order. -/
def Reports (places : List Place) (s s' : Session) : Prop :=
  ∃ ds : List Diagnostic, s'.diagnostics = s.diagnostics ++ ds ∧ (ds.map Diagnostic.place).Sublist places

section Reports
variable {s t u : Session} {places more : List Place}

theorem Reports.of_eq (h : t.diagnostics = s.diagnostics) : s.Reports places t :=
  ⟨[], by simp [h], List.nil_sublist _⟩

theorem Reports.trans (h : s.Reports places t) (h' : t.Reports more u) : s.Reports (places ++ more) u := by
  obtain ⟨ds, hds, hsub⟩ := h
  obtain ⟨ds', hds', hsub'⟩ := h'
  refine ⟨ds ++ ds', by rw [hds', hds, List.append_assoc], ?_⟩
  rw [List.map_append]
  exact hsub.append hsub'

theorem Reports.mono (h : s.Reports places t) (hsub : places.Sublist more) : s.Reports more t := by
  obtain ⟨ds, hds, hplaces⟩ := h
  exact ⟨ds, hds, hplaces.trans hsub⟩

theorem reports_record (s : Session) (node opType : String) (e : ImportError) :
    s.Reports [.within s.path node opType] (s.record node opType e) := ⟨[_], rfl, List.Sublist.refl _⟩

end Reports

/-- A step inside a graph that may record failures, and does not finish a node. -/
structure Notes (places : List Place) (s s' : Session) : Prop where
  path : s'.path = s.path
  failedOutputs : s'.failedOutputs = s.failedOutputs
  cancelled : s'.cancelled = s.cancelled
  convertedNodes : s'.convertedNodes = s.convertedNodes
  reports : s.Reports places s'

section Notes
variable {s t u : Session} {places more : List Place}

theorem Notes.trans (h : s.Notes places t) (h' : t.Notes more u) : s.Notes (places ++ more) u where
  path := h'.path.trans h.path
  failedOutputs := h'.failedOutputs.trans h.failedOutputs
  cancelled := h'.cancelled.trans h.cancelled
  convertedNodes := h'.convertedNodes.trans h.convertedNodes
  reports := h.reports.trans h'.reports

theorem Notes.mono (h : s.Notes places t) (hsub : places.Sublist more) : s.Notes more t :=
  { h with reports := h.reports.mono hsub }

theorem Notes.diagnostics (h : s.Notes [] t) : t.diagnostics = s.diagnostics := by
  obtain ⟨ds, hds, hsub⟩ := h.reports
  have hnil : ds = [] := List.map_eq_nil_iff.1 (List.sublist_nil.1 hsub)
  rw [hds, hnil, List.append_nil]

theorem notes_refl (s : Session) : s.Notes places s := ⟨rfl, rfl, rfl, rfl, .of_eq rfl⟩

theorem notes_record (s : Session) (node opType : String) (e : ImportError) :
    s.Notes [.within s.path node opType] (s.record node opType e) :=
  ⟨rfl, rfl, rfl, rfl, reports_record s node opType e⟩

/-- A step that is repeated for each of a list of values goes through their places. -/
theorem notes_foldl {α : Type} {f : Session → α → Session} (name : α → String) (kind : String)
    (h : ∀ (s : Session) a, s.Notes [.within s.path (name a) kind] (f s a)) (l : List α) (s : Session) :
    s.Notes (l.map fun a => .within s.path (name a) kind) (l.foldl f s) := by
  induction l generalizing s with
  | nil => exact notes_refl s
  | cons a l ih =>
    have hrest := ih (f s a)
    rw [(h s a).path] at hrest
    exact (h s a).trans hrest

theorem notes_bindName (s : Session) (scope : ScopeId) (name kind : String) (v : ValueId) :
    s.Notes [.within s.path name kind] (s.bindName scope name kind v) := by
  unfold bindName
  split
  · exact ⟨rfl, rfl, rfl, rfl, .of_eq rfl⟩
  · exact notes_record ..

theorem notes_builder (s : Session) (builder : Builder) : s.Notes [] { s with builder } :=
  ⟨rfl, rfl, rfl, rfl, .of_eq rfl⟩

/-- Making a value changes nothing that is noted. -/
theorem notes_bindValue (s : Session) (builder : Builder) (scope : ScopeId) (name kind : String) (v : ValueId) :
    s.Notes [.within s.path name kind] ({ s with builder }.bindName scope name kind v) :=
  (notes_builder s builder).trans (notes_bindName { s with builder } scope name kind v)

theorem notes_bindInputs (s : Session) (scope : ScopeId) (graph : Graph) :
    s.Notes (Place.ofInputs s.path graph.inputs) (s.bindInputs scope graph) := by
  refine (notes_foldl DeclaredValue.name "<input>" (fun s input => ?_) _ s).mono (List.filter_sublist.map _)
  unfold bindInput
  split
  · exact notes_record ..
  · exact notes_bindValue ..

theorem notes_bindFormals (s : Session) (scope : ScopeId) (inputs : List DeclaredValue) (types : List TensorType) :
    s.Notes (Place.ofInputs s.path inputs) (s.bindFormals scope (inputs.zip types)) := by
  have hformals : s.Notes ((inputs.zip types).map fun x => .within s.path x.1.name "<input>")
      (s.bindFormals scope (inputs.zip types)) := by
    refine notes_foldl (fun x : DeclaredValue × TensorType => x.1.name) "<input>" (fun s x => ?_) _ s
    change s.Notes _ (s.bindFormal scope x.1 x.2)
    unfold bindFormal
    split
    · exact notes_record ..
    · exact notes_bindValue ..
  refine hformals.mono ?_
  have hsub : ((inputs.zip types).map Prod.fst).Sublist inputs := by
    rw [List.zip_eq_zip_take_min, List.map_fst_zip (by simp)]
    exact List.take_sublist ..
  have hplaces := hsub.map fun input => Place.within s.path input.name "<input>"
  rw [List.map_map] at hplaces
  exact hplaces

theorem notes_bindInitializers (s : Session) (scope : ScopeId) (tensors : List StoredTensor) :
    s.Notes (Place.ofInitializers s.path tensors) (s.bindInitializers scope tensors) := by
  refine notes_foldl StoredTensor.name "<initializer>" (fun s tensor => ?_) _ s
  unfold bindInitializer
  split
  · exact notes_record ..
  · exact notes_bindValue ..

theorem notes_checkOutputs (s : Session) (scope : ScopeId) (outputs : List DeclaredValue) :
    s.Notes (Place.ofOutputs s.path outputs) (s.checkOutputs scope outputs) := by
  refine notes_foldl DeclaredValue.name "<output>" (fun s output => ?_) _ s
  unfold checkOutput
  split
  · exact notes_refl s
  · exact notes_record ..

theorem notes_conclude (s : Session) (scope : ScopeId) (node : Node) (values : List ValueId) (view : AttributeView) :
    s.Notes [] (s.conclude scope node values view).2 := by
  rw [conclude]
  rcases bindOutputs_snd (s.warnUnread node view) scope node values with he | he
  · rw [he]
    exact ⟨rfl, rfl, rfl, rfl, .of_eq rfl⟩
  · rw [he]
    exact ⟨rfl, rfl, rfl, rfl, .of_eq rfl⟩

theorem notes_convertNode (s : Session) (scope : ScopeId) (opset : Int) (node : Node) :
    s.Notes [] (s.convertNode scope opset node).2 := by
  have hran : ∀ c context, s.Notes [] (s.ran c context) := by
    intro c context
    obtain ⟨token, he⟩ := s.ran_eq c context
    rw [he]
    exact ⟨rfl, rfl, rfl, rfl, .of_eq rfl⟩
  rcases convertNode_cases s scope opset node with
    ⟨e, -, he⟩ | ⟨operands, c, -, -, -, ⟨e, -, he⟩ | ⟨values, view, -, he⟩⟩
  · rw [he]
    exact notes_refl s
  · rw [he]
    exact hran c _
  · rw [he]
    exact (hran c _).trans (notes_conclude ..)

end Notes

/-! ## The body of a node -/

/-- The session when the body of a node has been left, or as it is if no body is entered. -/
def bodyEnd (s : Session) (scope : ScopeId) (opset : Int) (node : Node) : Session :=
  if node.isLoop then
    match s.planLoop scope node with
    | .ok plan => (s.throughBody scope opset node plan).2
    | .error _ => s
  else s

section Body
variable {s : Session} {scope : ScopeId} {opset : Int} {node : Node}

theorem bodyEnd_of_plan {plan : LoopPlan} (hl : node.isLoop = true) (hp : s.planLoop scope node = .ok plan) :
    s.bodyEnd scope opset node = (s.throughBody scope opset node plan).2 := by
  rw [bodyEnd, if_pos hl, hp]

/-- A node without a body is done in one step. A loop is given up when its body yields nothing, and else finished from
where the body was left. -/
theorem attempt_cases (s : Session) (scope : ScopeId) (opset : Int) (node : Node) :
    (s.bodyEnd scope opset node = s ∧ (s.attempt scope opset node).1 ≠ .reported ∧
      s.Evolves scope (s.attempt scope opset node).2 ∧ s.Notes [] (s.attempt scope opset node).2) ∨
    ∃ plan, node.isLoop = true ∧ s.planLoop scope node = .ok plan ∧
      ((s.throughBody scope opset node plan).1 = none ∧
        s.attempt scope opset node = (.reported, s.bodyEnd scope opset node) ∨
      ∃ yielded, (s.throughBody scope opset node plan).1 = some yielded ∧
        s.attempt scope opset node =
          (s.bodyEnd scope opset node).finishLoop scope node plan s.bodyBlock yielded) := by
  cases hl : node.isLoop with
  | false =>
    rw [attempt_of_node s scope opset hl]
    exact .inl ⟨if_neg (by simp [hl]), convertNode_ne_reported s scope opset node, evolves_convertNode ..,
      notes_convertNode ..⟩
  | true =>
    rw [attempt_of_loop s scope opset hl]
    cases hp : s.planLoop scope node with
    | error e =>
      rw [convertLoop_of_error hp]
      exact .inl ⟨by rw [bodyEnd, if_pos hl, hp], nofun, .refl s, notes_refl s⟩
    | ok plan =>
      refine .inr ⟨plan, rfl, rfl, ?_⟩
      rw [convertLoop_of_plan hp, bodyEnd_of_plan hl hp]
      cases hy : (s.throughBody scope opset node plan).1 with
      | none => exact .inl ⟨rfl, rfl⟩
      | some yielded => exact .inr ⟨yielded, rfl, rfl⟩

/-- Behind its body, a node records nothing until it is settled. -/
theorem notes_attempt (s : Session) (scope : ScopeId) (opset : Int) (node : Node) :
    (s.bodyEnd scope opset node).Notes [] (s.attempt scope opset node).2 := by
  rcases attempt_cases s scope opset node with
    ⟨hend, -, -, hnotes⟩ | ⟨plan, -, -, ⟨-, ha⟩ | ⟨yielded, -, ha⟩⟩
  · rw [hend]
    exact hnotes
  · rw [ha]
    exact notes_refl _
  · rw [ha]
    exact (notes_builder _ _).trans (notes_conclude ..)

theorem evolves_attempt (s : Session) (scope : ScopeId) (opset : Int) (node : Node) :
    (s.bodyEnd scope opset node).Evolves scope (s.attempt scope opset node).2 := by
  rcases attempt_cases s scope opset node with
    ⟨hend, -, hevolves, -⟩ | ⟨plan, -, -, ⟨-, ha⟩ | ⟨yielded, -, ha⟩⟩
  · rw [hend]
    exact hevolves
  · rw [ha]
    exact .refl _
  · rw [ha]
    exact (evolves_builder _ (Builder.grows_append ..)).trans (evolves_conclude ..)

theorem evolves_bodyEnd (hu : s.scopes.Usable scope) (opset : Int) (node : Node) :
    s.Evolves scope (s.bodyEnd scope opset node) := by
  rw [bodyEnd]
  split
  · split
    · exact evolves_throughBody hu ..
    · exact .refl s
  · exact .refl s

theorem notes_enterLoop (s : Session) (scope : ScopeId) (node : Node) (plan : LoopPlan) :
    (s.enterBody scope node plan.body).2.2.Notes
      (Place.ofInputs (s.path ++ [plan.body.name]) plan.body.inputs ++
        Place.ofInitializers (s.path ++ [plan.body.name]) plan.body.initializers)
      (s.enterLoop scope node plan) := by
  have hformals := notes_bindFormals (s.enterBody scope node plan.body).2.2 (s.bodyScope scope) plan.body.inputs
    plan.expected
  have hinitializers := notes_bindInitializers ((s.enterBody scope node plan.body).2.2.bindFormals (s.bodyScope scope)
    (plan.body.inputs.zip plan.expected)) (s.bodyScope scope) plan.body.initializers
  rw [hformals.path] at hinitializers
  exact hformals.trans hinitializers

theorem notes_yieldBody (s : Session) (scope : ScopeId) (before : Nat) (body : Graph) :
    s.Notes (Place.ofOutputs s.path body.outputs) (s.yieldBody scope before body).2 := by
  unfold yieldBody
  split
  · exact notes_refl s
  · exact notes_checkOutputs ..

/-- A body records failures at its places, in their order, if its nodes do. -/
theorem reports_throughBody {plan : LoopPlan} (hu : s.scopes.Usable scope)
    (hnodes : (s.enterLoop scope node plan).Reports
      (nodePlaces (s.enterLoop scope node plan).path plan.body.nodes)
      ((s.enterLoop scope node plan).convertNodes (s.bodyScope scope) opset plan.body.nodes)) :
    s.Reports (graphPlaces s.path plan.body) (s.throughBody scope opset node plan).2 := by
  have henter := notes_enterLoop s scope node plan
  have hpath : (s.enterLoop scope node plan).path = s.path ++ [plan.body.name] := henter.path
  have hrun := (run_convertNodes (s.enterLoop scope node plan) (s.bodyScope scope) opset plan.body.nodes).evolves
    (usable_enterLoop node plan hu)
  have hyield := notes_yieldBody ((s.enterLoop scope node plan).convertNodes (s.bodyScope scope) opset plan.body.nodes)
    (s.bodyScope scope) s.diagnostics.length plan.body
  rw [hrun.path, hpath] at hyield
  rw [hpath] at hnodes
  exact (henter.reports.trans hnodes).trans hyield.reports

end Body

/-! ## Runs -/

/-- A run that records nothing gives nothing up: it does not stop early, and no node fails. -/
structure Discloses (s s' : Session) : Prop where
  diagnostics : s.diagnostics <+: s'.diagnostics
  silent : s'.diagnostics = s.diagnostics → s'.failedOutputs = s.failedOutputs ∧ s'.cancelled = s.cancelled

/-- All outputs that are missing belong to scopes of the past or present. -/
def Dated (s : Session) : Prop := ∀ x ∈ s.failedOutputs, x.1.serial < s.scopes.nextSerial

section Runs
variable {s t u : Session} {scope : ScopeId} {opset : Int} {node : Node}

theorem Discloses.refl (s : Session) : s.Discloses s := ⟨List.prefix_refl _, fun _ => ⟨rfl, rfl⟩⟩

theorem Discloses.trans (h : s.Discloses t) (h' : t.Discloses u) : s.Discloses u := by
  refine ⟨h.diagnostics.trans h'.diagnostics, fun he => ?_⟩
  have hmid : t.diagnostics = s.diagnostics :=
    (h.diagnostics.eq_of_length_le (he ▸ h'.diagnostics.length_le)).symm
  obtain ⟨hf, hc⟩ := h.silent hmid
  obtain ⟨hf', hc'⟩ := h'.silent (he.trans hmid.symm)
  exact ⟨hf'.trans hf, hc'.trans hc⟩

theorem Notes.discloses {places : List Place} (h : s.Notes places t) : s.Discloses t := by
  obtain ⟨ds, hds, -⟩ := h.reports
  exact ⟨⟨ds, hds.symm⟩, fun _ => ⟨h.failedOutputs, h.cancelled⟩⟩

theorem Dated.of_eq (h : s.Dated) (hf : t.failedOutputs = s.failedOutputs)
    (hn : s.scopes.nextSerial ≤ t.scopes.nextSerial) : t.Dated := by
  intro x hx
  rw [hf] at hx
  exact Nat.lt_of_lt_of_le (h x hx) hn

theorem Dated.settle (h : s.Dated) (hu : s.scopes.Usable scope) (node : Node) (outcome : NodeOutcome) :
    (s.settle scope node outcome).Dated := by
  have hlost : ∀ x ∈ (node.outputs.filter (· ≠ "")).map (fun name => (scope, name)) ++ s.failedOutputs,
      x.1.serial < s.scopes.nextSerial := by
    intro x hx
    rcases List.mem_append.1 hx with hx | hx
    · obtain ⟨name, -, rfl⟩ := List.mem_map.1 hx
      exact hu.serial_lt
    · exact h x hx
  cases outcome with
  | converted => exact h
  | reported => exact hlost
  | failed e => exact hlost

theorem nextSerial_enterLoop (s : Session) (scope : ScopeId) (node : Node) (plan : LoopPlan) :
    s.scopes.nextSerial ≤ (s.enterLoop scope node plan).scopes.nextSerial := by
  obtain ⟨-, -, -, hnext, -, -⟩ := ScopeTree.createChild_spec s.scopes scope
  calc s.scopes.nextSerial
    _ ≤ (s.scopes.createChild scope).2.nextSerial := hnext ▸ Nat.le_succ _
    _ ≤ _ := (evolves_enterLoop s scope node plan).scopes.1

theorem Dated.enterLoop (h : s.Dated) (scope : ScopeId) (node : Node) (plan : LoopPlan) :
    (s.enterLoop scope node plan).Dated :=
  h.of_eq (notes_enterLoop s scope node plan).failedOutputs (nextSerial_enterLoop s scope node plan)

theorem discloses_throughBody {plan : LoopPlan}
    (hnodes : (s.enterLoop scope node plan).Discloses
      ((s.enterLoop scope node plan).convertNodes (s.bodyScope scope) opset plan.body.nodes)) :
    s.Discloses (s.throughBody scope opset node plan).2 := by
  have henter := (notes_enterLoop s scope node plan).discloses.trans hnodes
  have hbody := henter.trans (notes_yieldBody _ (s.bodyScope scope) s.diagnostics.length plan.body).discloses
  exact ⟨hbody.diagnostics, hbody.silent⟩

/-- A body that yields nothing has recorded why. -/
theorem length_lt_throughBody {plan : LoopPlan} (hd : s.Dated) (hc : s.cancelled = false)
    (hnodes : (s.enterLoop scope node plan).Discloses
      ((s.enterLoop scope node plan).convertNodes (s.bodyScope scope) opset plan.body.nodes))
    (hnone : (s.throughBody scope opset node plan).1 = none) :
    s.diagnostics.length < (s.throughBody scope opset node plan).2.diagnostics.length := by
  have henter := (notes_enterLoop s scope node plan).discloses.trans hnodes
  rw [throughBody] at hnone ⊢
  dsimp only at hnone ⊢
  generalize (s.enterLoop scope node plan).convertNodes (s.bodyScope scope) opset plan.body.nodes = inner at *
  refine Nat.lt_of_not_le fun hle => ?_
  have hle : (inner.yieldBody (s.bodyScope scope) s.diagnostics.length plan.body).2.diagnostics.length ≤
      s.diagnostics.length := hle
  have hpre : s.diagnostics <+: inner.diagnostics := henter.diagnostics
  have hyield := (evolves_yieldBody inner (s.bodyScope scope) s.diagnostics.length plan.body).diagnostics
  have hsame := hpre.eq_of_length_le (Nat.le_trans hyield.length_le hle)
  obtain ⟨hf, hc'⟩ := henter.silent hsame.symm
  -- the scope of the body is new, so no output of it can have failed before
  have hfresh : ∀ name, (s.bodyScope scope, name) ∉ inner.failedOutputs := by
    intro name hmem
    rw [hf] at hmem
    exact bodyScope_ne (hd _ hmem) scope rfl
  obtain ⟨yielded, -, hy⟩ := yieldBody_same (hc'.trans hc) hfresh hpre.length_le hle
  rw [hy] at hnone
  cases hnone

theorem discloses_settle (s : Session) (scope : ScopeId) (node : Node) {outcome : NodeOutcome}
    (h : outcome ≠ .reported) : s.Discloses (s.settle scope node outcome) := by
  cases outcome with
  | converted => exact ⟨List.prefix_refl _, fun _ => ⟨rfl, rfl⟩⟩
  | reported => exact absurd rfl h
  | failed e =>
    refine ⟨List.prefix_append _ _, fun he => ?_⟩
    have hlen := congrArg List.length he
    simp [settle, record] at hlen

/-- One visit gives nothing up in silence, if the run over the body does not. -/
theorem discloses_visit (hd : s.Dated) (hc : s.cancelled = false)
    (hbody : ∀ plan, node.isLoop = true → s.ask.planLoop scope node = .ok plan →
      (s.ask.enterLoop scope node plan).Discloses
        ((s.ask.enterLoop scope node plan).convertNodes (s.ask.bodyScope scope) opset plan.body.nodes)) :
    s.Discloses (s.visit scope opset node).2 := by
  have hask : s.Discloses s.ask := ⟨List.prefix_refl _, fun _ => ⟨rfl, rfl⟩⟩
  refine hask.trans ?_
  rw [visit]
  rcases attempt_cases s.ask scope opset node with
    ⟨hend, hne, -, hnotes⟩ | ⟨plan, hl, hp, ⟨hnone, ha⟩ | ⟨yielded, -, ha⟩⟩
  · exact hnotes.discloses.trans (discloses_settle _ scope node hne)
  · have hlt := length_lt_throughBody (s := s.ask) hd hc (hbody plan hl hp) hnone
    have hpre := (discloses_throughBody (hbody plan hl hp)).diagnostics
    rw [ha, bodyEnd_of_plan hl hp]
    refine ⟨hpre, fun he => ?_⟩
    have hlen := congrArg List.length he
    exact absurd hlen (Nat.ne_of_gt hlt)
  · have hlowered := (notes_attempt s.ask scope opset node).discloses
    rw [bodyEnd_of_plan hl hp] at hlowered
    have hne : (s.ask.attempt scope opset node).1 ≠ .reported := by
      rw [ha]
      exact finishLoop_ne_reported _ _ _ _ _ _
    exact (discloses_throughBody (hbody plan hl hp)).trans (hlowered.trans (discloses_settle _ scope node hne))

theorem Dated.visit (hd : s.Dated) (hu : s.scopes.Usable scope)
    (hbody : ∀ plan, node.isLoop = true → s.ask.planLoop scope node = .ok plan →
      ((s.ask.enterLoop scope node plan).convertNodes (s.ask.bodyScope scope) opset plan.body.nodes).Dated) :
    (s.visit scope opset node).2.Dated := by
  have hend : (s.ask.bodyEnd scope opset node).Dated := by
    rw [bodyEnd]
    split
    · next hl =>
      split
      · next plan hp =>
        have hyield := notes_yieldBody ((s.ask.enterLoop scope node plan).convertNodes (s.ask.bodyScope scope) opset
          plan.body.nodes) (s.ask.bodyScope scope) s.ask.diagnostics.length plan.body
        refine (hbody plan hl hp).of_eq hyield.failedOutputs ?_
        exact Nat.le_trans (evolves_yieldBody ..).scopes.1 (Nat.le_of_eq (ScopeTree.destroy_nextSerial ..).symm)
      · exact hd
    · exact hd
  have hattempt := evolves_attempt s.ask scope opset node
  have hlive : (s.ask.attempt scope opset node).2.scopes.Usable scope :=
    hattempt.scopes.usable ((evolves_bodyEnd (s := s.ask) hu opset node).scopes.usable hu)
  exact (hend.of_eq (notes_attempt ..).failedOutputs hattempt.scopes.1).settle hlive node _

/-- Whatever a run gives up it has recorded. -/
theorem Run.discloses {nodes : List Node} {s' : Session} (h : Run opset scope nodes s s')
    (hu : s.scopes.Usable scope) (hd : s.Dated) : s'.Dated ∧ s.Discloses s' := by
  revert hu hd
  refine Run.by_visits (motive := fun scope nodes s s' => s.scopes.Usable scope → s.Dated → s'.Dated ∧ s.Discloses s')
    ?idle ?stopped ?visit h
  case idle => exact fun scope nodes s _ hd => ⟨hd, .refl s⟩
  case stopped =>
    refine fun scope node rest s _ hd => ⟨hd, List.prefix_append _ _, fun he => ?_⟩
    have hlen := congrArg List.length he
    simp [stop, record] at hlen
  case visit =>
    intro scope node rest s s' ha hbody hrest hu hd
    have hinside : ∀ plan, node.isLoop = true → s.ask.planLoop scope node = .ok plan → _ := fun plan hl hp =>
      hbody plan hl hp (usable_enterLoop (s := s.ask) node plan hu) (Dated.enterLoop (s := s.ask) hd scope node plan)
    have hfirst := discloses_visit hd ha.1 fun plan hl hp => (hinside plan hl hp).2
    have hdated := hd.visit hu fun plan hl hp => (hinside plan hl hp).1
    obtain ⟨hdated', hlast⟩ := hrest ((evolves_visit hu opset node).scopes.usable hu) hdated
    exact ⟨hdated', hfirst.trans hlast⟩

/-! ## Order -/

theorem reports_settle (s : Session) (scope : ScopeId) (node : Node) (outcome : NodeOutcome) :
    s.Reports [.ofNode s.path node] (s.settle scope node outcome) := by
  cases outcome with
  | converted => exact .of_eq rfl
  | reported => exact .of_eq rfl
  | failed e => exact reports_record s node.displayName node.opType e

theorem reports_bodyEnd (hu : s.scopes.Usable scope) (opset : Int) (node : Node)
    (hbody : ∀ plan, node.isLoop = true → s.planLoop scope node = .ok plan →
      (s.enterLoop scope node plan).Reports (nodePlaces (s.enterLoop scope node plan).path plan.body.nodes)
        ((s.enterLoop scope node plan).convertNodes (s.bodyScope scope) opset plan.body.nodes)) :
    s.Reports (bodyPlaces s.path node) (s.bodyEnd scope opset node) := by
  rw [bodyEnd]
  split
  · next hl =>
    split
    · next plan hp =>
      rw [bodyPlaces_of_loop hl (planLoop_eq_ok hp).2.1]
      exact reports_throughBody hu (hbody plan hl hp)
    · exact .of_eq rfl
  · exact .of_eq rfl

/-- The failures of a run stand in the order of the places. -/
theorem Run.reports {nodes : List Node} {s' : Session} (h : Run opset scope nodes s s')
    (hu : s.scopes.Usable scope) : s.Reports (nodePlaces s.path nodes) s' := by
  revert hu
  refine Run.by_visits
    (motive := fun scope nodes s s' => s.scopes.Usable scope → s.Reports (nodePlaces s.path nodes) s')
    ?idle ?stopped ?visit h
  case idle => exact fun scope nodes s _ => .of_eq rfl
  case stopped =>
    intro scope node rest s _
    rw [nodePlaces_cons]
    have hrecord := reports_record s node.displayName node.opType .cancelled
    refine Reports.mono hrecord (List.Sublist.trans ?_ (List.sublist_append_right _ _))
    exact (List.nil_sublist _).cons_cons _
  case visit =>
    intro scope node rest s s' ha hbody hrest hu
    have hend := reports_bodyEnd (s := s.ask) hu opset node fun plan hl hp =>
      hbody plan hl hp (usable_enterLoop (s := s.ask) node plan hu)
    have hattempt := notes_attempt s.ask scope opset node
    have hsettle := reports_settle (s.ask.attempt scope opset node).2 scope node (s.ask.attempt scope opset node).1
    rw [hattempt.path, (evolves_bodyEnd (s := s.ask) hu opset node).path] at hsettle
    have hvisit := evolves_visit hu opset node
    have hlast := hrest (hvisit.scopes.usable hu)
    rw [hvisit.path] at hlast
    have hnode := (hend.trans hattempt.reports).trans hsettle
    have hall : s.Reports _ s' := hnode.trans hlast
    rw [List.append_nil, List.append_assoc] at hall
    rw [nodePlaces_cons]
    exact hall

end Runs

/-! ## The nodes that are reached -/

/-- A node at the moment when it is reached, with the names of the graphs around it, outermost first. -/
structure Visit where
  graphs : List String
  scope : ScopeId
  session : Session
  node : Node

/-- The nodes that a conversion of nodes reaches, those in the bodies of loops included. -/
inductive Reaches (opset : Int) : List String → ScopeId → List Node → Session → Visit → Prop
  | here {graphs scope s node} (before after : List Node) :
      Reaches opset graphs scope (before ++ node :: after) s
        ⟨graphs, scope, s.convertNodes scope opset before, node⟩
  | inside {graphs scope s node t plan v} (before after : List Node) : s.convertNodes scope opset before = t →
      node.isLoop = true → t.ask.planLoop scope node = .ok plan →
      Reaches opset (graphs ++ [plan.body.name]) (t.ask.bodyScope scope) plan.body.nodes
        (t.ask.enterLoop scope node plan) v →
      Reaches opset graphs scope (before ++ node :: after) s v

/-- A node is accounted for. One that is converted adds itself to the nodes that were counted in its body, and neither
it nor its body has recorded anything. One that fails by itself has one diagnostic with its place, and none from its
body. One that fails for its body is a loop, and the diagnostics are those of the body, at least one. -/
def Visit.Accounted (opset : Int) (v : Visit) : Prop :=
  let inside := v.session.ask.bodyEnd v.scope opset v.node
  let after := (v.session.visit v.scope opset v.node).2
  match (v.session.visit v.scope opset v.node).1 with
  | .converted =>
    inside.diagnostics = v.session.diagnostics ∧ after.diagnostics = v.session.diagnostics ∧
      after.convertedNodes = inside.convertedNodes + 1
  | .failed e =>
    inside.diagnostics = v.session.diagnostics ∧
      after.diagnostics = v.session.diagnostics ++ [⟨.ofNode v.graphs v.node, e⟩] ∧
      after.convertedNodes = inside.convertedNodes
  | .reported =>
    v.node.isLoop = true ∧ after.diagnostics = inside.diagnostics ∧ after.convertedNodes = inside.convertedNodes ∧
      ∃ ds, ds ≠ [] ∧ inside.diagnostics = v.session.diagnostics ++ ds ∧
        (ds.map Diagnostic.place).Sublist (bodyPlaces v.graphs v.node)

section Reaches
variable {s : Session} {scope : ScopeId} {opset : Int} {node : Node}

/-- Only a loop that is given up has something recorded in its body. -/
theorem diagnostics_bodyEnd (hu : s.scopes.Usable scope) (h : (s.attempt scope opset node).1 ≠ .reported) :
    (s.bodyEnd scope opset node).diagnostics = s.diagnostics := by
  rcases attempt_cases s scope opset node with
    ⟨hend, -⟩ | ⟨plan, hl, hp, ⟨-, ha⟩ | ⟨yielded, hy, -⟩⟩
  · rw [hend]
  · rw [ha] at h
    exact absurd rfl h
  · have hlen := length_of_yieldBody hy
    have hpre := (evolves_throughBody hu opset node plan).diagnostics
    rw [bodyEnd_of_plan hl hp]
    exact (hpre.eq_of_length_le (Nat.le_of_eq hlen)).symm

theorem accounted (hu : s.scopes.Usable scope) (hd : s.Dated) (hc : s.cancelled = false) :
    Visit.Accounted opset ⟨s.path, scope, s, node⟩ := by
  have hnotes := notes_attempt s.ask scope opset node
  have hpath : (s.ask.attempt scope opset node).2.path = s.path :=
    hnotes.path.trans (evolves_bodyEnd (s := s.ask) hu opset node).path
  have hsilent : (s.ask.attempt scope opset node).1 ≠ .reported → _ := diagnostics_bodyEnd (s := s.ask) hu
  have hend := reports_bodyEnd (s := s.ask) hu opset node fun plan _ _ =>
    (run_convertNodes ..).reports (usable_enterLoop (s := s.ask) node plan hu)
  simp only [Visit.Accounted, visit]
  cases hr : (s.ask.attempt scope opset node).1 with
  | converted =>
    have hinside := hsilent (by simp [hr])
    exact ⟨hinside, hnotes.diagnostics.trans hinside, congrArg (· + 1) hnotes.convertedNodes⟩
  | failed e =>
    have hinside := hsilent (by simp [hr])
    refine ⟨hinside, ?_, hnotes.convertedNodes⟩
    simp only [settle, record]
    rw [hnotes.diagnostics, hinside, hpath]
    rfl
  | reported =>
    obtain ⟨ds, hds, hsub⟩ := hend
    rcases attempt_cases s.ask scope opset node with
      ⟨-, hne, -⟩ | ⟨plan, hl, hp, ⟨hnone, -⟩ | ⟨yielded, -, ha⟩⟩
    · exact absurd hr hne
    · refine ⟨hl, hnotes.diagnostics, hnotes.convertedNodes, ds, ?_, hds, hsub⟩
      have hrun := run_convertNodes (s.ask.enterLoop scope node plan) (s.ask.bodyScope scope) opset plan.body.nodes
      have hlt := length_lt_throughBody (s := s.ask) hd hc (hrun.discloses
        (usable_enterLoop (s := s.ask) node plan hu) (Dated.enterLoop (s := s.ask) hd scope node plan)).2 hnone
      rintro rfl
      rw [← bodyEnd_of_plan hl hp, hds, List.append_nil] at hlt
      exact Nat.lt_irrefl _ hlt
    · rw [ha] at hr
      exact absurd hr (finishLoop_ne_reported _ _ _ _ _ _)

theorem cancelled_visit (s : Session) (scope : ScopeId) (opset : Int) (node : Node) :
    (s.visit scope opset node).2.cancelled = (s.ask.bodyEnd scope opset node).cancelled := by
  have hsettle : (s.visit scope opset node).2.cancelled = (s.ask.attempt scope opset node).2.cancelled := by
    rw [visit]
    cases (s.ask.attempt scope opset node).1 <;> rfl
  exact hsettle.trans (notes_attempt ..).cancelled

/-- The state in which a node is reached. -/
theorem Reaches.state {graphs : List String} {nodes : List Node} {v : Visit}
    (h : Reaches opset graphs scope nodes s v) (hu : s.scopes.Usable scope) (hd : s.Dated) (hpath : s.path = graphs)
    (hc : (s.convertNodes scope opset nodes).cancelled = false) :
    v.session.Active ∧ v.session.scopes.Usable v.scope ∧ v.session.Dated ∧ v.session.path = v.graphs := by
  induction h with
  | @here graphs scope s node before after =>
    have hrun := run_convertNodes s scope opset before
    have hevolves := hrun.evolves hu
    rw [convertNodes_append] at hc
    exact ⟨active_of_convertNodes hc, hevolves.scopes.usable hu, (hrun.discloses hu hd).1, hevolves.path.trans hpath⟩
  | @inside graphs scope s node t plan v before after ht hl hp _ ih =>
    have hrun := run_convertNodes s scope opset before
    rw [convertNodes_append] at hc
    rw [ht] at hrun hc
    have hevolves := hrun.evolves hu
    have hu' : t.ask.scopes.Usable scope := hevolves.scopes.usable hu
    refine ih (usable_enterLoop node plan hu') (Dated.enterLoop (s := t.ask) (hrun.discloses hu hd).1 scope node plan)
      ?_ ?_
    · rw [(notes_enterLoop t.ask scope node plan).path]
      exact congrArg (· ++ [plan.body.name]) (hevolves.path.trans hpath)
    · -- the node has been visited without cancellation, so its body has been too
      rw [convertNodes_cons (active_of_convertNodes hc)] at hc
      have hvisit := not_cancelled_of_convertNodes hc
      rw [cancelled_visit, bodyEnd_of_plan hl hp] at hvisit
      exact (notes_yieldBody ..).cancelled.symm.trans hvisit

end Reaches

/-! ## Declarations -/

/-- An input, an initializer or an output of a graph when it is come to: the names of the graphs around it, its scope,
and the sessions before and after it. -/
structure Declaration where
  graphs : List String
  scope : ScopeId
  kind : String
  name : String
  before : Session
  after : Session

def Declaration.place (d : Declaration) : Place := .within d.graphs d.name d.kind

/-- An input or an initializer is accounted for. Its name was free and now stands for a value, and nothing is recorded;
or no name has been bound, and there is one diagnostic with its place. -/
def Declaration.Bound (d : Declaration) : Prop :=
  d.before.scopes.binding? d.scope d.name = none ∧ (d.after.scopes.binding? d.scope d.name).isSome ∧
      d.after.diagnostics = d.before.diagnostics ∨
    d.after.scopes = d.before.scopes ∧ ∃ e, d.after.diagnostics = d.before.diagnostics ++ [⟨d.place, e⟩]

/-- An output is accounted for. It stands for a value or is lost with a node that has failed, and nothing is recorded; or
it is neither, and there is one diagnostic with its place. -/
def Declaration.Checked (d : Declaration) : Prop :=
  ((d.before.scopes.find? d.scope d.name).isSome ∨ (d.scope, d.name) ∈ d.before.failedOutputs) ∧
      d.after.diagnostics = d.before.diagnostics ∨
    (d.before.scopes.find? d.scope d.name = none ∧ (d.scope, d.name) ∉ d.before.failedOutputs) ∧
      d.after.diagnostics = d.before.diagnostics ++ [⟨d.place, .unresolvedInput d.name⟩]

/-- The declarations that a step takes in one after another. -/
def declarations {α : Type} (graphs : List String) (scope : ScopeId) (kind : String) (name : α → String)
    (step : Session → α → Session) : List α → Session → List Declaration
  | [], _ => []
  | a :: rest, s =>
    ⟨graphs, scope, kind, name a, s, step s a⟩ :: declarations graphs scope kind name step rest (step s a)

/-- What the graph of a model declares before its nodes. -/
def graphInputs (s : Session) (graph : Graph) : List Declaration :=
  let graphs := s.path ++ [graph.name]
  let start := { s with phase := .inGraph, path := graphs }
  let free := graph.inputs.filter fun input => !graph.initializers.any (·.name == input.name)
  declarations graphs .root "<input>" DeclaredValue.name (bindInput · .root) free start ++
    declarations graphs .root "<initializer>" StoredTensor.name (bindInitializer · .root) graph.initializers
      (start.bindInputs .root graph)

/-- What the graph of a model declares behind its nodes. -/
def graphOutputs (s : Session) (graph : Graph) (opset : Int) : List Declaration :=
  declarations (s.path ++ [graph.name]) .root "<output>" DeclaredValue.name (checkOutput · .root) graph.outputs
    ((s.openGraph graph).convertNodes .root opset graph.nodes)

/-- What the body of a loop declares before its nodes. -/
def bodyInputs (s : Session) (graphs : List String) (scope : ScopeId) (node : Node) (plan : LoopPlan) :
    List Declaration :=
  let start := (s.enterBody scope node plan.body).2.2
  let formals := plan.body.inputs.zip plan.expected
  declarations graphs (s.bodyScope scope) "<input>" (fun x => x.1.name)
      (fun t x => t.bindFormal (s.bodyScope scope) x.1 x.2) formals start ++
    declarations graphs (s.bodyScope scope) "<initializer>" StoredTensor.name (bindInitializer · (s.bodyScope scope))
      plan.body.initializers (start.bindFormals (s.bodyScope scope) formals)

/-- What the body of a loop declares behind its nodes. -/
def bodyOutputs (s : Session) (graphs : List String) (scope : ScopeId) (opset : Int) (node : Node) (plan : LoopPlan) :
    List Declaration :=
  declarations graphs (s.bodyScope scope) "<output>" DeclaredValue.name (checkOutput · (s.bodyScope scope))
    plan.body.outputs ((s.enterLoop scope node plan).convertNodes (s.bodyScope scope) opset plan.body.nodes)

/-- If a node is a loop whose body is entered, all that the body declares is accounted for. -/
def Visit.Declared (opset : Int) (v : Visit) : Prop :=
  ∀ plan, v.node.isLoop = true → v.session.ask.planLoop v.scope v.node = .ok plan →
    (∀ d ∈ v.session.ask.bodyInputs (v.graphs ++ [plan.body.name]) v.scope v.node plan, d.Bound) ∧
      ∀ d ∈ v.session.ask.bodyOutputs (v.graphs ++ [plan.body.name]) v.scope opset v.node plan, d.Checked

section Declarations
variable {graphs : List String} {scope : ScopeId} {kind : String}

theorem forall_declarations {α : Type} {name : α → String} {step : Session → α → Session} {P : Declaration → Prop}
    (hpath : ∀ (s : Session) a, (step s a).path = s.path)
    (h : ∀ (s : Session) a, s.path = graphs → P ⟨graphs, scope, kind, name a, s, step s a⟩) (l : List α)
    {s : Session} (hs : s.path = graphs) : ∀ d ∈ declarations graphs scope kind name step l s, P d := by
  induction l generalizing s with
  | nil => simp [declarations]
  | cons a l ih =>
    rw [declarations, List.forall_mem_cons]
    exact ⟨h s a hs, ih ((hpath s a).trans hs)⟩

theorem bound_bindName (s : Session) (builder : Builder) (scope : ScopeId) (kind name : String) (v : ValueId) :
    Declaration.Bound ⟨s.path, scope, kind, name, s, { s with builder }.bindName scope name kind v⟩ := by
  unfold bindName
  split
  · next t ht =>
    obtain ⟨r, hr, hfree, rfl⟩ := ScopeTree.insert_eq_ok ht
    refine .inl ⟨?_, ?_, rfl⟩
    · rw [ScopeTree.binding?, hr]
      exact hfree
    · rw [ScopeTree.binding?_addNames_self hr]
      simp
  · next e _ => exact .inr ⟨rfl, e, rfl⟩

theorem bound_record (s : Session) (scope : ScopeId) (kind name : String) (e : ImportError) :
    Declaration.Bound ⟨s.path, scope, kind, name, s, s.record name kind e⟩ := .inr ⟨rfl, e, rfl⟩

theorem bound_inputs (scope : ScopeId) (inputs : List DeclaredValue) {s : Session} (hs : s.path = graphs) :
    ∀ d ∈ declarations graphs scope "<input>" DeclaredValue.name (bindInput · scope) inputs s, d.Bound := by
  refine forall_declarations (fun s input => (evolves_bindInput s input : s.Evolves scope _).path) ?_ inputs hs
  rintro s input rfl
  unfold bindInput
  split
  · exact bound_record ..
  · exact bound_bindName ..

theorem bound_formals (scope : ScopeId) (formals : List (DeclaredValue × TensorType)) {s : Session}
    (hs : s.path = graphs) : ∀ d ∈ declarations graphs scope "<input>" (fun x => x.1.name)
      (fun t x => t.bindFormal scope x.1 x.2) formals s, d.Bound := by
  refine forall_declarations (fun s x => (evolves_bindFormal s x.1 x.2 : s.Evolves scope _).path) ?_ formals hs
  rintro s x rfl
  unfold bindFormal
  split
  · exact bound_record ..
  · exact bound_bindName ..

theorem bound_initializers (scope : ScopeId) (tensors : List StoredTensor) {s : Session} (hs : s.path = graphs) :
    ∀ d ∈ declarations graphs scope "<initializer>" StoredTensor.name (bindInitializer · scope) tensors s,
      d.Bound := by
  refine forall_declarations (fun s tensor => (evolves_bindInitializer s tensor : s.Evolves scope _).path) ?_ tensors hs
  rintro s tensor rfl
  unfold bindInitializer
  split
  · exact bound_record ..
  · exact bound_bindName ..

theorem checked_outputs (scope : ScopeId) (outputs : List DeclaredValue) {s : Session} (hs : s.path = graphs) :
    ∀ d ∈ declarations graphs scope "<output>" DeclaredValue.name (checkOutput · scope) outputs s, d.Checked := by
  refine forall_declarations (fun s output => ?_) ?_ outputs hs
  · exact (notes_checkOutputs s scope [output]).path
  · rintro s output rfl
    unfold checkOutput
    split
    · next h =>
      refine .inl ⟨?_, rfl⟩
      simpa [ScopeTree.contains] using h
    · next h =>
      refine .inr ⟨?_, rfl⟩
      simpa [ScopeTree.contains] using h

/-- Whatever is around it, what the body of a loop declares is accounted for. -/
theorem declared_visit {s : Session} (hu : s.scopes.Usable scope) (opset : Int) (node : Node) :
    Visit.Declared opset ⟨s.path, scope, s, node⟩ := by
  intro plan _ _
  have henter := notes_enterLoop s.ask scope node plan
  have hrun := (run_convertNodes (s.ask.enterLoop scope node plan) (s.ask.bodyScope scope) opset
    plan.body.nodes).evolves (usable_enterLoop (s := s.ask) node plan hu)
  refine ⟨?_, checked_outputs _ _ (hrun.path.trans henter.path)⟩
  rw [bodyInputs, List.forall_mem_append]
  refine ⟨bound_formals _ _ rfl, bound_initializers _ _ ?_⟩
  exact (notes_bindFormals ..).path

end Declarations

/-! ## Graphs -/

theorem notes_openGraph (s : Session) (graph : Graph) :
    { s with phase := .inGraph, path := s.path ++ [graph.name] }.Notes
      (Place.ofInputs (s.path ++ [graph.name]) graph.inputs ++
        Place.ofInitializers (s.path ++ [graph.name]) graph.initializers)
      (s.openGraph graph) := by
  have hinputs := notes_bindInputs { s with phase := .inGraph, path := s.path ++ [graph.name] } .root graph
  have hinitializers := notes_bindInitializers
    ({ s with phase := .inGraph, path := s.path ++ [graph.name] }.bindInputs .root graph) .root graph.initializers
  rw [hinputs.path] at hinitializers
  exact hinputs.trans hinitializers

/-- Closing a graph checks its outputs. -/
theorem closeGraph_notes (s : Session) (graph : Graph) : ∃ t,
    s.Notes (Place.ofOutputs s.path graph.outputs) t ∧
      (s.closeGraph graph).diagnostics = t.diagnostics ∧ (s.closeGraph graph).failedOutputs = t.failedOutputs ∧
      (s.closeGraph graph).cancelled = t.cancelled := by
  unfold closeGraph
  split
  · exact ⟨s, notes_refl s, rfl, rfl, rfl⟩
  · exact ⟨s.checkOutputs .root graph.outputs, notes_checkOutputs .., rfl, rfl, rfl⟩

theorem Occurs.dated {registry : Registry} {s : Session} (h : s.Occurs registry) : s.Dated := by
  induction h with
  | start => exact nofun
  | token _ _ ih | warn _ _ ih | report _ _ _ ih => exact ih
  | @graph s graph _ ih => exact ih.of_eq (notes_openGraph s graph).failedOutputs (evolves_openGraph s graph).scopes.1
  | @nodes s scope opset nodes hs hlive ih =>
    exact ((run_convertNodes s scope opset nodes).discloses (hs.usable hlive) ih).1
  | @body s scope node plan _ _ _ ih => exact ih.enterLoop scope node plan
  | @close s graph _ ih =>
    obtain ⟨t, hnotes, -, hf, -⟩ := closeGraph_notes s graph
    obtain ⟨u, outputs, hu, he⟩ := closeGraph_eq s graph
    refine ih.of_eq (hf.trans hnotes.failedOutputs) ?_
    rw [he]
    exact hu.scopes.1

theorem declared_graph (s : Session) (wf : s.scopes.WellFormed) (graph : Graph) (opset : Int) :
    (∀ d ∈ s.graphInputs graph, d.Bound) ∧ ∀ d ∈ s.graphOutputs graph opset, d.Checked := by
  have hrun := (run_convertNodes (s.openGraph graph) .root opset graph.nodes).evolves_graph wf
  refine ⟨?_, checked_outputs _ _ hrun.path⟩
  rw [graphInputs, List.forall_mem_append]
  refine ⟨bound_inputs _ _ rfl, bound_initializers _ _ ?_⟩
  exact (notes_bindInputs ..).path

/-- The failures of a graph stand in the order of its places. -/
theorem reports_convertGraph (s : Session) (wf : s.scopes.WellFormed) (graph : Graph) (opset : Int) :
    s.Reports (graphPlaces s.path graph) (s.convertGraph graph opset) := by
  have hopen := notes_openGraph s graph
  have hu : (s.openGraph graph).scopes.Usable .root := (evolves_openGraph s graph).scopes.usable wf.usable_root
  have hrun := run_convertNodes (s.openGraph graph) .root opset graph.nodes
  have hnodes := hrun.reports hu
  obtain ⟨t, hclose, hdiagnostics, -, -⟩ :=
    closeGraph_notes ((s.openGraph graph).convertNodes .root opset graph.nodes) graph
  rw [(hrun.evolves hu).path, hopen.path] at hclose
  rw [hopen.path] at hnodes
  obtain ⟨ds, hds, hsub⟩ := (hopen.reports.trans hnodes).trans hclose.reports
  exact ⟨ds, hdiagnostics.trans hds, hsub⟩

end Session

open Session in
/-- In the conversion of a graph in which the token is never found set, every node that is reached is accounted for, and
so is everything that the graph and the bodies of its loops declare. The failures that are recorded stand in the order
of the places of the graph. -/
theorem failures_reported_once {registry : Registry} {s : Session} (hs : s.Occurs registry) (graph : Graph)
    (opset : Int) (hc : (s.convertGraph graph opset).cancelled = false) :
    (∀ v, Reaches opset (s.path ++ [graph.name]) .root graph.nodes (s.openGraph graph) v →
      v.session.Active ∧ v.Accounted opset ∧ v.Declared opset) ∧
    ((∀ d ∈ s.graphInputs graph, d.Bound) ∧ ∀ d ∈ s.graphOutputs graph opset, d.Checked) ∧
    s.Reports (graphPlaces s.path graph) (s.convertGraph graph opset) := by
  refine ⟨fun v hv => ?_, declared_graph s hs.wellFormed graph opset, reports_convertGraph s hs.wellFormed graph opset⟩
  have hopen : (s.openGraph graph).Occurs registry := .graph graph hs
  obtain ⟨t, hclose, -, -, hcancelled⟩ :=
    closeGraph_notes ((s.openGraph graph).convertNodes .root opset graph.nodes) graph
  obtain ⟨hactive, hu, hd, hpath⟩ := hv.state hopen.wellFormed.usable_root hopen.dated
    (notes_openGraph s graph).path (hclose.cancelled.symm.trans (hcancelled.symm.trans hc))
  refine ⟨hactive, ?_⟩
  obtain ⟨graphs, scope, t, node⟩ := v
  obtain rfl : t.path = graphs := hpath
  exact ⟨accounted hu hd hactive.1, declared_visit hu opset node⟩

/-- An input is declared twice, a node fails, then a loop for a node of its body, the node behind them succeeds, and an
output is made by nothing. -/
def faultyGraph : Graph where
  name := "g"
  nodes := [relu "missing" "a", ⟨"", "Loop", "", ["", "", "x"], ["b"], [("body", .graph
    { name := "body"
      nodes := [relu "v" "w", relu "unknown" "z"]
      inputs := [⟨"i", none, none⟩, ⟨"c", none, none⟩, ⟨"v", none, none⟩]
      outputs := [⟨"c", none, none⟩, ⟨"z", none, none⟩]
      initializers := [] })]⟩, relu "x" "y"]
  inputs := [⟨"x", some 1, none⟩, ⟨"x", some 1, none⟩]
  outputs := [⟨"a", none, none⟩, ⟨"y", none, none⟩, ⟨"nowhere", none, none⟩]
  initializers := []

theorem faulty_graph_accounted :
    let s := Session.new "main" .builtin .standard
    s.Occurs .builtin ∧ (s.convertGraph faultyGraph 13).cancelled = false ∧
      (∀ before node after, faultyGraph.nodes = before ++ node :: after →
        let v : Session.Visit := ⟨["g"], .root, (s.openGraph faultyGraph).convertNodes .root 13 before, node⟩
        v.Accounted 13 ∧ v.Declared 13) ∧
      ((∀ d ∈ s.graphInputs faultyGraph, d.Bound) ∧ ∀ d ∈ s.graphOutputs faultyGraph 13, d.Checked) ∧
      s.Reports (graphPlaces [] faultyGraph) (s.convertGraph faultyGraph 13) ∧
      (s.convertGraph faultyGraph 13).diagnostics.map Diagnostic.place =
        [⟨"g", "x", "<input>"⟩, ⟨"g", "a", "Relu"⟩, ⟨"g/body", "z", "Relu"⟩, ⟨"g", "nowhere", "<output>"⟩] ∧
      (s.convertGraph faultyGraph 13).convertedNodes = 2 := by
  intro s
  have hoccurs : s.Occurs .builtin := .start
  have hc : (s.convertGraph faultyGraph 13).cancelled = false := by decide +kernel
  obtain ⟨hvisits, hdeclared, hreports⟩ := failures_reported_once hoccurs faultyGraph 13 hc
  refine ⟨hoccurs, hc, fun before node after hnodes => ?_, hdeclared, hreports, by decide +kernel, by decide +kernel⟩
  exact (hvisits _ (hnodes ▸ .here before after)).2

end ModelImport
