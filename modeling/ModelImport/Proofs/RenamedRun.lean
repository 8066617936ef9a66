import ModelImport.Import
import ModelImport.Proofs.NameBlind
import ModelImport.Proofs.SessionRun
import ModelImport.Proofs.WellScoped
/-!
# Names do not matter

An import is the same up to names when all values are renamed (`import_up_to_names`). Two sessions, one over a model and
one over the model after a renaming, are compared step by step (`Mirrors`): they have the same function but for names,
the same scopes with the names changed, and failures of the same kinds at the same operators. Names are looked up in
scopes and among the outputs of nodes that have failed, and compared with one another where an initializer takes the
place of an input; all of that goes through an injective map. Where a name is made up for a node that has none, it goes
no further than into names and wording.
-/

namespace ModelImport

/-! ## What is left without names -/

/-- Outcomes that are the same up to the wording of a failure. -/
inductive NodeOutcome.Alike : NodeOutcome → NodeOutcome → Prop
  | converted : Alike .converted .converted
  | reported : Alike .reported .reported
  | failed {e e' : ImportError} : e'.kind = e.kind → Alike (.failed e) (.failed e')

/-- What a diagnostic says besides names. -/
def Diagnostic.gist (d : Diagnostic) : ErrorKind × String := (d.kind, d.place.opType)

/-- What an import comes to besides names. -/
def Outcome.unnamed (o : Outcome) : Except (List (ErrorKind × String)) Function :=
  (o.result.mapError (·.map Diagnostic.gist)).map Function.anonymous

/-! ## Loops after a renaming -/

def LoopPlan.rename (r : Renaming) (p : LoopPlan) : LoopPlan := { p with body := p.body.rename r }

theorem AttributeValue.as?_graph_rename (r : Renaming) (v : AttributeValue) :
    (v.rename r).as? .graph = (v.as? .graph).map (GraphOf.rename r) := by
  cases v <;> simp [rename, as?]

theorem loopBody_rename (r : Renaming) (node : Node) :
    loopBody (node.rename r) = (loopBody node).map (GraphOf.rename r) := by
  simp only [loopBody, AttributeView.required, AttributeView.value, AttributeView.ofBag, NodeOf.attributes_rename,
    AttributeBag.find?_rename]
  cases AttributeBag.find? node.attributes "body" with
  | none => rfl
  | some stored =>
    simp only [Option.map_some, AttributeValue.as?_graph_rename, AttributeValue.kind_rename]
    cases stored.as? .graph <;> rfl

theorem Session.checkLoop_rename (r : Renaming) (node : Node) (body : Graph) (carried : Nat) :
    checkLoop (node.rename r) (body.rename r) carried = checkLoop node body carried := by
  simp [checkLoop]

/-! ## What a converter does -/

theorem Lowering.apply_rename (r : Renaming) (displayName : String) (l : Lowering) {b b' : Builder} (h : b.Alike b') :
    ((l.rename r displayName).apply b').1 = (l.apply b).1 ∧
      (l.apply b).2.Alike ((l.rename r displayName).apply b').2 := by
  obtain ⟨forwarded, addition⟩ := l
  rcases addition with _ | op | ⟨name, data⟩
  · exact ⟨rfl, h⟩
  · have hop : { op with name := displayName, resultNames := op.resultNames.map r }.anonymous = op.anonymous := rfl
    obtain ⟨hvalues, hbuilder⟩ := h.append hop
    exact ⟨congrArg (forwarded ++ ·) hvalues, hbuilder⟩
  · obtain ⟨hvalue, hbuilder⟩ := h.createConstant name (r name) data
    exact ⟨congrArg (forwarded ++ [·]) hvalue, hbuilder⟩

theorem Converter.run_rename {r : Renaming} {c : Converter} {context context' : Context} {b b' : Builder}
    (h : ConverterM.Relabels r c.lower) (hsite : Site.Renamed r ⟨context, b.function⟩ ⟨context', b'.function⟩) :
    ∃ ending : Ending, c.run context b = ending.on b ∧
      c.run context' b' = (ending.rename r context'.node.displayName).on b' := by
  obtain ⟨ending, hcomes, hrenamed⟩ := h ⟨context, b.function⟩ (.ofBag context.node.attributes)
  refine ⟨ending, hcomes b.stack, ?_⟩
  rw [run, show context'.node.attributes = _ from hsite.attributes]
  exact hrenamed _ hsite b'.stack

namespace Session

/-- Two sessions at the same point of their runs, the second after a renaming. -/
structure Mirrors (r : Renaming) (s t : Session) : Prop where
  registry : t.registry = s.registry
  /-- No converter looks at names. -/
  blind : ∀ {opType c}, s.registry.find? opType = some c → ConverterM.Relabels r c.lower
  options : t.options = s.options.rename r
  token : t.token = s.token
  builder : s.builder.Alike t.builder
  scopes : t.scopes = s.scopes.rename r
  diagnostics : t.diagnostics.map Diagnostic.gist = s.diagnostics.map Diagnostic.gist
  outputs : t.outputs = s.outputs
  failedOutputs : t.failedOutputs = s.failedOutputs.map fun x => (x.1, r x.2)
  cancelled : t.cancelled = s.cancelled

section Steps
variable {r : Renaming} {s t : Session}

/-! ## Names and outputs -/

theorem Mirrors.length (h : Mirrors r s t) : t.diagnostics.length = s.diagnostics.length := by
  simpa using congrArg List.length h.diagnostics

theorem Mirrors.record (h : Mirrors r s t) {node node' opType : String} {e e' : ImportError} (he : e'.kind = e.kind) :
    Mirrors r (s.record node opType e) (t.record node' opType e') := by
  refine { h with diagnostics := ?_ }
  simp [Session.record, h.diagnostics, Diagnostic.gist, Diagnostic.kind, he]

theorem Mirrors.withBuilder (h : Mirrors r s t) {b b' : Builder} (hb : b.Alike b') :
    Mirrors r { s with builder := b } { t with builder := b' } :=
  { h with builder := hb }

theorem Mirrors.withScopes (h : Mirrors r s t) (scopes : ScopeTree) :
    Mirrors r { s with scopes } { t with scopes := scopes.rename r } :=
  { h with scopes := rfl }

theorem Mirrors.bindName (h : Mirrors r s t) (scope : ScopeId) (name kind : String) (v : ValueId) :
    Mirrors r (s.bindName scope name kind v) (t.bindName scope (r name) kind v) := by
  rw [Session.bindName, Session.bindName, h.scopes]
  rcases s.scopes.insert_rename r scope name v with ⟨scopes, hs, ht⟩ | ⟨e, e', hs, ht, hkind⟩
  · rw [hs, ht]
    exact h.withScopes scopes
  · rw [hs, ht]
    exact h.record hkind

theorem Mirrors.bindInput (h : Mirrors r s t) (scope : ScopeId) (input : DeclaredValue) :
    Mirrors r (s.bindInput scope input) (t.bindInput scope (input.rename r)) := by
  unfold Session.bindInput
  rw [input.type_rename, input.name_rename]
  split
  · exact h.record rfl
  · next type _ =>
    have hpin : t.options.pin (r input.name) type = s.options.pin input.name type := by
      rw [h.options, Options.pin_rename]
    obtain ⟨hvalue, hbuilder⟩ := h.builder.createPlaceholder input.name (r input.name) (s.options.pin input.name type)
    dsimp only
    rw [hpin, hvalue]
    exact (h.withBuilder hbuilder).bindName scope input.name "<input>" _

theorem Mirrors.bindFormal (h : Mirrors r s t) (scope : ScopeId) (formal : DeclaredValue) (expected : TensorType) :
    Mirrors r (s.bindFormal scope formal expected) (t.bindFormal scope (formal.rename r) expected) := by
  unfold Session.bindFormal
  rw [formal.type_rename, formal.code_rename, formal.name_rename]
  split
  · exact h.record rfl
  · next type _ =>
    obtain ⟨hvalue, hbuilder⟩ := h.builder.createArgument formal.name (r formal.name) type
    dsimp only
    rw [hvalue]
    exact (h.withBuilder hbuilder).bindName scope formal.name "<input>" _

theorem Mirrors.bindInitializer (h : Mirrors r s t) (scope : ScopeId) (tensor : StoredTensor) :
    Mirrors r (s.bindInitializer scope tensor) (t.bindInitializer scope (tensor.rename r)) := by
  unfold Session.bindInitializer
  rcases (tensor.materialize_rename r).cases with ⟨data, ht, hs⟩ | ⟨e, e', ht, hs, hkind⟩
  · obtain ⟨hvalue, hbuilder⟩ := h.builder.createConstant tensor.name (r tensor.name) data
    rw [hs, ht]
    dsimp only
    rw [tensor.name_rename, hvalue]
    exact (h.withBuilder hbuilder).bindName scope tensor.name "<initializer>" _
  · rw [hs, ht]
    exact h.record hkind

theorem Mirrors.checkOutput (h : Mirrors r s t) (scope : ScopeId) (output : DeclaredValue) :
    Mirrors r (s.checkOutput scope output) (t.checkOutput scope (output.rename r)) := by
  have hlost : t.failedOutputs.contains (scope, r output.name) = s.failedOutputs.contains (scope, output.name) := by
    rw [h.failedOutputs, Bool.eq_iff_iff, List.contains_iff_mem, List.contains_iff_mem]
    simp [r.injective.eq_iff]
  rw [Session.checkOutput, Session.checkOutput, output.name_rename, h.scopes, ScopeTree.contains_rename, hlost]
  split
  · exact h
  · exact h.record rfl

theorem Mirrors.foldl {α : Type} {f : Session → α → Session} {g : α → α}
    (hf : ∀ {s t : Session} a, Mirrors r s t → Mirrors r (f s a) (f t (g a))) (l : List α) (h : Mirrors r s t) :
    Mirrors r (l.foldl f s) ((l.map g).foldl f t) := by
  induction l generalizing s t with
  | nil => exact h
  | cons a l ih => exact ih (hf a h)

/-- An input that an initializer stands for is the same one after a renaming. -/
theorem Mirrors.bindInputs (h : Mirrors r s t) (scope : ScopeId) (graph : Graph) :
    Mirrors r (s.bindInputs scope graph) (t.bindInputs scope (graph.rename r)) := by
  have hfree : (graph.rename r).inputs.filter
        (fun input => !(graph.rename r).initializers.any (·.name == input.name)) =
      (graph.inputs.filter fun input => !graph.initializers.any (·.name == input.name)).map
        (DeclaredValue.rename r) := by
    simp only [GraphOf.inputs_rename, GraphOf.initializers_rename, List.filter_map, List.any_map, Function.comp_def,
      StoredTensor.name_rename, DeclaredValue.name_rename, r.beq]
  unfold Session.bindInputs
  dsimp only
  rw [hfree]
  exact h.foldl (fun input hs => hs.bindInput scope input) _

theorem Mirrors.bindFormals (h : Mirrors r s t) (scope : ScopeId) (inputs : List DeclaredValue)
    (types : List TensorType) :
    Mirrors r (s.bindFormals scope (inputs.zip types))
      (t.bindFormals scope ((inputs.map (DeclaredValue.rename r)).zip types)) := by
  rw [List.zip_map_left]
  exact h.foldl (fun (x : DeclaredValue × TensorType) hs => hs.bindFormal scope x.1 x.2) _

theorem Mirrors.bindInitializers (h : Mirrors r s t) (scope : ScopeId) (tensors : List StoredTensor) :
    Mirrors r (s.bindInitializers scope tensors) (t.bindInitializers scope (tensors.map (StoredTensor.rename r))) :=
  h.foldl (fun tensor hs => hs.bindInitializer scope tensor) tensors

theorem Mirrors.checkOutputs (h : Mirrors r s t) (scope : ScopeId) (outputs : List DeclaredValue) :
    Mirrors r (s.checkOutputs scope outputs) (t.checkOutputs scope (outputs.map (DeclaredValue.rename r))) :=
  h.foldl (fun output hs => hs.checkOutput scope output) outputs

theorem Mirrors.resolveInputs (h : Mirrors r s t) (scope : ScopeId) (node : Node) :
    SameUpToWording (t.resolveInputs scope (node.rename r)) (s.resolveInputs scope node) := by
  rw [Session.resolveInputs, Session.resolveInputs, NodeOf.inputs_rename]
  refine SameUpToWording.mapM (fun name => ?_) node.inputs
  rw [Session.resolveInput, Session.resolveInput, h.scopes, ScopeTree.find?_rename]
  by_cases hname : name = ""
  · rw [if_pos hname, if_pos (r.eq_empty.2 hname)]
    rfl
  · rw [if_neg hname, if_neg (mt r.eq_empty.1 hname)]
    cases s.scopes.find? scope name <;> rfl

theorem Mirrors.resolveOutputs (h : Mirrors r s t) (scope : ScopeId) (outputs : List DeclaredValue) :
    t.resolveOutputs scope (outputs.map (DeclaredValue.rename r)) = s.resolveOutputs scope outputs := by
  simp only [Session.resolveOutputs, List.mapM_map, Function.comp_def, h.scopes, DeclaredValue.name_rename,
    ScopeTree.find?_rename]

/-! ## One node -/

/-- The conversions of a node in two sessions end in the same way. -/
def EndsAlike (r : Renaming) (x y : NodeOutcome × Session) : Prop := x.1.Alike y.1 ∧ Mirrors r x.2 y.2

theorem Mirrors.bindOutputs (h : Mirrors r s t) (scope : ScopeId) (node : Node) (values : List ValueId) :
    EndsAlike r (s.bindOutputs scope node values) (t.bindOutputs scope (node.rename r) values) := by
  obtain ⟨e', hinsert, hkind⟩ := s.scopes.insertAll_rename r scope (node.outputs.zip values)
  have hpairs : (node.outputs.map r).zip values = (node.outputs.zip values).map fun x => (r x.1, x.2) :=
    List.zip_map_left
  unfold Session.bindOutputs
  dsimp only
  rw [NodeOf.outputs_rename, List.length_map, h.scopes, hpairs, hinsert]
  split
  · exact ⟨.failed rfl, h⟩
  · cases hs : s.scopes.insertAll scope (node.outputs.zip values) with
    | mk e scopes =>
      rw [hs] at hkind
      cases e with
      | none =>
        rw [Option.map_eq_none_iff.1 hkind]
        exact ⟨.converted, h.withScopes scopes⟩
      | some e =>
        obtain ⟨_, rfl, hfailed⟩ := Option.map_eq_some_iff.1 hkind
        exact ⟨.failed hfailed, h.withScopes scopes⟩

theorem Mirrors.applyLowering (h : Mirrors r s t) (scope : ScopeId) (node : Node) (displayName : String)
    (lowering : Lowering) (view view' : AttributeView) :
    EndsAlike r (s.applyLowering scope node lowering view)
      (t.applyLowering scope (node.rename r) (lowering.rename r displayName) view') := by
  obtain ⟨hvalues, hbuilder⟩ := lowering.apply_rename r displayName h.builder
  have hadded : Mirrors r (s.added node lowering view)
      (t.added (node.rename r) (lowering.rename r displayName) view') :=
    { h with builder := hbuilder }
  rw [Session.applyLowering, Session.applyLowering, hvalues]
  exact hadded.bindOutputs scope node _

/-- A node goes to the same converter, which sees the same up to names. -/
theorem Mirrors.dispatch (h : Mirrors r s t) (scope : ScopeId) (opset : Int) (node : Node) :
    (∃ c context context', s.dispatch scope opset node = .ok (c, context) ∧
      t.dispatch scope opset (node.rename r) = .ok (c, context') ∧ s.registry.find? node.opType = some c ∧
      ∀ b b' : Builder, b.Alike b' → Site.Renamed r ⟨context, b.function⟩ ⟨context', b'.function⟩) ∨
    ∃ e e', s.dispatch scope opset node = .error e ∧ t.dispatch scope opset (node.rename r) = .error e' ∧
      e'.kind = e.kind := by
  unfold Session.dispatch
  rcases (h.resolveInputs scope node).cases with ⟨operands, ht, hs⟩ | ⟨e', e, ht, hs, hkind⟩
  · rw [ht, hs]
    simp only [bind, Except.bind, NodeOf.domain_rename, NodeOf.opType_rename, h.registry, Registry.lookup]
    split
    · exact .inr ⟨_, _, rfl, rfl, rfl⟩
    · cases hc : s.registry.find? node.opType with
      | none => exact .inr ⟨_, _, rfl, rfl, rfl⟩
      | some c =>
        refine .inl ⟨c, _, _, rfl, rfl, rfl, fun b b' hb => ?_⟩
        exact ⟨NodeOf.opType_rename .., NodeOf.outputs_rename .., NodeOf.attributes_rename .., rfl, hb.type?,
          hb.constant?, rfl⟩
  · rw [ht, hs]
    exact .inr ⟨e, e', rfl, rfl, hkind⟩

theorem Mirrors.prime (h : Mirrors r s t) (c : Converter) : Mirrors r (s.prime c) (t.prime c) := by
  unfold Session.prime
  split
  · exact { h with token := rfl }
  · exact h

theorem Mirrors.convertNode (h : Mirrors r s t) (scope : ScopeId) (opset : Int) (node : Node) :
    EndsAlike r (s.convertNode scope opset node) (t.convertNode scope opset (node.rename r)) := by
  unfold Session.convertNode
  rcases h.dispatch scope opset node with ⟨c, context, context', hs, ht, hc, hsite⟩ | ⟨e, e', hs, ht, hkind⟩
  · rw [hs, ht]
    have hprime := h.prime c
    rw [Session.prime, Session.prime] at hprime
    dsimp only
    obtain ⟨ending, hrun, hrun'⟩ := Converter.run_rename (h.blind hc) (hsite _ _ hprime.builder)
    rw [hrun, hrun']
    rcases ending with e | ⟨lowering, view⟩
    · exact ⟨.failed rfl, hprime⟩
    · exact hprime.applyLowering scope node context'.node.displayName lowering view _
  · rw [hs, ht]
    exact ⟨.failed hkind, h⟩

theorem EndsAlike.settle {x y : NodeOutcome × Session} (h : EndsAlike r x y) (scope : ScopeId) (node : Node) :
    Mirrors r (x.2.settle scope node x.1) (y.2.settle scope (node.rename r) y.1) := by
  obtain ⟨outcome, s⟩ := x
  obtain ⟨outcome', t⟩ := y
  obtain ⟨houtcome, hst⟩ := h
  -- a renaming omits no output and declares none
  have hlost : ((node.rename r).outputs.filter (· ≠ "")).map (fun name => (scope, name)) ++ t.failedOutputs =
      ((node.outputs.filter (· ≠ "")).map (fun name => (scope, name)) ++ s.failedOutputs).map
        fun x => (x.1, r x.2) := by
    dsimp only at hst
    simp [hst.failedOutputs, List.filter_map, Function.comp_def, r.eq_empty]
  cases houtcome with
  | converted => exact { hst with }
  | reported => exact { hst with failedOutputs := hlost }
  | failed hkind =>
    rw [Session.settle, Session.settle, NodeOf.opType_rename]
    exact { hst.record hkind with failedOutputs := hlost }

theorem Mirrors.ask (h : Mirrors r s t) : Mirrors r s.ask t.ask :=
  { h with token := congrArg CancelToken.asked h.token }

theorem Mirrors.active (h : Mirrors r s t) (ha : s.Active) : t.Active := ⟨h.cancelled.trans ha.1, h.token ▸ ha.2⟩

theorem Mirrors.stop (h : Mirrors r s t) (node : Node) : Mirrors r (s.stop node) (t.stop (node.rename r)) := by
  rw [Session.stop, Session.stop, NodeOf.opType_rename]
  exact { h.record rfl with cancelled := rfl }

/-! ## Loops -/

theorem Mirrors.planLoop (h : Mirrors r s t) (scope : ScopeId) (node : Node) :
    SameUpToWording (t.planLoop scope (node.rename r)) ((s.planLoop scope node).map (LoopPlan.rename r)) := by
  have htype : t.typeOf = s.typeOf := by
    funext v
    rw [Session.typeOf, Session.typeOf, h.builder.type?]
  have hcarried : t.carriedTypes = s.carriedTypes := by
    funext initial
    rw [Session.carriedTypes, Session.carriedTypes, htype]
  have hoperands : SameUpToWording (t.loopOperands scope (node.rename r)) (s.loopOperands scope node) :=
    (h.resolveInputs scope node).bind fun _ => rfl
  unfold Session.planLoop
  rcases hoperands.cases with ⟨operands, ht, hs⟩ | ⟨e', e, ht, hs, hkind⟩
  · rw [ht, hs, loopBody_rename]
    cases loopBody node with
    | error e => rfl
    | ok body =>
      simp only [Except.map, hcarried]
      cases s.carriedTypes (operands.drop 2) with
      | error e => rfl
      | ok carried =>
        simp only [bind, Except.bind, checkLoop_rename]
        cases checkLoop node body carried.length <;> rfl
  · rw [ht, hs]
    exact congrArg Except.error hkind

theorem Mirrors.bodyScope (h : Mirrors r s t) (scope : ScopeId) : t.bodyScope scope = s.bodyScope scope := by
  rw [Session.bodyScope, h.scopes, ScopeTree.createChild_rename, Session.bodyScope]

theorem Mirrors.bodyBlock (h : Mirrors r s t) : t.bodyBlock = s.bodyBlock := (h.builder.openBlock "" "").1

theorem Mirrors.enterBody (h : Mirrors r s t) (scope : ScopeId) (node : Node) (body : Graph) :
    Mirrors r (s.enterBody scope node body).2.2 (t.enterBody scope (node.rename r) (body.rename r)).2.2 := by
  refine { h with builder := (h.builder.openBlock _ _).2, scopes := ?_ }
  simp only [Session.enterBody, h.scopes, ScopeTree.createChild_rename]

theorem Mirrors.enterLoop (h : Mirrors r s t) (scope : ScopeId) (node : Node) (plan : LoopPlan) :
    Mirrors r (s.enterLoop scope node plan) (t.enterLoop scope (node.rename r) (plan.rename r)) := by
  have hbody : (plan.rename r).body = plan.body.rename r := rfl
  rw [Session.enterLoop, Session.enterLoop, h.bodyScope, hbody, GraphOf.inputs_rename, GraphOf.initializers_rename]
  exact ((h.enterBody scope node plan.body).bindFormals ..).bindInitializers ..

/-- A body is judged by the number of failures since its beginning. -/
theorem Mirrors.yieldBody (h : Mirrors r s t) (scope : ScopeId) (before : Nat) (body : Graph) :
    (t.yieldBody scope before (body.rename r)).1 = (s.yieldBody scope before body).1 ∧
      Mirrors r (s.yieldBody scope before body).2 (t.yieldBody scope before (body.rename r)).2 := by
  have hcheck := h.checkOutputs scope body.outputs
  unfold Session.yieldBody
  rw [h.cancelled, GraphOf.outputs_rename]
  split
  · exact ⟨rfl, h⟩
  · dsimp only
    rw [hcheck.length, hcheck.resolveOutputs]
    exact ⟨rfl, hcheck⟩

theorem Mirrors.leaveBody (h : Mirrors r s t) (child : ScopeId) (outer outer' : Phase)
    (results : Option (List ValueId)) :
    Mirrors r (s.leaveBody child outer results) (t.leaveBody child outer' results) := by
  have hscopes : (t.leaveBody child outer' results).scopes = (s.leaveBody child outer results).scopes.rename r := by
    simp only [Session.leaveBody, h.scopes, ScopeTree.destroy_rename]
  cases results with
  | none => exact { h with builder := h.builder.closeBlock, scopes := hscopes }
  | some results => exact { h with builder := (h.builder.setResults results).closeBlock, scopes := hscopes }

theorem Mirrors.finishLoop (h : Mirrors r s t) (scope : ScopeId) (node : Node) (plan : LoopPlan) (block : BlockId)
    (yielded : List ValueId) :
    EndsAlike r (s.finishLoop scope node plan block yielded)
      (t.finishLoop scope (node.rename r) (plan.rename r) block yielded) := by
  have htypes : t.loopTypes (node.rename r) plan.carried yielded = s.loopTypes node plan.carried yielded := by
    simp only [Session.loopTypes, h.builder.type?, NodeOf.outputs_rename, List.length_map]
  have hop : t.loopOp (node.rename r) (plan.rename r) block yielded =
      { s.loopOp node plan block yielded with
        name := (node.rename r).displayName, resultNames := node.outputs.map r } := by
    rw [loopOp, LoopPlan.rename, htypes, NodeOf.outputs_rename, loopOp]
  rw [finishLoop_eq, finishLoop_eq, hop]
  exact h.applyLowering scope node (node.rename r).displayName ⟨[], some (.instruction _)⟩ _ _

theorem Mirrors.endLoop (h : Mirrors r s t) (scope : ScopeId) (node : Node) (plan : LoopPlan) {inner inner' : Session}
    (hi : Mirrors r inner inner') :
    EndsAlike r (s.endLoop scope node plan inner) (t.endLoop scope (node.rename r) (plan.rename r) inner') := by
  obtain ⟨hyielded, hbody⟩ := hi.yieldBody (s.bodyScope scope) s.diagnostics.length plan.body
  rw [endLoop_eq, endLoop_eq, h.bodyScope, h.length, h.bodyBlock]
  dsimp only [LoopPlan.rename]
  rw [hyielded]
  cases (inner.yieldBody (s.bodyScope scope) s.diagnostics.length plan.body).1 with
  | none => exact ⟨.reported, hbody.leaveBody _ _ _ none⟩
  | some yielded => exact (hbody.leaveBody _ _ _ (some yielded)).finishLoop ..

end Steps

/-! ## Runs -/

/-- Step by step, a run after a renaming goes as before. -/
theorem Run.mirrors {r : Renaming} {opset : Int} {scope : ScopeId} {nodes : List Node} {s s' : Session}
    (h : Run opset scope nodes s s') {t : Session} (ht : Mirrors r s t) :
    ∃ t', Run opset scope (nodes.map (NodeOf.rename r)) t t' ∧ Mirrors r s' t' := by
  induction h generalizing t with
  | done => exact ⟨t, .done, ht⟩
  | halted hc => exact ⟨t, .halted (ht.cancelled.trans hc), ht⟩
  | @stopped scope node rest s hc hset =>
    exact ⟨t.stop (node.rename r), .stopped (ht.cancelled.trans hc) (ht.token ▸ hset), ht.stop node⟩
  | @node scope node rest s s' ha hl _ ih =>
    obtain ⟨t', hrun, ht'⟩ := ih ((ht.ask.convertNode scope opset node).settle scope node)
    exact ⟨t', .node (ht.active ha) ((node.isLoop_rename r).trans hl) hrun, ht'⟩
  | @refused scope node rest s s' e ha hl hp _ ih =>
    have hplan := ht.ask.planLoop scope node
    rw [hp] at hplan
    rcases hplan.cases with ⟨plan, -, hplan⟩ | ⟨e', e'', hp', he, hkind⟩
    · cases hplan
    · cases he
      have hends : EndsAlike r (.failed e, s.ask) (.failed e', t.ask) := ⟨.failed hkind, ht.ask⟩
      obtain ⟨t', hrun, ht'⟩ := ih (hends.settle scope node)
      exact ⟨t', .refused (ht.active ha) ((node.isLoop_rename r).trans hl) hp' hrun, ht'⟩
  | @loop scope node rest s s' plan inner ha hl hp _ _ ihb ih =>
    have hplan := ht.ask.planLoop scope node
    rw [hp] at hplan
    rcases hplan.cases with ⟨plan', hp', he⟩ | ⟨e', e, -, he, -⟩
    · -- the loop is planned as before, with its body renamed, so the run inside mirrors that of the body
      cases he
      obtain ⟨inner', hbody, hinner⟩ := ihb (ht.ask.enterLoop scope node plan)
      obtain ⟨t', hrun, ht'⟩ := ih ((ht.ask.endLoop scope node plan hinner).settle scope node)
      rw [← ht.ask.bodyScope, ← GraphOf.nodes_rename] at hbody
      exact ⟨t', .loop (ht.active ha) ((node.isLoop_rename r).trans hl) hp' hbody hrun, ht'⟩
    · cases he

/-! ## Graphs and models -/

section Graphs
variable {r : Renaming} {s t : Session}

theorem Mirrors.convertNodes (h : Mirrors r s t) (scope : ScopeId) (opset : Int) (nodes : List Node) :
    Mirrors r (s.convertNodes scope opset nodes) (t.convertNodes scope opset (nodes.map (NodeOf.rename r))) := by
  obtain ⟨t', hrun, ht'⟩ := (run_convertNodes s scope opset nodes).mirrors h
  rw [hrun.eq_convertNodes]
  exact ht'

theorem Mirrors.openGraph (h : Mirrors r s t) (graph : Graph) :
    Mirrors r (s.openGraph graph) (t.openGraph (graph.rename r)) := by
  have hbegin : Mirrors r { s with phase := .inGraph, path := s.path ++ [graph.name] }
      { t with phase := .inGraph, path := t.path ++ [(graph.rename r).name] } := { h with }
  rw [Session.openGraph, Session.openGraph, GraphOf.initializers_rename]
  exact (hbegin.bindInputs .root graph).bindInitializers ..

theorem Mirrors.closeGraph (h : Mirrors r s t) (graph : Graph) :
    Mirrors r (s.closeGraph graph) (t.closeGraph (graph.rename r)) := by
  have hcheck := h.checkOutputs .root graph.outputs
  unfold Session.closeGraph Session.collectOutputs
  rw [h.cancelled, GraphOf.outputs_rename]
  split
  · exact { h with }
  · refine { hcheck with outputs := ?_ }
    dsimp only
    rw [hcheck.outputs, hcheck.resolveOutputs]

theorem Mirrors.convertModel (h : Mirrors r s t) (model : Model) :
    Mirrors r (s.convertModel model) (t.convertModel (model.rename r)) := by
  have hleast : t.options.minOpset = s.options.minOpset := by rw [h.options, Options.rename]
  rw [Session.convertModel, Session.convertModel, hleast]
  by_cases hold : model.opset < s.options.minOpset
  · rw [if_pos hold, if_pos (show (model.rename r).opset < _ from hold)]
    refine { h with diagnostics := ?_ }
    simp [Session.report, h.diagnostics, Diagnostic.gist, Diagnostic.kind, Place.model, ImportError.kind]
  · rw [if_neg hold, if_neg (show ¬ (model.rename r).opset < _ from hold), convertGraph_eq, convertGraph_eq]
    dsimp only [Model.rename]
    rw [GraphOf.nodes_rename]
    exact ((h.openGraph model.graph).convertNodes ..).closeGraph model.graph

theorem Mirrors.unnamed_outcome (h : Mirrors r s t) : t.outcome.unnamed = s.outcome.unnamed := by
  have hempty : t.diagnostics.isEmpty = s.diagnostics.isEmpty := by
    rw [Bool.eq_iff_iff, List.isEmpty_iff_length_eq_zero, List.isEmpty_iff_length_eq_zero, h.length]
  rw [Outcome.unnamed, Outcome.unnamed, outcome, outcome, finish, finish, hempty]
  split
  · have hfunction := h.builder.setResults s.outputs
    rw [h.outputs]
    exact congrArg (fun b => Except.ok b.function) hfunction
  · exact congrArg Except.error h.diagnostics

end Graphs

theorem mirrors_standard (r : Renaming) (options : Options) :
    Mirrors r (standard options) (standard (options.rename r)) where
  registry := rfl
  blind := Registry.builtin_relabels r
  options := rfl
  token := rfl
  builder := rfl
  scopes := by simp [standard, new, ScopeTree.new, ScopeTree.rename, ScopeRecord.rename]
  diagnostics := rfl
  outputs := rfl
  failedOutputs := rfl
  cancelled := rfl

end Session

/-- Let the values of all models be renamed in one way, and the sizes that the options give for inputs along with them.
Then the models are imported as before: into a function that differs in names only, or with failures of the same kinds
at the same operators, in the same order. -/
theorem import_up_to_names (r : Renaming) (models : List Model) (options : Options) :
    (importModels (models.map (Model.rename r)) (options.rename r)).unnamed =
      (importModels models options).unnamed := by
  have hrun := (Session.mirrors_standard r options).foldl (fun model hs => hs.convertModel model) models
  exact hrun.unnamed_outcome

/-- The input of `accumulator`, which the body reads from outside, and the value that the body carries exchange their
names. -/
theorem accumulator_up_to_names :
    let r := Renaming.swap "x" "v" (by decide) (by decide)
    let sized : Options := { Options.standard with inputShapes := [("x", [2])] }
    (accumulator.rename r).graph.inputs.map (·.name) = ["v"] ∧ (sized.rename r).inputShapes = [("v", [2])] ∧
      (importModels [accumulator.rename r] (sized.rename r)).unnamed = (importModels [accumulator] sized).unnamed ∧
      (importModels [accumulator] sized).result.isOk := by
  intro r sized
  refine ⟨?_, by decide, import_up_to_names r [accumulator] sized, by decide +kernel⟩
  rw [Model.rename, GraphOf.inputs_rename]
  decide

end ModelImport
