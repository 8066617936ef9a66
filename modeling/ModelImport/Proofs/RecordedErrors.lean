import ModelImport.Proofs.ConverterErrors
import ModelImport.Proofs.StepByStep
/-!
# What a session records

A session records what its converters fail with and some failures of its own: names that are bound twice or not at all,
counts that do not fit, operators without a converter. Cancellation is not among them. So, when the converters never
answer that the import was cancelled, each step of a session records other failures only, or it is the step that finds
the token set (`Task.records_perform`). From this an invariant of whole sessions is two small facts (`Work.steps_keep`).
-/

namespace ModelImport

/-! ## Failures of a session -/

/-- A computation that does not fail with a cancellation. -/
abbrev NotCancelled {α : Type} (x : Except ImportError α) : Prop := FailsWith (· ≠ .cancelled) x

theorem NotCancelled.of_local {α : Type} {x : Except ImportError α} (h : FailsLocally x) : NotCancelled x :=
  h.imp fun _ he => he.ne_cancelled

theorem ImportError.arity_ne_cancelled {opType what : String} {least : Nat} {most : Option Nat} {actual : Nat} :
    arity opType what least most actual ≠ .cancelled := by simp [arity]

namespace ScopeTree

theorem insert_notCancelled {t : ScopeTree} {id : ScopeId} {name : String} {v : ValueId} :
    NotCancelled (t.insert id name v) := by
  unfold insert
  split
  · exact .error (by simp)
  · exact .ite (.error (by simp)) .ok

theorem insertAll_ne_cancelled (t : ScopeTree) (id : ScopeId) (pairs : List (String × ValueId)) :
    (t.insertAll id pairs).1 ≠ some .cancelled := by
  induction pairs generalizing t with
  | nil => simp [insertAll]
  | cons pair pairs ih =>
    rw [insertAll]
    split
    · exact ih t
    · split
      · next t' _ => exact ih t'
      · next e he => simpa using insert_notCancelled e he

end ScopeTree

/-- The failure of a node, if it is to be recorded, satisfies `P`. -/
def NodeOutcome.FailsWith (P : ImportError → Prop) (outcome : NodeOutcome) : Prop := ∀ e, outcome = .failed e → P e

namespace Session

theorem resolveInputs_notCancelled {s : Session} {scope : ScopeId} {node : Node} :
    NotCancelled (s.resolveInputs scope node) := by
  refine .mapM (fun name => ?_) _
  unfold resolveInput
  refine .ite .ok ?_
  split
  · exact .ok
  · exact .error (by simp)

theorem loopOperands_notCancelled {s : Session} {scope : ScopeId} {node : Node} :
    NotCancelled (s.loopOperands scope node) :=
  .bind resolveInputs_notCancelled fun _ => .guard ImportError.arity_ne_cancelled .ok

theorem carriedTypes_notCancelled {s : Session} {initial : List (Option ValueId)} :
    NotCancelled (s.carriedTypes initial) := by
  refine .guard ImportError.arity_ne_cancelled (.mapM (fun v => ?_) _)
  unfold typeOf
  split
  · exact .ok
  · exact .error (by simp)

theorem checkLoop_notCancelled {node : Node} {body : Graph} {carried : Nat} :
    NotCancelled (checkLoop node body carried) := by
  refine .guard ImportError.arity_ne_cancelled (.guard ImportError.arity_ne_cancelled ?_)
  exact .ite (.error ImportError.arity_ne_cancelled) .ok

theorem planLoop_notCancelled {s : Session} {scope : ScopeId} {node : Node} : NotCancelled (s.planLoop scope node) := by
  unfold planLoop
  split
  · next e he => exact .error (loopOperands_notCancelled e he)
  · split
    · next e he => exact .error (NotCancelled.of_local AttributeView.required_local e he)
    · exact .bind carriedTypes_notCancelled fun _ => .bind checkLoop_notCancelled fun _ => .ok

theorem dispatch_notCancelled {s : Session} {scope : ScopeId} {opset : Int} {node : Node} :
    NotCancelled (s.dispatch scope opset node) := by
  refine .bind resolveInputs_notCancelled fun _ => .guard (by simp) (.bind ?_ fun _ => .ok)
  unfold Registry.lookup
  split
  · exact .ok
  · exact .error (by simp)

/-! ## Steps -/

/-- All that has been recorded since satisfies `P`, and the session has not been stopped. -/
structure Records (P : ImportError → Prop) (s s' : Session) : Prop where
  registry : s'.registry = s.registry
  cancelled : s'.cancelled = s.cancelled
  diagnostics : ∃ ds : List Diagnostic, s'.diagnostics = s.diagnostics ++ ds ∧ ∀ d ∈ ds, P d.error

section Records
variable {P : ImportError → Prop} {s t u : Session}

theorem Records.of_eq (hr : t.registry = s.registry) (hc : t.cancelled = s.cancelled)
    (hd : t.diagnostics = s.diagnostics) : s.Records P t :=
  ⟨hr, hc, [], by simp [hd], List.forall_mem_nil _⟩

theorem Records.refl (s : Session) : s.Records P s := .of_eq rfl rfl rfl

theorem Records.trans (h : s.Records P t) (h' : t.Records P u) : s.Records P u := by
  obtain ⟨ds, hds, hall⟩ := h.diagnostics
  obtain ⟨ds', hds', hall'⟩ := h'.diagnostics
  refine ⟨h'.registry.trans h.registry, h'.cancelled.trans h.cancelled, ds ++ ds', ?_, ?_⟩
  · rw [hds', hds, List.append_assoc]
  · simp only [List.mem_append]
    rintro d (hd | hd)
    · exact hall d hd
    · exact hall' d hd

theorem records_diagnostic (s : Session) {d : Diagnostic} (hd : P d.error) :
    s.Records P { s with diagnostics := s.diagnostics ++ [d] } :=
  ⟨rfl, rfl, [d], rfl, by simpa using hd⟩

theorem records_record (s : Session) (node opType : String) {e : ImportError} (he : P e) :
    s.Records P (s.record node opType e) := records_diagnostic s he

theorem records_foldl {α : Type} {f : Session → α → Session} (h : ∀ (s : Session) a, s.Records P (f s a)) (l : List α)
    (s : Session) : s.Records P (l.foldl f s) := by
  induction l generalizing s with
  | nil => exact .refl s
  | cons a l ih => exact (h s a).trans (ih (f s a))

variable (hP : ∀ e, e ≠ .cancelled → P e)
include hP

/-- Making a value and binding it. -/
theorem records_bindValue (s : Session) (builder : Builder) (scope : ScopeId) (name kind : String) (v : ValueId) :
    s.Records P ({ s with builder }.bindName scope name kind v) := by
  unfold bindName
  split
  · exact .of_eq rfl rfl rfl
  · next e he =>
    refine (Records.of_eq rfl rfl rfl : s.Records P { s with builder }).trans (records_record _ _ _ (hP e ?_))
    exact ScopeTree.insert_notCancelled e he

theorem records_bindInputs (s : Session) (scope : ScopeId) (graph : Graph) :
    s.Records P (s.bindInputs scope graph) := by
  refine records_foldl (fun s input => ?_) _ s
  unfold bindInput
  split
  · next e he => exact records_record s _ _ (hP e (DeclaredValue.type_local e he).ne_cancelled)
  · exact records_bindValue hP ..

theorem records_bindFormals (s : Session) (scope : ScopeId) (formals : List (DeclaredValue × TensorType)) :
    s.Records P (s.bindFormals scope formals) := by
  refine records_foldl (fun s formal => ?_) _ s
  obtain ⟨formal, expected⟩ := formal
  have htype : FailsLocally (if formal.code.isSome then formal.type else .ok expected) :=
    .ite DeclaredValue.type_local .ok
  change s.Records P (s.bindFormal scope formal expected)
  unfold bindFormal
  split
  · next e he => exact records_record s _ _ (hP e (htype e he).ne_cancelled)
  · exact records_bindValue hP ..

theorem records_bindInitializers (s : Session) (scope : ScopeId) (tensors : List StoredTensor) :
    s.Records P (s.bindInitializers scope tensors) := by
  refine records_foldl (fun s tensor => ?_) _ s
  unfold bindInitializer
  split
  · next e he => exact records_record s _ _ (hP e (StoredTensor.materialize_local e he).ne_cancelled)
  · exact records_bindValue hP ..

theorem records_checkOutputs (s : Session) (scope : ScopeId) (outputs : List DeclaredValue) :
    s.Records P (s.checkOutputs scope outputs) := by
  refine records_foldl (fun s output => ?_) _ s
  unfold checkOutput
  split
  · exact .refl s
  · exact records_record s _ _ (hP _ (by simp))

theorem records_openGraph (s : Session) (graph : Graph) : s.Records P (s.openGraph graph) := by
  have hbegin : s.Records P { s with phase := .inGraph, path := s.path ++ [graph.name] } := .of_eq rfl rfl rfl
  exact hbegin.trans ((records_bindInputs hP _ .root graph).trans (records_bindInitializers hP _ .root _))

theorem records_closeGraph (s : Session) (graph : Graph) : s.Records P (s.closeGraph graph) := by
  have hcollect : s.Records P (if s.cancelled then s else s.collectOutputs .root graph.outputs) := by
    split
    · exact .refl s
    · exact (records_checkOutputs hP s .root graph.outputs).trans (.of_eq rfl rfl rfl)
  exact hcollect.trans (.of_eq rfl rfl rfl)

theorem records_enterLoop (s : Session) (scope : ScopeId) (node : Node) (plan : LoopPlan) :
    s.Records P (s.enterLoop scope node plan) := by
  have hbegin : s.Records P (s.enterBody scope node plan.body).2.2 := .of_eq rfl rfl rfl
  exact hbegin.trans ((records_bindFormals hP _ (s.bodyScope scope) _).trans (records_bindInitializers hP _ _ _))

end Records

/-! ## Nodes -/

section Nodes
variable {P : ImportError → Prop}

theorem records_conclude (s : Session) (scope : ScopeId) (node : Node) (values : List ValueId) (view : AttributeView) :
    s.Records P (s.conclude scope node values view).2 := by
  rw [conclude]
  rcases bindOutputs_snd (s.warnUnread node view) scope node values with he | he
  · rw [he]
    exact .of_eq rfl rfl rfl
  · rw [he]
    exact .of_eq rfl rfl rfl

theorem records_ran (s : Session) (c : Converter) (context : Context) : s.Records P (s.ran c context) := by
  obtain ⟨token, he⟩ := s.ran_eq c context
  rw [he]
  exact .of_eq rfl rfl rfl

theorem records_settle (s : Session) (scope : ScopeId) (node : Node) {outcome : NodeOutcome}
    (h : outcome.FailsWith P) : s.Records P (s.settle scope node outcome) := by
  cases outcome with
  | converted => exact .of_eq rfl rfl rfl
  | reported => exact .of_eq rfl rfl rfl
  | failed e => exact (records_record s _ _ (h e rfl)).trans (.of_eq rfl rfl rfl)

variable (hP : ∀ e, e ≠ .cancelled → P e)
include hP

theorem conclude_failsWith (s : Session) (scope : ScopeId) (node : Node) (values : List ValueId)
    (view : AttributeView) : (s.conclude scope node values view).1.FailsWith P := by
  rw [conclude]
  rcases bindOutputs_cases (s.warnUnread node view) scope node values with
    ⟨-, he⟩ | ⟨-, t, ⟨-, he⟩ | ⟨e', hi, he⟩⟩
  · rw [he]
    rintro e ⟨⟩
    exact hP _ ImportError.arity_ne_cancelled
  · rw [he]
    rintro e ⟨⟩
  · rw [he]
    rintro e ⟨⟩
    refine hP e' ?_
    rintro rfl
    exact ScopeTree.insertAll_ne_cancelled _ _ _ (congrArg Prod.fst hi)

/-- An ordinary node records nothing by itself, and fails as its converter does or in a way of its own. -/
theorem records_convertNode {s : Session} (hreg : s.registry.FailsWith P) (scope : ScopeId) (opset : Int)
    (node : Node) :
    s.Records P (s.convertNode scope opset node).2 ∧ (s.convertNode scope opset node).1.FailsWith P := by
  -- a failure after the dispatch is the converter's, or comes from binding the outputs
  rcases convertNode_cases s scope opset node with
    ⟨e, hd, he⟩ | ⟨operands, c, -, hc, -, ⟨e, hrun, he⟩ | ⟨values, view, -, he⟩⟩
  · rw [he]
    refine ⟨.refl s, ?_⟩
    rintro _ ⟨⟩
    exact hP e (dispatch_notCancelled e hd)
  · rw [he]
    refine ⟨records_ran s c _, ?_⟩
    rintro _ ⟨⟩
    exact hreg hc _ _ e hrun
  · rw [he]
    exact ⟨(records_ran s c _).trans (records_conclude ..), conclude_failsWith hP _ scope node values view⟩

theorem records_afterNode {s : Session} (hreg : s.registry.FailsWith P) (scope : ScopeId) (opset : Int) (node : Node) :
    s.Records P (s.afterNode scope opset node) := by
  have hask : s.Records P s.ask := .of_eq rfl rfl rfl
  obtain ⟨hnode, hfails⟩ := records_convertNode hP (s := s.ask) hreg scope opset node
  exact hask.trans (hnode.trans (records_settle _ scope node hfails))

/-- The end of a loop, in the session in which the nodes of its body were converted. -/
theorem records_endLoop (s inner : Session) (scope : ScopeId) (node : Node) (plan : LoopPlan) :
    inner.Records P (s.endLoop scope node plan inner).2 ∧ (s.endLoop scope node plan inner).1.FailsWith P := by
  have hyield : inner.Records P (inner.yieldBody (s.bodyScope scope) s.diagnostics.length plan.body).2 := by
    unfold yieldBody
    split
    · exact .refl inner
    · exact records_checkOutputs hP ..
  have hleave : ∀ (t : Session) results, t.Records P (t.leaveBody (s.bodyScope scope) s.phase results) := by
    intro t results
    exact .of_eq rfl rfl rfl
  rw [endLoop_eq]
  dsimp only
  split
  · refine ⟨hyield.trans (hleave _ none), ?_⟩
    rintro e ⟨⟩
  · next yielded _ =>
    have happend : ∀ (t : Session) builder, t.Records P { t with builder } := fun _ _ => .of_eq rfl rfl rfl
    refine ⟨hyield.trans (.trans (hleave _ (some yielded)) ((happend _ _).trans (records_conclude ..))), ?_⟩
    exact conclude_failsWith hP _ scope node _ _

end Nodes

end Session

/-! ## Tasks -/

namespace Task
variable {P : ImportError → Prop}

/-- A failure that is handed in satisfies `P`. -/
def FailsWith (P : ImportError → Prop) : Task → Prop
  | serve _ (.report _ error) => P error
  | _ => True

theorem failsWith_of_isRequest {task : Task} (h : task.isRequest = false) : task.FailsWith P := by
  cases task with
  | serve token request => cases h
  | _ => trivial

variable (hP : ∀ e, e ≠ .cancelled → P e)
include hP

theorem records_reach {s : Session} (hreg : s.registry.FailsWith P) (scope : ScopeId) (opset : Int) (n : Node) :
    s.Records P (reach s scope opset n).1 := by
  have hask : s.Records P s.ask := .of_eq rfl rfl rfl
  unfold reach
  split
  · split
    · next e he =>
      have hfails : NodeOutcome.FailsWith P (.failed e) := by
        rintro _ ⟨⟩
        exact hP e (Session.planLoop_notCancelled e he)
      exact hask.trans (Session.records_settle _ scope n hfails)
    · exact hask.trans (Session.records_enterLoop hP ..)
  · exact Session.records_afterNode hP hreg scope opset n

/-- A task records failures that satisfy `P`, or it is the node before which the token is found set. -/
theorem records_perform {s : Session} (hreg : s.registry.FailsWith P) {task : Task} (htask : task.FailsWith P) :
    s.Records P (task.perform s).1 ∨ s.cancelled = false ∧ ∃ n, (task.perform s).1 = s.stop n := by
  have htoken : ∀ token, s.Records P { s with token } := fun _ => .of_eq rfl rfl rfl
  have hopen : ∀ (token : CancelToken) (graph : Graph) (opset : Int),
      s.Records P (openGraph { s with token } graph opset).1 := by
    intro token graph opset
    exact (htoken token).trans (Session.records_openGraph hP _ graph)
  have hreport : ∀ (token : CancelToken) (place : Place) (e : ImportError), P e →
      s.Records P ({ s with token }.report place e) := by
    intro token place e he
    exact (htoken token).trans ((Session.records_diagnostic _ he).trans (.of_eq rfl rfl rfl))
  cases task with
  | serve token request =>
    left
    cases request with
    | graph graph opset => exact hopen ..
    | report place error => exact hreport token place error htask
    | model model =>
      simp only [perform]
      split
      · exact hreport _ _ _ (hP _ (by simp))
      · exact hopen ..
  | node scope opset n =>
    simp only [perform]
    split
    · exact .inl (.refl s)
    · next hc =>
      split
      · exact .inr ⟨by simpa using hc, n, rfl⟩
      · exact .inl (records_reach hP hreg scope opset n)
  | leave outer scope n plan =>
    obtain ⟨hend, hfails⟩ := Session.records_endLoop hP outer s scope n plan
    exact .inl (hend.trans (Session.records_settle _ scope n hfails))
  | close graph => exact .inl (Session.records_closeGraph hP s graph)

end Task

namespace Work

/-- What holds at first, and is kept by recording failures that satisfy `P` and by stopping, holds at every moment. -/
theorem steps_keep {P : ImportError → Prop} (hP : ∀ e, e ≠ .cancelled → P e) {Q : Session → Prop}
    (hrecords : ∀ {s t : Session}, s.Records P t → Q s → Q t)
    (hstop : ∀ {s : Session} (n : Node), s.cancelled = false → Q s → Q (s.stop n)) {w : Work}
    (hreg : w.session.registry.FailsWith P) (htodo : ∀ task ∈ w.todo, task.FailsWith P) (hstart : Q w.session)
    (n : Nat) : Q (w.steps n).session := by
  -- the table of converters stays, and the tasks that a task leaves behind hand in no failures
  induction n generalizing w with
  | zero => exact hstart
  | succ n ih =>
    obtain ⟨s, todo⟩ := w
    cases todo with
    | nil => exact ih hreg htodo hstart
    | cons task rest =>
      obtain ⟨htask, hrest⟩ := List.forall_mem_cons.1 htodo
      have hnext : ∀ next ∈ (task.perform s).2 ++ rest, next.FailsWith P := by
        refine List.forall_mem_append.2 ⟨fun next h => ?_, hrest⟩
        exact Task.failsWith_of_isRequest (Task.isRequest_perform s task next h)
      rcases Task.records_perform hP hreg htask with hr | ⟨hc, node, hs⟩
      · exact ih (w := ⟨_, _⟩) (hr.registry ▸ hreg) hnext (hrecords hr hstart)
      · refine ih (w := ⟨_, _⟩) ?_ hnext ?_
        · rw [hs]
          exact hreg
        · rw [hs]
          exact hstop node hc hstart

end Work

end ModelImport
