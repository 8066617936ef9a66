import ModelImport.Proofs.NodeBindings
import ModelImport.Proofs.RecordedErrors
/-!
# Cancellation is final

The token is asked before each node. When it is found set the session records the cancellation, and from then on it is
as good as frozen (`Session.Frozen`): whatever it is asked, it adds no instruction and opens no block, it binds no
output of a node, it counts no node and collects no output. All that a further graph does is to declare its inputs and
initializers. The cancellation is recorded once, and the import fails (`cancellation_final`).
-/

namespace ModelImport

/-! ## Names -/

namespace ScopeTree

/-- A name that is bound after another has been bound was bound before, or it is that other one. -/
theorem binding?_of_insert {t t' : ScopeTree} {id other : ScopeId} {name x : String} {v w : ValueId}
    (h : t.insert id name v = .ok t') (hb : t'.binding? other x = some w) :
    t.binding? other x = some w ∨ other = id ∧ x = name ∧ w = v := by
  obtain ⟨r, hr, -, rfl⟩ := insert_eq_ok h
  by_cases ho : other = id
  · subst ho
    rw [binding?_addNames_self hr] at hb
    by_cases hx : name = x
    · right
      simp_all
    · left
      simpa [hx] using hb
  · left
    rw [binding?, record?_addNames_other hr ho] at hb
    exact hb

/-- Destroying a scope binds nothing. -/
theorem binding?_of_destroy {t : ScopeTree} {dead id : ScopeId} {name : String} {v : ValueId}
    (h : (t.destroy dead).binding? id name = some v) : t.binding? id name = some v := by
  by_cases hgone : dead.index ≠ 0 ∧ t.isLive dead = true
  · rw [binding?, record?, slot?_destroy hgone.2 hgone.1] at h
    split at h
    · cases h
    · exact h
  · have hsame : t.destroy dead = t := if_pos (by simpa [Classical.or_iff_not_imp_left] using hgone)
    rw [hsame] at h
    exact h

end ScopeTree

/-! ## Frozen sessions -/

def GraphOf.declaredNames (graph : Graph) : List String :=
  graph.inputs.map DeclaredValue.name ++ graph.initializers.map StoredTensor.name

/-- A value that stands for a declared input or initializer. -/
def Function.Declares (f : Function) (name : String) (v : ValueId) : Prop :=
  ∃ value, f.value? v = some value ∧ value.name = name ∧
    (value.definition = .placeholder ∨ value.definition = .constant)

namespace Session

/-- Nothing has become of nodes since. There may be new values, but only for the declared names, and those are bound in
the root scope. -/
structure Frozen (declared : String → Prop) (s t : Session) : Prop where
  cancelled : t.cancelled = s.cancelled
  /-- No instruction has been added and no block opened. -/
  blocks : t.builder.function.blocks = s.builder.function.blocks
  values : ∀ v value, s.builder.function.value? v = some value → t.builder.function.value? v = some value
  bindings : ∀ scope name v, t.scopes.binding? scope name = some v → s.scopes.binding? scope name = some v ∨
    scope = .root ∧ declared name ∧ s.builder.function.value? v = none ∧ t.builder.function.Declares name v
  convertedNodes : t.convertedNodes = s.convertedNodes
  outputs : t.outputs = s.outputs

section Frozen
variable {declared more : String → Prop} {s t u : Session}

/-- A step that leaves the function and the names alone. -/
theorem Frozen.of_eq (hc : t.cancelled = s.cancelled) (hf : t.builder.function = s.builder.function)
    (hs : t.scopes = s.scopes) (hn : t.convertedNodes = s.convertedNodes) (ho : t.outputs = s.outputs) :
    s.Frozen declared t :=
  ⟨hc, by rw [hf], by rw [hf]; exact fun _ _ h => h, by rw [hs]; exact fun _ _ _ h => .inl h, hn, ho⟩

theorem Frozen.refl (s : Session) : s.Frozen declared s := .of_eq rfl rfl rfl rfl rfl

theorem Frozen.mono (h : s.Frozen declared t) (hsub : ∀ name, declared name → more name) : s.Frozen more t where
  __ := h
  bindings := by
    intro scope name v hb
    rcases h.bindings scope name v hb with hold | ⟨hroot, hdeclared, hnew⟩
    · exact .inl hold
    · exact .inr ⟨hroot, hsub name hdeclared, hnew⟩

theorem Frozen.trans (h : s.Frozen declared t) (h' : t.Frozen declared u) : s.Frozen declared u where
  cancelled := h'.cancelled.trans h.cancelled
  blocks := h'.blocks.trans h.blocks
  values := fun v value hv => h'.values v value (h.values v value hv)
  convertedNodes := h'.convertedNodes.trans h.convertedNodes
  outputs := h'.outputs.trans h.outputs
  bindings := by
    intro scope name v hb
    rcases h'.bindings scope name v hb with hold | ⟨hroot, hdeclared, hnew, hdef⟩
    · -- bound at the moment between: the value made then is still there
      rcases h.bindings scope name v hold with hold | ⟨hroot, hdeclared, hnew, value, hvalue, hkind⟩
      · exact .inl hold
      · exact .inr ⟨hroot, hdeclared, hnew, value, h'.values v value hvalue, hkind⟩
    · -- bound since: the value was not there at the moment between, and so not before
      refine .inr ⟨hroot, hdeclared, ?_, hdef⟩
      cases hv : s.builder.function.value? v with
      | none => rfl
      | some value => rw [h.values v value hv] at hnew; cases hnew

theorem frozen_record (s : Session) (node opType : String) (e : ImportError) :
    s.Frozen declared (s.record node opType e) := .of_eq rfl rfl rfl rfl rfl

theorem frozen_foldl {α : Type} {f : Session → α → Session} (name : α → String)
    (h : ∀ (s : Session) a, s.Frozen (· = name a) (f s a)) (l : List α) (s : Session) :
    s.Frozen (· ∈ l.map name) (l.foldl f s) := by
  induction l generalizing s with
  | nil => exact .refl s
  | cons a l ih =>
    refine ((h s a).mono ?_).trans ((ih (f s a)).mono ?_)
    · rintro _ rfl
      simp
    · intro x hx
      exact List.mem_cons_of_mem _ hx

/-- Making a value for a declared name and binding it in the root scope. -/
theorem frozen_bindValue (s : Session) (value : Value) {builder : Builder} (kind : String)
    (hblocks : builder.function.blocks = s.builder.function.blocks)
    (hvalues : builder.function.values = s.builder.function.values.push value)
    (hdef : value.definition = .placeholder ∨ value.definition = .constant) :
    s.Frozen (· = value.name) ({ s with builder }.bindName .root value.name kind s.builder.nextValue) := by
  have hpush : ∀ v, builder.function.value? v = (s.builder.pushValue value).function.value? v := by
    intro v
    rw [Function.value?, hvalues]
    rfl
  have hold : ∀ v r, s.builder.function.value? v = some r → builder.function.value? v = some r := by
    intro v r hv
    rw [hpush]
    exact (Builder.extends_pushValue s.builder value).values v r hv
  have hnew : builder.function.value? s.builder.nextValue = some value := by
    rw [hpush, Builder.value?_pushValue, if_pos rfl]
  unfold bindName
  split
  · -- the only new binding is that of the value that was just made
    next scopes hi =>
    refine ⟨rfl, hblocks, hold, ?_, rfl, rfl⟩
    intro scope name v hb
    rcases ScopeTree.binding?_of_insert hi hb with hb | ⟨rfl, rfl, rfl⟩
    · exact .inl hb
    · exact .inr ⟨rfl, rfl, Builder.value?_nextValue _, value, hnew, rfl, hdef⟩
  · exact ⟨rfl, hblocks, hold, fun _ _ _ hb => .inl hb, rfl, rfl⟩

theorem frozen_bindInputs (s : Session) (graph : Graph) :
    s.Frozen (· ∈ graph.inputs.map DeclaredValue.name) (s.bindInputs .root graph) := by
  -- an input with an initializer of the same name is passed over, which declares less
  have hfree := frozen_foldl (f := fun s input => s.bindInput .root input) DeclaredValue.name (fun s input => ?_)
    (graph.inputs.filter fun input => !graph.initializers.any (·.name == input.name)) s
  · refine hfree.mono fun name hname => ?_
    exact (List.filter_sublist.map _).subset hname
  · unfold bindInput
    split
    · exact frozen_record ..
    · next type _ =>
      exact frozen_bindValue s ⟨input.name, s.options.pin input.name type, .placeholder⟩ _ rfl rfl (.inl rfl)

theorem frozen_bindInitializers (s : Session) (tensors : List StoredTensor) :
    s.Frozen (· ∈ tensors.map StoredTensor.name) (s.bindInitializers .root tensors) := by
  refine frozen_foldl StoredTensor.name (fun s tensor => ?_) tensors s
  unfold bindInitializer
  split
  · exact frozen_record ..
  · next data _ =>
    exact frozen_bindValue s ⟨tensor.name, .ofSizes data.element data.shape.dims, .constant⟩ _ rfl rfl (.inr rfl)

theorem frozen_openGraph (s : Session) (graph : Graph) : s.Frozen (· ∈ graph.declaredNames) (s.openGraph graph) := by
  have hbegin : s.Frozen (· ∈ graph.declaredNames) { s with phase := .inGraph, path := s.path ++ [graph.name] } :=
    .of_eq rfl rfl rfl rfl rfl
  refine hbegin.trans (((frozen_bindInputs _ graph).mono ?_).trans ((frozen_bindInitializers _ _).mono ?_))
  · intro name hname
    exact List.mem_append_left _ hname
  · intro name hname
    exact List.mem_append_right _ hname

theorem frozen_closeGraph {s : Session} (hc : s.cancelled = true) (graph : Graph) :
    s.Frozen declared (s.closeGraph graph) := by
  have hsame : (if s.cancelled then s else s.collectOutputs .root graph.outputs) = s := if_pos hc
  unfold closeGraph
  rw [hsame]
  exact .of_eq rfl rfl rfl rfl rfl

/-- A loop is given up when its body was cut short: its block is closed and its scope destroyed. -/
theorem frozen_endLoop {inner : Session} (hc : inner.cancelled = true) (s : Session) (scope : ScopeId) (node : Node)
    (plan : LoopPlan) :
    (s.endLoop scope node plan inner).1 = .reported ∧ inner.Frozen declared (s.endLoop scope node plan inner).2 := by
  have hyield : inner.yieldBody (s.bodyScope scope) s.diagnostics.length plan.body = (none, inner) := if_pos hc
  have hfunction : (inner.leaveBody (s.bodyScope scope) s.phase none).builder.function = inner.builder.function :=
    Builder.function_closeBlock _
  rw [endLoop_eq, hyield]
  refine ⟨rfl, rfl, congrArg Function.blocks hfunction, ?_, ?_, rfl, rfl⟩
  · intro v value hv
    exact (congrArg (·.value? v) hfunction).trans hv
  · intro id name v hb
    exact .inl (ScopeTree.binding?_of_destroy hb)

end Frozen

end Session

/-! ## Steps after the cancellation -/

namespace Task

/-- The names that a request declares. -/
def declares : Task → List String
  | serve _ (.graph graph _) => graph.declaredNames
  | serve _ (.model model) => model.graph.declaredNames
  | _ => []

theorem declares_of_isRequest {task : Task} (h : task.isRequest = false) : task.declares = [] := by
  cases task with
  | serve token request => cases h
  | _ => rfl

theorem frozen_perform {s : Session} (hc : s.cancelled = true) (task : Task) :
    s.Frozen (· ∈ task.declares) (task.perform s).1 := by
  have htoken : ∀ token declared, s.Frozen declared { s with token } := fun _ _ => .of_eq rfl rfl rfl rfl rfl
  cases task with
  | serve token request =>
    cases request with
    | graph graph opset => exact (htoken token _).trans (Session.frozen_openGraph _ graph)
    | report place error => exact .of_eq rfl rfl rfl rfl rfl
    | model model =>
      simp only [perform]
      split
      · exact .of_eq rfl rfl rfl rfl rfl
      · exact (htoken token _).trans (Session.frozen_openGraph _ model.graph)
  | node scope opset n =>
    simp only [perform, hc, if_true]
    exact .refl s
  | leave outer scope n plan =>
    obtain ⟨houtcome, hend⟩ := Session.frozen_endLoop hc outer scope n plan
    simp only [perform, houtcome]
    exact hend.trans (.of_eq rfl rfl rfl rfl rfl)
  | close graph => exact Session.frozen_closeGraph hc graph

end Task

namespace Work

/-- A name that is declared by a request still to come. -/
def Awaits (w : Work) (name : String) : Prop := ∃ task ∈ w.todo, name ∈ task.declares

theorem Awaits.of_step {w : Work} {name : String} (h : w.step.Awaits name) : w.Awaits name := by
  obtain ⟨s, todo⟩ := w
  cases todo with
  | nil => exact h
  | cons task rest =>
    obtain ⟨next, hmem, hname⟩ := h
    rcases List.mem_append.1 hmem with hnew | hrest
    · rw [Task.declares_of_isRequest (Task.isRequest_perform s task next hnew)] at hname
      cases hname
    · exact ⟨next, List.mem_cons_of_mem _ hrest, hname⟩

theorem frozen_step {w : Work} (hc : w.session.cancelled = true) : w.session.Frozen w.Awaits w.step.session := by
  obtain ⟨s, todo⟩ := w
  cases todo with
  | nil => exact .refl s
  | cons task rest =>
    refine (Task.frozen_perform hc task).mono ?_
    intro name hname
    exact ⟨task, List.mem_cons_self, hname⟩

/-- Only a request binds names. -/
theorem binding?_of_step {w : Work} (hc : w.session.cancelled = true) {task : Task} {rest : List Task}
    (htodo : w.todo = task :: rest) (hr : task.isRequest = false) {scope : ScopeId} {name : String} {v : ValueId}
    (hb : w.step.session.scopes.binding? scope name = some v) : w.session.scopes.binding? scope name = some v := by
  obtain ⟨s, todo⟩ := w
  subst htodo
  have hfrozen := Task.frozen_perform hc task
  rw [Task.declares_of_isRequest hr] at hfrozen
  rcases hfrozen.bindings scope name v hb with hold | ⟨-, hdeclared, -⟩
  · exact hold
  · cases hdeclared

/-- Once the token was found set, the session is frozen for good. -/
theorem frozen_steps {w : Work} (hc : w.session.cancelled = true) (n : Nat) :
    w.session.Frozen w.Awaits (w.steps n).session := by
  induction n generalizing w with
  | zero => exact .refl w.session
  | succ n ih =>
    -- what is awaited after a step was awaited before it, so one set of names does for the whole run
    have hstep := frozen_step hc
    exact hstep.trans ((ih (hstep.cancelled.trans hc)).mono fun _ => .of_step)

end Work

/-! ## How often it is recorded -/

namespace Session

/-- How often the cancellation has been recorded. -/
def cancellations (s : Session) : Nat := s.diagnostics.countP (·.error = .cancelled)

theorem Records.cancellations {s t : Session} (h : s.Records (· ≠ .cancelled) t) :
    t.cancellations = s.cancellations := by
  obtain ⟨ds, hds, hall⟩ := h.diagnostics
  have hnone : ds.countP (·.error = .cancelled) = 0 := by
    simpa [List.countP_eq_zero] using hall
  rw [Session.cancellations, hds, List.countP_append, hnone]
  rfl

theorem cancellations_stop (s : Session) (node : Node) : (s.stop node).cancellations = s.cancellations + 1 := by
  simp [cancellations, stop, record, List.countP_append]

/-- It has been recorded once, or not yet. -/
def RecordedOnce (s : Session) : Prop := s.cancellations = if s.cancelled then 1 else 0

theorem RecordedOnce.records {s t : Session} (h : s.Records (· ≠ .cancelled) t) (hs : s.RecordedOnce) :
    t.RecordedOnce := by
  unfold RecordedOnce at *
  rw [h.cancellations, h.cancelled, hs]

theorem RecordedOnce.stop {s : Session} (node : Node) (hc : s.cancelled = false) (hs : s.RecordedOnce) :
    (s.stop node).RecordedOnce := by
  unfold RecordedOnce at *
  rw [cancellations_stop, hs, hc]
  rfl

/-- A session that was stopped has recorded it. -/
def Admits (s : Session) : Prop := s.cancelled = true → ∃ d ∈ s.diagnostics, d.error = .cancelled

theorem Admits.records {P : ImportError → Prop} {s t : Session} (h : s.Records P t) (hs : s.Admits) : t.Admits := by
  intro hc
  obtain ⟨d, hd, he⟩ := hs (h.cancelled.symm.trans hc)
  obtain ⟨ds, hds, -⟩ := h.diagnostics
  exact ⟨d, hds ▸ List.mem_append_left ds hd, he⟩

theorem admits_stop (s : Session) (node : Node) : (s.stop node).Admits :=
  fun _ => ⟨_, List.mem_append_right _ List.mem_cons_self, rfl⟩

theorem Admits.finish {s : Session} (hs : s.Admits) (hc : s.cancelled = true) :
    ∃ failures, s.finish = .error failures ∧ ∃ d ∈ failures, d.error = .cancelled := by
  obtain ⟨d, hd, he⟩ := hs hc
  refine ⟨s.diagnostics, if_neg ?_, d, hd, he⟩
  rw [List.isEmpty_iff]
  exact List.ne_nil_of_mem hd

end Session

/-- Apart from the library's own, no converter of the table answers that the import was cancelled. -/
def Registry.Unprompted (r : Registry) : Prop :=
  ∀ ⦃opType c⦄, r.find? opType = some c →
    (∃ known, builtin.find? known = some c) ∨ ∀ context b, NotCancelled (c.run context b).1

theorem Registry.Unprompted.failsWith {r : Registry} (h : r.Unprompted) : r.FailsWith (· ≠ .cancelled) := by
  intro opType c hc context b
  rcases h hc with ⟨known, hknown⟩ | hother
  · exact NotCancelled.of_local (builtin_failsLocally hknown context b)
  · exact hother context b

namespace Work

theorem admits_steps (name : String) (registry : Registry) (options : Options)
    (requests : List (CancelToken × Request)) (n : Nat) :
    ((start (.new name registry options) requests).steps n).session.Admits := by
  -- any failures may be recorded on the way, as nothing is said of how many
  refine steps_keep (P := fun _ => True) (fun _ _ => trivial) (fun h => .records h) ?_ ?_ ?_ ?_ n
  · exact fun node _ _ => Session.admits_stop _ node
  · exact fun _ _ _ _ _ _ _ => trivial
  · rintro task -
    unfold Task.FailsWith
    split <;> trivial
  · rintro ⟨⟩

theorem recordedOnce_steps (name : String) {registry : Registry} (hr : registry.Unprompted) (options : Options)
    {requests : List (CancelToken × Request)}
    (hreports : ∀ token place, (token, Request.report place .cancelled) ∉ requests) (n : Nat) :
    ((start (.new name registry options) requests).steps n).session.RecordedOnce := by
  refine steps_keep (P := (· ≠ .cancelled)) (fun _ h => h) (fun h => .records h) (fun node => .stop node) ?_ ?_ ?_ n
  · exact hr.failsWith
  · simp only [start, List.forall_mem_map]
    rintro ⟨token, request⟩ hmem
    cases request with
    | report place e =>
      rintro rfl
      exact hreports token place hmem
    | _ => trivial
  · rfl

end Work

/-- Let requests be served step by step, up to the session that they lead to, and let the token be set at any moment.
The cancellation is recorded at most once, unless somebody else says that the import was cancelled. From the moment it
is recorded, whatever is still to come, no instruction is added, no block is opened, no node is counted, no output is
collected, and the import fails. The inputs and initializers of further graphs are bound when they are taken in, and
nothing is bound by what comes of their nodes. -/
theorem cancellation_final (name : String) (registry : Registry) (options : Options)
    (requests : List (CancelToken × Request)) :
    let start := Work.start (.new name registry options) requests
    (∃ last, ∀ n, last ≤ n → start.steps n = ⟨(Session.new name registry options).serveAll requests, []⟩) ∧
    (registry.Unprompted → (∀ token place, (token, Request.report place .cancelled) ∉ requests) →
      ∀ n, (start.steps n).session.cancellations = if (start.steps n).session.cancelled then 1 else 0) ∧
    ∀ n, (start.steps n).session.cancelled = true → ∀ m, n ≤ m →
      (start.steps n).session.Frozen (start.steps n).Awaits (start.steps m).session ∧
      (∀ task rest, (start.steps m).todo = task :: rest → task.isRequest = false → ∀ scope output v,
        (start.steps (m + 1)).session.scopes.binding? scope output = some v →
          (start.steps m).session.scopes.binding? scope output = some v) ∧
      ∃ failures, (start.steps m).session.finish = .error failures ∧ ∃ d ∈ failures, d.error = .cancelled := by
  intro start
  refine ⟨Work.steps_eventually _ requests, ?_, ?_⟩
  · intro hr hreports n
    exact Work.recordedOnce_steps name hr options hreports n
  · intro n hc m hm
    obtain ⟨k, rfl⟩ := Nat.exists_eq_add_of_le hm
    have hfrozen := Work.frozen_steps hc k
    rw [← Work.steps_add] at hfrozen
    have hstill := hfrozen.cancelled.trans hc
    refine ⟨hfrozen, ?_, (Work.admits_steps name registry options requests _).finish hstill⟩
    intro task rest htodo hr scope output v hb
    rw [Work.steps_add start (n + k) 1] at hb
    exact Work.binding?_of_step hstill htodo hr hb

/-- Two graphs, the first with a loop in the body of which the token is found set. -/
def stoppedRequests : List (CancelToken × Request) :=
  [(.after 1, .graph ⟨"g", [countingLoop, relu "y" "z"], [⟨"x", some 1, none⟩], [⟨"z", none, none⟩], []⟩ 13),
    (.never, .graph ⟨"h", [relu "u" "t"], [⟨"u", some 1, none⟩], [⟨"t", none, none⟩], []⟩ 13)]

def stoppedWork : Work := .start (.new "f" .builtin .standard) stoppedRequests

theorem stopped_in_body_for_good :
    (stoppedWork.steps 2).session.cancelled = false ∧ (stoppedWork.steps 3).session.cancelled = true ∧
      (stoppedWork.steps 9).session.cancellations = 1 ∧
      (stoppedWork.steps 9).session.builder.function.blocks = (stoppedWork.steps 3).session.builder.function.blocks ∧
      (stoppedWork.steps 7).session.scopes.binding? .root "u" = some ⟨5⟩ ∧
      (stoppedWork.steps 8).session.scopes.binding? .root "t" = none ∧
      ∃ failures, (stoppedWork.steps 9).session.finish = .error failures ∧ ∃ d ∈ failures, d.error = .cancelled := by
  have hbefore : (stoppedWork.steps 2).session.cancelled = false := by decide +kernel
  have hc : (stoppedWork.steps 3).session.cancelled = true := by decide +kernel
  have hinput : (stoppedWork.steps 7).session.scopes.binding? .root "u" = some ⟨5⟩ := by decide +kernel
  have hunbound : (stoppedWork.steps 7).session.scopes.binding? .root "t" = none := by decide +kernel
  have hreports : ∀ token place, (token, Request.report place .cancelled) ∉ stoppedRequests := by
    simp [stoppedRequests]
  -- the second graph has been taken in, and its node comes next
  obtain ⟨task, rest, htodo, hr⟩ : ∃ task rest, (stoppedWork.steps 7).todo = task :: rest ∧ task.isRequest = false := by
    have hkinds : (stoppedWork.steps 7).todo.map Task.isRequest = [false, false] := by decide +kernel
    obtain ⟨task, rest, htodo, hr, -⟩ := List.map_eq_cons_iff.1 hkinds
    exact ⟨task, rest, htodo, hr⟩
  obtain ⟨-, hcount, hfinal⟩ := cancellation_final "f" .builtin .standard stoppedRequests
  obtain ⟨-, hnode, -⟩ := hfinal 3 hc 7 (by decide)
  obtain ⟨hfrozen, -, hfinish⟩ := hfinal 3 hc 9 (by decide)
  have honce := hcount (fun _ _ hknown => .inl ⟨_, hknown⟩) hreports 9
  rw [hfrozen.cancelled.trans hc] at honce
  refine ⟨hbefore, hc, honce, hfrozen.blocks, hinput, ?_, hfinish⟩
  cases hb : (stoppedWork.steps 8).session.scopes.binding? .root "t" with
  | none => rfl
  | some v =>
    have hearlier : (stoppedWork.steps 7).session.scopes.binding? .root "t" = some v :=
      hnode task rest htodo hr .root "t" v hb
    rw [hunbound] at hearlier
    cases hearlier

end ModelImport
