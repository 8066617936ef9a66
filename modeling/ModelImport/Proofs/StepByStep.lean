import ModelImport.Proofs.RestingState
/-!
# A session, step by step

The functions that serve requests say what a session comes to, not what it looks like on the way. Here the same work is
cut into steps, with a list of what is left to do in place of the recursion: serving a request opens its graph and puts
its nodes on the list, and entering a loop puts the nodes of its body before everything else. The steps lead to what the
functions compute (`leads_serveAll`), so what is said of every step is said of every moment of a session.
-/

namespace ModelImport

/-- A piece of work for a session. -/
inductive Task where
  | serve (token : CancelToken) (request : Request)
  | node (scope : ScopeId) (opset : Int) (node : Node)
  /-- The rest of a loop, after the nodes of its body; `outer` is the session in which it was entered. -/
  | leave (outer : Session) (scope : ScopeId) (node : Node) (plan : LoopPlan)
  | close (graph : Graph)

namespace Task

def nodes (scope : ScopeId) (opset : Int) (list : List Node) : List Task := list.map (node scope opset)

/-- Takes in a graph: it is opened, and its nodes and its end are still to come. -/
def openGraph (s : Session) (graph : Graph) (opset : Int) : Session × List Task :=
  (s.openGraph graph, nodes .root opset graph.nodes ++ [close graph])

/-- Reaches a node. A loop is entered, and its body is still to come. -/
def reach (s : Session) (scope : ScopeId) (opset : Int) (n : Node) : Session × List Task :=
  if n.isLoop then
    match s.ask.planLoop scope n with
    | .error e => (s.ask.settle scope n (.failed e), [])
    | .ok plan =>
      (s.ask.enterLoop scope n plan, nodes (s.ask.bodyScope scope) opset plan.body.nodes ++ [leave s.ask scope n plan])
  else (s.afterNode scope opset n, [])

/-- Does a task: the session after it, and what it leaves to be done. -/
def perform (s : Session) : Task → Session × List Task
  | serve token (.graph graph opset) => openGraph { s with token } graph opset
  | serve token (.model model) =>
    if model.opset < s.options.minOpset then
      ({ s with token }.report (.model model.graph.name) (.unsupportedOpset model.opset s.options.minOpset), [])
    else openGraph { s with token } model.graph model.opset
  | serve token (.report place error) => ({ s with token }.report place error, [])
  | node scope opset n =>
    if s.cancelled then (s, []) else if s.token.isSet then (s.stop n, []) else reach s scope opset n
  | leave outer scope n plan =>
    let r := outer.endLoop scope n plan s
    (r.2.settle scope n r.1, [])
  | close graph => (s.closeGraph graph, [])

def isRequest : Task → Bool
  | serve .. => true
  | _ => false

theorem isRequest_nodes (scope : ScopeId) (opset : Int) (list : List Node) {last : Task}
    (hlast : last.isRequest = false) : ∀ next ∈ nodes scope opset list ++ [last], next.isRequest = false := by
  simp only [nodes, List.forall_mem_append, List.forall_mem_map, List.forall_mem_singleton]
  exact ⟨fun _ _ => rfl, hlast⟩

theorem isRequest_reach (s : Session) (scope : ScopeId) (opset : Int) (n : Node) :
    ∀ next ∈ (reach s scope opset n).2, next.isRequest = false := by
  unfold reach
  split
  · split
    · exact List.forall_mem_nil _
    · exact isRequest_nodes _ _ _ rfl
  · exact List.forall_mem_nil _

/-- All requests are there from the start. -/
theorem isRequest_perform (s : Session) (task : Task) : ∀ next ∈ (task.perform s).2, next.isRequest = false := by
  cases task with
  | serve token request =>
    cases request with
    | graph graph opset => exact isRequest_nodes _ _ _ rfl
    | report place error => exact List.forall_mem_nil _
    | model model =>
      simp only [perform]
      split
      · exact List.forall_mem_nil _
      · exact isRequest_nodes _ _ _ rfl
  | node scope opset n =>
    simp only [perform]
    split
    · exact List.forall_mem_nil _
    · split
      · exact List.forall_mem_nil _
      · exact isRequest_reach s scope opset n
  | leave outer scope n plan => exact List.forall_mem_nil _
  | close graph => exact List.forall_mem_nil _

end Task

/-- A session with what it has to do. -/
structure Work where
  session : Session
  todo : List Task

namespace Work

/-- A session before requests. -/
def start (s : Session) (requests : List (CancelToken × Request)) : Work :=
  ⟨s, requests.map fun (token, request) => .serve token request⟩

/-- Does the next task. What it leaves to be done comes before the rest. -/
def step (w : Work) : Work :=
  match w.todo with
  | [] => w
  | task :: rest =>
    let r := task.perform w.session
    ⟨r.1, r.2 ++ rest⟩

/-- So many steps. -/
def steps (w : Work) : Nat → Work
  | 0 => w
  | n + 1 => w.step.steps n

theorem steps_add (w : Work) (m n : Nat) : w.steps (m + n) = (w.steps m).steps n := by
  induction m generalizing w with
  | zero => rw [Nat.zero_add]; rfl
  | succ m ih =>
    rw [Nat.succ_add]
    exact ih w.step

theorem steps_of_done (s : Session) (n : Nat) : steps ⟨s, []⟩ n = ⟨s, []⟩ := by
  induction n with
  | zero => rfl
  | succ n ih => exact ih

/-! ## Where the steps lead -/

/-- Some number of steps leads from one to the other. -/
def Leads (w w' : Work) : Prop := ∃ n, w.steps n = w'

namespace Leads

theorem refl (w : Work) : w.Leads w := ⟨0, rfl⟩

theorem trans {w w' w'' : Work} (h : w.Leads w') (h' : w'.Leads w'') : w.Leads w'' := by
  obtain ⟨m, rfl⟩ := h
  obtain ⟨n, rfl⟩ := h'
  exact ⟨m + n, steps_add w m n⟩

/-- One step, and on from there. -/
theorem step {w w' : Work} (h : w.step.Leads w') : w.Leads w' := by
  obtain ⟨n, rfl⟩ := h
  exact ⟨n + 1, rfl⟩

end Leads

section Nodes
variable {opset : Int} {scope : ScopeId} {s : Session}

/-- Once the token was found set, nodes are passed over. -/
theorem leads_of_cancelled (hc : s.cancelled = true) (list : List Node) (rest : List Task) :
    Leads ⟨s, Task.nodes scope opset list ++ rest⟩ ⟨s, rest⟩ := by
  induction list with
  | nil => exact .refl _
  | cons n list ih =>
    refine .step ?_
    have hskip : step ⟨s, Task.nodes scope opset (n :: list) ++ rest⟩ = ⟨s, Task.nodes scope opset list ++ rest⟩ := by
      simp [Work.step, Task.nodes, Task.perform, hc]
    rw [hskip]
    exact ih

theorem step_of_active (ha : s.Active) (n : Node) (rest : List Task) :
    step ⟨s, .node scope opset n :: rest⟩ =
      ⟨(Task.reach s scope opset n).1, (Task.reach s scope opset n).2 ++ rest⟩ := by
  simp [Work.step, Task.perform, ha.1, ha.2]

/-- The nodes of a graph or body, whatever comes after them. -/
theorem leads_of_run {list : List Node} {s' : Session} (h : Session.Run opset scope list s s') (rest : List Task) :
    Leads ⟨s, Task.nodes scope opset list ++ rest⟩ ⟨s', rest⟩ := by
  induction h generalizing rest with
  | done => exact .refl _
  | halted hc => exact leads_of_cancelled hc _ rest
  | @stopped scope n list s hc ht =>
    refine .step ?_
    have hstop : step ⟨s, Task.nodes scope opset (n :: list) ++ rest⟩ =
        ⟨s.stop n, Task.nodes scope opset list ++ rest⟩ := by
      simp [Work.step, Task.nodes, Task.perform, hc, ht]
    rw [hstop]
    exact leads_of_cancelled rfl list rest
  | @node scope n list s s' ha hl _ ih =>
    refine .step ?_
    have hstep : step ⟨s, Task.nodes scope opset (n :: list) ++ rest⟩ = _ := step_of_active ha n _
    rw [hstep, Task.reach, hl]
    exact ih rest
  | @refused scope n list s s' e ha hl hp _ ih =>
    refine .step ?_
    have hstep : step ⟨s, Task.nodes scope opset (n :: list) ++ rest⟩ = _ := step_of_active ha n _
    simp only [hstep, Task.reach, hl, hp, if_true]
    exact ih rest
  | @loop scope n list s s' plan inner ha hl hp _ _ ihb ih =>
    refine .step ?_
    have hstep : step ⟨s, Task.nodes scope opset (n :: list) ++ rest⟩ = _ := step_of_active ha n _
    simp only [hstep, Task.reach, hl, hp, if_true, List.append_assoc]
    -- the body, the end of the loop, and the nodes after it
    refine (ihb _).trans (.step ?_)
    exact ih rest

end Nodes

theorem leads_convertGraph (s : Session) (graph : Graph) (opset : Int) (rest : List Task) :
    Leads ⟨(Task.openGraph s graph opset).1, (Task.openGraph s graph opset).2 ++ rest⟩
      ⟨s.convertGraph graph opset, rest⟩ := by
  simp only [Task.openGraph, List.append_assoc]
  refine (leads_of_run (Session.run_convertNodes ..) _).trans (.step ?_)
  exact .refl _

theorem leads_serve (s : Session) (token : CancelToken) (request : Request) (rest : List Task) :
    Leads ⟨s, .serve token request :: rest⟩ ⟨s.serve token request, rest⟩ := by
  refine .step ?_
  cases request with
  | graph graph opset => exact leads_convertGraph ..
  | report place error => exact .refl _
  | model model =>
    simp only [Work.step, Task.perform, Session.serve, Session.convertModel]
    split
    · exact .refl _
    · exact leads_convertGraph ..

/-- The steps lead to what the session comes to. -/
theorem leads_serveAll (s : Session) (requests : List (CancelToken × Request)) :
    (start s requests).Leads ⟨s.serveAll requests, []⟩ := by
  induction requests generalizing s with
  | nil => exact .refl _
  | cons request requests ih => exact (leads_serve s request.1 request.2 _).trans (ih _)

/-- They end there. -/
theorem steps_eventually (s : Session) (requests : List (CancelToken × Request)) :
    ∃ last, ∀ n, last ≤ n → (start s requests).steps n = ⟨s.serveAll requests, []⟩ := by
  obtain ⟨last, hlast⟩ := leads_serveAll s requests
  refine ⟨last, fun n hn => ?_⟩
  obtain ⟨k, rfl⟩ := Nat.exists_eq_add_of_le hn
  rw [steps_add, hlast, steps_of_done]

end Work

end ModelImport
