import ModelImport.Proofs.SessionRun
/-!
# Sessions at rest

Between requests a session has nothing under way (`session_at_rest`): only the entry block is open, only the root scope
is alive, no graph is being taken in, and the phase says whether a failure has been recorded. Loop bodies open a block,
a scope and a place in the path, and close them again however they end; that is part of what a run over nodes keeps to
(`Run.evolves`), so that here only the graphs themselves need a look.
-/

namespace ModelImport

/-- Something that is asked of a session. -/
inductive Request where
  | graph (graph : Graph) (opset : Int)
  | model (model : Model)
  | report (place : Place) (error : ImportError)

namespace ScopeTree

theorem Grows.size {t t' : ScopeTree} {id : ScopeId} (h : t.Grows id t') : t'.slots.size = t.slots.size := by
  obtain ⟨-, names, hs, -⟩ := h
  rw [hs, addNames, Array.size_modify]

/-- With one slot there is one scope. -/
theorem isLive_iff_root {t : ScopeTree} (wf : t.WellFormed) (hsize : t.slots.size = 1) {id : ScopeId} :
    t.isLive id = true ↔ id = .root := by
  constructor
  · intro hlive
    obtain ⟨r, hr, hser⟩ := isLive_iff.1 hlive
    obtain ⟨r₀, hr₀, hser₀, -⟩ := wf.root
    have hindex : id.index = 0 := Nat.lt_one_iff.1 (hsize ▸ slot?_lt hr)
    rw [hindex, hr₀, Option.some.injEq] at hr
    have hserial : id.serial = 0 := by rw [← hser, ← hr, hser₀]
    calc id
      _ = ⟨id.index, id.serial⟩ := rfl
      _ = .root := by rw [hindex, hserial]; rfl
  · rintro rfl
    exact wf.usable_root.live

end ScopeTree

namespace Session

/-- The session after a request. Whoever holds the token may have changed it since the last one; `token` says when it
will be found set. -/
def serve (s : Session) (token : CancelToken) : Request → Session
  | .graph graph opset => { s with token }.convertGraph graph opset
  | .model model => { s with token }.convertModel model
  | .report place error => { s with token }.report place error

def serveAll (s : Session) (requests : List (CancelToken × Request)) : Session :=
  requests.foldl (fun s (token, request) => s.serve token request) s

/-- Nothing is under way, and the session has the given converters. -/
structure AtRest (s : Session) (registry : Registry) : Prop where
  registry : s.registry = registry
  rests : s.Rests
  arena : s.scopes.slots.size = 1
  path : s.path = []

/-! ## One request -/

theorem atRest_new (name : String) (registry : Registry) (options : Options) :
    (new name registry options).AtRest registry :=
  ⟨rfl, rests_new name registry options, rfl, rfl⟩

theorem AtRest.convertGraph {s : Session} {registry : Registry} (h : s.AtRest registry) (graph : Graph) (opset : Int) :
    (s.convertGraph graph opset).AtRest registry := by
  have hrests := (rests_convertGraph h.rests graph opset).1
  obtain ⟨t, outputs, ht, he⟩ := closeGraph_eq ((s.openGraph graph).convertNodes .root opset graph.nodes) graph
  have hrun := ((run_convertNodes ..).evolves_graph h.rests.scopes).trans ht
  rw [convertGraph_eq, he] at hrests ⊢
  refine ⟨hrun.registry.trans h.registry, hrests, ?_, ?_⟩
  · exact hrun.scopes.size.trans h.arena
  · calc t.path.dropLast
      _ = (s.path ++ [graph.name]).dropLast := congrArg List.dropLast hrun.path
      _ = [] := by rw [List.dropLast_concat, h.path]

theorem AtRest.report {s : Session} {registry : Registry} (h : s.AtRest registry) (place : Place) (e : ImportError) :
    (s.report place e).AtRest registry :=
  ⟨h.registry, ⟨h.rests.scopes, h.rests.stack, honest_of_ne (report_ne_nil s place e)⟩, h.arena, h.path⟩

theorem AtRest.convertModel {s : Session} {registry : Registry} (h : s.AtRest registry) (model : Model) :
    (s.convertModel model).AtRest registry := by
  unfold Session.convertModel
  split
  · exact h.report ..
  · exact h.convertGraph ..

theorem AtRest.withToken {s : Session} {registry : Registry} (h : s.AtRest registry) (token : CancelToken) :
    { s with token }.AtRest registry :=
  ⟨h.registry, ⟨h.rests.scopes, h.rests.stack, h.rests.honest⟩, h.arena, h.path⟩

theorem AtRest.serve {s : Session} {registry : Registry} (h : s.AtRest registry) (token : CancelToken)
    (request : Request) :
    (s.serve token request).AtRest registry ∧ s.diagnostics <+: (s.serve token request).diagnostics := by
  have hs := h.withToken token
  cases request with
  | graph graph opset => exact ⟨hs.convertGraph graph opset, (rests_convertGraph hs.rests graph opset).2⟩
  | model model => exact ⟨hs.convertModel model, (rests_convertModel hs.rests model).2⟩
  | report place e => exact ⟨hs.report place e, List.prefix_append _ _⟩

/-- The phase that says whether a failure has been recorded. -/
def verdict (s : Session) : Phase := if s.diagnostics.isEmpty then .success else .failed

theorem phase_convertGraph (s : Session) (graph : Graph) (opset : Int) :
    (s.convertGraph graph opset).phase = (s.convertGraph graph opset).verdict := by
  obtain ⟨t, outputs, -, he⟩ := closeGraph_eq ((s.openGraph graph).convertNodes .root opset graph.nodes) graph
  rw [convertGraph_eq, he]
  rfl

theorem phase_report (s : Session) (place : Place) (e : ImportError) :
    (s.report place e).phase = (s.report place e).verdict := by
  rw [verdict, if_neg]
  · rfl
  · rw [List.isEmpty_iff]
    exact report_ne_nil s place e

theorem phase_serve (s : Session) (token : CancelToken) (request : Request) :
    (s.serve token request).phase = (s.serve token request).verdict := by
  cases request with
  | graph graph opset => exact phase_convertGraph ..
  | model model =>
    change (convertModel _ model).phase = (convertModel _ model).verdict
    unfold convertModel
    split
    · exact phase_report ..
    · exact phase_convertGraph ..
  | report place e => exact phase_report ..

/-! ## Any number of requests -/

theorem AtRest.serveAll {s : Session} {registry : Registry} (h : s.AtRest registry)
    (requests : List (CancelToken × Request)) :
    (s.serveAll requests).AtRest registry ∧ s.diagnostics <+: (s.serveAll requests).diagnostics := by
  induction requests generalizing s with
  | nil => exact ⟨h, List.prefix_refl _⟩
  | cons request requests ih =>
    obtain ⟨hnext, hpre⟩ := h.serve request.1 request.2
    obtain ⟨hlast, hrest⟩ := ih hnext
    exact ⟨hlast, hpre.trans hrest⟩

theorem serveAll_append (s : Session) (earlier later : List (CancelToken × Request)) :
    s.serveAll (earlier ++ later) = (s.serveAll earlier).serveAll later := List.foldl_append

theorem phase_serveAll (s : Session) {requests : List (CancelToken × Request)} (h : requests ≠ []) :
    (s.serveAll requests).phase = (s.serveAll requests).verdict := by
  obtain ⟨last, request, rfl⟩ := List.eq_nil_or_concat' requests |>.resolve_left h
  rw [serveAll_append]
  exact phase_serve ..

end Session

/-- Whatever is asked of a new session, with whatever outcome, it comes to rest after each request: only the entry block
is open, unless a converter opens blocks or closes them, as none of the library does; the root is the only scope alive
and the arena has one slot, no graph is under way, the phase tells whether a failure has been recorded, and earlier
failures come first. -/
theorem session_at_rest (name : String) (registry : Registry) (options : Options)
    (earlier later : List (CancelToken × Request)) :
    let before := (Session.new name registry options).serveAll earlier
    let s := (Session.new name registry options).serveAll (earlier ++ later)
    (Registry.builtin.Balanced ∧
        (registry.Balanced → s.builder.stack = [.entry] ∧ s.builder.current = .entry)) ∧
      ((∀ id, s.scopes.isLive id = true ↔ id = .root) ∧ s.scopes.slots.size = 1) ∧
      s.path = [] ∧
      ((s.phase = .failed ↔ s.diagnostics ≠ []) ∧
        (s.phase = .success ↔ s.diagnostics = [] ∧ earlier ++ later ≠ []) ∧
        (s.phase = .idle ↔ earlier ++ later = [])) ∧
      before.diagnostics <+: s.diagnostics := by
  intro before s
  have hnew := Session.atRest_new name registry options
  obtain ⟨hrest, -⟩ := hnew.serveAll (earlier ++ later)
  refine ⟨⟨Registry.builtin_additive.balanced, fun hbalanced => ?_⟩,
    ⟨fun _ => ScopeTree.isLive_iff_root hrest.rests.scopes hrest.arena, hrest.arena⟩, hrest.path, ?_, ?_⟩
  · have hstack : s.builder.stack = [.entry] := hrest.rests.stack (by rw [hrest.registry]; exact hbalanced)
    rw [Builder.current, hstack]
    exact ⟨rfl, rfl⟩
  · by_cases hnone : earlier ++ later = []
    · have hs : s = Session.new name registry options := congrArg (Session.serveAll _) hnone
      rw [hs, hnone]
      simp [Session.new]
    · have hphase : s.phase = s.verdict := Session.phase_serveAll _ hnone
      rw [hphase, Session.verdict]
      by_cases hd : s.diagnostics = []
      · simp [hd, hnone]
      · simp [hd, hnone]
  · obtain ⟨-, hpre⟩ := (hnew.serveAll earlier).1.serveAll later
    rw [← Session.serveAll_append] at hpre
    exact hpre

/-- A loop with a body that cannot be converted. -/
def brokenLoop : Graph :=
  ⟨"main", [⟨"", "Loop", "", ["", ""], ["y"], [("body", .graph ⟨"body", [⟨"", "Relu", "", ["missing"], ["c"], []⟩],
    [⟨"i", none, none⟩, ⟨"go", none, none⟩], [⟨"c", none, none⟩, ⟨"c", none, none⟩], []⟩)]⟩], [], [], []⟩

/-- After the loop, and again after another one in whose body the import is cancelled. -/
theorem broken_loops_at_rest :
    let s := (Session.new "f" .builtin .standard).serveAll
      [(.never, .graph brokenLoop 13), (.after 1, .graph brokenLoop 13)]
    s.diagnostics.map (·.place.graph) = ["main/body", "main/body"] ∧ s.builder.stack = [.entry] := by
  intro s
  obtain ⟨⟨hbalanced, hstack⟩, -⟩ := session_at_rest "f" .builtin .standard [(.never, .graph brokenLoop 13)]
    [(.after 1, .graph brokenLoop 13)]
  exact ⟨by decide +kernel, (hstack hbalanced).1⟩

end ModelImport
