import Mathlib.Data.Finmap
import Mathlib.Data.Finset.Sort
import Mathlib.Data.String.Basic
import ModelImport.Proofs.ScopeArena
/-!
# Scopes as a lexical tree

The abstract reading of scopes: a scope is known by the number of its creation, which is never used again, and it has a
parent, a finite map of names and a mark of life. Destroying a scope marks it and the scopes inside it dead and forgets
nothing. There are no slots.

`scopes_refine_lexical_tree`: whatever is asked of an arena of scopes, in whatever order and through whatever handles it
has given out, its answers are those of the abstract tree.
-/

namespace ModelImport

/-! ## Requests -/

/-- Something asked of a tree of scopes. A scope is given by the number of its handle, the root's being 0. -/
inductive ScopeRequest where
  | createChild (parent : Nat)
  | insert (scope : Nat) (name : String) (value : ValueId)
  | find (scope : Nat) (name : String)
  | contains (scope : Nat) (name : String)
  | destroy (scope : Nat)
  | localNames (scope : Nat)
  | depth (scope : Nat)
  | isLive (scope : Nat)

/-- The handle that a request is made with. -/
def ScopeRequest.scope : ScopeRequest → Nat
  | createChild n | insert n .. | find n _ | contains n _ | destroy n | localNames n | depth n | isLive n => n

inductive ScopeAnswer where
  | handle (number : Nat)
  | inserted (result : Except ImportError Unit)
  | found (result : Except ImportError ValueId)
  | truth (value : Bool)
  | destroyed
  | names (names : List String)
  | depth (depth : Nat)

/-- The answers to requests made one after another, and the state after them. -/
def answerAll {σ : Type} (answer : σ → ScopeRequest → ScopeAnswer × σ) (s : σ) :
    List ScopeRequest → List ScopeAnswer × σ
  | [] => ([], s)
  | q :: qs => ((answer s q).1 :: (answerAll answer (answer s q).2 qs).1, (answerAll answer (answer s q).2 qs).2)

theorem answerAll_append {σ : Type} (answer : σ → ScopeRequest → ScopeAnswer × σ) (s : σ) (qs rs : List ScopeRequest) :
    (answerAll answer s (qs ++ rs)).2 = (answerAll answer (answerAll answer s qs).2 rs).2 := by
  induction qs generalizing s with
  | nil => rfl
  | cons q qs ih => exact ih _

/-! ## The abstract tree -/

structure LexicalScope where
  parent : Option Nat
  bindings : Finmap fun _ : String => ValueId
  live : Bool

/-- The scopes in the order of their creation, dead ones included. -/
structure LexicalTree where
  scopes : List LexicalScope

namespace LexicalTree

def new : LexicalTree := ⟨[⟨none, ∅, true⟩]⟩

def live (m : LexicalTree) (n : Nat) : Bool := (m.scopes[n]?.map LexicalScope.live).getD false

/-- The value bound to a name in a scope itself. -/
def bound? (m : LexicalTree) (n : Nat) (name : String) : Option ValueId :=
  m.scopes[n]?.bind (·.bindings.lookup name)

/-- A scope and the scopes around it, innermost first. A parent is older than its children. -/
def chain (m : LexicalTree) (n : Nat) : List Nat :=
  match m.scopes[n]?.bind LexicalScope.parent with
  | none => [n]
  | some p => if p < n then n :: m.chain p else [n]
termination_by n

/-- The innermost binding of a name along the chain of a live scope. -/
def find (m : LexicalTree) (n : Nat) (name : String) : Except ImportError ValueId :=
  match if m.live n then (m.chain n).findSome? (m.bound? · name) else none with
  | some v => .ok v
  | none => .error (.nameNotFound name)

def bind (m : LexicalTree) (n : Nat) (name : String) (v : ValueId) : LexicalTree :=
  ⟨m.scopes.modify n fun s => { s with bindings := s.bindings.insert name v }⟩

def insert (m : LexicalTree) (n : Nat) (name : String) (v : ValueId) : Except ImportError LexicalTree :=
  if !m.live n then .error (.nameNotFound name)
  else if (m.bound? n name).isSome then .error (.duplicateBinding name)
  else .ok (m.bind n name v)

def createChild (m : LexicalTree) (parent : Nat) : LexicalTree := ⟨m.scopes ++ [⟨some parent, ∅, true⟩]⟩

/-- Kills a scope and the scopes inside it, unless it is the root. -/
def destroy (m : LexicalTree) (n : Nat) : LexicalTree :=
  if n = 0 then m
  else ⟨m.scopes.mapIdx fun k s => if n ∈ m.chain k then { s with live := false } else s⟩

/-- The names bound in a live scope itself, in increasing order. -/
def localNames (m : LexicalTree) (n : Nat) : List String :=
  match m.scopes[n]? with
  | some s => if s.live then s.bindings.keys.sort (· ≤ ·) else []
  | none => []

def depth (m : LexicalTree) (n : Nat) : Nat := if m.live n then (m.chain n).length - 1 else 0

/-- Answers a request. -/
def answer (m : LexicalTree) : ScopeRequest → ScopeAnswer × LexicalTree
  | .createChild n => (.handle m.scopes.length, m.createChild n)
  | .insert n name v =>
    match m.insert n name v with
    | .ok m' => (.inserted (.ok ()), m')
    | .error e => (.inserted (.error e), m)
  | .find n name => (.found (m.find n name), m)
  | .contains n name => (.truth (m.find n name).toBool, m)
  | .destroy n => (.destroyed, m.destroy n)
  | .localNames n => (.names (m.localNames n), m)
  | .depth n => (.depth (m.depth n), m)
  | .isLive n => (.truth (m.live n), m)

def run (m : LexicalTree) (qs : List ScopeRequest) : List ScopeAnswer × LexicalTree := answerAll answer m qs

/-- A request may use any handle that has been given out; a scope is created in a live one. -/
def allows (m : LexicalTree) : ScopeRequest → Bool
  | .createChild n => m.live n
  | q => q.scope < m.scopes.length

def allowsAll (m : LexicalTree) : List ScopeRequest → Bool
  | [] => true
  | q :: qs => m.allows q && (m.answer q).2.allowsAll qs

end LexicalTree

/-! ## The arena, through the handles it gives out -/

/-- An arena of scopes with the handles given out so far, oldest first. -/
structure ScopeClient where
  tree : ScopeTree
  handles : List ScopeId

namespace ScopeClient

def new : ScopeClient := ⟨.new, [.root]⟩

def handle (c : ScopeClient) (n : Nat) : ScopeId := c.handles.getD n .root

/-- Passes a request on to the arena. -/
def answer (c : ScopeClient) : ScopeRequest → ScopeAnswer × ScopeClient
  | .createChild n =>
    let (id, tree) := c.tree.createChild (c.handle n)
    (.handle c.handles.length, ⟨tree, c.handles ++ [id]⟩)
  | .insert n name v =>
    match c.tree.insert (c.handle n) name v with
    | .ok tree => (.inserted (.ok ()), { c with tree })
    | .error e => (.inserted (.error e), c)
  | .find n name => (.found (c.tree.find (c.handle n) name), c)
  | .contains n name => (.truth (c.tree.contains (c.handle n) name), c)
  | .destroy n => (.destroyed, { c with tree := c.tree.destroy (c.handle n) })
  | .localNames n => (.names (c.tree.localNames (c.handle n)), c)
  | .depth n => (.depth (c.tree.depth (c.handle n)), c)
  | .isLive n => (.truth (c.tree.isLive (c.handle n)), c)

def run (c : ScopeClient) (qs : List ScopeRequest) : List ScopeAnswer × ScopeClient := answerAll answer c qs

end ScopeClient

/-! ## The simulation -/

/-- What a live scope has in the arena is what it has in the abstract tree. -/
structure ScopeClient.Holds (c : ScopeClient) (m : LexicalTree) (r : ScopeRecord) (s : LexicalScope) : Prop where
  parent : r.parent = none ∧ s.parent = none ∨
    ∃ p, s.parent = some p ∧ m.live p = true ∧ r.parent = some (c.handle p).index
  names : ∀ name, r.find? name = s.bindings.lookup name
  /-- No name is bound twice. -/
  once : (r.bindings.map (·.1)).Nodup

structure ScopeClient.Simulates (c : ScopeClient) (m : LexicalTree) : Prop where
  wf : c.tree.WellFormed
  handles : c.handles.length = m.scopes.length
  serials : c.tree.nextSerial = m.scopes.length
  /-- The serial in a handle is its number, and only the root is in slot 0. -/
  handle : ∀ {n}, n < m.scopes.length → (c.handle n).serial = n ∧ ((c.handle n).index = 0 ↔ n = 0)
  older : ∀ {n p} {s : LexicalScope}, m.scopes[n]? = some s → s.parent = some p → p < n
  alive : ∀ {n} {s : LexicalScope}, m.scopes[n]? = some s → s.live = true →
    ∃ r, c.tree.record? (c.handle n) = some r ∧ c.Holds m r s
  dead : ∀ {n} {s : LexicalScope}, m.scopes[n]? = some s → s.live = false →
    ∀ {i r}, c.tree.slot? i = some r → r.serial ≠ n

namespace LexicalTree

theorem live_iff {m : LexicalTree} {n : Nat} : m.live n = true ↔ ∃ s, m.scopes[n]? = some s ∧ s.live = true := by
  unfold live
  cases m.scopes[n]? <;> simp

theorem chain_eq_of_root {m : LexicalTree} {n : Nat} {s : LexicalScope} (hs : m.scopes[n]? = some s)
    (hp : s.parent = none) : m.chain n = [n] := by
  rw [chain]
  simp [hs, hp]

theorem chain_eq_of_parent {m : LexicalTree} {n p : Nat} {s : LexicalScope} (hs : m.scopes[n]? = some s)
    (hp : s.parent = some p) (hlt : p < n) : m.chain n = n :: m.chain p := by
  rw [chain]
  simp [hs, hp, hlt]

theorem scopes_createChild {m : LexicalTree} {n k : Nat} {s : LexicalScope} :
    (m.createChild n).scopes[k]? = some s ↔
      m.scopes[k]? = some s ∨ k = m.scopes.length ∧ s = ⟨some n, ∅, true⟩ := by
  rw [createChild, List.getElem?_append]
  split
  · next hk => simp [Nat.ne_of_lt hk]
  · next hk =>
    rw [List.getElem?_eq_none (Nat.le_of_not_lt hk), List.getElem?_singleton]
    split
    · next h0 => simp [show k = m.scopes.length by omega, eq_comm]
    · next h0 => simp [show k ≠ m.scopes.length by omega]

theorem scopes_bind {m : LexicalTree} {n k : Nat} {name : String} {v : ValueId} :
    (m.bind n name v).scopes[k]? =
      m.scopes[k]?.map fun s => if n = k then { s with bindings := s.bindings.insert name v } else s := by
  rw [bind, List.getElem?_modify]
  rfl

theorem live_bind {m : LexicalTree} {n k : Nat} {name : String} {v : ValueId} :
    (m.bind n name v).live k = m.live k := by
  rw [live, live, scopes_bind]
  cases m.scopes[k]? with
  | none => rfl
  | some s => simp only [Option.map_some]; split <;> rfl

theorem scopes_destroy {m : LexicalTree} {n k : Nat} (hn : n ≠ 0) :
    (m.destroy n).scopes[k]? = m.scopes[k]?.map fun s => if n ∈ m.chain k then { s with live := false } else s := by
  rw [destroy, if_neg hn, List.getElem?_mapIdx]

theorem live_destroy {m : LexicalTree} {n k : Nat} (hn : n ≠ 0) :
    (m.destroy n).live k = true ↔ m.live k = true ∧ n ∉ m.chain k := by
  rw [live, live, scopes_destroy hn]
  cases m.scopes[k]? with
  | none => simp
  | some s => by_cases hk : n ∈ m.chain k <;> simp [hk]

end LexicalTree

namespace ScopeClient

/-- A scope keeps what it has while its parent lives and the parent's handle stands. -/
theorem Holds.of_parent {c c' : ScopeClient} {m m' : LexicalTree} {r : ScopeRecord} {s : LexicalScope}
    (hold : c.Holds m r s)
    (hp : ∀ p, s.parent = some p → m.live p = true → m'.live p = true ∧ c'.handle p = c.handle p) :
    c'.Holds m' r s := by
  refine ⟨hold.parent.imp_right ?_, hold.names, hold.once⟩
  rintro ⟨p, hsp, hlive, hrp⟩
  obtain ⟨hlive', hhandle⟩ := hp p hsp hlive
  exact ⟨p, hsp, hlive', hhandle ▸ hrp⟩

/-- Through a dead handle no name is found and none is bound. -/
theorem nameNotFound_of_dead {t : ScopeTree} {id : ScopeId} (hdead : t.isLive id = false) (name : String)
    (v : ValueId) :
    t.find id name = .error (.nameNotFound name) ∧ t.insert id name v = .error (.nameNotFound name) := by
  constructor
  · simp [ScopeTree.find, ScopeTree.find?_eq, hdead]
  · rw [ScopeTree.isLive, Option.isSome_eq_false_iff, Option.isNone_iff_eq_none] at hdead
    simp [ScopeTree.insert, hdead]

section Simulates
variable {c : ScopeClient} {m : LexicalTree} (h : c.Simulates m)
include h

theorem Simulates.isLive {n : Nat} (hn : n < m.scopes.length) : c.tree.isLive (c.handle n) = m.live n := by
  obtain ⟨s, hs⟩ : ∃ s, m.scopes[n]? = some s := ⟨_, List.getElem?_eq_getElem hn⟩
  cases hl : s.live with
  | true =>
    obtain ⟨r, hr, -⟩ := h.alive hs hl
    rw [LexicalTree.live_iff.2 ⟨s, hs, hl⟩, ScopeTree.isLive, hr]
    rfl
  | false =>
    rw [show m.live n = false by simp [LexicalTree.live, hs, hl], Bool.eq_false_iff]
    intro hlive
    obtain ⟨r, hr, hser⟩ := ScopeTree.isLive_iff.1 hlive
    exact h.dead hs hl hr (hser.trans (h.handle hn).1)

/-- Live scopes with one slot are one scope. -/
theorem Simulates.index_injective {n k : Nat} (hn : m.live n = true) (hk : m.live k = true)
    (he : (c.handle n).index = (c.handle k).index) : n = k := by
  obtain ⟨s, hs, hsl⟩ := LexicalTree.live_iff.1 hn
  obtain ⟨u, hu, hul⟩ := LexicalTree.live_iff.1 hk
  obtain ⟨r, hr, -⟩ := h.alive hs hsl
  obtain ⟨q, hq, -⟩ := h.alive hu hul
  obtain ⟨hr, hrs⟩ := ScopeTree.record?_eq_some.1 hr
  obtain ⟨hq, hqs⟩ := ScopeTree.record?_eq_some.1 hq
  rw [he, hq] at hr
  cases hr
  rw [← (h.handle (List.getElem?_eq_some_iff.1 hs).1).1, ← (h.handle (List.getElem?_eq_some_iff.1 hu).1).1,
    ← hrs, ← hqs]

/-- The way outward in the arena and the chain in the abstract tree go through the same scopes. -/
theorem Simulates.lineage {n : Nat} (hn : m.live n = true) :
    List.Forall₂ (fun x k => m.live k = true ∧ x.1 = (c.handle k).index ∧ ∀ name, x.2.find? name = m.bound? k name)
      (c.tree.lineage (c.handle n).index) (m.chain n) := by
  -- on the number of the scope: a parent has a smaller one, whatever slots the two are in
  induction n using Nat.strongRecOn with
  | _ n ih =>
    obtain ⟨s, hs, hsl⟩ := LexicalTree.live_iff.1 hn
    obtain ⟨r, hr, hold⟩ := h.alive hs hsl
    obtain ⟨hr, -⟩ := ScopeTree.record?_eq_some.1 hr
    have hnames : ∀ name, r.find? name = m.bound? n name := fun name => by
      simp [LexicalTree.bound?, hs, hold.names]
    rw [ScopeTree.lineage_eq h.wf hr]
    rcases hold.parent with ⟨hrp, hsp⟩ | ⟨p, hsp, hp, hrp⟩
    · rw [hrp, LexicalTree.chain_eq_of_root hs hsp]
      exact .cons ⟨hn, rfl, hnames⟩ .nil
    · have hlt := h.older hs hsp
      rw [hrp, LexicalTree.chain_eq_of_parent hs hsp hlt]
      exact .cons ⟨hn, rfl, hnames⟩ (ih p hlt hp)

/-! ## Questions -/

omit h in
theorem findSome?_of_forall₂ {α β γ : Type} {R : α → β → Prop} {f : α → Option γ} {g : β → Option γ} {l : List α}
    {l' : List β} (hl : List.Forall₂ R l l') (hR : ∀ x y, R x y → f x = g y) : l.findSome? f = l'.findSome? g := by
  induction hl with
  | nil => rfl
  | cons hxy _ ih => rw [List.findSome?_cons, List.findSome?_cons, hR _ _ hxy, ih]

theorem Simulates.find {n : Nat} (hn : n < m.scopes.length) (name : String) :
    c.tree.find (c.handle n) name = m.find n name := by
  unfold ScopeTree.find LexicalTree.find
  rw [ScopeTree.find?_eq, h.isLive hn]
  by_cases hl : m.live n = true
  · have hfirst := findSome?_of_forall₂ (h.lineage hl) fun _ _ hx => hx.2.2 name
    rw [if_pos hl, if_pos hl]
    exact hfirst ▸ rfl
  · simp only [if_neg hl]

omit h in
theorem contains_eq (t : ScopeTree) (id : ScopeId) (name : String) : t.contains id name = (t.find id name).toBool := by
  unfold ScopeTree.contains ScopeTree.find
  cases t.find? id name <;> rfl

theorem Simulates.depth {n : Nat} (hn : n < m.scopes.length) : c.tree.depth (c.handle n) = m.depth n := by
  unfold ScopeTree.depth ScopeTree.ancestry LexicalTree.depth
  rw [h.isLive hn]
  split
  · next hl => rw [List.length_map, (h.lineage hl).length_eq]
  · rfl

omit h in
theorem mem_names_iff {r : ScopeRecord} {name : String} : name ∈ r.bindings.map (·.1) ↔ (r.find? name).isSome := by
  simp only [ScopeRecord.find?, Option.isSome_map, List.find?_isSome, List.mem_map, beq_iff_eq]

omit h in
/-- The names of a scope in order are the keys of its map in order. -/
theorem sortNames_eq {r : ScopeRecord} {s : LexicalScope} (hold : c.Holds m r s) :
    Text.sortNames (r.bindings.map (·.1)) = s.bindings.keys.sort (· ≤ ·) := by
  refine List.Perm.eq_of_pairwise' (Text.sortNames_sorted _) (Finset.pairwise_sort ..) ?_
  refine (Text.sortNames_perm _).trans ?_
  rw [List.perm_ext_iff_of_nodup hold.once (Finset.sort_nodup ..)]
  intro name
  rw [mem_names_iff, hold.names, Finset.mem_sort, Finmap.mem_keys, Finmap.lookup_isSome]

theorem Simulates.localNames {n : Nat} (hn : n < m.scopes.length) :
    c.tree.localNames (c.handle n) = m.localNames n := by
  obtain ⟨s, hs⟩ : ∃ s, m.scopes[n]? = some s := ⟨_, List.getElem?_eq_getElem hn⟩
  simp only [ScopeTree.localNames, LexicalTree.localNames, hs]
  cases hl : s.live with
  | true =>
    obtain ⟨r, hr, hold⟩ := h.alive hs hl
    simp only [hr, if_true]
    exact sortNames_eq hold
  | false =>
    have hdead : c.tree.isLive (c.handle n) = false := by
      rw [h.isLive hn]
      simp [LexicalTree.live, hs, hl]
    rw [ScopeTree.isLive, Option.isSome_eq_false_iff, Option.isNone_iff_eq_none] at hdead
    simp [hdead]

/-! ## Changes -/

omit h in
theorem handle_append_lt (c : ScopeClient) (t : ScopeTree) (id : ScopeId) {n : Nat} (hn : n < c.handles.length) :
    (⟨t, c.handles ++ [id]⟩ : ScopeClient).handle n = c.handle n := by
  simp [handle, List.getElem?_append_left hn]

omit h in
theorem handle_append_self (c : ScopeClient) (t : ScopeTree) (id : ScopeId) :
    (⟨t, c.handles ++ [id]⟩ : ScopeClient).handle c.handles.length = id := by
  simp [handle]

theorem Simulates.createChild {n : Nat} (hl : m.live n = true) :
    (c.answer (.createChild n)).2.Simulates (m.createChild n) := by
  obtain ⟨s, hs, -⟩ := LexicalTree.live_iff.1 hl
  have hn : n < m.scopes.length := (List.getElem?_eq_some_iff.1 hs).1
  have hlive : c.tree.isLive (c.handle n) = true := (h.isLive hn).trans hl
  obtain ⟨i, hid, hfree, hnext, -, hslot⟩ := ScopeTree.createChild_spec c.tree (c.handle n)
  simp only [hlive, if_true] at hslot
  have hi : i ≠ 0 := by
    rintro rfl
    obtain ⟨r, hr, -⟩ := h.wf.root
    rw [hfree] at hr; cases hr
  have hhandle : ∀ {k}, k < m.scopes.length → (c.answer (.createChild n)).2.handle k = c.handle k := fun hk =>
    handle_append_lt c _ _ (h.handles ▸ hk)
  have hself : (c.answer (.createChild n)).2.handle m.scopes.length = ⟨i, c.tree.nextSerial⟩ := by
    rw [← h.handles, ← hid]
    exact handle_append_self c _ _
  have hlivem : ∀ {k}, m.live k = true → (m.createChild n).live k = true := by
    intro k hk
    obtain ⟨s, hs, hsl⟩ := LexicalTree.live_iff.1 hk
    exact LexicalTree.live_iff.2 ⟨s, LexicalTree.scopes_createChild.2 (.inl hs), hsl⟩
  refine ⟨ScopeTree.wellFormed_createChild h.wf hlive, ?_, ?_, ?_, ?_, ?_, ?_⟩
  · simp [answer, LexicalTree.createChild, h.handles]
  · simp [answer, LexicalTree.createChild, hnext, h.serials]
  · intro k hk
    rw [LexicalTree.createChild, List.length_append, List.length_singleton] at hk
    rcases Nat.lt_or_eq_of_le (Nat.lt_succ_iff.1 hk) with hk | rfl
    · rw [hhandle hk]; exact h.handle hk
    · -- the next serial is the number of scopes so far, so serials and numbers go on together
      rw [hself]
      exact ⟨h.serials, by simp only; omega⟩
  · intro k p s hs hp
    rcases LexicalTree.scopes_createChild.1 hs with hs | ⟨rfl, rfl⟩
    · exact h.older hs hp
    · cases hp; exact hn
  · intro k s hs hsl
    rcases LexicalTree.scopes_createChild.1 hs with hs | ⟨rfl, rfl⟩
    · have hk := (List.getElem?_eq_some_iff.1 hs).1
      obtain ⟨r, hr, hh⟩ := h.alive hs hsl
      obtain ⟨hr, hser⟩ := ScopeTree.record?_eq_some.1 hr
      refine ⟨r, ?_, hh.of_parent fun p hp hl => ⟨hlivem hl, hhandle (Nat.lt_trans (h.older hs hp) hk)⟩⟩
      rw [hhandle hk]
      exact ScopeTree.record?_eq_some.2 ⟨ScopeTree.slot?_createChild_old hr, hser⟩
    · refine ⟨⟨c.tree.nextSerial, some (c.handle n).index, []⟩, ?_, .inr ⟨n, rfl, hlivem hl, ?_⟩, ?_, ?_⟩
      · rw [hself]
        exact ScopeTree.record?_eq_some.2 ⟨(hslot i).trans (if_pos rfl), rfl⟩
      · rw [hhandle hn]
      · intro name; simp [ScopeRecord.find?]
      · exact List.nodup_nil
  · intro k s hs hsl j r hr
    rcases LexicalTree.scopes_createChild.1 hs with hs | ⟨rfl, rfl⟩
    · rw [show (c.answer (.createChild n)).2.tree = (c.tree.createChild (c.handle n)).2 from rfl, hslot] at hr
      split at hr
      · -- the slot may be one that the dead scope had, but the serial in it is new
        cases hr
        have hk := (List.getElem?_eq_some_iff.1 hs).1
        simp only [h.serials]
        omega
      · exact h.dead hs hsl hr
    · cases hsl

theorem Simulates.bind {n : Nat} {name : String} (hl : m.live n = true) (hfree : m.bound? n name = none) (v : ValueId) :
    ({ c with tree := c.tree.addNames (c.handle n).index [(name, v)] } : ScopeClient).Simulates (m.bind n name v) := by
  have hlength : (m.bind n name v).scopes.length = m.scopes.length := List.length_modify ..
  refine ⟨ScopeTree.wellFormed_addNames h.wf _ _, hlength ▸ h.handles, hlength ▸ h.serials, hlength ▸ h.handle, ?_, ?_,
    ?_⟩
  · intro k p s' hs' hp
    rw [LexicalTree.scopes_bind] at hs'
    obtain ⟨s, hs, rfl⟩ := Option.map_eq_some_iff.1 hs'
    exact h.older hs (by split at hp <;> exact hp)
  · intro k s' hs' hsl
    rw [LexicalTree.scopes_bind] at hs'
    obtain ⟨s, hs, rfl⟩ := Option.map_eq_some_iff.1 hs'
    have hk : s.live = true := by split at hsl <;> exact hsl
    obtain ⟨r, hr, hold⟩ := h.alive hs hk
    obtain ⟨hr, hser⟩ := ScopeTree.record?_eq_some.1 hr
    replace hold :
        ScopeClient.Holds ⟨c.tree.addNames (c.handle n).index [(name, v)], c.handles⟩ (m.bind n name v) r s :=
      hold.of_parent fun p _ hp => ⟨LexicalTree.live_bind.trans hp, rfl⟩
    by_cases hnk : n = k
    · subst hnk
      simp only [if_true]
      have hnone : r.find? name = none := by
        rw [hold.names]; simpa [LexicalTree.bound?, hs] using hfree
      refine ⟨r.add [(name, v)], ScopeTree.record?_eq_some.2 ⟨?_, hser⟩, hold.parent, fun x => ?_, ?_⟩
      · exact (ScopeTree.slot?_addNames ..).trans ((if_pos rfl).trans (congrArg _ hr))
      · rw [ScopeRecord.find?_add, hold.names]
        by_cases hx : name = x
        · subst hx; simp
        · simp [hx, Finmap.lookup_insert_of_ne _ (Ne.symm hx)]
      · refine List.nodup_cons.2 ⟨fun hmem => ?_, hold.once⟩
        rw [List.append_eq, List.nil_append, mem_names_iff, hnone] at hmem
        cases hmem
    · -- another live scope is in another slot
      simp only [if_neg hnk]
      refine ⟨r, ScopeTree.record?_eq_some.2 ⟨?_, hser⟩, hold⟩
      refine (ScopeTree.slot?_addNames ..).trans ((if_neg fun he => hnk ?_).trans hr)
      exact h.index_injective hl (LexicalTree.live_iff.2 ⟨s, hs, hk⟩) he.symm
  · intro k s' hs' hsl i r hr
    rw [LexicalTree.scopes_bind] at hs'
    obtain ⟨s, hs, rfl⟩ := Option.map_eq_some_iff.1 hs'
    have hk : s.live = false := by split at hsl <;> exact hsl
    rw [ScopeTree.slot?_addNames] at hr
    split at hr
    · obtain ⟨q, hq, rfl⟩ := Option.map_eq_some_iff.1 hr
      rw [ScopeRecord.add_serial]
      exact h.dead hs hk hq
    · exact h.dead hs hk hr

theorem Simulates.insert {n : Nat} (hn : n < m.scopes.length) (name : String) (v : ValueId) :
    (c.answer (.insert n name v)).1 = (m.answer (.insert n name v)).1 ∧
      (c.answer (.insert n name v)).2.Simulates (m.answer (.insert n name v)).2 := by
  obtain ⟨s, hs⟩ : ∃ s, m.scopes[n]? = some s := ⟨_, List.getElem?_eq_getElem hn⟩
  cases hl : s.live with
  | true =>
    have hlive : m.live n = true := LexicalTree.live_iff.2 ⟨s, hs, hl⟩
    obtain ⟨r, hr, hold⟩ := h.alive hs hl
    have hbound : m.bound? n name = r.find? name := by rw [hold.names]; simp [LexicalTree.bound?, hs]
    rcases ScopeTree.insert_of_record hr name v with ⟨he, hsome⟩ | ⟨hnone, hok⟩
    · have hm : m.insert n name v = .error (.duplicateBinding name) := by
        simp [LexicalTree.insert, hlive, hbound, hsome]
      simp only [answer, LexicalTree.answer, he, hm]
      exact ⟨trivial, h⟩
    · have hm : m.insert n name v = .ok (m.bind n name v) := by
        simp [LexicalTree.insert, hlive, hbound, hnone]
      simp only [answer, LexicalTree.answer, hok, hm]
      exact ⟨trivial, h.bind hlive (hbound.trans hnone) v⟩
  | false =>
    have hdead : m.live n = false := by simp [LexicalTree.live, hs, hl]
    have he := (nameNotFound_of_dead ((h.isLive hn).trans hdead) name v).2
    have hm : m.insert n name v = .error (.nameNotFound name) := by simp [LexicalTree.insert, hdead]
    simp only [answer, LexicalTree.answer, he, hm]
    exact ⟨trivial, h⟩

theorem Simulates.descends {n k : Nat} (hn : m.live n = true) (hk : m.live k = true) :
    c.tree.descends (c.handle k).index (c.handle n).index = true ↔ n ∈ m.chain k := by
  have hpath := h.lineage hk
  rw [ScopeTree.descends]
  generalize c.tree.lineage (c.handle k).index = lineage, m.chain k = chain at hpath
  induction hpath with
  | nil => simp
  | cons hxy _ ih =>
    rw [List.any_cons, Bool.or_eq_true, List.mem_cons, beq_iff_eq, hxy.2.1]
    refine or_congr ⟨fun he => h.index_injective hn hxy.1 he.symm, ?_⟩ ih
    rintro rfl
    rfl

/-- Nothing inside a dead scope is alive. -/
theorem Simulates.live_of_mem_chain {n k : Nat} (hk : m.live k = true) (hmem : n ∈ m.chain k) : m.live n = true := by
  have hpath := h.lineage hk
  generalize c.tree.lineage (c.handle k).index = lineage, m.chain k = chain at hpath hmem
  induction hpath with
  | nil => cases hmem
  | cons hxy _ ih =>
    rcases List.mem_cons.1 hmem with rfl | hmem
    · exact hxy.1
    · exact ih hmem

theorem Simulates.destroy_eq_self {n : Nat} (hn : m.live n = false) : m.destroy n = m := by
  unfold LexicalTree.destroy
  split
  · rfl
  · congr 1
    refine List.ext_getElem? fun k => ?_
    rw [List.getElem?_mapIdx]
    cases hs : m.scopes[k]? with
    | none => rfl
    | some s =>
      rw [Option.map_some]
      split
      · next hmem =>
        have hk : s.live = false := by
          rw [Bool.eq_false_iff]
          intro hsl
          rw [h.live_of_mem_chain (LexicalTree.live_iff.2 ⟨s, hs, hsl⟩) hmem] at hn
          cases hn
        rw [← hk]
      · rfl

theorem Simulates.destroy {n : Nat} (hn : n < m.scopes.length) :
    (c.answer (.destroy n)).2.Simulates (m.destroy n) := by
  simp only [answer]
  by_cases h0 : n = 0
  · rw [show m.destroy n = m from if_pos h0, ScopeTree.destroy, ((h.handle hn).2.2 h0)]
    exact h
  by_cases hl : m.live n = true
  swap
  · rw [Bool.not_eq_true] at hl
    rw [h.destroy_eq_self hl, ScopeTree.destroy_of_not_live ((h.isLive hn).trans hl)]
    exact h
  have hlive := (h.isLive hn).trans hl
  have hindex : (c.handle n).index ≠ 0 := fun he => h0 ((h.handle hn).2.1 he)
  have hslot := ScopeTree.slot?_destroy hlive hindex
  have hlength : (m.destroy n).scopes.length = m.scopes.length := by
    rw [LexicalTree.destroy, if_neg h0, List.length_mapIdx]
  refine ⟨ScopeTree.wellFormed_destroy h.wf _, hlength ▸ h.handles, ?_, hlength ▸ h.handle, ?_, ?_, ?_⟩
  · rw [ScopeTree.destroy_nextSerial, hlength]; exact h.serials
  · intro k p s' hs' hp
    rw [LexicalTree.scopes_destroy h0] at hs'
    obtain ⟨s, hs, rfl⟩ := Option.map_eq_some_iff.1 hs'
    exact h.older hs (by split at hp <;> exact hp)
  · intro k s' hs' hsl
    obtain ⟨hk, hmem⟩ := (LexicalTree.live_destroy h0).1 (LexicalTree.live_iff.2 ⟨s', hs', hsl⟩)
    rw [LexicalTree.scopes_destroy h0] at hs'
    obtain ⟨s, hs, rfl⟩ := Option.map_eq_some_iff.1 hs'
    rw [if_neg hmem] at hsl ⊢
    obtain ⟨r, hr, hold⟩ := h.alive hs hsl
    obtain ⟨hr, hser⟩ := ScopeTree.record?_eq_some.1 hr
    refine ⟨r, ScopeTree.record?_eq_some.2 ⟨?_, hser⟩, hold.of_parent fun p hsp hp =>
      ⟨(LexicalTree.live_destroy h0).2 ⟨hp, ?_⟩, rfl⟩⟩
    · rw [hslot, if_neg]
      · exact hr
      · exact fun hd => hmem ((h.descends hl hk).1 hd)
    · -- were the parent inside the destroyed scope, so would be the scope itself
      rw [LexicalTree.chain_eq_of_parent hs hsp (h.older hs hsp)] at hmem
      exact fun hmem' => hmem (List.mem_cons_of_mem _ hmem')
  · intro k s' hs' hsl i r hr hser
    rw [LexicalTree.scopes_destroy h0] at hs'
    obtain ⟨s, hs, rfl⟩ := Option.map_eq_some_iff.1 hs'
    rw [hslot] at hr
    split at hr
    · cases hr
    · next hd =>
      cases hk : s.live with
      | false => exact h.dead hs hk hr hser
      | true =>
        -- the scope is in the slot that its handle names, and that slot was emptied
        obtain ⟨q, hq, -⟩ := h.alive hs hk
        obtain ⟨hq, hqs⟩ := ScopeTree.record?_eq_some.1 hq
        rw [(h.handle (List.getElem?_eq_some_iff.1 hs).1).1] at hqs
        rw [h.wf.distinct hr hq (hser.trans hqs.symm), h.descends hl (LexicalTree.live_iff.2 ⟨s, hs, hk⟩)] at hd
        rw [if_neg hd, hk] at hsl
        cases hsl

/-! ## Runs -/

/-- One request: the answers agree, and so do the trees afterwards. -/
theorem Simulates.answer {q : ScopeRequest} (hq : m.allows q = true) :
    (c.answer q).1 = (m.answer q).1 ∧ (c.answer q).2.Simulates (m.answer q).2 := by
  cases q with
  | createChild n => exact ⟨congrArg ScopeAnswer.handle h.handles, h.createChild hq⟩
  | insert n name v => exact h.insert (of_decide_eq_true hq) name v
  | find n name => exact ⟨congrArg ScopeAnswer.found (h.find (of_decide_eq_true hq) name), h⟩
  | contains n name =>
    have hfind := h.find (of_decide_eq_true hq) name
    exact ⟨congrArg ScopeAnswer.truth ((contains_eq ..).trans (congrArg Except.toBool hfind)), h⟩
  | destroy n => exact ⟨rfl, h.destroy (of_decide_eq_true hq)⟩
  | localNames n => exact ⟨congrArg ScopeAnswer.names (h.localNames (of_decide_eq_true hq)), h⟩
  | depth n => exact ⟨congrArg ScopeAnswer.depth (h.depth (of_decide_eq_true hq)), h⟩
  | isLive n => exact ⟨congrArg ScopeAnswer.truth (h.isLive (of_decide_eq_true hq)), h⟩

theorem Simulates.run {qs : List ScopeRequest} (hqs : m.allowsAll qs = true) :
    (c.run qs).1 = (m.run qs).1 ∧ (c.run qs).2.Simulates (m.run qs).2 := by
  induction qs generalizing c m with
  | nil => exact ⟨rfl, h⟩
  | cons q qs ih =>
    obtain ⟨hq, hqs⟩ := (Bool.and_eq_true_iff ..).1 hqs
    obtain ⟨ha, hs⟩ := h.answer hq
    obtain ⟨has, hss⟩ := ih hs hqs
    exact ⟨congrArg₂ List.cons ha has, hss⟩

end Simulates

theorem simulates_new : new.Simulates .new := by
  have hroot : ∀ {n} {s : LexicalScope}, LexicalTree.new.scopes[n]? = some s → n = 0 ∧ s = ⟨none, ∅, true⟩ := by
    intro n s hs
    rw [LexicalTree.new, List.getElem?_singleton] at hs
    split at hs
    · next h0 => exact ⟨h0, (Option.some.inj hs).symm⟩
    · cases hs
  refine ⟨ScopeTree.wellFormed_new, rfl, rfl, ?_, ?_, ?_, ?_⟩
  · intro n hn
    obtain rfl : n = 0 := Nat.lt_one_iff.1 hn
    exact ⟨rfl, by decide⟩
  · intro n p s hs hp
    obtain ⟨rfl, rfl⟩ := hroot hs
    cases hp
  · intro n s hs _
    obtain ⟨rfl, rfl⟩ := hroot hs
    exact ⟨⟨0, none, []⟩, rfl, .inl ⟨rfl, rfl⟩, fun name => by simp [ScopeRecord.find?], List.nodup_nil⟩
  · intro n s hs hsl
    obtain ⟨rfl, rfl⟩ := hroot hs
    cases hsl

/-- A handle once given out stays what it is. -/
theorem handle_answer (c : ScopeClient) (q : ScopeRequest) {n : Nat} (hn : n < c.handles.length) :
    n < (c.answer q).2.handles.length ∧ (c.answer q).2.handle n = c.handle n := by
  cases q with
  | createChild k => exact ⟨by simp [answer]; omega, handle_append_lt c _ _ hn⟩
  | insert k name v =>
    simp only [answer]
    split <;> exact ⟨hn, rfl⟩
  | _ => exact ⟨hn, rfl⟩

theorem handle_run (c : ScopeClient) (qs : List ScopeRequest) {n : Nat} (hn : n < c.handles.length) :
    (c.run qs).2.handle n = c.handle n := by
  induction qs generalizing c with
  | nil => rfl
  | cons q qs ih =>
    obtain ⟨hlt, he⟩ := handle_answer c q hn
    exact (ih _ hlt).trans he

end ScopeClient

namespace LexicalTree

/-- No request brings a dead scope back to life. -/
theorem live_answer {m : LexicalTree} {q : ScopeRequest} {n : Nat} (hn : n < m.scopes.length) (hl : m.live n = false) :
    n < (m.answer q).2.scopes.length ∧ (m.answer q).2.live n = false := by
  cases q with
  | createChild k =>
    refine ⟨by simp [answer, createChild]; omega, ?_⟩
    rw [← hl]
    simp [answer, createChild, live, List.getElem?_append_left hn]
  | insert k name v =>
    simp only [answer, insert]
    split
    · next hm =>
      split at hm
      · cases hm
      · split at hm
        · cases hm
        · cases hm
          exact ⟨by simpa [bind] using hn, live_bind.trans hl⟩
    · exact ⟨hn, hl⟩
  | destroy k =>
    simp only [answer]
    by_cases h0 : k = 0
    · rw [show m.destroy k = m from if_pos h0]
      exact ⟨hn, hl⟩
    · refine ⟨by simpa [destroy, h0] using hn, ?_⟩
      rw [Bool.eq_false_iff]
      intro hlive
      rw [((live_destroy h0).1 hlive).1] at hl
      cases hl
  | _ => exact ⟨hn, hl⟩

theorem live_run {m : LexicalTree} {qs : List ScopeRequest} {n : Nat} (hn : n < m.scopes.length)
    (hl : m.live n = false) : n < (m.run qs).2.scopes.length ∧ (m.run qs).2.live n = false := by
  induction qs generalizing m with
  | nil => exact ⟨hn, hl⟩
  | cons q qs ih =>
    obtain ⟨hn', hl'⟩ := live_answer (q := q) hn hl
    exact ih hn' hl'

theorem allowsAll_append (m : LexicalTree) (qs rs : List ScopeRequest) :
    m.allowsAll (qs ++ rs) = (m.allowsAll qs && (m.run qs).2.allowsAll rs) := by
  induction qs generalizing m with
  | nil => exact (Bool.true_and _).symm
  | cons q qs ih =>
    rw [List.cons_append, allowsAll, allowsAll, ih, Bool.and_assoc]
    rfl

end LexicalTree

/-- The arena of scopes is a lexical tree: every request is answered as the abstract tree answers it, so a handle that
is dead at one point of a run resolves nothing and takes no name at any later point, also when its slot has a new
owner. -/
theorem scopes_refine_lexical_tree (qs : List ScopeRequest) (h : LexicalTree.new.allowsAll qs = true) :
    (ScopeClient.new.run qs).1 = (LexicalTree.new.run qs).1 ∧
      ∀ earlier later, qs = earlier ++ later → ∀ n < (ScopeClient.new.run earlier).2.handles.length,
        (ScopeClient.new.run earlier).2.tree.isLive ((ScopeClient.new.run earlier).2.handle n) = false →
          (ScopeClient.new.run qs).2.handle n = (ScopeClient.new.run earlier).2.handle n ∧
          (ScopeClient.new.run qs).2.tree.isLive ((ScopeClient.new.run qs).2.handle n) = false ∧
          ∀ name v, (ScopeClient.new.run qs).2.tree.find ((ScopeClient.new.run qs).2.handle n) name =
              .error (.nameNotFound name) ∧
            (ScopeClient.new.run qs).2.tree.insert ((ScopeClient.new.run qs).2.handle n) name v =
              .error (.nameNotFound name) := by
  have hrun := ScopeClient.simulates_new.run h
  refine ⟨hrun.1, ?_⟩
  -- a handle that is dead in the arena is dead in the abstract tree, where nothing comes back to life
  rintro earlier later rfl n hn hdead
  rw [LexicalTree.allowsAll_append, Bool.and_eq_true_iff] at h
  have hearlier := (ScopeClient.simulates_new.run h.1).2
  rw [hearlier.isLive (hearlier.handles ▸ hn)] at hdead
  obtain ⟨hlt, hl⟩ : _ ∧ (LexicalTree.run _ later).2.live n = false :=
    LexicalTree.live_run (hearlier.handles ▸ hn) hdead
  have hlater : ((LexicalTree.new.run earlier).2.run later).2 = (LexicalTree.new.run (earlier ++ later)).2 :=
    (answerAll_append ..).symm
  rw [hlater] at hlt hl
  have hgone := (hrun.2.isLive hlt).trans hl
  refine ⟨?_, hgone, fun name v => ScopeClient.nameNotFound_of_dead hgone name v⟩
  rw [ScopeClient.run, answerAll_append]
  exact ScopeClient.handle_run _ later hn

/-- A scope with a scope inside it is destroyed, and another scope takes its slot. -/
def slotReuse : List ScopeRequest :=
  [.createChild 0, .createChild 1, .insert 1 "i" ⟨7⟩, .find 2 "i", .destroy 1, .createChild 0]

theorem slotReuse_handle_stays_dead :
    LexicalTree.new.allowsAll slotReuse = true ∧ (ScopeClient.new.run slotReuse).2.handle 1 = ⟨1, 1⟩ ∧
      (ScopeClient.new.run slotReuse).2.handle 3 = ⟨1, 3⟩ ∧
      (ScopeClient.new.run slotReuse).2.tree.find ⟨1, 1⟩ "i" = .error (.nameNotFound "i") := by
  have hallows : LexicalTree.new.allowsAll slotReuse = true := by decide +kernel
  have hfirst : (ScopeClient.new.run slotReuse).2.handle 1 = ⟨1, 1⟩ := by decide +kernel
  obtain ⟨-, hdead⟩ := scopes_refine_lexical_tree slotReuse hallows
  obtain ⟨-, -, hgone⟩ := hdead (slotReuse.take 5) (slotReuse.drop 5) rfl 1 (by decide +kernel) (by decide +kernel)
  rw [hfirst] at hgone
  exact ⟨hallows, hfirst, by decide +kernel, (hgone "i" ⟨7⟩).1⟩

end ModelImport
