import ModelImport.Proofs.ScopeArena
/-!
# Loops over the arena of scopes

A machine goes outward from a scope in a loop that follows the slots of the parents, with nothing that bounds the number
of its rounds. Slots are used again, so a parent may sit in a slot after that of its child, and a parent is known by its
slot alone, whoever is in it.

`scope_loops_end`: in a tree that has grown from the root by any calls, each of the three loops ends, and with what the
bounded way outward of the library gives. The measure is the serial number: destroying a scope takes the scopes inside
it along, so that a slot is free only when no scope names it as its parent, and every scope keeps an older parent.
-/

namespace ModelImport

/-- The loop over a body that either goes on from another state or is done ends with a result. -/
inductive LoopEnds {σ ρ : Type} (body : σ → σ ⊕ ρ) : σ → ρ → Prop
  | done {s : σ} {result : ρ} (h : body s = .inr result) : LoopEnds body s result
  | again {s next : σ} {result : ρ} (h : body s = .inl next) (rest : LoopEnds body next result) :
    LoopEnds body s result

namespace ScopeTree

/-! ## The three loops -/

/-- Looking a name up: the scope at hand has it, or the parent is next. -/
def findBody (t : ScopeTree) (name : String) :
    Option ScopeRecord → Option ScopeRecord ⊕ Except ImportError ValueId
  | none => .inr (.error (.nameNotFound name))
  | some r =>
    match r.find? name with
    | some v => .inr (.ok v)
    | none => .inl (r.parent.bind t.slot?)

/-- Measuring the depth: one more for each parent. -/
def depthBody (t : ScopeTree) : Nat × Option Nat → (Nat × Option Nat) ⊕ Nat
  | (depth, none) => .inr depth
  | (depth, some index) => .inl (depth + 1, (t.slot? index).bind (·.parent))

/-- Looking for an ancestor: the slot at hand is the one, or the parent is next. -/
def descendsBody (t : ScopeTree) (ancestor index : Nat) : Nat ⊕ Bool :=
  if index = ancestor then .inr true
  else
    match (t.slot? index).bind (·.parent) with
    | some parent => .inl parent
    | none => .inr false

section WellFormed
variable {t : ScopeTree} (wf : t.WellFormed)
include wf

/-- From a scope on, the lookup finds what the first scope on the way outward has. -/
theorem find_loop_ends (name : String) {i : Nat} {r : ScopeRecord} (hr : t.slot? i = some r) :
    LoopEnds (t.findBody name) (some r)
      ((((t.lineage i).findSome? (·.2.find? name)).map .ok).getD (.error (.nameNotFound name))) := by
  refine slot_induction wf (motive := fun i => ∀ r, t.slot? i = some r → LoopEnds (t.findBody name) (some r)
    ((((t.lineage i).findSome? (·.2.find? name)).map .ok).getD (.error (.nameNotFound name)))) ?_ hr r hr
  intro i r hr ih r' hr'
  obtain rfl : r = r' := Option.some.inj (hr.symm.trans hr')
  rw [lineage_eq wf hr, List.findSome?_cons]
  cases hf : r.find? name with
  | some v => exact .done (by simp [findBody, hf])
  | none =>
    have hround : t.findBody name (some r) = .inl (r.parent.bind t.slot?) := by simp [findBody, hf]
    refine .again hround ?_
    cases hp : r.parent with
    | none => exact .done rfl
    | some p =>
      obtain ⟨q, hq, -⟩ := slot?_parent wf hr hp
      rw [Option.bind_some, hq]
      exact ih p hp q hq

/-- From a scope on, the depth grows by the number of scopes around it. -/
theorem depth_loop_ends (depth : Nat) {i : Nat} {r : ScopeRecord} (hr : t.slot? i = some r) :
    LoopEnds t.depthBody (depth, r.parent) (depth + ((t.lineage i).length - 1)) := by
  refine slot_induction wf (motive := fun i => ∀ r depth, t.slot? i = some r →
    LoopEnds t.depthBody (depth, r.parent) (depth + ((t.lineage i).length - 1))) ?_ hr r depth hr
  intro i r hr ih r' depth hr'
  obtain rfl : r = r' := Option.some.inj (hr.symm.trans hr')
  rw [lineage_eq wf hr]
  cases hp : r.parent with
  | none => exact .done rfl
  | some p =>
    obtain ⟨q, hq, -⟩ := slot?_parent wf hr hp
    have hround : t.depthBody (depth, some p) = .inl (depth + 1, q.parent) := by simp [depthBody, hq]
    have hlength : depth + ((p, q) :: (q.parent.map t.lineage).getD []).length =
        depth + 1 + (((p, q) :: (q.parent.map t.lineage).getD []).length - 1) := by
      rw [List.length_cons]
      omega
    have hrest := ih p hp q (depth + 1) hq
    rw [lineage_eq wf hq, ← hlength] at hrest
    refine .again hround ?_
    rw [Option.map_some, Option.getD_some, lineage_eq wf hq, List.length_cons (a := (i, r)), Nat.add_sub_cancel]
    exact hrest

/-- From a scope on, the search finds the ancestor if the way outward passes it. -/
theorem descends_loop_ends (ancestor : Nat) {i : Nat} {r : ScopeRecord} (hr : t.slot? i = some r) :
    LoopEnds (t.descendsBody ancestor) i (t.descends i ancestor) := by
  refine slot_induction wf (fun i r hr ih => ?_) hr
  rw [descends_eq wf hr]
  by_cases hi : i = ancestor
  · exact .done (by simp [descendsBody, hi])
  · cases hp : r.parent with
    | none => exact .done (by simp [descendsBody, hi, hr, hp])
    | some p =>
      have hround : t.descendsBody ancestor i = .inl p := by simp [descendsBody, hi, hr, hp]
      refine .again hround ?_
      rw [beq_false_of_ne hi, Bool.false_or]
      exact ih p hp

/-! ## From any handle and any slot -/

theorem find_ends (id : ScopeId) (name : String) : LoopEnds (t.findBody name) (t.record? id) (t.find id name) := by
  have hfind : t.find id name = ((t.find? id name).map .ok).getD (.error (.nameNotFound name)) := by
    unfold find
    cases t.find? id name <;> rfl
  rw [hfind, find?_eq, isLive]
  cases hrecord : t.record? id with
  | none => exact .done rfl
  | some r => exact find_loop_ends wf name (record?_eq_some.1 hrecord).1

theorem depth_ends (id : ScopeId) :
    LoopEnds t.depthBody (0, (t.record? id).bind (·.parent)) (t.depth id) := by
  unfold depth ancestry isLive
  cases hrecord : t.record? id with
  | none => exact .done rfl
  | some r =>
    have hends := depth_loop_ends wf 0 (record?_eq_some.1 hrecord).1
    rw [Nat.zero_add] at hends
    rw [Option.isSome_some, if_pos rfl, List.length_map]
    exact hends

/-- The search starts by comparing slots, so that it finds even an empty slot from itself. -/
theorem descends_ends (index ancestor : Nat) :
    LoopEnds (t.descendsBody ancestor) index (index == ancestor || t.descends index ancestor) := by
  cases hslot : t.slot? index with
  | none =>
    have hway : t.descends index ancestor = false := by
      unfold descends lineage
      cases t.slots.size <;> simp [walk, hslot]
    rw [hway, Bool.or_false]
    by_cases hi : index = ancestor
    · exact .done (by simp [descendsBody, hi])
    · exact .done (by simp [descendsBody, hi, hslot])
  | some r =>
    have hway : (index == ancestor || t.descends index ancestor) = t.descends index ancestor := by
      rw [descends_eq wf hslot, ← Bool.or_assoc, Bool.or_self]
    rw [hway]
    exact descends_loop_ends wf ancestor hslot

end WellFormed

/-! ## Trees that have grown from the root -/

/-- The trees that calls can make: scopes are created inside live ones, and names are bound and scopes destroyed through
whatever handles. A name that is refused leaves the tree as it is. -/
inductive Reachable : ScopeTree → Prop
  | new : Reachable new
  | createChild {t : ScopeTree} {parent : ScopeId} (h : Reachable t) (hlive : t.isLive parent = true) :
    Reachable (t.createChild parent).2
  | insert {t t' : ScopeTree} {id : ScopeId} {name : String} {v : ValueId} (h : Reachable t)
    (hinsert : t.insert id name v = .ok t') : Reachable t'
  | destroy {t : ScopeTree} (h : Reachable t) (id : ScopeId) : Reachable (t.destroy id)

theorem Reachable.wellFormed {t : ScopeTree} (h : Reachable t) : t.WellFormed := by
  induction h with
  | new => exact wellFormed_new
  | createChild _ hlive ih => exact wellFormed_createChild ih hlive
  | insert _ hinsert ih => exact (grows_insert hinsert).wellFormed ih
  | destroy _ id ih => exact wellFormed_destroy ih id

/-- Two scopes in the root, the first of them destroyed, and a scope in the second that takes the slot of the first. -/
def childBeforeParent : ScopeTree :=
  (((new.createChild .root).2.createChild .root).2.destroy ⟨1, 1⟩ |>.createChild ⟨2, 2⟩).2

theorem reachable_childBeforeParent : Reachable childBeforeParent :=
  have hfirst : Reachable (new.createChild .root).2 := .createChild .new (by decide +kernel)
  have hsecond : Reachable ((new.createChild .root).2.createChild .root).2 := .createChild hfirst (by decide +kernel)
  .createChild (.destroy hsecond _) (by decide +kernel)

end ScopeTree

open ScopeTree

/-- In every tree that calls can make, the root is in slot 0 without a parent, every other scope has a parent in its
slot that is older, serials are distinct and below the next one, and the last slot is taken; and the loops that look a
name up, measure a depth and look for an ancestor end, from any handle and any slot, though a parent may be in a slot
after its child's. -/
theorem scope_loops_end :
    (∀ t : ScopeTree, t.Reachable → t.WellFormed ∧
      (∀ id name, LoopEnds (t.findBody name) (t.record? id) (t.find id name)) ∧
      (∀ id, LoopEnds t.depthBody (0, (t.record? id).bind (·.parent)) (t.depth id)) ∧
      ∀ index ancestor,
        LoopEnds (t.descendsBody ancestor) index (index == ancestor || t.descends index ancestor)) ∧
    ∃ t : ScopeTree, t.Reachable ∧ ∃ child parent r, t.slot? child = some r ∧ r.parent = some parent ∧
      child < parent := by
  constructor
  · intro t h
    have wf := h.wellFormed
    exact ⟨wf, find_ends wf, depth_ends wf, descends_ends wf⟩
  · exact ⟨childBeforeParent, reachable_childBeforeParent, 1, 2, ⟨3, some 2, []⟩, by decide +kernel, rfl, by decide⟩

/-- The loops from a scope whose parent is in a later slot. -/
theorem childBeforeParent_loops_end :
    childBeforeParent.Reachable ∧ childBeforeParent.record? ⟨1, 3⟩ = some ⟨3, some 2, []⟩ ∧
      LoopEnds childBeforeParent.depthBody (0, some 2) 2 ∧
      LoopEnds (childBeforeParent.findBody "x") (some ⟨3, some 2, []⟩) (.error (.nameNotFound "x")) ∧
      LoopEnds (childBeforeParent.descendsBody 0) 1 true := by
  have hrecord : childBeforeParent.record? ⟨1, 3⟩ = some ⟨3, some 2, []⟩ := by decide +kernel
  have hdepth : childBeforeParent.depth ⟨1, 3⟩ = 2 := by decide +kernel
  have hfind : childBeforeParent.find ⟨1, 3⟩ "x" = .error (.nameNotFound "x") := by decide +kernel
  have hdescends : ((1 : Nat) == 0 || childBeforeParent.descends 1 0) = true := by decide +kernel
  obtain ⟨-, hfinds, hdepths, hsearches⟩ := scope_loops_end.1 childBeforeParent reachable_childBeforeParent
  refine ⟨reachable_childBeforeParent, hrecord, ?_, ?_, ?_⟩
  · have hends := hdepths ⟨1, 3⟩
    rw [hrecord, hdepth] at hends
    exact hends
  · have hends := hfinds ⟨1, 3⟩ "x"
    rw [hrecord, hfind] at hends
    exact hends
  · have hends := hsearches 1 0
    rw [hdescends] at hends
    exact hends

end ModelImport
