import Mathlib.Data.List.Nodup
import Mathlib.Data.List.Perm.Subperm
import ModelImport.Scope
/-!
# The arena of scopes

What holds of every tree that the operations on scopes can make (`WellFormed`), and what each operation does to the
slots. Parents are older than their children, though not always at a smaller slot, so the way outward from a slot ends
before it runs out of slots (`lineage_eq`), and every later proof follows that equation and never the bounded walk.
-/

namespace ModelImport

namespace ScopeTree

/-- The shape of a tree that has grown from the root. -/
structure WellFormed (t : ScopeTree) : Prop where
  root : ∃ r, t.slot? 0 = some r ∧ r.serial = 0 ∧ r.parent = none
  /-- Every other scope has a parent that is alive and older. -/
  parent : ∀ {i r}, t.slot? i = some r → i ≠ 0 →
    ∃ p q, r.parent = some p ∧ t.slot? p = some q ∧ q.serial < r.serial
  distinct : ∀ {i j r q}, t.slot? i = some r → t.slot? j = some q → r.serial = q.serial → i = j
  bounded : ∀ {i r}, t.slot? i = some r → r.serial < t.nextSerial
  last : (t.slot? (t.slots.size - 1)).isSome

/-! ## Slots -/

theorem slot?_lt {t : ScopeTree} {i : Nat} {r : ScopeRecord} (h : t.slot? i = some r) : i < t.slots.size := by
  by_contra hn
  simp [slot?, Array.getElem?_eq_none (Nat.le_of_not_lt hn)] at h

theorem slot?_congr {t u : ScopeTree} (h : t.slots = u.slots) (i : Nat) : t.slot? i = u.slot? i := by
  rw [slot?, h, slot?]

theorem record?_eq_some {t : ScopeTree} {id : ScopeId} {r : ScopeRecord} :
    t.record? id = some r ↔ t.slot? id.index = some r ∧ r.serial = id.serial := by
  simp [record?, Option.filter_eq_some_iff]

theorem isLive_iff {t : ScopeTree} {id : ScopeId} :
    t.isLive id = true ↔ ∃ r, t.slot? id.index = some r ∧ r.serial = id.serial := by
  simp only [isLive, Option.isSome_iff_exists, record?_eq_some]

/-! ## The way outward -/

theorem slot?_of_mem_walk {t : ScopeTree} {fuel i j : Nat} {q : ScopeRecord} (h : (j, q) ∈ t.walk fuel i) :
    t.slot? j = some q := by
  induction fuel generalizing i with
  | zero => simp [walk] at h
  | succ fuel ih =>
    rw [walk] at h
    split at h
    · cases h
    · next r hr =>
      rcases List.mem_cons.1 h with he | h
      · cases he; exact hr
      · split at h
        · cases h
        · exact ih h

section WellFormed
variable {t : ScopeTree} (wf : t.WellFormed)
include wf

/-- A parent slot always holds an older scope. -/
theorem slot?_parent {i p : Nat} {r : ScopeRecord} (hr : t.slot? i = some r) (hp : r.parent = some p) :
    ∃ q, t.slot? p = some q ∧ q.serial < r.serial := by
  by_cases hi : i = 0
  · obtain ⟨r₀, h₀, -, hpar⟩ := wf.root
    rw [hi, h₀] at hr; cases hr
    rw [hpar] at hp; cases hp
  · obtain ⟨p', q, hp', hq, hlt⟩ := wf.parent hr hi
    rw [hp] at hp'; cases hp'
    exact ⟨q, hq, hlt⟩

/-- To show something of every scope, show it of a scope whose parent has it. -/
@[elab_as_elim]
theorem slot_induction {motive : Nat → Prop}
    (step : ∀ i r, t.slot? i = some r → (∀ p, r.parent = some p → motive p) → motive i)
    {i : Nat} {r : ScopeRecord} (hr : t.slot? i = some r) : motive i := by
  -- slots are reused, so a parent may sit above its child; serials fall on the way outward
  induction hs : r.serial using Nat.strongRecOn generalizing i r with
  | _ s ih =>
    refine step i r hr fun p hp => ?_
    obtain ⟨q, hq, hlt⟩ := slot?_parent wf hr hp
    exact ih q.serial (hs ▸ hlt) hq rfl

/-- Going outward, scopes get older. -/
theorem walk_serial_le {fuel i : Nat} {r : ScopeRecord} (hr : t.slot? i = some r) :
    ∀ x ∈ t.walk fuel i, x.2.serial ≤ r.serial := by
  induction fuel generalizing i r with
  | zero => simp [walk]
  | succ fuel ih =>
    intro x hx
    simp only [walk, hr, List.mem_cons] at hx
    rcases hx with rfl | hx
    · exact Nat.le_refl _
    · split at hx
      · cases hx
      · next p hp =>
        obtain ⟨q, hq, hlt⟩ := slot?_parent wf hr hp
        exact Nat.le_of_lt (Nat.lt_of_le_of_lt (ih hq x hx) hlt)

theorem walk_serials_decrease (fuel i : Nat) :
    (t.walk fuel i).Pairwise fun a b => b.2.serial < a.2.serial := by
  induction fuel generalizing i with
  | zero => simp [walk]
  | succ fuel ih =>
    rw [walk]
    split
    · exact .nil
    · next r hr =>
      split
      · exact List.pairwise_singleton _ _
      · next p hp =>
        obtain ⟨q, hq, hlt⟩ := slot?_parent wf hr hp
        exact List.pairwise_cons.2 ⟨fun x hx => Nat.lt_of_le_of_lt (walk_serial_le wf hq x hx) hlt, ih p⟩

/-- A way outward visits no slot twice, so it has no more steps than there are slots. -/
theorem walk_slots_nodup (fuel i : Nat) : ((t.walk fuel i).map (·.1)).Nodup := by
  rw [List.Nodup, List.pairwise_map]
  refine (walk_serials_decrease wf fuel i).imp_of_mem ?_
  rintro ⟨j, r⟩ ⟨k, q⟩ hr hq hlt he
  have h := slot?_of_mem_walk hr
  rw [show j = k from he, slot?_of_mem_walk hq, Option.some.injEq] at h
  rw [h] at hlt
  exact Nat.lt_irrefl _ hlt

theorem walk_length_le (fuel i : Nat) : (t.walk fuel i).length ≤ t.slots.size := by
  -- a list of distinct slots is no longer than the arena
  have hsub : (t.walk fuel i).map (·.1) ⊆ List.range t.slots.size := by
    intro j hj
    obtain ⟨⟨_, q⟩, hq, rfl⟩ := List.mem_map.1 hj
    exact List.mem_range.2 (slot?_lt (slot?_of_mem_walk hq))
  simpa using (List.subperm_of_subset (walk_slots_nodup wf fuel i) hsub).length_le

end WellFormed

/-- A bound that a way outward keeps to does not cut it short. -/
theorem walk_of_length_le (t : ScopeTree) (fuel : Nat) {k i : Nat} (hk : k ≤ fuel)
    (hlen : (t.walk fuel i).length ≤ k) : t.walk k i = t.walk fuel i := by
  induction k generalizing fuel i with
  | zero => simp [walk, List.length_eq_zero_iff.1 (Nat.le_zero.1 hlen)]
  | succ k ih =>
    obtain ⟨f, rfl⟩ : ∃ f, fuel = f + 1 := ⟨fuel - 1, by omega⟩
    simp only [walk] at hlen ⊢
    split
    · rfl
    · next r hr =>
      simp only [hr] at hlen
      split
      · rfl
      · next p hp =>
        simp only [hp, List.length_cons] at hlen
        rw [ih f (Nat.le_of_succ_le_succ hk) (Nat.le_of_succ_le_succ hlen)]

/-- The way outward from a scope: the scope itself, then the way outward from its parent. -/
theorem lineage_eq {t : ScopeTree} (wf : t.WellFormed) {i : Nat} {r : ScopeRecord} (hr : t.slot? i = some r) :
    t.lineage i = (i, r) :: (r.parent.map t.lineage).getD [] := by
  -- with one step more than the arena has slots, the first can be taken off the bound
  have hlen := walk_length_le wf (t.slots.size + 1) i
  obtain ⟨n, hn⟩ : ∃ n, t.slots.size = n + 1 := ⟨t.slots.size - 1, by have := slot?_lt hr; omega⟩
  simp only [walk, hr] at hlen
  simp only [lineage, hn, walk, hr]
  cases hp : r.parent with
  | none => rfl
  | some p =>
    simp only [hp, List.length_cons] at hlen
    have h : t.walk n p = t.walk t.slots.size p := walk_of_length_le t _ (by omega) (by omega)
    simp only [h, Option.map_some, Option.getD_some, lineage]

/-! ## Binding names -/

end ScopeTree

/-- The scope with more names bound in it. -/
def ScopeRecord.add (r : ScopeRecord) (names : List (String × ValueId)) : ScopeRecord :=
  { r with bindings := names ++ r.bindings }

@[simp] theorem ScopeRecord.add_serial (r : ScopeRecord) (names) : (r.add names).serial = r.serial := rfl

theorem ScopeRecord.add_add (r : ScopeRecord) (names more) : (r.add names).add more = r.add (more ++ names) := by
  simp [add]

theorem ScopeRecord.find?_add (r : ScopeRecord) (names : List (String × ValueId)) (name : String) :
    (r.add names).find? name = ((names.find? (·.1 == name)).map (·.2)).or (r.find? name) := by
  simp only [find?, add, List.find?_append]
  cases names.find? (·.1 == name) <;> rfl

namespace ScopeTree

/-- The tree with more names bound in the scope of a slot. -/
def addNames (t : ScopeTree) (index : Nat) (names : List (String × ValueId)) : ScopeTree :=
  { t with slots := t.slots.modify index (Option.map (·.add names)) }

theorem slot?_addNames (t : ScopeTree) (index : Nat) (names) (j : Nat) :
    (t.addNames index names).slot? j = if j = index then (t.slot? j).map (·.add names) else t.slot? j := by
  simp only [slot?, addNames, Array.getElem?_modify]
  by_cases hj : index = j
  · rw [if_pos hj, if_pos hj.symm]
    cases t.slots[j]? <;> rfl
  · rw [if_neg hj, if_neg (Ne.symm hj)]

theorem insert_eq_ok {t t' : ScopeTree} {id : ScopeId} {name : String} {v : ValueId}
    (h : t.insert id name v = .ok t') :
    ∃ r, t.record? id = some r ∧ r.find? name = none ∧ t' = t.addNames id.index [(name, v)] := by
  unfold insert at h
  split at h
  · cases h
  · next r hr =>
    split at h
    · cases h
    · next hn =>
      refine ⟨r, hr, by simpa using hn, ?_⟩
      cases h
      obtain ⟨hs, -⟩ := record?_eq_some.1 hr
      have hs' : t.slots[id.index]? = some (some r) := by
        cases hx : t.slots[id.index]? with
        | none => simp [slot?, hx] at hs
        | some o => simpa [slot?, hx] using hs
      simp only [addNames, mk.injEq, and_true]
      apply Array.ext_getElem?
      intro j
      rw [Array.getElem?_setIfInBounds, Array.getElem?_modify]
      by_cases hj : id.index = j
      · subst hj
        rw [if_pos rfl, if_pos (slot?_lt hs), if_pos rfl, hs']
        rfl
      · rw [if_neg hj, if_neg hj]

theorem insert_of_record {t : ScopeTree} {id : ScopeId} {r : ScopeRecord} (hr : t.record? id = some r)
    (name : String) (v : ValueId) :
    t.insert id name v = .error (.duplicateBinding name) ∧ (r.find? name).isSome ∨
      r.find? name = none ∧ t.insert id name v = .ok (t.addNames id.index [(name, v)]) := by
  cases hf : r.find? name with
  | some w => exact .inl ⟨by simp [insert, hr, hf], rfl⟩
  | none =>
    obtain ⟨t', ht'⟩ : ∃ t', t.insert id name v = .ok t' := by simp [insert, hr, hf]
    obtain ⟨-, -, -, rfl⟩ := insert_eq_ok ht'
    exact .inr ⟨rfl, ht'⟩

theorem wellFormed_addNames {t : ScopeTree} (wf : t.WellFormed) (index : Nat) (names) :
    (t.addNames index names).WellFormed := by
  -- more names change neither which slots are occupied nor the serials and parents in them
  have hslot : ∀ {j r'}, (t.addNames index names).slot? j = some r' →
      ∃ r, t.slot? j = some r ∧ r'.serial = r.serial ∧ r'.parent = r.parent := by
    intro j r' h
    rw [slot?_addNames] at h
    split at h
    · obtain ⟨r, hr, rfl⟩ := Option.map_eq_some_iff.1 h
      exact ⟨r, hr, rfl, rfl⟩
    · exact ⟨r', h, rfl, rfl⟩
  have hback : ∀ {j r}, t.slot? j = some r →
      ∃ r', (t.addNames index names).slot? j = some r' ∧ r'.serial = r.serial ∧ r'.parent = r.parent := by
    intro j r h
    rw [slot?_addNames, h]
    split
    · exact ⟨_, rfl, rfl, rfl⟩
    · exact ⟨_, rfl, rfl, rfl⟩
  refine ⟨?_, ?_, ?_, ?_, ?_⟩
  · obtain ⟨r, hr, hs, hp⟩ := wf.root
    obtain ⟨r', hr', hs', hp'⟩ := hback hr
    exact ⟨r', hr', hs'.trans hs, hp'.trans hp⟩
  · intro i r' hr' hi
    obtain ⟨r, hr, hs, hp⟩ := hslot hr'
    obtain ⟨p, q, hpar, hq, hlt⟩ := wf.parent hr hi
    obtain ⟨q', hq', hqs, -⟩ := hback hq
    exact ⟨p, q', hp.trans hpar, hq', by rw [hs, hqs]; exact hlt⟩
  · intro i j r' q' hr' hq' he
    obtain ⟨r, hr, hs, -⟩ := hslot hr'
    obtain ⟨q, hq, hs', -⟩ := hslot hq'
    exact wf.distinct hr hq (by rw [← hs, ← hs', he])
  · intro i r' hr'
    obtain ⟨r, hr, hs, -⟩ := hslot hr'
    exact hs ▸ wf.bounded hr
  · obtain ⟨r, hr⟩ := Option.isSome_iff_exists.1 wf.last
    obtain ⟨r', hr', -, -⟩ := hback hr
    simp only [addNames, Array.size_modify] at hr' ⊢
    simp [hr']

/-! ## Creating and destroying scopes -/

/-- A new scope takes a slot that was free. -/
theorem createChild_spec (t : ScopeTree) (parent : ScopeId) :
    ∃ i, (t.createChild parent).1 = ⟨i, t.nextSerial⟩ ∧ t.slot? i = none ∧
      (t.createChild parent).2.nextSerial = t.nextSerial + 1 ∧
      (i < t.slots.size ∧ (t.createChild parent).2.slots.size = t.slots.size ∨
        i = t.slots.size ∧ (t.createChild parent).2.slots.size = t.slots.size + 1) ∧
      ∀ j, (t.createChild parent).2.slot? j =
        if j = i then some ⟨t.nextSerial, if t.isLive parent then some parent.index else none, []⟩ else t.slot? j := by
  simp only [createChild]
  cases hfree : t.slots.findIdx? Option.isNone with
  | some free =>
    obtain ⟨hlt, hnone, -⟩ := Array.findIdx?_eq_some_iff_getElem.1 hfree
    refine ⟨free, rfl, ?_, rfl, .inl ⟨hlt, by simp⟩, fun j => ?_⟩
    · simpa [slot?, Array.getElem?_eq_getElem hlt] using hnone
    · simp only [slot?, Array.getElem?_setIfInBounds]
      by_cases hj : free = j
      · rw [if_pos hj, if_pos hlt, if_pos hj.symm]; rfl
      · rw [if_neg hj, if_neg (Ne.symm hj)]
  | none =>
    refine ⟨t.slots.size, rfl, by simp [slot?], rfl, .inr ⟨rfl, by simp⟩, fun j => ?_⟩
    simp only [slot?, Array.getElem?_push]
    by_cases hj : j = t.slots.size
    · rw [if_pos hj, if_pos hj]; rfl
    · rw [if_neg hj, if_neg hj]

theorem slot?_createChild_old {t : ScopeTree} {parent : ScopeId} {j : Nat} {r : ScopeRecord}
    (hr : t.slot? j = some r) : (t.createChild parent).2.slot? j = some r := by
  obtain ⟨i, -, hfree, -, -, hslot⟩ := createChild_spec t parent
  rw [hslot, if_neg, hr]
  rintro rfl
  rw [hfree] at hr; cases hr

theorem isLive_createChild (t : ScopeTree) (parent : ScopeId) :
    (t.createChild parent).2.isLive (t.createChild parent).1 = true := by
  obtain ⟨i, hid, -, -, -, hslot⟩ := createChild_spec t parent
  rw [hid]
  exact isLive_iff.2 ⟨_, (hslot i).trans (if_pos rfl), rfl⟩

/-- A scope that can be worked in: one that is alive, in a well-formed arena. -/
structure Usable (t : ScopeTree) (id : ScopeId) : Prop where
  wf : t.WellFormed
  live : t.isLive id = true

theorem WellFormed.usable_root {t : ScopeTree} (wf : t.WellFormed) : t.Usable .root := by
  obtain ⟨r, hr, hser, -⟩ := wf.root
  exact ⟨wf, isLive_iff.2 ⟨r, hr, hser⟩⟩

/-- A scope that is alive is older than any to come. -/
theorem Usable.serial_lt {t : ScopeTree} {id : ScopeId} (h : t.Usable id) : id.serial < t.nextSerial := by
  obtain ⟨r, hr, hser⟩ := isLive_iff.1 h.live
  exact hser ▸ h.wf.bounded hr

theorem wellFormed_createChild {t : ScopeTree} (wf : t.WellFormed) {parent : ScopeId} (hlive : t.isLive parent = true) :
    (t.createChild parent).2.WellFormed := by
  obtain ⟨i, -, -, hnext, hsize, hslot⟩ := createChild_spec t parent
  obtain ⟨q, hq, -⟩ := isLive_iff.1 hlive
  have hnew : ∀ {j r}, (t.createChild parent).2.slot? j = some r →
      j = i ∧ r = ⟨t.nextSerial, some parent.index, []⟩ ∨ t.slot? j = some r := by
    intro j r hr
    rw [hslot, hlive] at hr
    split at hr
    · next hj => cases hr; exact .inl ⟨hj, rfl⟩
    · exact .inr hr
  refine ⟨?_, ?_, ?_, ?_, ?_⟩
  · obtain ⟨r, hr, h⟩ := wf.root
    exact ⟨r, slot?_createChild_old hr, h⟩
  · intro j r hr hj
    rcases hnew hr with ⟨-, rfl⟩ | hr
    · exact ⟨parent.index, q, rfl, slot?_createChild_old hq, wf.bounded hq⟩
    · obtain ⟨p, q, hp, hq, hlt⟩ := wf.parent hr hj
      exact ⟨p, q, hp, slot?_createChild_old hq, hlt⟩
  · -- the serial of the new scope is one that no scope has had
    intro j k r s hr hs he
    rcases hnew hr with ⟨rfl, rfl⟩ | hr <;> rcases hnew hs with ⟨rfl, rfl⟩ | hs
    · rfl
    · exact absurd he (Nat.ne_of_gt (wf.bounded hs))
    · exact absurd he (Nat.ne_of_lt (wf.bounded hr))
    · exact wf.distinct hr hs he
  · intro j r hr
    rw [hnext]
    rcases hnew hr with ⟨-, rfl⟩ | hr
    · exact Nat.lt_succ_self _
    · exact Nat.lt_succ_of_lt (wf.bounded hr)
  · rcases hsize with ⟨-, hs⟩ | ⟨hi, hs⟩
    · obtain ⟨r, hr⟩ := Option.isSome_iff_exists.1 wf.last
      rw [hs, slot?_createChild_old hr]; rfl
    · rw [hs, hslot, if_pos (by omega)]; rfl

theorem Usable.createChild {t : ScopeTree} {parent : ScopeId} (h : t.Usable parent) :
    (t.createChild parent).2.Usable (t.createChild parent).1 :=
  ⟨wellFormed_createChild h.wf h.live, isLive_createChild t parent⟩

theorem descends_eq {t : ScopeTree} (wf : t.WellFormed) {i : Nat} {r : ScopeRecord} (hr : t.slot? i = some r)
    (ancestor : Nat) :
    t.descends i ancestor = (i == ancestor || (r.parent.map (t.descends · ancestor)).getD false) := by
  rw [descends, lineage_eq wf hr, List.any_cons]
  cases r.parent <;> rfl

/-- Giving up free slots at the end loses no scope. -/
theorem getElem?_popWhile_join {α : Type} (a : Array (Option α)) (i : Nat) :
    ((a.popWhile Option.isNone)[i]?).join = (a[i]?).join := by
  fun_induction Array.popWhile with
  | case1 a h hlast ih =>
    rw [ih, Array.getElem?_pop]
    split
    · rfl
    · next hi =>
      rcases Nat.lt_or_ge i a.size with hlt | hge
      · have hi' : i = a.size - 1 := by omega
        subst hi'
        have hnone : a[a.size - 1] = none := by simpa using hlast
        rw [Array.getElem?_eq_getElem hlt, hnone]
        rfl
      · rw [Array.getElem?_eq_none hge]
  | case2 => rfl
  | case3 => rfl

theorem back?_popWhile {α : Type} (a : Array (Option α)) {i : Nat} {x : α} (hx : a[i]? = some (some x)) :
    ∃ y, (a.popWhile Option.isNone)[(a.popWhile Option.isNone).size - 1]? = some (some y) := by
  fun_induction Array.popWhile with
  | case1 a h hlast ih =>
    refine ih ?_
    rw [Array.getElem?_pop, if_pos, hx]
    have hlt := (Array.getElem?_eq_some_iff.1 hx).1
    rcases Nat.lt_or_ge i (a.size - 1) with hlt' | hge
    · exact hlt'
    · have hi : i = a.size - 1 := by omega
      subst hi
      obtain ⟨_, he⟩ := Array.getElem?_eq_some_iff.1 hx
      rw [he] at hlast; cases hlast
  | case2 a h hlast =>
    rw [Array.getElem?_eq_getElem (by omega)]
    simpa [← Option.ne_none_iff_exists'] using hlast
  | case3 a h =>
    have hlt := (Array.getElem?_eq_some_iff.1 hx).1
    omega

theorem destroy_of_live {t : ScopeTree} {id : ScopeId} (hlive : t.isLive id = true) (h0 : id.index ≠ 0) :
    t.destroy id = { t with slots :=
      (t.slots.mapIdx fun i slot => if t.descends i id.index then none else slot).popWhile Option.isNone } := by
  simp [destroy, h0, hlive]

theorem destroy_of_not_live {t : ScopeTree} {id : ScopeId} (hdead : t.isLive id = false) : t.destroy id = t := by
  simp [destroy, hdead]

@[simp] theorem destroy_nextSerial (t : ScopeTree) (id : ScopeId) : (t.destroy id).nextSerial = t.nextSerial := by
  unfold destroy; split <;> rfl

/-- Destroying a scope empties exactly its slot and those of the scopes inside it. -/
theorem slot?_destroy {t : ScopeTree} {id : ScopeId} (hlive : t.isLive id = true) (h0 : id.index ≠ 0) (j : Nat) :
    (t.destroy id).slot? j = if t.descends j id.index then none else t.slot? j := by
  rw [destroy_of_live hlive h0, slot?, getElem?_popWhile_join, Array.getElem?_mapIdx, slot?]
  cases t.slots[j]? with
  | none => simp
  | some o => simp only [Option.map_some, Option.join_some]

/-- A scope that outlives a destruction keeps its parent. -/
theorem survives_parent {t : ScopeTree} (wf : t.WellFormed) {i p k : Nat} {r : ScopeRecord} (hr : t.slot? i = some r)
    (hp : r.parent = some p) (hs : t.descends i k = false) : t.descends p k = false := by
  rw [descends_eq wf hr, hp] at hs
  simpa using (Bool.or_eq_false_iff.1 hs).2

theorem root_survives {t : ScopeTree} (wf : t.WellFormed) {k : Nat} (hk : k ≠ 0) : t.descends 0 k = false := by
  obtain ⟨r, hr, -, hp⟩ := wf.root
  rw [descends_eq wf hr, hp]
  simp [Ne.symm hk]

theorem wellFormed_destroy {t : ScopeTree} (wf : t.WellFormed) (id : ScopeId) : (t.destroy id).WellFormed := by
  by_cases hlive : t.isLive id = true
  swap
  · rw [destroy_of_not_live (by simpa using hlive)]; exact wf
  by_cases h0 : id.index = 0
  · rw [show t.destroy id = t by simp [destroy, h0]]; exact wf
  have hslot : ∀ {j r}, (t.destroy id).slot? j = some r ↔ t.slot? j = some r ∧ t.descends j id.index = false := by
    intro j r
    rw [slot?_destroy hlive h0]
    cases hd : t.descends j id.index <;> simp
  refine ⟨?_, ?_, ?_, ?_, ?_⟩
  · obtain ⟨r, hr, h⟩ := wf.root
    exact ⟨r, hslot.2 ⟨hr, root_survives wf h0⟩, h⟩
  · intro i r hr hi
    obtain ⟨hr, hs⟩ := hslot.1 hr
    obtain ⟨p, q, hp, hq, hlt⟩ := wf.parent hr hi
    exact ⟨p, q, hp, hslot.2 ⟨hq, survives_parent wf hr hp hs⟩, hlt⟩
  · intro i j r q hr hq he
    exact wf.distinct (hslot.1 hr).1 (hslot.1 hq).1 he
  · intro i r hr
    rw [destroy_nextSerial]
    exact wf.bounded (hslot.1 hr).1
  · -- the root is still there, so that giving up free slots ends at a scope
    obtain ⟨r, hr, -⟩ := wf.root
    have hx : (t.slots.mapIdx fun i slot => if t.descends i id.index then none else slot)[0]? = some (some r) := by
      rw [Array.getElem?_mapIdx]
      cases ho : t.slots[0]? with
      | none => simp [slot?, ho] at hr
      | some o =>
        rw [slot?, ho, Option.join_some] at hr
        simp [root_survives wf h0, hr]
    obtain ⟨y, hy⟩ := back?_popWhile _ hx
    rw [destroy_of_live hlive h0, slot?, hy]
    rfl

theorem wellFormed_new : new.WellFormed := by
  have h : ∀ {i r}, new.slot? i = some r → i = 0 ∧ r = ⟨0, none, []⟩ := by
    intro i r hr
    have hi : i < 1 := slot?_lt hr
    obtain rfl : i = 0 := by omega
    exact ⟨rfl, by simpa [new, slot?, eq_comm] using hr⟩
  refine ⟨⟨_, rfl, rfl, rfl⟩, ?_, ?_, ?_, rfl⟩
  · intro i r hr hi; exact absurd (h hr).1 hi
  · intro i j r q hr hq _; rw [(h hr).1, (h hq).1]
  · intro i r hr; rw [(h hr).2]; exact Nat.one_pos

/-- The scopes in the slots determine the arena. -/
theorem slots_eq_of_slot?_eq {t u : ScopeTree} (wt : t.WellFormed) (wu : u.WellFormed)
    (h : ∀ i, t.slot? i = u.slot? i) : t.slots = u.slots := by
  -- both arenas end with a scope, so neither is longer than the other
  have hsize : t.slots.size = u.slots.size := by
    obtain ⟨r, hr⟩ := Option.isSome_iff_exists.1 wt.last
    obtain ⟨q, hq⟩ := Option.isSome_iff_exists.1 wu.last
    have h1 := slot?_lt (t := u) (by rw [← h]; exact hr)
    have h2 := slot?_lt (t := t) (by rw [h]; exact hq)
    have h3 := slot?_lt hr
    have h4 := slot?_lt hq
    omega
  apply Array.ext_getElem?
  intro i
  have hi := h i
  simp only [slot?] at hi
  rcases Nat.lt_or_ge i t.slots.size with hlt | hge
  · rw [Array.getElem?_eq_getElem hlt, Array.getElem?_eq_getElem (hsize ▸ hlt)] at hi ⊢
    simpa using hi
  · rw [Array.getElem?_eq_none hge, Array.getElem?_eq_none (hsize ▸ hge)]

/-! ## Looking names up -/

theorem find?_eq (t : ScopeTree) (id : ScopeId) (name : String) :
    t.find? id name = if t.isLive id then (t.lineage id.index).findSome? (·.2.find? name) else none := by
  unfold find? ancestry
  split
  · rw [List.findSome?_map]; rfl
  · rfl

/-- Two trees with the same scopes around a slot have the same way outward from it. -/
theorem lineage_congr {t u : ScopeTree} (wt : t.WellFormed) (wu : u.WellFormed)
    (h : ∀ j r, t.slot? j = some r → u.slot? j = some r) {i : Nat} {r : ScopeRecord} (hr : t.slot? i = some r) :
    u.lineage i = t.lineage i := by
  refine slot_induction wt (fun i r hr ih => ?_) hr
  rw [lineage_eq wt hr, lineage_eq wu (h i r hr)]
  cases hp : r.parent with
  | none => rfl
  | some p => simp only [Option.map_some, Option.getD_some, ih p hp]

theorem isLive_congr {t u : ScopeTree} (h : t.slots = u.slots) (id : ScopeId) : u.isLive id = t.isLive id := by
  simp only [isLive, record?, slot?, h]

theorem find?_congr {t u : ScopeTree} (wt : t.WellFormed) (wu : u.WellFormed) (h : t.slots = u.slots) (id : ScopeId)
    (name : String) : u.find? id name = t.find? id name := by
  rw [find?_eq, find?_eq, isLive_congr h]
  split
  · next hlive =>
    obtain ⟨r, hr, -⟩ := isLive_iff.1 hlive
    rw [lineage_congr wt wu (fun j r hj => (slot?_congr h j).symm.trans hj) hr]
  · rfl

theorem lineage_addNames {t : ScopeTree} (wf : t.WellFormed) (k : Nat) (names) {i : Nat} {r : ScopeRecord}
    (hr : t.slot? i = some r) :
    (t.addNames k names).lineage i = (t.lineage i).map fun x => (x.1, if x.1 = k then x.2.add names else x.2) := by
  refine slot_induction wf (fun i r hr ih => ?_) hr
  have hr' : (t.addNames k names).slot? i = some (if i = k then r.add names else r) := by
    rw [slot?_addNames, hr]
    split <;> rfl
  have hpar : (if i = k then r.add names else r).parent = r.parent := by split <;> rfl
  rw [lineage_eq (wellFormed_addNames wf k names) hr', lineage_eq wf hr, hpar, List.map_cons]
  cases hp : r.parent with
  | none => rfl
  | some p => simp only [Option.map_some, Option.getD_some, ih p hp]

/-- A scope does not lie outside itself. -/
theorem not_mem_outer_lineage {t : ScopeTree} (wf : t.WellFormed) {i : Nat} {r : ScopeRecord}
    (hr : t.slot? i = some r) : ∀ x ∈ (r.parent.map t.lineage).getD [], x.1 ≠ i := by
  have hn := walk_slots_nodup wf t.slots.size i
  rw [← lineage, lineage_eq wf hr, List.map_cons, List.nodup_cons] at hn
  intro x hx he
  exact hn.1 (List.mem_map.2 ⟨x, hx, he⟩)

/-- Names newly bound in a scope come first; all others are found as before. -/
theorem find?_addNames_self {t : ScopeTree} (wf : t.WellFormed) {id : ScopeId} {r : ScopeRecord}
    (hr : t.record? id = some r) (names : List (String × ValueId)) (name : String) :
    (t.addNames id.index names).find? id name =
      ((names.find? (·.1 == name)).map (·.2)).or (t.find? id name) := by
  obtain ⟨hs, hser⟩ := record?_eq_some.1 hr
  have hlive : t.isLive id = true := isLive_iff.2 ⟨r, hs, hser⟩
  have hlive' : (t.addNames id.index names).isLive id = true :=
    isLive_iff.2 ⟨r.add names, by rw [slot?_addNames, if_pos rfl, hs]; rfl, hser⟩
  -- the scope is not among its own ancestors, and these have the names they had
  have hrest : ((r.parent.map t.lineage).getD []).map
      (fun x => (x.1, if x.1 = id.index then x.2.add names else x.2)) = (r.parent.map t.lineage).getD [] :=
    (List.map_congr_left fun x hx => by rw [if_neg (not_mem_outer_lineage wf hs x hx)]; rfl).trans (List.map_id _)
  rw [find?_eq, find?_eq, if_pos hlive, if_pos hlive', lineage_addNames wf _ _ hs, lineage_eq wf hs, List.map_cons,
    if_pos rfl, hrest, List.findSome?_cons, List.findSome?_cons, ScopeRecord.find?_add]
  cases (names.find? (·.1 == name)).map (·.2) <;> cases r.find? name <;> rfl

/-- A new scope sees what its parent sees. -/
theorem find?_createChild_self {t : ScopeTree} {parent : ScopeId} (hp : t.Usable parent) (name : String) :
    (t.createChild parent).2.find? (t.createChild parent).1 name = t.find? parent name := by
  obtain ⟨wf, hlive⟩ := hp
  have wf' := wellFormed_createChild wf hlive
  obtain ⟨i, hid, -, -, -, hslot⟩ := createChild_spec t parent
  obtain ⟨q, hq, -⟩ := isLive_iff.1 hlive
  have hi := hslot i
  rw [if_pos rfl, hlive] at hi
  rw [find?_eq, find?_eq, if_pos hlive, if_pos (isLive_createChild t parent), hid, lineage_eq wf' hi,
    List.findSome?_cons]
  simp only [if_true, Option.map_some, Option.getD_some, lineage_congr wf wf' (fun _ _ => slot?_createChild_old) hq]
  rfl

/-! ## What happens in a scope -/

/-- The second tree is the first one with more names bound in one scope, none of which it had; scopes may have come and
gone in between. -/
def Grows (t : ScopeTree) (id : ScopeId) (t' : ScopeTree) : Prop :=
  t.nextSerial ≤ t'.nextSerial ∧ ∃ names, t'.slots = (t.addNames id.index names).slots ∧
    ∀ r, t.slot? id.index = some r → ∀ x ∈ names, r.find? x.1 = none

theorem slots_addNames_nil (t : ScopeTree) (index : Nat) : (t.addNames index []).slots = t.slots := by
  apply Array.ext_getElem?
  intro j
  simp only [addNames, Array.getElem?_modify]
  split
  · cases t.slots[j]? with
    | none => rfl
    | some o => cases o <;> rfl
  · rfl

theorem slots_addNames_addNames (t : ScopeTree) (index : Nat) (names more) :
    ((t.addNames index names).addNames index more).slots = (t.addNames index (more ++ names)).slots := by
  apply Array.ext_getElem?
  intro j
  simp only [addNames, Array.getElem?_modify]
  split
  · cases t.slots[j]? with
    | none => rfl
    | some o => cases o <;> simp [ScopeRecord.add_add]
  · rfl

theorem Grows.of_slots_eq {t t' : ScopeTree} (id : ScopeId) (hn : t.nextSerial ≤ t'.nextSerial)
    (h : t'.slots = t.slots) : t.Grows id t' :=
  ⟨hn, [], by rw [slots_addNames_nil, h], nofun⟩

theorem Grows.refl (t : ScopeTree) (id : ScopeId) : t.Grows id t := .of_slots_eq id (Nat.le_refl _) rfl

theorem Grows.trans {t u w : ScopeTree} {id : ScopeId} (h : t.Grows id u) (h' : u.Grows id w) : t.Grows id w := by
  obtain ⟨hn, names, hs, hfree⟩ := h
  obtain ⟨hn', more, hs', hfree'⟩ := h'
  refine ⟨Nat.le_trans hn hn', more ++ names, ?_, fun r hr x hx => ?_⟩
  · rw [hs', ← slots_addNames_addNames]
    simp only [addNames, hs]
  · rcases List.mem_append.1 hx with hx | hx
    · have hu : u.slot? id.index = some (r.add names) := by
        rw [slot?, hs, ← slot?, slot?_addNames, if_pos rfl, hr]
        rfl
      have hnone := hfree' _ hu x hx
      rw [ScopeRecord.find?_add, Option.or_eq_none_iff] at hnone
      exact hnone.2
    · exact hfree r hr x hx

theorem grows_insert {t t' : ScopeTree} {id : ScopeId} {name : String} {v : ValueId}
    (h : t.insert id name v = .ok t') : t.Grows id t' := by
  obtain ⟨r, hr, hnone, rfl⟩ := insert_eq_ok h
  refine ⟨Nat.le_refl _, _, rfl, fun q hq x hx => ?_⟩
  rw [(record?_eq_some.1 hr).1] at hq
  cases hq
  rw [List.mem_singleton.1 hx]
  exact hnone

section Grows
variable {t t' : ScopeTree} {id : ScopeId} (h : t.Grows id t')
include h

theorem Grows.wellFormed (wf : t.WellFormed) : t'.WellFormed := by
  obtain ⟨hn, names, hs, -⟩ := h
  have wf' := wellFormed_addNames wf id.index names
  have hslot := slot?_congr hs
  refine ⟨?_, ?_, ?_, ?_, ?_⟩
  · rw [hslot]; exact wf'.root
  · intro i r hr hi
    rw [hslot] at hr
    obtain ⟨p, q, hp, hq, hlt⟩ := wf'.parent hr hi
    exact ⟨p, q, hp, by rw [hslot]; exact hq, hlt⟩
  · intro i j r q hr hq
    rw [hslot] at hr hq
    exact wf'.distinct hr hq
  · intro i r hr
    rw [hslot] at hr
    exact Nat.lt_of_lt_of_le (wf'.bounded hr) hn
  · rw [hslot, hs]; exact wf'.last

theorem Grows.isLive (other : ScopeId) : t'.isLive other = t.isLive other := by
  obtain ⟨-, names, hs, -⟩ := h
  simp only [ScopeTree.isLive, record?, slot?_congr hs, slot?_addNames]
  split
  · cases t.slot? other.index <;> simp [Option.filter]
    split <;> simp_all
  · rfl

theorem Grows.usable {other : ScopeId} (hu : t.Usable other) : t'.Usable other :=
  ⟨h.wellFormed hu.wf, (h.isLive other).trans hu.live⟩

end Grows

/-- What a name stands for in the root scope stays so. -/
theorem Grows.find?_root {t t' : ScopeTree} (h : t.Grows .root t') (wf : t.WellFormed) {name : String} {v : ValueId}
    (hv : t.find? .root name = some v) : t'.find? .root name = some v := by
  have wf' := h.wellFormed wf
  obtain ⟨-, names, hs, hfree⟩ := h
  obtain ⟨r, hr, hser, hp⟩ := wf.root
  have hroot : t.find? .root name = r.find? name := by
    rw [find?_eq, if_pos wf.usable_root.live, show ScopeId.root.index = 0 from rfl, lineage_eq wf hr, hp,
      List.findSome?_cons]
    cases r.find? name <;> rfl
  rw [find?_congr (wellFormed_addNames wf _ names) wf' hs.symm, find?_addNames_self wf (record?_eq_some.2 ⟨hr, hser⟩),
    hv]
  cases hnew : names.find? (·.1 == name) with
  | none => rfl
  | some x =>
    -- a new name was free before, and this one was not
    have hfree := hfree r hr x (List.mem_of_find?_eq_some hnew)
    have hname : x.1 = name := by simpa using List.find?_some hnew
    rw [hname, ← hroot, hv] at hfree
    cases hfree

/-- A scope that is created, filled and destroyed leaves the arena as it was. -/
theorem destroy_createChild {t u : ScopeTree} {parent : ScopeId} (hp : t.Usable parent)
    (h : (t.createChild parent).2.Grows (t.createChild parent).1 u) :
    (u.destroy (t.createChild parent).1).slots = t.slots := by
  obtain ⟨wf, hlive⟩ := hp
  have wu := h.wellFormed (wellFormed_createChild wf hlive)
  obtain ⟨i, hid, hfree, -, -, hslot⟩ := createChild_spec t parent
  rw [hid] at h ⊢
  obtain ⟨-, names, hs, -⟩ := h
  have hi : i ≠ 0 := by
    rintro rfl
    obtain ⟨r, hr, -⟩ := wf.root
    rw [hfree] at hr; cases hr
  have hu : ∀ j, u.slot? j = if j = i then some ⟨t.nextSerial, some parent.index, names⟩ else t.slot? j := by
    intro j
    rw [slot?_congr hs, slot?_addNames, hslot, hlive]
    by_cases hj : j = i
    · simp [hj, ScopeRecord.add]
    · simp [hj]
  have hchild := hu i
  rw [if_pos rfl] at hchild
  have hchildLive : u.isLive ⟨i, t.nextSerial⟩ = true := isLive_iff.2 ⟨_, hchild, rfl⟩
  -- no scope of the old arena lies inside the new one, since its slot was free
  have hdesc : ∀ j r, t.slot? j = some r → u.descends j i = false := by
    intro j r hr
    refine slot_induction wf (fun j r hr ih => ?_) hr
    have hj : j ≠ i := by rintro rfl; rw [hfree] at hr; cases hr
    have hr' : u.slot? j = some r := by rw [hu, if_neg hj, hr]
    rw [descends_eq wu hr']
    cases hp : r.parent with
    | none => simp [hj]
    | some p => simp [hj, ih p hp]
  refine slots_eq_of_slot?_eq (wellFormed_destroy wu _) wf fun j => ?_
  rw [slot?_destroy hchildLive hi]
  by_cases hj : j = i
  · rw [hj, if_pos, hfree]
    rw [descends_eq wu hchild]
    simp
  · rw [hu, if_neg hj]
    cases hr : t.slot? j with
    | none => simp
    | some r => simp [hdesc j r hr]

end ScopeTree

end ModelImport
