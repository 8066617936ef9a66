import ModelImport.Infer.Slice
/-!
# Places of axes

An axis may be counted from the back, so a list of axes is first turned into places. `normalizeAxes_eq_ok_iff`: the
places are the axes counted from the front, one for one, and they are within the rank and distinct. A list that has such
places is `ValidAxes`, and nothing else is asked of it. Places are axes in their own right and stay as they are
(`normalizeAxes_places`).
-/

namespace ModelImport

namespace Infer

variable {key : String} {rank : Nat} {axes : List Int} {places : List Nat}

/-! ## One axis -/

theorem fromBack_natCast (rank place : Nat) : fromBack rank place = place := if_neg (by omega)

theorem normalizeAxis_eq (key : String) (axis : Int) (rank : Nat) :
    normalizeAxis key axis rank =
      if 0 ≤ fromBack rank axis ∧ fromBack rank axis < rank then .ok (fromBack rank axis).toNat
      else .error (.invalidAttribute key s!"axis {axis} out of range for rank {rank}") := rfl

theorem normalizeAxis_eq_ok_iff {axis : Int} {place : Nat} :
    normalizeAxis key axis rank = .ok place ↔ (place : Int) = fromBack rank axis ∧ place < rank := by
  rw [normalizeAxis_eq]
  generalize fromBack rank axis = found
  split
  · rw [Except.ok.injEq]
    omega
  · simp only [reduceCtorEq, false_iff]
    omega

theorem lt_of_normalizeAxis {axis : Int} {place : Nat} (h : normalizeAxis key axis rank = .ok place) : place < rank :=
  (normalizeAxis_eq_ok_iff.1 h).2

theorem fromBack_mem_range_iff {axis : Int} :
    (0 ≤ fromBack rank axis ∧ fromBack rank axis < rank) ↔ (-(rank : Int) ≤ axis ∧ axis < rank) := by
  unfold fromBack
  split
  · omega
  · omega

/-! ## Lists of axes -/

/-- The axes are within the rank, counted from either end, and no two of them are the same one. -/
structure ValidAxes (rank : Nat) (axes : List Int) : Prop where
  inRange : ∀ axis ∈ axes, -(rank : Int) ≤ axis ∧ axis < rank
  distinct : (axes.map (fromBack rank)).Nodup

/-- The places are within the rank and distinct. -/
structure ValidPlaces (rank : Nat) (places : List Nat) : Prop where
  inRange : ∀ place ∈ places, place < rank
  distinct : places.Nodup

theorem normalizeAxesAfter_eq_ok_iff {seen : List Nat} :
    normalizeAxesAfter key rank seen axes = .ok places ↔
      places.map Int.ofNat = axes.map (fromBack rank) ∧ ValidPlaces rank places ∧ ∀ place ∈ places, place ∉ seen := by
  induction axes generalizing seen places with
  | nil =>
    have hnil : normalizeAxesAfter key rank seen [] = .ok [] := rfl
    rw [hnil]
    constructor
    · rintro ⟨⟩
      exact ⟨rfl, ⟨by simp, .nil⟩, by simp⟩
    · rintro ⟨hmap, -⟩
      rw [List.map_eq_nil_iff.1 hmap]
  | cons axis rest ih =>
    rw [normalizeAxesAfter, bind_eq_ok_iff]
    constructor
    · rintro ⟨place, hplace, h⟩
      obtain ⟨hfound, hlt⟩ := normalizeAxis_eq_ok_iff.1 hplace
      split at h
      · cases h
      · next hfresh =>
        obtain ⟨others, hothers, hresult⟩ := bind_eq_ok_iff.1 h
        cases hresult
        obtain ⟨hmap, hvalid, hseen⟩ := ih.1 hothers
        -- the rest avoids this place, since it has been seen by then
        have hnew : place ∉ others := fun hmem => hseen place hmem List.mem_cons_self
        refine ⟨?_, ⟨?_, List.nodup_cons.2 ⟨hnew, hvalid.distinct⟩⟩, ?_⟩
        · rw [List.map_cons, List.map_cons, hmap, ← hfound]
          rfl
        · exact List.forall_mem_cons.2 ⟨hlt, hvalid.inRange⟩
        · refine List.forall_mem_cons.2 ⟨hfresh, ?_⟩
          intro other hother hbefore
          exact hseen other hother (List.mem_cons_of_mem _ hbefore)
    · rintro ⟨hmap, hvalid, hseen⟩
      cases places with
      | nil => cases hmap
      | cons place others =>
        rw [List.map_cons, List.map_cons, List.cons.injEq] at hmap
        obtain ⟨hnew, hdistinct⟩ := List.nodup_cons.1 hvalid.distinct
        obtain ⟨hlt, hrange⟩ := List.forall_mem_cons.1 hvalid.inRange
        obtain ⟨hfresh, hseen⟩ := List.forall_mem_cons.1 hseen
        have hothers : normalizeAxesAfter key rank (place :: seen) rest = .ok others := by
          refine ih.2 ⟨hmap.2, ⟨hrange, hdistinct⟩, ?_⟩
          intro other hother hbefore
          rcases List.mem_cons.1 hbefore with rfl | hbefore
          · exact hnew hother
          · exact hseen other hother hbefore
        refine ⟨place, normalizeAxis_eq_ok_iff.2 ⟨hmap.1, hlt⟩, ?_⟩
        rw [if_neg hfresh]
        exact bind_eq_ok_iff.2 ⟨others, hothers, rfl⟩

/-- The places of axes are the axes counted from the front, within the rank and distinct. -/
theorem normalizeAxes_eq_ok_iff :
    normalizeAxes key axes rank = .ok places ↔
      places.map Int.ofNat = axes.map (fromBack rank) ∧ ValidPlaces rank places := by
  simp [normalizeAxes, normalizeAxesAfter_eq_ok_iff]

theorem lt_of_normalizeAxes (h : normalizeAxes key axes rank = .ok places) : ∀ place ∈ places, place < rank :=
  (normalizeAxes_eq_ok_iff.1 h).2.inRange

theorem length_normalizeAxes (h : normalizeAxes key axes rank = .ok places) : places.length = axes.length := by
  simpa using congrArg List.length (normalizeAxes_eq_ok_iff.1 h).1

/-- Places are axes counted from the front. -/
theorem normalizeAxes_places (key : String) (h : ValidPlaces rank places) :
    normalizeAxes key (places.map Int.ofNat) rank = .ok places := by
  refine normalizeAxes_eq_ok_iff.2 ⟨?_, h⟩
  rw [List.map_map]
  exact List.map_congr_left fun place _ => (fromBack_natCast rank place).symm

/-- Axes have places exactly if they are valid. -/
theorem normalizeAxes_succeeds_iff (key : String) :
    (∃ places, normalizeAxes key axes rank = .ok places) ↔ ValidAxes rank axes := by
  constructor
  · rintro ⟨places, h⟩
    obtain ⟨hmap, hvalid⟩ := normalizeAxes_eq_ok_iff.1 h
    refine ⟨?_, ?_⟩
    · intro axis haxis
      have hfound : fromBack rank axis ∈ places.map Int.ofNat := hmap ▸ List.mem_map_of_mem haxis
      obtain ⟨place, hplace, heq⟩ := List.mem_map.1 hfound
      have hlt := hvalid.inRange place hplace
      apply fromBack_mem_range_iff.1
      rw [← heq]
      simpa using hlt
    · rw [← hmap]
      exact List.Pairwise.map _ (fun a b hne heq => hne (Int.ofNat.inj heq)) hvalid.distinct
  · intro h
    have hfound : ∀ axis ∈ axes, ((fromBack rank axis).toNat : Int) = fromBack rank axis ∧
        (fromBack rank axis).toNat < rank := by
      intro axis haxis
      have hrange := fromBack_mem_range_iff.2 (h.inRange axis haxis)
      omega
    have hmap : (axes.map fun axis => (fromBack rank axis).toNat).map Int.ofNat = axes.map (fromBack rank) := by
      rw [List.map_map]
      exact List.map_congr_left fun axis haxis => (hfound axis haxis).1
    refine ⟨_, normalizeAxes_eq_ok_iff.2 ⟨hmap, ?_, ?_⟩⟩
    · intro place hplace
      obtain ⟨axis, haxis, rfl⟩ := List.mem_map.1 hplace
      exact (hfound axis haxis).2
    · have hdistinct := h.distinct
      rw [← hmap] at hdistinct
      exact List.Pairwise.of_map _ (fun a b hne heq => hne (congrArg Int.ofNat heq)) hdistinct

end Infer

end ModelImport
