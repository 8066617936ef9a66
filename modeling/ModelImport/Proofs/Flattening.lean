import Mathlib.Data.List.Perm.Basic
import ModelImport.Proofs.AxisPlaces
import ModelImport.Proofs.ConverterRuns
import ModelImport.Proofs.ReshapeShapes
/-!
# Flattening

A value is flattened at a gap: between two of its axes, before the first or after the last. The axes on either side are
merged into one, which is dynamic if one of them is (`merged`). There is a gap more than there are axes, and that tells
in an axis that is counted from the back: -1 is the gap after the last axis, not the one before it
(`flatten_counts_gaps`). What is emitted is therefore never what counting among the axes would give. The flattened type
is the same where it makes no difference on which side of the axis the value is flattened (`flattenedAt_succ_eq_iff`).
-/

namespace ModelImport

open LookM ConverterM Operator Infer

namespace Infer

/-! ## Merged axes -/

/-- The number of elements along the static axes. -/
def knownVolume (group : List Dim) : Nat := (Shape.mk (group.filterMap Dim.size?)).volume

/-- The axis that a group of axes is merged into: dynamic if one of them is, else of the product of their sizes, as a
word. -/
def merged (group : List Dim) : Dim :=
  if ∃ dim ∈ group, dim.size? = none then .unknown else .static (Word.wrap (knownVolume group))

theorem knownVolume_cons_static (n : Nat) (group : List Dim) :
    knownVolume (.static n :: group) = n * knownVolume group := rfl

theorem knownVolume_cons_dynamic (name : Option String) (group : List Dim) :
    knownVolume (.dynamic name :: group) = knownVolume group := rfl

theorem knownVolume_append (front back : List Dim) :
    knownVolume (front ++ back) = knownVolume front * knownVolume back := by
  induction front with
  | nil => exact (Nat.one_mul _).symm
  | cons dim rest ih =>
    cases dim with
    | static n => rw [List.cons_append, knownVolume_cons_static, knownVolume_cons_static, ih, Nat.mul_assoc]
    | dynamic name => rw [List.cons_append, knownVolume_cons_dynamic, knownVolume_cons_dynamic, ih]

theorem merged_of_dynamic {group : List Dim} (h : ∃ dim ∈ group, dim.size? = none) : merged group = .unknown := if_pos h

theorem merged_of_static {group : List Dim} (h : ¬∃ dim ∈ group, dim.size? = none) :
    merged group = .static (Word.wrap (knownVolume group)) := if_neg h

theorem knownVolume_perm {group group' : List Dim} (h : group.Perm group') : knownVolume group = knownVolume group' :=
  (h.filterMap Dim.size?).foldr_eq 1

theorem merged_perm {group group' : List Dim} (h : group.Perm group') : merged group = merged group' := by
  unfold merged
  simp only [knownVolume_perm h, h.mem_iff]

theorem mapM_size?_eq (group : List Dim) :
    group.mapM Dim.size? = if ∃ dim ∈ group, dim.size? = none then none else some (group.filterMap Dim.size?) := by
  induction group with
  | nil => rfl
  | cons dim rest ih =>
    simp only [List.mapM_cons, ih, List.exists_mem_cons_iff]
    cases dim with
    | dynamic name => exact (if_pos (.inl rfl)).symm
    | static n =>
      have hsize : (Dim.static n).size? = some n := rfl
      by_cases hrest : ∃ dim ∈ rest, dim.size? = none
      · simp [hsize, hrest]
      · simp [hsize, hrest]

theorem ofSize?_product? (group : List Dim) : .ofSize? (product? group) = merged group := by
  unfold product? merged
  rw [mapM_size?_eq]
  split
  · rfl
  · rfl

/-- One more axis does not show in the merged one if its size is 1, or if another one is dynamic already. -/
theorem merged_cons_eq_iff {dim : Dim} {group : List Dim} {total : Nat} (hpart : knownVolume (dim :: group) ∣ total)
    (hpositive : 0 < total) (hfits : total < Word.count) :
    merged (dim :: group) = merged group ↔ dim = .static 1 ∨ ∃ other ∈ group, other.size? = none := by
  by_cases hgroup : ∃ other ∈ group, other.size? = none
  · have hcons : ∃ other ∈ dim :: group, other.size? = none := (List.exists_mem_cons_iff ..).2 (.inr hgroup)
    simp only [merged_of_dynamic hcons, merged_of_dynamic hgroup, hgroup, or_true]
  · simp only [merged_of_static hgroup, hgroup, or_false]
    cases dim with
    | dynamic name =>
      rw [merged_of_dynamic ((List.exists_mem_cons_iff ..).2 (.inl rfl))]
      simp [Dim.unknown]
    | static n =>
      have hcons : ¬∃ other ∈ .static n :: group, other.size? = none := by
        rw [List.exists_mem_cons_iff]
        exact not_or.2 ⟨Option.some_ne_none n, hgroup⟩
      rw [knownVolume_cons_static] at hpart
      have hwrap : ∀ {v}, v ∣ total → Word.wrap v = v := by
        intro v hv
        exact Nat.mod_eq_of_lt (Nat.lt_of_le_of_lt (Nat.le_of_dvd hpositive hv) hfits)
      have hrest : knownVolume group ∣ total := Nat.dvd_trans (Nat.dvd_mul_left ..) hpart
      rw [merged_of_static hcons, knownVolume_cons_static, hwrap hpart, hwrap hrest, Dim.static.injEq,
        Dim.static.injEq, Nat.mul_eq_right (Nat.ne_of_gt (Nat.pos_of_dvd_of_pos hrest hpositive))]

/-! ## Gaps -/

/-- The axes after flattening at a gap. -/
def flattenedAt (dims : List Dim) (gap : Nat) : List Dim := [merged (dims.take gap), merged (dims.drop gap)]

variable {dims : List Dim} {axis : Int} {gap : Nat}

theorem flattenDims_eq_ok_iff {out : List Dim} :
    flattenDims dims axis = .ok (gap, out) ↔
      ((gap : Int) = fromBack (dims.length + 1 : Nat) axis ∧ gap ≤ dims.length) ∧ out = flattenedAt dims gap := by
  unfold flattenDims
  simp only [bind_eq_ok_iff, normalizeAxis_eq_ok_iff, Nat.lt_succ_iff, ofSize?_product?]
  constructor
  · rintro ⟨found, hfound, hresult⟩
    cases hresult
    exact ⟨hfound, rfl⟩
  · rintro ⟨hgap, rfl⟩
    exact ⟨gap, hgap, rfl⟩

/-- Flattening before and after an axis gives the same if the axis has size 1, or if both groups it could be in have a
dynamic axis already. -/
theorem flattenedAt_succ_eq_iff (hgap : gap < dims.length) (hpositive : 0 < knownVolume dims)
    (hfits : knownVolume dims < Word.count) :
    flattenedAt dims (gap + 1) = flattenedAt dims gap ↔
      dims[gap]? = some (.static 1) ∨
        (∃ dim ∈ dims.take gap, dim.size? = none) ∧ ∃ dim ∈ dims.drop (gap + 1), dim.size? = none := by
  have hparts : ∀ gap, knownVolume dims = knownVolume (dims.take gap) * knownVolume (dims.drop gap) := by
    intro gap
    rw [← knownVolume_append, List.take_append_drop]
  have hfront : merged (dims.take (gap + 1)) = merged (dims.take gap) ↔
      dims[gap] = .static 1 ∨ ∃ dim ∈ dims.take gap, dim.size? = none := by
    have hperm : (dims.take (gap + 1)).Perm (dims[gap] :: dims.take gap) := by
      rw [List.take_succ_eq_append_getElem hgap]
      exact List.perm_append_singleton ..
    have hpart : knownVolume (dims[gap] :: dims.take gap) ∣ knownVolume dims := by
      rw [← knownVolume_perm hperm, hparts (gap + 1)]
      exact Nat.dvd_mul_right ..
    rw [merged_perm hperm]
    exact merged_cons_eq_iff hpart hpositive hfits
  have hback : merged (dims.drop (gap + 1)) = merged (dims.drop gap) ↔
      dims[gap] = .static 1 ∨ ∃ dim ∈ dims.drop (gap + 1), dim.size? = none := by
    have hpart : knownVolume (dims.drop gap) ∣ knownVolume dims := by
      rw [hparts gap]
      exact Nat.dvd_mul_left ..
    rw [List.drop_eq_getElem_cons hgap] at hpart ⊢
    rw [eq_comm]
    exact merged_cons_eq_iff hpart hpositive hfits
  rw [flattenedAt, flattenedAt, List.cons.injEq, List.cons.injEq, hfront, hback, List.getElem?_eq_getElem hgap,
    Option.some.injEq]
  simp only [and_true, ← or_and_left]

end Infer

/-! ## The nodes -/

/-- A node that flattens its operand at an axis, the second one if none is stored. -/
structure Site.Flattens (site : Site) (x : TensorType) (axis : Int) : Prop where
  typed : site.Typed 0 x
  inputs : site.operands.length = 1
  outputs : site.node.outputs.length = 1
  along : ∃ stored : Option Int, site.Stores .int "axis" stored ∧ stored.getD 1 = axis

/-- What a node that flattens its operand at a gap is lowered to. -/
def Site.flattened (site : Site) (element : ElementType) (dims : List Dim) (gap : Nat) : Lowering :=
  ⟨[], some (.instruction (site.instruction [("axis", .int gap)] [.ranked element (flattenedAt dims gap)]))⟩

namespace Operator
variable {site : Site} {element : ElementType} {dims : List Dim} {axis : Int} {gap : Nat}

theorem lowers_flatten (g : site.Flattens (.ranked element dims) axis)
    (hgap : (gap : Int) = fromBack (dims.length + 1 : Nat) axis) (hbound : gap ≤ dims.length) :
    Lowers site flatten (site.flattened element dims gap) := by
  obtain ⟨stored, hstored, rfl⟩ := g.along
  refine .bind (.bind (.checkInputs_exact g.inputs) (.checkOutputs_exact g.outputs)) (.bind (.attrOr hstored) ?_)
  exact .bind (.inputType g.typed) (.bind (.lift (flattenDims_eq_ok_iff.2 ⟨⟨hgap, hbound⟩, rfl⟩)) .emit)

theorem refuses_flatten (g : site.Flattens (.ranked element dims) axis) {e : ImportError}
    (h : flattenDims dims axis = .error e) : Refuses site flatten e := by
  obtain ⟨stored, hstored, rfl⟩ := g.along
  refine .bind (.bind (.checkInputs_exact g.inputs) (.checkOutputs_exact g.outputs)) (.bind (.attrOr hstored) ?_)
  exact .bind (.inputType g.typed) (.of_fails (.lift h))

end Operator

/-- A value of known rank can be flattened at every gap and nowhere else, and an axis counted from the back is counted
among the gaps, of which there is one more than there are axes. Counting it among the axes gives the gap before, so the
emitted axis is another one. The type is the same only if the axis between the two gaps has size 1, or if there are
dynamic axes both before and after it, as long as there are elements and their number fits into a word. -/
theorem flatten_counts_gaps {converter : Converter} (hfind : Registry.builtin.find? "Flatten" = some converter)
    {site : Site} {element : ElementType} {dims : List Dim} {axis : Int}
    (g : site.Flattens (.ranked element dims) axis) :
    (¬(-(dims.length + 1 : Int) ≤ axis ∧ axis ≤ dims.length) → ∃ e, converter.Refuses site e) ∧
    (-(dims.length + 1 : Int) ≤ axis ∧ axis ≤ dims.length → ∃ gap : Nat,
      (gap : Int) = fromBack (dims.length + 1 : Nat) axis ∧ converter.Lowers site (site.flattened element dims gap)) ∧
    ∀ site' : Site, -(dims.length : Int) ≤ axis → axis < 0 →
      site'.Flattens (.ranked element dims) (axis + dims.length) → ∃ gap : Nat, (gap : Int) = axis + dims.length ∧
        converter.Lowers site (site.flattened element dims (gap + 1)) ∧
        converter.Lowers site' (site'.flattened element dims gap) ∧
        (0 < knownVolume dims → knownVolume dims < Word.count →
          (flattenedAt dims (gap + 1) = flattenedAt dims gap ↔ dims[gap]? = some (.static 1) ∨
            (∃ dim ∈ dims.take gap, dim.size? = none) ∧ ∃ dim ∈ dims.drop (gap + 1), dim.size? = none)) := by
  obtain rfl : Converter.of flatten = converter := Option.some.inj hfind
  refine ⟨?_, ?_, ?_⟩
  · intro hout
    cases hdims : flattenDims dims axis with
    | error e => exact ⟨e, (refuses_flatten g hdims).converter⟩
    | ok r =>
      obtain ⟨⟨hgap, hbound⟩, -⟩ := flattenDims_eq_ok_iff.1 hdims
      have hrange : 0 ≤ fromBack (dims.length + 1 : Nat) axis ∧
          fromBack (dims.length + 1 : Nat) axis < (dims.length + 1 : Nat) := by omega
      rw [fromBack_mem_range_iff] at hrange
      omega
  · rintro ⟨hlow, hhigh⟩
    have hrange : -((dims.length + 1 : Nat) : Int) ≤ axis ∧ axis < (dims.length + 1 : Nat) := by omega
    obtain ⟨hfirst, hlast⟩ := fromBack_mem_range_iff.2 hrange
    obtain ⟨gap, hgap⟩ := Int.eq_ofNat_of_zero_le hfirst
    exact ⟨gap, hgap.symm, (lowers_flatten g hgap.symm (by omega)).converter⟩
  · intro site' hlow hneg g'
    obtain ⟨gap, hgap⟩ := Int.eq_ofNat_of_zero_le (show 0 ≤ axis + dims.length by omega)
    have hbound : gap < dims.length := by omega
    have hafter : ((gap + 1 : Nat) : Int) = fromBack (dims.length + 1 : Nat) axis := by
      rw [fromBack, if_pos hneg]
      omega
    have hbefore : (gap : Int) = fromBack (dims.length + 1 : Nat) (axis + dims.length) := by
      rw [hgap, fromBack_natCast]
    refine ⟨gap, hgap.symm, (lowers_flatten g hafter hbound).converter,
      (lowers_flatten g' hbefore (Nat.le_of_lt hbound)).converter, ?_⟩
    exact flattenedAt_succ_eq_iff hbound

/-- An axis of size 3 between two dynamic ones does not show in the flattened type, on whichever side of it the value
is flattened. Only the emitted axis tells. -/
theorem surrounded_axis_flattens_alike :
    let dims := [Dim.dynamic (some "n"), .static 3, .dynamic (some "m")]
    let site := fun axis => sampleSite "Flatten" ["y"] [.ranked .f32 dims] [("axis", .int axis)]
    (site (-2)).Flattens (.ranked .f32 dims) (-2) ∧ (site 1).Flattens (.ranked .f32 dims) 1 ∧
      (Converter.of flatten).Lowers (site (-2)) ((site (-2)).flattened .f32 dims 2) ∧
      (Converter.of flatten).Lowers (site 1) ((site 1).flattened .f32 dims 1) ∧
      flattenedAt dims 2 = flattenedAt dims 1 := by
  intro dims site
  have g : ∀ axis, (site axis).Flattens (.ranked .f32 dims) axis :=
    fun axis => ⟨⟨⟨0⟩, rfl, rfl⟩, rfl, rfl, some axis, rfl, rfl⟩
  have hgap : -2 + (dims.length : Int) = 1 := rfl
  obtain ⟨gap, hfound, hafter, hbefore, hsame⟩ :=
    (flatten_counts_gaps rfl (g (-2))).2.2 (site 1) (by decide) (by decide) (hgap ▸ g 1)
  obtain rfl : gap = 1 := Int.ofNat.inj (hfound.trans hgap)
  exact ⟨g (-2), g 1, hafter, hbefore, (hsame (by decide) (by decide)).2 (by decide)⟩

/-- The last of three axes is merged with the others if it is counted from the back, and stays apart if it is counted
from the front. -/
theorem last_axis_merged_from_back :
    let x := TensorType.ranked .f32 [.static 2, .static 3, .static 4]
    let site := fun axis => sampleSite "Flatten" ["y"] [x] [("axis", .int axis)]
    (Converter.of flatten).Emits (site (-1))
        ((site (-1)).instruction [("axis", .int 3)] [.ranked .f32 [.static 24, .static 1]]) ∧
      (Converter.of flatten).Emits (site 2)
        ((site 2).instruction [("axis", .int 2)] [.ranked .f32 [.static 6, .static 4]]) :=
  ⟨⟨_, fun _ => rfl⟩, ⟨_, fun _ => rfl⟩⟩

end ModelImport
