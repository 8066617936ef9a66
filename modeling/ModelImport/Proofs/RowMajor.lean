import Mathlib.Data.List.Forall2
import ModelImport.Numeric.Word
import ModelImport.Tensor.Data
/-!
# Row-major order

The places that `Shape.flatIndex` gives the indices of a shape. `row_major_bijection`: it orders the indices of a shape,
and nothing else, as a dictionary does, and gives each of the places from 0 up to the volume to exactly one of them; so a
tensor answers for exactly these indices, and each of its elements is read at exactly one.

The argument goes axis by axis from the first: the place of an index is its first component times the volume of the other
axes, plus the place of the rest among these (`flatIndex_cons_eq_some_iff`). An axis of size 0 leaves no index, and then
there is nothing to order.

Sizes are natural numbers here. `wordFlatIndex` finds the same place in 64-bit words, which wrap: products on the way
may do so when an axis has size 0, but a place that is asked for never does. Wrapping is what words do in a build without
overflow checks; with checks, such a product on the way ends the run, and what is said of words holds of the shapes
without one.
-/

namespace ModelImport

namespace Shape

variable {dims : List Nat} {d : Nat}

/-! ## Indices and places, one axis at a time -/

@[simp] theorem volume_nil : (Shape.mk []).volume = 1 := rfl

@[simp] theorem volume_cons : (Shape.mk (d :: dims)).volume = d * (Shape.mk dims).volume := rfl

theorem inBounds_iff {index : List Nat} : inBounds index dims ↔ List.Forall₂ (· < ·) index dims := by
  induction index generalizing dims with
  | nil => cases dims <;> simp [inBounds]
  | cons i index ih => cases dims <;> simp [inBounds, ih]

theorem flatIndex_isSome_iff {index : List Nat} :
    ((Shape.mk dims).flatIndex index).isSome ↔ List.Forall₂ (· < ·) index dims := by
  rw [← inBounds_iff, flatIndex]
  split <;> simp [*]

theorem flatIndex_nil_eq_some_iff {index : List Nat} {place : Nat} :
    (Shape.mk []).flatIndex index = some place ↔ index = [] ∧ place = 0 := by
  cases index with
  | nil => simp [flatIndex, inBounds, strides, eq_comm]
  | cons i index => simp [flatIndex, inBounds]

theorem flatIndex_cons_eq_some_iff {index : List Nat} {place : Nat} :
    (Shape.mk (d :: dims)).flatIndex index = some place ↔
      ∃ i rest before, index = i :: rest ∧ i < d ∧ (Shape.mk dims).flatIndex rest = some before ∧
        (Shape.mk dims).volume * i + before = place := by
  cases index with
  | nil => simp [flatIndex, inBounds]
  | cons i rest =>
    have hdot : (List.zipWith (· * ·) (strides (d :: dims)) (i :: rest)).foldr (· + ·) 0
        = (Shape.mk dims).volume * i + (List.zipWith (· * ·) (strides dims) rest).foldr (· + ·) 0 := rfl
    simp only [flatIndex, inBounds, hdot, Bool.and_eq_true, decide_eq_true_eq]
    by_cases hi : i < d
    · by_cases hrest : inBounds rest dims
      · simp [hi, hrest]
      · simp [hrest]
    · simp [hi]

theorem flatIndex_lt_volume {index : List Nat} {place : Nat} (h : (Shape.mk dims).flatIndex index = some place) :
    place < (Shape.mk dims).volume := by
  induction dims generalizing index place with
  | nil =>
    obtain ⟨-, rfl⟩ := flatIndex_nil_eq_some_iff.mp h
    exact Nat.one_pos
  | cons d dims ih =>
    obtain ⟨i, rest, before, -, hi, hrest, rfl⟩ := flatIndex_cons_eq_some_iff.mp h
    have hbefore := ih hrest
    calc (Shape.mk dims).volume * i + before
        < (Shape.mk dims).volume * (i + 1) := by
          rw [Nat.mul_succ]
          omega
      _ ≤ (Shape.mk dims).volume * d := Nat.mul_le_mul_left _ hi
      _ = (Shape.mk (d :: dims)).volume := Nat.mul_comm ..

/-! ## The order of places -/

/-- Numbers of two digits are ordered by the first, then by the second. -/
theorem digits_lt_iff {base i j p q : Nat} (hp : p < base) (hq : q < base) :
    base * i + p < base * j + q ↔ i < j ∨ i = j ∧ p < q := by
  rcases Nat.lt_trichotomy i j with hlt | rfl | hgt
  · have hle : base * (i + 1) ≤ base * j := Nat.mul_le_mul_left _ hlt
    rw [Nat.mul_succ] at hle
    omega
  · omega
  · have hle : base * (j + 1) ≤ base * i := Nat.mul_le_mul_left _ hgt
    rw [Nat.mul_succ] at hle
    omega

theorem flatIndex_lt_iff {index index' : List Nat} {place place' : Nat}
    (h : (Shape.mk dims).flatIndex index = some place) (h' : (Shape.mk dims).flatIndex index' = some place') :
    index < index' ↔ place < place' := by
  induction dims generalizing index index' place place' with
  | nil =>
    obtain ⟨rfl, rfl⟩ := flatIndex_nil_eq_some_iff.mp h
    obtain ⟨rfl, rfl⟩ := flatIndex_nil_eq_some_iff.mp h'
    simp
  | cons d dims ih =>
    obtain ⟨i, rest, before, rfl, -, hrest, rfl⟩ := flatIndex_cons_eq_some_iff.mp h
    obtain ⟨i', rest', before', rfl, -, hrest', rfl⟩ := flatIndex_cons_eq_some_iff.mp h'
    rw [List.cons_lt_cons_iff, digits_lt_iff (flatIndex_lt_volume hrest) (flatIndex_lt_volume hrest'),
      ih hrest hrest']

theorem flatIndex_injective {index index' : List Nat} {place : Nat}
    (h : (Shape.mk dims).flatIndex index = some place) (h' : (Shape.mk dims).flatIndex index' = some place) :
    index = index' := by
  apply List.le_antisymm
  · exact fun hlt => Nat.lt_irrefl _ ((flatIndex_lt_iff h' h).mp hlt)
  · exact fun hlt => Nat.lt_irrefl _ ((flatIndex_lt_iff h h').mp hlt)

theorem exists_flatIndex {place : Nat} (h : place < (Shape.mk dims).volume) :
    ∃ index, (Shape.mk dims).flatIndex index = some place := by
  induction dims generalizing place with
  | nil =>
    have hzero : place = 0 := by simpa using h
    exact ⟨[], flatIndex_nil_eq_some_iff.mpr ⟨rfl, hzero⟩⟩
  | cons d dims ih =>
    rw [volume_cons] at h
    -- no axis of the rest has size 0, or there would be no place at all
    have hpositive : 0 < (Shape.mk dims).volume := by
      apply Nat.pos_of_ne_zero
      intro hzero
      rw [hzero, Nat.mul_zero] at h
      exact Nat.not_lt_zero _ h
    obtain ⟨rest, hrest⟩ := ih (Nat.mod_lt place hpositive)
    have hfirst : place / (Shape.mk dims).volume < d := (Nat.div_lt_iff_lt_mul hpositive).mpr h
    exact ⟨place / (Shape.mk dims).volume :: rest, flatIndex_cons_eq_some_iff.mpr
      ⟨_, _, _, rfl, hfirst, hrest, Nat.div_add_mod ..⟩⟩

theorem existsUnique_flatIndex {place : Nat} (h : place < (Shape.mk dims).volume) :
    ∃! index, (Shape.mk dims).flatIndex index = some place := by
  obtain ⟨index, hindex⟩ := exists_flatIndex h
  exact ⟨index, hindex, fun _ hother => flatIndex_injective hother hindex⟩

/-! ## The same in words -/

/-- The number of elements in 64-bit words, wrapping. -/
def wordVolume (sizes : List UInt64) : UInt64 := sizes.foldl (· * ·) 1

/-- The strides in 64-bit words, wrapping: that of the last axis is 1, that of any other is the next one times the size
there. -/
def wordStrides : List UInt64 → List UInt64
  | [] => []
  | [_] => [1]
  | _ :: size :: sizes =>
    let later := wordStrides (size :: sizes)
    later.headD 1 * size :: later

/-- The place of an index in 64-bit words, wrapping. -/
def wordFlatIndex (sizes index : List UInt64) : Option UInt64 :=
  if List.Forall₂ (· < ·) index sizes then
    some ((List.zipWith (· * ·) (wordStrides sizes) index).foldl (· + ·) 0)
  else none

theorem foldl_mul_eq (sizes : List UInt64) (start : Nat) :
    sizes.foldl (· * ·) (UInt64.ofNat start) = UInt64.ofNat (start * (Shape.mk (sizes.map UInt64.toNat)).volume) := by
  induction sizes generalizing start with
  | nil => simp
  | cons size sizes ih =>
    have hstep : UInt64.ofNat start * size = UInt64.ofNat (start * size.toNat) := by
      rw [UInt64.ofNat_mul, UInt64.ofNat_toNat]
    rw [List.foldl_cons, hstep, ih, List.map_cons, volume_cons, Nat.mul_assoc]

theorem wordVolume_eq (sizes : List UInt64) :
    wordVolume sizes = UInt64.ofNat (Shape.mk (sizes.map UInt64.toNat)).volume := by
  rw [← Nat.one_mul (Shape.volume _)]
  exact foldl_mul_eq sizes 1

theorem toNat_wordVolume {sizes : List UInt64} (hfits : (Shape.mk (sizes.map UInt64.toNat)).volume < Word.count) :
    (wordVolume sizes).toNat = (Shape.mk (sizes.map UInt64.toNat)).volume := by
  rw [wordVolume_eq, UInt64.toNat_ofNat']
  exact Nat.mod_eq_of_lt hfits

theorem wordStrides_eq (sizes : List UInt64) :
    wordStrides sizes = (strides (sizes.map UInt64.toNat)).map UInt64.ofNat := by
  induction sizes with
  | nil => rfl
  | cons first sizes ih =>
    cases sizes with
    | nil => rfl
    | cons size sizes =>
      have hhead : UInt64.ofNat (Shape.mk (sizes.map UInt64.toNat)).volume * size
          = UInt64.ofNat (size.toNat * (Shape.mk (sizes.map UInt64.toNat)).volume) := by
        rw [UInt64.ofNat_mul, UInt64.ofNat_toNat, UInt64.mul_comm]
      rw [wordStrides, ih]
      exact congrArg (· :: _) hhead

theorem foldl_add_eq (terms : List Nat) (start : Nat) :
    (terms.map UInt64.ofNat).foldl (· + ·) (UInt64.ofNat start) = UInt64.ofNat (start + terms.foldr (· + ·) 0) := by
  induction terms generalizing start with
  | nil => simp
  | cons term terms ih =>
    rw [List.map_cons, List.foldl_cons, ← UInt64.ofNat_add, ih, List.foldr_cons, Nat.add_assoc]

theorem wordFlatIndex_of_lt {sizes index : List UInt64} (h : List.Forall₂ (· < ·) index sizes) :
    wordFlatIndex sizes index
      = ((Shape.mk (sizes.map UInt64.toNat)).flatIndex (index.map UInt64.toNat)).map UInt64.ofNat := by
  have hbounds : inBounds (index.map UInt64.toNat) (sizes.map UInt64.toNat) := by
    rw [inBounds_iff, List.forall₂_map_left_iff, List.forall₂_map_right_iff]
    exact h.imp fun _ _ => UInt64.lt_iff_toNat_lt.mp
  have hterms : List.zipWith (· * ·) (wordStrides sizes) index
      = (List.zipWith (· * ·) (strides (sizes.map UInt64.toNat)) (index.map UInt64.toNat)).map UInt64.ofNat := by
    rw [wordStrides_eq, List.map_zipWith, List.zipWith_map_left, List.zipWith_map_right]
    simp
  have hsum := foldl_add_eq (List.zipWith (· * ·) (strides (sizes.map UInt64.toNat)) (index.map UInt64.toNat)) 0
  rw [Nat.zero_add, ← hterms] at hsum
  rw [wordFlatIndex, if_pos h, flatIndex, if_pos hbounds, Option.map_some]
  exact congrArg some hsum

/-- Words give the place of an index wherever the number of elements fits one. -/
theorem wordFlatIndex_eq {sizes : List UInt64} (hfits : (Shape.mk (sizes.map UInt64.toNat)).volume < Word.count)
    (index : List UInt64) :
    (wordFlatIndex sizes index).map UInt64.toNat
      = (Shape.mk (sizes.map UInt64.toNat)).flatIndex (index.map UInt64.toNat) := by
  by_cases h : List.Forall₂ (· < ·) index sizes
  · rw [wordFlatIndex_of_lt h]
    cases hplace : (Shape.mk (sizes.map UInt64.toNat)).flatIndex (index.map UInt64.toNat) with
    | none => rfl
    | some place =>
      have hlt : place < 2 ^ 64 := Nat.lt_trans (flatIndex_lt_volume hplace) hfits
      rw [Option.map_some, Option.map_some, UInt64.toNat_ofNat', Nat.mod_eq_of_lt hlt]
  · have hnone : (Shape.mk (sizes.map UInt64.toNat)).flatIndex (index.map UInt64.toNat) = none := by
      rw [← Option.not_isSome_iff_eq_none, flatIndex_isSome_iff, List.forall₂_map_left_iff, List.forall₂_map_right_iff]
      exact fun hlt => h (hlt.imp fun _ _ => UInt64.lt_iff_toNat_lt.mpr)
    rw [wordFlatIndex, if_neg h, hnone, Option.map_none]

end Shape

/-! ## Tensors -/

namespace Tensor

variable {α : Type} {values : List α} {dims : List Nat} {t : Tensor α}

theorem ofList?_eq_some_iff {shape : Shape} :
    ofList? values shape = some t ↔ values.length = shape.volume ∧ t = ⟨values, shape⟩ := by
  rw [ofList?]
  split <;> simp_all [eq_comm]

theorem get?_of_flatIndex {index : List Nat} {place : Nat} (ht : ofList? values ⟨dims⟩ = some t)
    (hindex : (Shape.mk dims).flatIndex index = some place) : t.get? index = values[place]? := by
  obtain ⟨-, rfl⟩ := ofList?_eq_some_iff.mp ht
  rw [get?, hindex, Option.bind_some]

theorem get?_isSome_iff (ht : ofList? values ⟨dims⟩ = some t) {index : List Nat} :
    (t.get? index).isSome ↔ List.Forall₂ (· < ·) index dims := by
  obtain ⟨hlength, rfl⟩ := ofList?_eq_some_iff.mp ht
  rw [← Shape.flatIndex_isSome_iff]
  cases hindex : (Shape.mk dims).flatIndex index with
  | none => simp [get?, hindex]
  | some place =>
    have hplace : place < values.length := hlength ▸ Shape.flatIndex_lt_volume hindex
    rw [get?_of_flatIndex ht hindex, List.getElem?_eq_getElem hplace, Option.isSome_some, Option.isSome_some]

theorem existsUnique_index (ht : ofList? values ⟨dims⟩ = some t) {place : Nat} (hplace : place < values.length) :
    ∃! index, (Shape.mk dims).flatIndex index = some place ∧ t.get? index = some values[place] := by
  obtain ⟨hlength, -⟩ := ofList?_eq_some_iff.mp ht
  obtain ⟨index, hindex, hunique⟩ := Shape.existsUnique_flatIndex (hlength ▸ hplace)
  refine ⟨index, ⟨hindex, ?_⟩, fun other hother => hunique other hother.1⟩
  rw [get?_of_flatIndex ht hindex, List.getElem?_eq_getElem hplace]

end Tensor

/-- For sizes whose product fits a 64-bit word: the indices that have a place are those of the right rank that are below
the sizes; of two of them the one with the lower place comes first as in a dictionary; and every place below the number
of elements is that of exactly one index. Words that wrap give the same number of elements and the same places. A tensor
made of a list of elements answers for these indices alone, and each element is the answer at exactly one. -/
theorem row_major_bijection (dims : List Nat) (hfits : (Shape.mk dims).volume < Word.count) :
    (∀ index, ((Shape.mk dims).flatIndex index).isSome ↔ List.Forall₂ (· < ·) index dims) ∧
    (∀ index index' place place', (Shape.mk dims).flatIndex index = some place →
      (Shape.mk dims).flatIndex index' = some place' → (index < index' ↔ place < place')) ∧
    (∀ index place, (Shape.mk dims).flatIndex index = some place → place < (Shape.mk dims).volume) ∧
    (∀ place < (Shape.mk dims).volume, ∃! index, (Shape.mk dims).flatIndex index = some place) ∧
    (∀ sizes : List UInt64, sizes.map UInt64.toNat = dims →
      (Shape.wordVolume sizes).toNat = (Shape.mk dims).volume ∧
      ∀ index : List UInt64,
        (Shape.wordFlatIndex sizes index).map UInt64.toNat = (Shape.mk dims).flatIndex (index.map UInt64.toNat)) ∧
    ∀ (α : Type) (values : List α) (t : Tensor α), Tensor.ofList? values ⟨dims⟩ = some t →
      (∀ index, (t.get? index).isSome ↔ List.Forall₂ (· < ·) index dims) ∧
      ∀ place (hplace : place < values.length),
        ∃! index, (Shape.mk dims).flatIndex index = some place ∧ t.get? index = some values[place] := by
  refine ⟨fun _ => Shape.flatIndex_isSome_iff, fun _ _ _ _ => Shape.flatIndex_lt_iff,
    fun _ _ => Shape.flatIndex_lt_volume, fun _ => Shape.existsUnique_flatIndex, ?_, ?_⟩
  · rintro sizes rfl
    exact ⟨Shape.toNat_wordVolume hfits, Shape.wordFlatIndex_eq hfits⟩
  · intro α values t ht
    exact ⟨fun _ => Tensor.get?_isSome_iff ht, fun _ => Tensor.existsUnique_index ht⟩

/-- Six elements in three rows, and a shape without elements whose strides do not fit a word. -/
theorem row_major_bijection_matrix :
    (Shape.mk [3, 2]).volume < Word.count ∧ (∃! index, (Shape.mk [3, 2]).flatIndex index = some 5) ∧
      (Shape.mk [0, 1099511627776, 1099511627776]).volume < Word.count ∧
      ((Shape.wordFlatIndex [0, 1099511627776, 1099511627776] [0, 5, 5]).map UInt64.toNat
        = (Shape.mk [0, 1099511627776, 1099511627776]).flatIndex [0, 5, 5]) :=
  ⟨by decide, (row_major_bijection [3, 2] (by decide)).2.2.2.1 5 (by decide), by decide,
    ((row_major_bijection [0, 1099511627776, 1099511627776] (by decide)).2.2.2.2.1
      [0, 1099511627776, 1099511627776] rfl).2 [0, 5, 5]⟩

end ModelImport
