import ModelImport.Infer.MatMul
import ModelImport.Proofs.Broadcasting
/-!
# What matrix products infer

The product of two shapes, with a single axis taken as a row on the left and as a column on the right, and what the
inferred type says of it. `matMul_sound`: where the product of two values is defined, its shape is one that the inferred
type stands for, for the same sizes of the named axes; and nothing is given away, since only an unknown rank leaves the
rank unknown and operands of fixed sizes have a product of fixed sizes.
-/

namespace ModelImport

open Infer

/-! ## Products of shapes -/

/-- A left operand with at least a row: a single axis is one. -/
def promoteLeft (shape : List Nat) : List Nat := if shape.length = 1 then 1 :: shape else shape

/-- A right operand with at least a column: a single axis is one. -/
def promoteRight (shape : List Nat) : List Nat := if shape.length = 1 then shape ++ [1] else shape

/-- The axes before the matrices. -/
def leadingAxes (shape : List Nat) : List Nat := shape.take (shape.length - 2)

/-- The product of two shapes is defined when both have an axis, the columns on the left are as many as the rows on the
right, and the axes before the matrices broadcast. -/
def MatMulDefined (a b : List Nat) : Prop :=
  a ≠ [] ∧ b ≠ [] ∧ axis? 0 (promoteLeft a) = axis? 1 (promoteRight b) ∧
    Broadcastable [leadingAxes (promoteLeft a), leadingAxes (promoteRight b)]

instance (a b : List Nat) : Decidable (MatMulDefined a b) := inferInstanceAs (Decidable (_ ∧ _ ∧ _ ∧ _))

/-- The shape of a product: the rows of the left operand and the columns of the right one, less those that were added,
after the axes before the matrices. -/
def matMulShape (a b : List Nat) : List Nat :=
  broadcastShape [leadingAxes (promoteLeft a), leadingAxes (promoteRight b)]
    ++ (if a.length = 1 then [] else (axis? 1 (promoteLeft a)).toList)
    ++ (if b.length = 1 then [] else (axis? 0 (promoteRight b)).toList)

namespace Infer

variable {R : Dim → Nat → Prop}

/-! ## The parts of an operand -/

theorem toList_axis?_zero (shape : List Nat) : (axis? 0 shape).toList = shape.drop (shape.length - 1) := by
  rcases List.eq_nil_or_concat shape with rfl | ⟨rest, last, rfl⟩
  · rfl
  · simp [axis?]

theorem toList_axis?_one {shape : List Nat} (h : 2 ≤ shape.length) :
    (axis? 1 shape).toList = (shape.drop (shape.length - 2)).take 1 := by
  have hlast : shape.length - 1 - 1 = shape.length - 2 := by omega
  rw [List.take_one, List.head?_drop, axis?, List.getElem?_reverse h, hlast]

/-- The axes before the matrix and the axis of rows of a left operand follow those of its shape. -/
theorem leftRows_related {dims : List Dim} {shape : List Nat} (h : List.Forall₂ R dims shape) (hne : shape ≠ []) :
    ∃ batch rows, leftRows dims = some (batch, rows) ∧
      List.Forall₂ R batch (leadingAxes (promoteLeft shape)) ∧
      List.Forall₂ R rows (if shape.length = 1 then [] else (axis? 1 (promoteLeft shape)).toList) := by
  have hlength := h.length_eq
  match dims, shape, h with
  | [], [], _ => exact absurd rfl hne
  | [_], [_], _ => exact ⟨[], [], rfl, .nil, .nil⟩
  | d₁ :: d₂ :: dims, n₁ :: n₂ :: shape, h =>
    have hnot : (n₁ :: n₂ :: shape).length ≠ 1 := by simp
    refine ⟨_, _, rfl, ?_, ?_⟩
    · rw [promoteLeft, if_neg hnot, leadingAxes, hlength]
      exact List.forall₂_take _ h
    · rw [if_neg hnot, promoteLeft, if_neg hnot, toList_axis?_one (by simp), hlength]
      exact List.forall₂_take _ (List.forall₂_drop _ h)

/-- The axes before the matrix and the axis of columns of a right operand follow those of its shape. -/
theorem rightColumns_related {dims : List Dim} {shape : List Nat} (h : List.Forall₂ R dims shape) (hne : shape ≠ []) :
    ∃ batch columns, rightColumns dims = some (batch, columns) ∧
      List.Forall₂ R batch (leadingAxes (promoteRight shape)) ∧
      List.Forall₂ R columns (if shape.length = 1 then [] else (axis? 0 (promoteRight shape)).toList) := by
  have hlength := h.length_eq
  match dims, shape, h with
  | [], [], _ => exact absurd rfl hne
  | [_], [_], _ => exact ⟨[], [], rfl, .nil, .nil⟩
  | d₁ :: d₂ :: dims, n₁ :: n₂ :: shape, h =>
    have hnot : (n₁ :: n₂ :: shape).length ≠ 1 := by simp
    refine ⟨_, _, rfl, ?_, ?_⟩
    · rw [promoteRight, if_neg hnot, leadingAxes, hlength]
      exact List.forall₂_take _ h
    · rw [if_neg hnot, promoteRight, if_neg hnot, toList_axis?_zero, hlength]
      exact List.forall₂_drop _ h

/-- Ranked operands: the inferred axes follow the shape of the product. -/
theorem Tracks.matMul (hR : Tracks R) {a b : List Dim} {s t : List Nat} (ha : List.Forall₂ R a s)
    (hb : List.Forall₂ R b t) (hdefined : MatMulDefined s t) :
    ∃ dims, matMulDims a b = some dims ∧ List.Forall₂ R dims (matMulShape s t) := by
  obtain ⟨hs, ht, -, hbroadcast⟩ := hdefined
  obtain ⟨batchA, rows, hleft, hbatchA, hrows⟩ := leftRows_related ha hs
  obtain ⟨batchB, columns, hright, hbatchB, hcolumns⟩ := rightColumns_related hb ht
  have hbatch : List.Forall₂ R (broadcastDims [batchA, batchB])
      (broadcastShape [leadingAxes (promoteLeft s), leadingAxes (promoteRight t)]) :=
    hR.broadcast (.cons hbatchA (.cons hbatchB .nil)) hbroadcast
  refine ⟨broadcastDims [batchA, batchB] ++ rows ++ columns, ?_, ?_⟩
  · simp [matMulDims, hleft, hright]
  · exact List.rel_append (List.rel_append hbatch hrows) hcolumns

theorem shape_matMulType (a b : TensorType) :
    (matMulType a b).shape = a.shape.bind fun dims => b.shape.bind (matMulDims dims) := by
  rw [matMulType]
  cases ha : a.shape with
  | none => rfl
  | some dims =>
    cases hb : b.shape with
    | none => rfl
    | some dims' =>
      cases h : matMulDims dims dims' <;> simp [h, TensorType.ofDims?, TensorType.ranked, TensorType.unranked]

end Infer

/-- Values whose shapes their types admit and whose product is defined have a product whose shape the inferred type
admits, for the same sizes of the named axes. The rank of the product is known if those of the operands are, and its
sizes are fixed if theirs are. Two single axes have a product without axes. -/
theorem matMul_sound (sizes : String → Nat) (a b : TensorType) (s t : List Nat) (ha : a.Admits sizes s)
    (hb : b.Admits sizes t) (hdefined : MatMulDefined s t) :
    (matMulType a b).Admits sizes (matMulShape s t) ∧
      ((matMulType a b).shape = none ↔ a.shape = none ∨ b.shape = none) ∧
      (a.sizes? = some s → b.sizes? = some t → (matMulType a b).sizes? = some (matMulShape s t)) ∧
      (s.length = 1 → t.length = 1 → matMulShape s t = []) := by
  refine ⟨?_, ?_, ?_, ?_⟩
  · intro dims hdims
    rw [shape_matMulType] at hdims
    obtain ⟨dimsA, hdimsA, hdims⟩ := Option.bind_eq_some_iff.mp hdims
    obtain ⟨dimsB, hdimsB, hdims⟩ := Option.bind_eq_some_iff.mp hdims
    obtain ⟨dims', hdims', hrelated⟩ := (tracks_admits sizes).matMul (ha _ hdimsA) (hb _ hdimsB) hdefined
    cases hdims.symm.trans hdims'
    exact hrelated
  · rw [shape_matMulType]
    constructor
    · intro hnone
      by_contra hranked
      obtain ⟨hrankA, hrankB⟩ := not_or.mp hranked
      obtain ⟨dimsA, hdimsA⟩ := Option.ne_none_iff_exists'.mp hrankA
      obtain ⟨dimsB, hdimsB⟩ := Option.ne_none_iff_exists'.mp hrankB
      obtain ⟨dims, hdims, -⟩ := (tracks_admits sizes).matMul (ha _ hdimsA) (hb _ hdimsB) hdefined
      simp [hdimsA, hdimsB, hdims] at hnone
    · rintro (hnone | hnone) <;> simp [hnone]
  · intro hfixedA hfixedB
    obtain ⟨dimsA, hdimsA, hrelatedA⟩ := sizes?_eq_some_iff.mp hfixedA
    obtain ⟨dimsB, hdimsB, hrelatedB⟩ := sizes?_eq_some_iff.mp hfixedB
    obtain ⟨dims, hdims, hrelated⟩ := tracks_static.matMul hrelatedA hrelatedB hdefined
    refine sizes?_eq_some_iff.mpr ⟨dims, ?_, hrelated⟩
    simp [shape_matMulType, hdimsA, hdimsB, hdims]
  · intro hs ht
    obtain ⟨m, rfl⟩ := List.length_eq_one_iff.mp hs
    obtain ⟨n, rfl⟩ := List.length_eq_one_iff.mp ht
    rfl

/-- Stacks of different ranks, with axes known by name, by size and not at all. -/
theorem matMul_sound_batch :
    let a : TensorType := .ranked .f32 [.dynamic (some "batch"), .static 1, .dynamic none, .static 3]
    let b : TensorType := .ranked .f32 [.static 5, .static 3, .dynamic (some "width")]
    let sizes : String → Nat := fun name => if name = "batch" then 2 else 7
    a.Admits sizes [2, 1, 4, 3] ∧ b.Admits sizes [5, 3, 7] ∧ MatMulDefined [2, 1, 4, 3] [5, 3, 7] ∧
      matMulType a b = .ranked .f32 [.dynamic (some "batch"), .static 5, .dynamic none, .dynamic (some "width")] ∧
      matMulShape [2, 1, 4, 3] [5, 3, 7] = [2, 5, 4, 7] ∧
      (matMulType a b).Admits sizes (matMulShape [2, 1, 4, 3] [5, 3, 7]) :=
  ⟨by decide, by decide, by decide, by decide, by decide,
    (matMul_sound _ _ _ _ _ (by decide) (by decide) (by decide)).1⟩

end ModelImport
