import Mathlib.Data.List.Forall2
import ModelImport.Infer.Broadcast
/-!
# What broadcasting infers

A type stands for the shapes its values may have at run time: a fixed axis for its size, a named one for the size the
name is given, an unnamed one for any. `broadcast_sound`: where operands of such shapes broadcast, the shape of the
result is one the inferred type stands for. `broadcast_order_irrelevant`: operands whose sizes agree give the same axes
in any order, and the axes are those that `Joins` describes.

Shapes are aligned at their last axes, so everything here counts axes from the end. Seen from there, the axes of
operands of lower rank are missing rather than filled up, and an axis of the result is a fold over the axes that exist
(`axis?_broadcastDims`).
-/

namespace ModelImport

/-! ## The shapes a type stands for -/

/-- The sizes that an axis may have, when named axes have the sizes `sizes` gives them. -/
def Dim.Admits (sizes : String → Nat) : Dim → Nat → Prop
  | .static size, n => n = size
  | .dynamic (some name), n => n = sizes name
  | .dynamic none, _ => True

instance (sizes : String → Nat) : (dim : Dim) → (n : Nat) → Decidable (dim.Admits sizes n)
  | .static size, n => inferInstanceAs (Decidable (n = size))
  | .dynamic (some name), n => inferInstanceAs (Decidable (n = sizes name))
  | .dynamic none, _ => inferInstanceAs (Decidable True)

/-- The shapes that values of a type may have, when named axes have the sizes `sizes` gives them. -/
def TensorType.Admits (sizes : String → Nat) (t : TensorType) (shape : List Nat) : Prop :=
  ∀ dims ∈ t.shape, List.Forall₂ (Dim.Admits sizes) dims shape

instance (sizes : String → Nat) (t : TensorType) (shape : List Nat) : Decidable (t.Admits sizes shape) :=
  inferInstanceAs (Decidable (∀ dims ∈ t.shape, List.Forall₂ (Dim.Admits sizes) dims shape))

/-! ## Axes counted from the end -/

/-- The axis with the given number of axes after it. -/
def axis? {α : Type} (i : Nat) (shape : List α) : Option α := shape.reverse[i]?

/-- The axes that shapes have at one place. -/
def axesAt {α : Type} (i : Nat) (shapes : List (List α)) : List α := shapes.filterMap (axis? i)

/-- The rank of the result. -/
def commonRank {α : Type} (shapes : List (List α)) : Nat := (shapes.map List.length).foldl max 0

section Axes

variable {α β : Type} {i : Nat}

theorem axis?_eq_none_iff {shape : List α} : axis? i shape = none ↔ shape.length ≤ i := by
  simp [axis?]

theorem ext_axis? {shape shape' : List α} (h : ∀ i, axis? i shape = axis? i shape') : shape = shape' :=
  List.reverse_injective (List.ext_getElem? h)

theorem axesAt_cons (shape : List α) (shapes : List (List α)) :
    axesAt i (shape :: shapes) = (axis? i shape).toList ++ axesAt i shapes := by
  cases h : axis? i shape <;> simp [axesAt, h]

theorem le_foldl_max (ranks : List Nat) : ∀ start : Nat,
    start ≤ ranks.foldl max start ∧ ∀ rank ∈ ranks, rank ≤ ranks.foldl max start := by
  induction ranks with
  | nil => simp
  | cons rank ranks ih =>
    intro start
    obtain ⟨hstart, hall⟩ := ih (max start rank)
    simp only [List.foldl_cons, List.mem_cons, forall_eq_or_imp]
    exact ⟨by omega, by omega, hall⟩

theorem length_le_commonRank {shapes : List (List α)} {shape : List α} (h : shape ∈ shapes) :
    shape.length ≤ commonRank shapes :=
  (le_foldl_max (shapes.map List.length) 0).2 _ (List.mem_map_of_mem h)

theorem forall₂_iff_getElem? {R : α → β → Prop} {xs : List α} {ys : List β} :
    List.Forall₂ R xs ys ↔ ∀ i : Nat, Option.Rel R xs[i]? ys[i]? := by
  constructor
  · intro h i
    induction h generalizing i with
    | nil => exact .none
    | cons hxy _ ih =>
      cases i with
      | zero => exact .some hxy
      | succ i => exact ih i
  · intro h
    induction xs generalizing ys with
    | nil =>
      cases ys with
      | nil => exact .nil
      | cons y ys => cases h 0
    | cons x xs ih =>
      cases ys with
      | nil => cases h 0
      | cons y ys =>
        have hxy : R x y := by
          cases h 0 with
          | some hxy => exact hxy
        exact .cons hxy (ih fun i => h (i + 1))

theorem forall₂_iff_axis? {R : α → β → Prop} {xs : List α} {ys : List β} :
    List.Forall₂ R xs ys ↔ ∀ i, Option.Rel R (axis? i xs) (axis? i ys) := by
  rw [← List.forall₂_reverse_iff]
  exact forall₂_iff_getElem?

theorem forall₂_axesAt {R : α → β → Prop} {xss : List (List α)} {yss : List (List β)}
    (h : List.Forall₂ (List.Forall₂ R) xss yss) (i : Nat) : List.Forall₂ R (axesAt i xss) (axesAt i yss) :=
  List.rel_filterMap (fun _ _ hxs => forall₂_iff_axis?.mp hxs i) h

theorem axesAt_of_le {shapes : List (List α)} (h : commonRank shapes ≤ i) : axesAt i shapes = [] := by
  simp only [axesAt, List.filterMap_eq_nil_iff, axis?_eq_none_iff]
  exact fun shape hshape => Nat.le_trans (length_le_commonRank hshape) h

/-- A condition on the axes at every place is one on those below the common rank. -/
theorem forall_axesAt_iff {P : List α → Prop} (hnil : P []) (shapes : List (List α)) :
    (∀ i < commonRank shapes, P (axesAt i shapes)) ↔ ∀ i, P (axesAt i shapes) := by
  constructor
  · intro h i
    by_cases hi : i < commonRank shapes
    · exact h i hi
    · rwa [axesAt_of_le (by omega)]
  · exact fun h i _ => h i

end Axes

/-! ## Broadcasting sizes -/

/-- Sizes of one axis broadcast when all that are not 1 are equal. -/
def SizesBroadcast (sizes : List Nat) : Prop := ∀ m ∈ sizes, ∀ n ∈ sizes, m ≠ 1 → n ≠ 1 → m = n

instance (sizes : List Nat) : Decidable (SizesBroadcast sizes) :=
  inferInstanceAs (Decidable (∀ m ∈ sizes, ∀ n ∈ sizes, m ≠ 1 → n ≠ 1 → m = n))

/-- The size an axis is broadcast to. -/
def commonSize (sizes : List Nat) : Nat := (sizes.find? (· ≠ 1)).getD 1

/-- Shapes broadcast when their sizes do, axis by axis from the last. -/
def Broadcastable (shapes : List (List Nat)) : Prop := ∀ i, SizesBroadcast (axesAt i shapes)

instance (shapes : List (List Nat)) : Decidable (Broadcastable shapes) :=
  decidable_of_iff _ (forall_axesAt_iff (P := SizesBroadcast) (by simp [SizesBroadcast]) shapes)

/-- The shape that shapes are broadcast to. -/
def broadcastShape (shapes : List (List Nat)) : List Nat :=
  ((List.range (commonRank shapes)).map fun i => commonSize (axesAt i shapes)).reverse

namespace Infer

/-! ## One axis of the result -/

@[simp] theorem one_broadcastDim (next : Dim) : broadcastDim (.static 1) next = next := by
  simp [broadcastDim]

@[simp] theorem broadcastDim_one (known : Dim) : broadcastDim known (.static 1) = known := by
  by_cases h : known = .static 1
  · rw [h, one_broadcastDim]
  · rw [broadcastDim.eq_2 _ h]

theorem axis?_alignRight {rank i : Nat} (h : i < rank) (dims : List Dim) :
    axis? i (alignRight rank dims) = some ((axis? i dims).getD (.static 1)) := by
  simp only [axis?, alignRight, List.reverse_append, List.reverse_replicate, List.getElem?_append,
    List.length_reverse, List.getElem?_replicate]
  by_cases hi : i < dims.length
  · simp [hi]
  · simp [hi]
    omega

/-- What one more operand does to an axis. -/
theorem axis?_zipWith_broadcastDim {i : Nat} {known next : List Dim} (hlength : next.length ≤ known.length) :
    axis? i (List.zipWith broadcastDim known (alignRight known.length next))
      = (axis? i known).map fun dim => (axis? i next).toList.foldl broadcastDim dim := by
  have haligned : known.length = (alignRight known.length next).length := by
    simp [alignRight]
    omega
  by_cases hi : i < known.length
  · have hnext := axis?_alignRight hi next
    have hknown : axis? i known ≠ none := by simpa [axis?_eq_none_iff] using hi
    obtain ⟨dim, hdim⟩ := Option.ne_none_iff_exists'.mp hknown
    rw [axis?, List.reverse_zipWith haligned, List.getElem?_zipWith]
    simp only [axis?] at hnext hdim ⊢
    rw [hnext, hdim]
    cases next.reverse[i]? <;> simp
  · have hknown : axis? i known = none := by simpa [axis?_eq_none_iff] using hi
    rw [hknown, Option.map_none, axis?_eq_none_iff, List.length_zipWith, ← haligned]
    omega

theorem axis?_foldl {i : Nat} (shapes : List (List Dim)) :
    ∀ known : List Dim, (∀ dims ∈ shapes, dims.length ≤ known.length) →
      axis? i (shapes.foldl (fun known' dims => List.zipWith broadcastDim known' (alignRight known.length dims)) known)
        = (axis? i known).map fun dim => (axesAt i shapes).foldl broadcastDim dim := by
  induction shapes with
  | nil => simp [axesAt]
  | cons dims shapes ih =>
    intro known hlengths
    obtain ⟨hdims, hrest⟩ := List.forall_mem_cons.mp hlengths
    have hlength : (List.zipWith broadcastDim known (alignRight known.length dims)).length = known.length := by
      simp [alignRight]
      omega
    have hih := ih (List.zipWith broadcastDim known (alignRight known.length dims)) (by rwa [hlength])
    rw [hlength] at hih
    rw [List.foldl_cons, hih, axis?_zipWith_broadcastDim hdims, axesAt_cons]
    simp [Function.comp_def]

/-- An axis of the result is a fold over the operands' axes there. -/
theorem axis?_broadcastDims (shapes : List (List Dim)) (i : Nat) :
    axis? i (broadcastDims shapes)
      = if i < commonRank shapes then some ((axesAt i shapes).foldl broadcastDim (.static 1)) else none := by
  have hfold := axis?_foldl (i := i) shapes (List.replicate (commonRank shapes) (.static 1))
    (by simpa using fun dims h => length_le_commonRank h)
  rw [List.length_replicate] at hfold
  change axis? i (broadcastDims shapes) = _ at hfold
  rw [hfold]
  by_cases h : i < commonRank shapes <;> simp [axis?, h]

/-! ## Soundness -/

/-- Where two sizes broadcast, an axis that may have the one and an axis that may have the other combine into one that
may have the broadcast size. -/
theorem admits_broadcastDim {sizes : String → Nat} {known next : Dim} {k n : Nat} (hknown : known.Admits sizes k)
    (hnext : next.Admits sizes n) (hcommon : k = 1 ∨ n = 1 ∨ k = n) :
    (broadcastDim known next).Admits sizes (if k = 1 then n else k) := by
  fun_cases broadcastDim known next <;> simp_all [Dim.Admits, Dim.unknown] <;> grind

theorem commonSize_cons (k : Nat) (axis : List Nat) :
    commonSize (k :: axis) = if k = 1 then commonSize axis else k := by
  by_cases h : k = 1 <;> simp [commonSize, h]

/-- A relation between axes and sizes that broadcasting keeps. -/
structure Tracks (R : Dim → Nat → Prop) : Prop where
  one : R (.static 1) 1
  join {known next : Dim} {k n : Nat} : R known k → R next n → (k = 1 ∨ n = 1 ∨ k = n) →
    R (broadcastDim known next) (if k = 1 then n else k)

theorem tracks_admits (sizes : String → Nat) : Tracks (Dim.Admits sizes) := ⟨rfl, admits_broadcastDim⟩

theorem tracks_static : Tracks fun dim n => dim = .static n where
  one := rfl
  join {known next k n} hknown hnext hcommon := by
    subst hknown hnext
    by_cases hk : k = 1
    · simp [hk]
    · by_cases hn : n = 1
      · simp [hk, hn]
      · have hsame : k = n := by omega
        simp [broadcastDim, hsame]

theorem mapM_size?_eq_some_iff {dims : List Dim} {shape : List Nat} :
    dims.mapM Dim.size? = some shape ↔ List.Forall₂ (fun dim n => dim = .static n) dims shape := by
  have hsize (dim : Dim) (n : Nat) : dim.size? = some n ↔ dim = .static n := by cases dim <;> simp [Dim.size?]
  induction dims generalizing shape with
  | nil => simp [eq_comm]
  | cons dim dims ih =>
    simp only [List.mapM_cons, Option.bind_eq_bind, Option.bind_eq_some_iff, hsize, ih, List.forall₂_cons_left_iff,
      Option.pure_def, Option.some.injEq]
    constructor
    · rintro ⟨n, hn, rest, hrest, rfl⟩
      exact ⟨n, rest, hn, hrest, rfl⟩
    · rintro ⟨n, rest, hn, hrest, rfl⟩
      exact ⟨n, hn, rest, hrest, rfl⟩

theorem mapM_size?_static (shape : List Nat) : (shape.map Dim.static).mapM Dim.size? = some shape := by
  rw [mapM_size?_eq_some_iff, List.forall₂_map_left_iff, List.forall₂_same]
  exact fun _ _ => rfl

theorem sizes?_eq_some_iff {t : TensorType} {shape : List Nat} :
    t.sizes? = some shape ↔ ∃ dims, t.shape = some dims ∧ List.Forall₂ (fun dim n => dim = .static n) dims shape := by
  simp only [TensorType.sizes?, Option.bind_eq_some_iff, mapM_size?_eq_some_iff]

/-- The fold over the axes of the operands, from what is known of those before. -/
theorem Tracks.foldl {R : Dim → Nat → Prop} (hR : Tracks R) {dims : List Dim} {axis : List Nat}
    (h : List.Forall₂ R dims axis) {known : Dim} {k : Nat} (hknown : R known k)
    (hbroadcast : SizesBroadcast (k :: axis)) :
    R (dims.foldl broadcastDim known) (commonSize (k :: axis)) := by
  induction h generalizing known k with
  | nil =>
    have hsize : commonSize [k] = k := by by_cases hk : k = 1 <;> simp [commonSize, hk]
    rwa [hsize]
  | @cons dim n dims axis hdim _ ih =>
    have hcommon : k = 1 ∨ n = 1 ∨ k = n := by
      have := hbroadcast k (by simp) n (by simp)
      omega
    have hrest : SizesBroadcast ((if k = 1 then n else k) :: axis) := by
      intro a ha b hb
      apply hbroadcast a _ b
      all_goals grind
    have hsize : commonSize (k :: n :: axis) = commonSize ((if k = 1 then n else k) :: axis) := by
      simp only [commonSize_cons]
      split <;> rfl
    rw [hsize]
    exact ih (hR.join hknown hdim hcommon) hrest

theorem axis?_broadcastShape (shapes : List (List Nat)) (i : Nat) :
    axis? i (broadcastShape shapes)
      = if i < commonRank shapes then some (commonSize (axesAt i shapes)) else none := by
  by_cases h : i < commonRank shapes <;> simp [axis?, broadcastShape, h]

/-- Ranked operands: the inferred axes follow the sizes that the shapes are broadcast to. -/
theorem Tracks.broadcast {R : Dim → Nat → Prop} (hR : Tracks R) {dims : List (List Dim)}
    {shapes : List (List Nat)} (h : List.Forall₂ (List.Forall₂ R) dims shapes) (hbroadcast : Broadcastable shapes) :
    List.Forall₂ R (broadcastDims dims) (broadcastShape shapes) := by
  have hlengths : List.Forall₂ Eq (dims.map List.length) (shapes.map List.length) := by
    rw [List.forall₂_map_left_iff, List.forall₂_map_right_iff]
    exact h.imp fun _ _ => List.Forall₂.length_eq
  rw [List.forall₂_eq_eq_eq] at hlengths
  have hrank : commonRank dims = commonRank shapes := by rw [commonRank, commonRank, hlengths]
  rw [forall₂_iff_axis?]
  intro i
  rw [axis?_broadcastDims, axis?_broadcastShape, hrank]
  split
  · have haxes := forall₂_axesAt h i
    have hone : commonSize (1 :: axesAt i shapes) = commonSize (axesAt i shapes) := by simp [commonSize_cons]
    have hsizes : SizesBroadcast (1 :: axesAt i shapes) := by
      intro a ha b hb
      have := hbroadcast i a
      grind
    exact .some (hone ▸ hR.foldl haxes hR.one hsizes)
  · exact .none

theorem shape_broadcastType (element : ElementType) (types : List TensorType) :
    (broadcastType element types).shape = broadcast? types := by
  cases h : broadcast? types <;> simp [broadcastType, h, TensorType.ofDims?, TensorType.unranked, TensorType.ranked]

theorem forall₂_shapes {sizes : String → Nat} {types : List TensorType} {shapes : List (List Nat)}
    (h : List.Forall₂ (TensorType.Admits sizes) types shapes) {dims : List (List Dim)}
    (hdims : types.mapM TensorType.shape = some dims) :
    List.Forall₂ (List.Forall₂ (Dim.Admits sizes)) dims shapes := by
  induction h generalizing dims with
  | nil => simp_all
  | @cons t shape types shapes ht _ ih =>
    rw [List.mapM_cons, Option.bind_eq_bind, Option.bind_eq_some_iff] at hdims
    obtain ⟨first, hfirst, hrest⟩ := hdims
    obtain ⟨rest, hmapM, hcons⟩ := Option.bind_eq_some_iff.mp hrest
    cases hcons
    exact .cons (ht first hfirst) (ih hmapM)

end Infer

open Infer

/-- Values whose shapes their types admit and that broadcast give a result whose shape the inferred type admits, for the
same sizes of the named axes: no size and no name in the inferred type is ever wrong. -/
theorem broadcast_sound (sizes : String → Nat) (element : ElementType) (types : List TensorType)
    (shapes : List (List Nat)) (h : List.Forall₂ (TensorType.Admits sizes) types shapes)
    (hbroadcast : Broadcastable shapes) :
    (broadcastType element types).Admits sizes (broadcastShape shapes) := by
  intro dims hdims
  rw [shape_broadcastType] at hdims
  obtain ⟨all, hall, rfl⟩ := Option.map_eq_some_iff.mp hdims
  exact (tracks_admits sizes).broadcast (forall₂_shapes h hall) hbroadcast

/-- A batch of rows and a matrix of unknown width: the name and the sizes are kept. -/
theorem broadcast_sound_batch :
    let types : List TensorType :=
      [.ranked .f32 [.dynamic (some "batch"), .static 1, .static 3], .ranked .f32 [.static 4, .dynamic none]]
    let sizes : String → Nat := fun name => if name = "batch" then 2 else 0
    List.Forall₂ (TensorType.Admits sizes) types [[2, 1, 3], [4, 3]] ∧ Broadcastable [[2, 1, 3], [4, 3]] ∧
      broadcastType .f32 types = .ranked .f32 [.dynamic (some "batch"), .static 4, .static 3] ∧
      broadcastShape [[2, 1, 3], [4, 3]] = [2, 4, 3] ∧
      (broadcastType .f32 types).Admits sizes (broadcastShape [[2, 1, 3], [4, 3]]) :=
  ⟨by decide, by decide, by decide, by decide, broadcast_sound _ _ _ _ (by decide) (by decide)⟩

namespace Infer

/-! ## The order of the operands -/

/-- What the axes of the operands at one place say of the axis of the result there, whatever their order. -/
inductive Joins (axes : List Dim) : Dim → Prop
  | size {size : Nat} : .static size ∈ axes → size ≠ 1 → Joins axes (.static size)
  | name {name : String} : (∀ size, .static size ∈ axes → size = 1) → .dynamic (some name) ∈ axes →
      (∀ name?, .dynamic name? ∈ axes → name? = some name) → Joins axes (.dynamic (some name))
  | unknown {name? : Option String} : (∀ size, .static size ∈ axes → size = 1) → .dynamic name? ∈ axes →
      (¬∃ name, ∀ name?, .dynamic name? ∈ axes → name? = some name) → Joins axes .unknown
  | one : (∀ dim ∈ axes, dim = .static 1) → Joins axes (.static 1)

/-- The fixed sizes of axes. -/
def fixedSizes (axes : List Dim) : List Nat := axes.filterMap Dim.size?

/-- The fixed sizes of shapes agree, axis by axis from the last, up to sizes of 1. -/
def SizesAgree (shapes : List (List Dim)) : Prop := ∀ i, SizesBroadcast (fixedSizes (axesAt i shapes))

instance (shapes : List (List Dim)) : Decidable (SizesAgree shapes) :=
  decidable_of_iff _ (forall_axesAt_iff (P := fun axes => SizesBroadcast (fixedSizes axes))
    (by simp [SizesBroadcast, fixedSizes]) shapes)

@[simp] theorem mem_fixedSizes {axes : List Dim} {size : Nat} : size ∈ fixedSizes axes ↔ .static size ∈ axes := by
  simp only [fixedSizes, List.mem_filterMap]
  constructor
  · rintro ⟨dim, hdim, hsize⟩
    cases dim with
    | static _ => cases hsize; exact hdim
    | dynamic _ => cases hsize
  · exact fun h => ⟨_, h, rfl⟩

theorem Joins.snoc_one {axes : List Dim} {dim : Dim} (h : Joins axes dim) : Joins (axes ++ [.static 1]) dim := by
  have hsizes (hone : ∀ size, Dim.static size ∈ axes → size = 1) :
      ∀ size, Dim.static size ∈ axes ++ [.static 1] → size = 1 := by
    simpa [or_imp, forall_and] using hone
  cases h with
  | size hmem hne => exact .size (by simp [hmem]) hne
  | name hone hmem hall => exact .name (hsizes hone) (by simp [hmem]) (by simpa using hall)
  | unknown hone hmem hdiffer => exact .unknown (hsizes hone) (List.mem_append_left _ hmem) (by simpa using hdiffer)
  | one hall => exact .one (by simpa [or_imp, forall_and] using hall)

/-- One more operand with a fixed size: the size is the result's, because no other is among the axes. -/
theorem Joins.broadcastDim_static {axes : List Dim} {known : Dim} (h : Joins axes known) {size : Nat} (hne : size ≠ 1)
    (hagree : SizesBroadcast (fixedSizes (axes ++ [.static size]))) :
    broadcastDim known (.static size) = .static size := by
  cases h with
  | @size other hmem hother =>
    have heq : other = size := hagree other (by simp [hmem]) size (by simp) hother hne
    simp [broadcastDim, heq]
  | name => simp [broadcastDim]
  | unknown => simp [broadcastDim, Dim.unknown]
  | one => simp

/-- One more operand with a dynamic axis: a size stays, a name stays if the axis carries it too. -/
theorem Joins.snoc_dynamic {axes : List Dim} {known : Dim} (h : Joins axes known) (name? : Option String) :
    Joins (axes ++ [.dynamic name?]) (broadcastDim known (.dynamic name?)) := by
  have hmem : Dim.dynamic name? ∈ axes ++ [.dynamic name?] := by simp
  cases h with
  | @size size hsize hne =>
    have hstep : broadcastDim (.static size) (.dynamic name?) = .static size := by simp [broadcastDim]
    rw [hstep]
    exact .size (by simp [hsize]) hne
  | @name name hone hname hall =>
    by_cases hsame : name? = some name
    · have hstep : broadcastDim (.dynamic (some name)) (.dynamic name?) = .dynamic (some name) := by
        simp [broadcastDim, hsame]
      rw [hstep]
      exact .name (by simpa using hone) (by simp [hname]) (by simpa [or_imp, forall_and, hsame] using hall)
    · have hstep : broadcastDim (.dynamic (some name)) (.dynamic name?) = .unknown := by
        cases name? <;> simp_all [broadcastDim, eq_comm]
      rw [hstep]
      refine .unknown (by simpa using hone) hmem ?_
      rintro ⟨other, hother⟩
      have hfirst : some name = some other := hother _ (by simp [hname])
      exact hsame (hfirst ▸ hother _ hmem)
  | unknown hone hname hdiffer =>
    have hstep : broadcastDim .unknown (.dynamic name?) = .unknown := by simp [broadcastDim, Dim.unknown]
    rw [hstep]
    refine .unknown (by simpa using hone) hmem ?_
    rintro ⟨other, hother⟩
    exact hdiffer ⟨other, fun name? h => hother name? (by simp [h])⟩
  | one hall =>
    rw [one_broadcastDim]
    have hone : ∀ size, Dim.static size ∈ axes ++ [.dynamic name?] → size = 1 := by
      intro size hsize
      have := hall (.static size)
      simp_all
    have hdynamic : ∀ other, Dim.dynamic other ∈ axes ++ [.dynamic name?] → other = name? := by
      intro other hother
      have := hall (.dynamic other)
      simp_all
    cases name? with
    | some name => exact .name hone hmem hdynamic
    | none =>
      refine .unknown hone hmem ?_
      rintro ⟨other, hother⟩
      cases hother none hmem

/-- One more operand. -/
theorem Joins.snoc {axes : List Dim} {known : Dim} (h : Joins axes known) (next : Dim)
    (hagree : SizesBroadcast (fixedSizes (axes ++ [next]))) : Joins (axes ++ [next]) (broadcastDim known next) := by
  cases next with
  | dynamic name? => exact h.snoc_dynamic name?
  | static size =>
    by_cases hone : size = 1
    · rw [hone, broadcastDim_one]
      exact h.snoc_one
    · rw [h.broadcastDim_static hone hagree]
      exact .size (by simp) hone

theorem Joins.foldl {rest : List Dim} : ∀ {axes : List Dim} {known : Dim}, Joins axes known →
    SizesBroadcast (fixedSizes (axes ++ rest)) → Joins (axes ++ rest) (rest.foldl broadcastDim known) := by
  induction rest with
  | nil =>
    intro axes known h _
    simpa using h
  | cons next rest ih =>
    intro axes known h hagree
    have hnext : SizesBroadcast (fixedSizes (axes ++ [next])) := by
      intro a ha b hb
      apply hagree a _ b
      all_goals simp_all; grind
    have hrest := ih (h.snoc next hnext) (by simpa using hagree)
    simpa using hrest

/-- Only which axes there are counts. -/
theorem Joins.congr {axes axes' : List Dim} {dim : Dim} (h : Joins axes dim) (hmem : ∀ d, d ∈ axes ↔ d ∈ axes') :
    Joins axes' dim := by
  cases h with
  | size hsize hne => exact .size ((hmem _).mp hsize) hne
  | name hone hname hall =>
    exact .name (by simpa [← hmem] using hone) ((hmem _).mp hname) (by simpa [← hmem] using hall)
  | unknown hone hname hdiffer =>
    exact .unknown (by simpa [← hmem] using hone) ((hmem _).mp hname) (by simpa [← hmem] using hdiffer)
  | one hall => exact .one (by simpa [← hmem] using hall)

theorem Joins.unique {axes : List Dim} {dim dim' : Dim} (h : Joins axes dim) (h' : Joins axes dim')
    (hagree : SizesBroadcast (fixedSizes axes)) : dim = dim' := by
  simp only [SizesBroadcast, mem_fixedSizes] at hagree
  cases h with
  | size => cases h' <;> grind
  | name _ _ hall =>
    cases h' with
    | unknown _ _ hdiffer => exact absurd ⟨_, hall⟩ hdiffer
    | _ => grind
  | unknown _ _ hdiffer =>
    cases h' with
    | name _ _ hall => exact absurd ⟨_, hall⟩ hdiffer
    | _ => grind
  | one => cases h' <;> grind

/-- Each axis of the result joins the operands' axes there. -/
theorem joins_broadcastDims {shapes : List (List Dim)} (hagree : SizesAgree shapes)
    {i : Nat} {dim : Dim} (h : axis? i (broadcastDims shapes) = some dim) : Joins (axesAt i shapes) dim := by
  rw [axis?_broadcastDims] at h
  split at h
  · cases h
    have hstart : Joins [] (.static 1) := .one (by simp)
    exact hstart.foldl (hagree i)
  · cases h

theorem length_broadcastDims (shapes : List (List Dim)) : (broadcastDims shapes).length = commonRank shapes := by
  apply Nat.le_antisymm
  · rw [← axis?_eq_none_iff, axis?_broadcastDims, if_neg (Nat.lt_irrefl _)]
  · by_contra hlt
    have hnone : axis? (broadcastDims shapes).length (broadcastDims shapes) = none :=
      axis?_eq_none_iff.mpr (Nat.le_refl _)
    rw [axis?_broadcastDims, if_pos (by omega)] at hnone
    cases hnone

theorem commonRank_perm {α : Type} {shapes shapes' : List (List α)} (h : shapes.Perm shapes') :
    commonRank shapes = commonRank shapes' :=
  (h.map List.length).foldl_eq' (fun _ _ _ _ _ => by omega) 0

theorem broadcastDims_perm {shapes shapes' : List (List Dim)} (h : shapes.Perm shapes')
    (hagree : SizesAgree shapes) : broadcastDims shapes' = broadcastDims shapes := by
  have haxes (i : Nat) (dim : Dim) : dim ∈ axesAt i shapes ↔ dim ∈ axesAt i shapes' := (h.filterMap _).mem_iff
  have hagree' : SizesAgree shapes' := by
    simpa only [SizesAgree, SizesBroadcast, mem_fixedSizes, haxes] using hagree
  apply ext_axis?
  intro i
  by_cases hi : i < commonRank shapes
  · have hdim := axis?_broadcastDims shapes i
    have hdim' := axis?_broadcastDims shapes' i
    rw [if_pos hi] at hdim
    rw [if_pos (commonRank_perm h ▸ hi)] at hdim'
    have hjoins := (joins_broadcastDims hagree hdim).congr (haxes i)
    rw [hdim, hdim', (joins_broadcastDims hagree' hdim').unique hjoins (hagree' i)]
  · rw [axis?_broadcastDims, axis?_broadcastDims, if_neg hi, if_neg (commonRank_perm h ▸ hi)]

/-- The shapes of the ranked types. -/
def knownShapes (types : List TensorType) : List (List Dim) := types.filterMap TensorType.shape

theorem broadcast?_eq (types : List TensorType) :
    broadcast? types
      = if ∃ t ∈ types, t.shape = none then none else some (broadcastDims (knownShapes types)) := by
  have hmapM : types.mapM TensorType.shape
      = if ∃ t ∈ types, t.shape = none then none else some (knownShapes types) := by
    induction types with
    | nil => simp [knownShapes]
    | cons t types ih =>
      rw [List.mapM_cons, ih]
      cases h : t.shape with
      | none => simp [h]
      | some dims => by_cases hrest : ∃ t ∈ types, t.shape = none <;> simp [h, hrest, knownShapes]
  rw [broadcast?, hmapM]
  split <;> rfl

end Infer

/-- Operands whose fixed sizes agree, axis by axis from the last, have the same axes in common in any order. They have
none exactly if some rank is unknown; otherwise there are as many as the highest rank, and each is a size that an
operand has there, else the one name the dynamic axes there have, else unknown, and 1 where nothing else is. -/
theorem broadcast_order_irrelevant (types types' : List TensorType) (hperm : types.Perm types')
    (hagree : SizesAgree (knownShapes types)) :
    broadcast? types' = broadcast? types ∧
      (broadcast? types = none ↔ ∃ t ∈ types, t.shape = none) ∧
      ∀ dims, broadcast? types = some dims →
        dims.length = commonRank (knownShapes types) ∧
        ∀ i dim, axis? i dims = some dim → Joins (axesAt i (knownShapes types)) dim := by
  have hunranked : (∃ t ∈ types', t.shape = none) ↔ ∃ t ∈ types, t.shape = none := by simp [hperm.mem_iff]
  simp only [broadcast?_eq, hunranked]
  refine ⟨?_, by simp, ?_⟩
  · have hshapes : (knownShapes types).Perm (knownShapes types') := hperm.filterMap _
    rw [broadcastDims_perm hshapes hagree]
  · intro dims hdims
    split at hdims
    · cases hdims
    · cases hdims
      exact ⟨length_broadcastDims _, fun i dim => joins_broadcastDims hagree⟩

/-- Three operands of different ranks, one axis named alike in two of them. -/
theorem broadcast_order_irrelevant_three :
    let first : TensorType := .ranked .f32 [.dynamic (some "batch"), .static 1, .static 3]
    let second : TensorType := .ranked .f32 [.static 4, .dynamic none]
    let third : TensorType := .ranked .f32 [.dynamic (some "batch"), .dynamic none, .static 1]
    [first, second, third].Perm [third, first, second] ∧ SizesAgree (knownShapes [first, second, third]) ∧
      broadcast? [first, second, third] = some [.dynamic (some "batch"), .static 4, .static 3] ∧
      broadcast? [third, first, second] = broadcast? [first, second, third] :=
  ⟨by decide, by decide, by decide, (broadcast_order_irrelevant _ _ (by decide) (by decide)).1⟩

end ModelImport
