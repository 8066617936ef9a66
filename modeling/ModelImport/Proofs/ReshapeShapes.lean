import Mathlib.Data.List.NodupEquivFin
import ModelImport.Infer.Reshape
import ModelImport.Proofs.Broadcasting
import ModelImport.Proofs.RowMajor
/-!
# What reshaping infers

A target says of each axis of the result that it has a given size, or the size of an axis of the input, or whatever the
others leave over. `reshape_sound`: a target is refused exactly if it leaves more than one size open or has a size below
-1; and the axes inferred from any other stand for every shape that has as many elements as the input and meets the
target, for the same sizes of the named axes. Nothing is given away, since an input of fixed sizes, none of them 0, has a
result of fixed sizes.

Before the open size is filled in, each axis follows from its own entry of the target (`targetDims_eq_ok_iff`). What
fills it in is a quotient of products in 64-bit words: the product of the other axes may wrap, but only if the open size
is 0, and then the quotient is 0 too (`quotient_eq`). Wrapping is what words do in a build without overflow checks; with
checks, that product ends the run instead.
-/

namespace ModelImport

open Infer

/-! ## Shapes that meet a target -/

/-- An axis of size `n` meets the entry of a target at its place, for an input of shape `s`: a positive entry is the size,
and an entry of 0 is the size if that is allowed, else it keeps the axis of the input. -/
def MeetsEntry (allowZero : Bool) (s : List Nat) (entry : Int × Nat) (n : Nat) : Prop :=
  (0 < entry.1 → (n : Int) = entry.1) ∧
    (entry.1 = 0 → if allowZero then n = 0 else s[entry.2]? = some n)

instance (allowZero : Bool) (s : List Nat) (entry : Int × Nat) (n : Nat) : Decidable (MeetsEntry allowZero s entry n) :=
  inferInstanceAs (Decidable ((_ → _) ∧ (_ → if allowZero then n = 0 else s[entry.2]? = some n)))

/-- The shape `r` meets a target for an input of shape `s`: they have the same number of elements, and each axis meets
its entry. -/
def Reshapes (allowZero : Bool) (target : List Int) (s r : List Nat) : Prop :=
  List.Forall₂ (MeetsEntry allowZero s) target.zipIdx r ∧ (Shape.mk r).volume = (Shape.mk s).volume

instance (allowZero : Bool) (target : List Int) (s r : List Nat) : Decidable (Reshapes allowZero target s r) :=
  inferInstanceAs (Decidable (_ ∧ _))

/-- A target that leaves at most one size open and has no other negative size. -/
def ValidTarget (target : List Int) : Prop := target.count (-1) ≤ 1 ∧ ∀ size ∈ target, -1 ≤ size

namespace Infer

variable {input : Option (List Dim)} {allowZero : Bool} {target : List Int} {sizes : String → Nat} {s r : List Nat}

/-! ## The axes of a target -/

/-- The axes of a target before the open size is filled in. -/
def plannedDims (input : Option (List Dim)) (allowZero : Bool) (entries : List (Int × Nat)) : List Dim :=
  entries.map fun entry => targetDim input allowZero entry.2 entry.1

theorem targetDims_eq_ok_iff {index : Nat} {inferred : Bool} {dims : List Dim} :
    targetDims input allowZero index inferred target = .ok dims ↔
      (target.count (-1) + inferred.toNat ≤ 1 ∧ ∀ size ∈ target, -1 ≤ size) ∧
        dims = plannedDims input allowZero (target.zipIdx index) := by
  induction target generalizing index inferred dims with
  | nil =>
    have hflag := Bool.toNat_le inferred
    simp [targetDims, plannedDims, hflag, eq_comm]
  | cons size rest ih =>
    rw [targetDims]
    by_cases htwice : size = -1 ∧ inferred
    · rw [if_pos htwice]
      simp [htwice.1, htwice.2]
    · by_cases hsmall : size < -1
      · rw [if_neg htwice, if_pos hsmall]
        have hnot : ¬ -1 ≤ size := by omega
        simp [hnot]
      · have hopen : rest.count (-1) + (inferred || size == -1).toNat = (size :: rest).count (-1) + inferred.toNat := by
          rw [List.count_cons]
          by_cases hsize : size = -1
          · have hfirst : inferred = false := by simpa [hsize] using htwice
            simp [hsize, hfirst]
          · have hother : (size == -1) = false := beq_eq_false_iff_ne.mpr hsize
            simp [hother]
        have hsize : -1 ≤ size := by omega
        rw [if_neg htwice, if_neg hsmall, bind_eq_ok_iff]
        simp only [ih, hopen, List.forall_mem_cons, hsize, true_and, List.zipIdx_cons, plannedDims, List.map_cons]
        constructor
        · rintro ⟨rest', ⟨hvalid, rfl⟩, hdims⟩
          cases hdims
          exact ⟨hvalid, rfl⟩
        · rintro ⟨hvalid, rfl⟩
          exact ⟨_, ⟨hvalid, rfl⟩, rfl⟩

/-- The axes with the open size of the target filled in where it is known. -/
def filledDims (input : Option (List Dim)) (target : List Int) (dims : List Dim) : List Dim :=
  (target.findIdx? (· == -1)).elim dims fun index =>
    (leftOver? input dims index).elim dims fun size => dims.set index (.static size)

theorem reshapeDims_eq_map :
    reshapeDims input target allowZero = (targetDims input allowZero 0 false target).map (filledDims input target) := by
  unfold reshapeDims filledDims
  cases targetDims input allowZero 0 false target with
  | error err => rfl
  | ok dims =>
    cases target.findIdx? (· == -1) with
    | none => rfl
    | some index =>
      cases hsize : leftOver? input dims index with
      | none => simp [bind, Except.bind, pure, Except.pure, Except.map, hsize]
      | some size => simp [bind, Except.bind, pure, Except.pure, Except.map, hsize]

theorem reshapeDims_eq_ok_iff {dims : List Dim} :
    reshapeDims input target allowZero = .ok dims ↔
      ValidTarget target ∧ dims = filledDims input target (plannedDims input allowZero target.zipIdx) := by
  have hplanned (planned : List Dim) : targetDims input allowZero 0 false target = .ok planned ↔
      ValidTarget target ∧ planned = plannedDims input allowZero target.zipIdx := by
    rw [targetDims_eq_ok_iff]
    rfl
  rw [reshapeDims_eq_map]
  cases h : targetDims input allowZero 0 false target with
  | error err =>
    have hinvalid : ¬ ValidTarget target := by
      intro hvalid
      cases h.symm.trans ((hplanned _).mpr ⟨hvalid, rfl⟩)
    simp [Except.map, hinvalid]
  | ok planned =>
    obtain ⟨hvalid, rfl⟩ := (hplanned planned).mp h
    simp [Except.map, hvalid, eq_comm]

theorem reshapeDims_fails_iff :
    (∃ err, reshapeDims input target allowZero = .error err) ↔
      1 < target.count (-1) ∨ ∃ size ∈ target, size < -1 := by
  have hinvalid : ¬ ValidTarget target ↔ 1 < target.count (-1) ∨ ∃ size ∈ target, size < -1 := by
    rw [ValidTarget, not_and_or, Nat.not_le]
    simp
  rw [← hinvalid]
  constructor
  · rintro ⟨err, herr⟩ hvalid
    cases herr.symm.trans (reshapeDims_eq_ok_iff.mpr ⟨hvalid, rfl⟩)
  · intro h
    cases hdims : reshapeDims input target allowZero with
    | error err => exact ⟨err, rfl⟩
    | ok dims => exact absurd (reshapeDims_eq_ok_iff.mp hdims).1 h

/-! ## Products -/

theorem product?_eq_some_iff {dims : List Dim} {total : Nat} :
    product? dims = some total ↔
      ∃ shape, List.Forall₂ (fun dim n => dim = .static n) dims shape ∧ Word.wrap (Shape.mk shape).volume = total := by
  simp only [product?, Option.map_eq_some_iff, mapM_size?_eq_some_iff]
  rfl

theorem eq_of_admits_static {dims : List Dim} {shape shape' : List Nat}
    (h : List.Forall₂ (Dim.Admits sizes) dims shape) (h' : List.Forall₂ (fun dim n => dim = .static n) dims shape') :
    shape = shape' := by
  induction h generalizing shape' with
  | nil =>
    cases h'
    rfl
  | @cons dim n _ _ hdim _ ih =>
    cases h' with
    | @cons _ m _ _ hstatic hrest =>
      subst hstatic
      have hsize : n = m := hdim
      rw [hsize, ih hrest]

/-- The product of axes that stand for a shape is its number of elements, as a word. -/
theorem product?_of_admits {dims : List Dim} {total : Nat} (h : List.Forall₂ (Dim.Admits sizes) dims r)
    (htotal : product? dims = some total) : total = Word.wrap (Shape.mk r).volume := by
  obtain ⟨shape, hstatic, rfl⟩ := product?_eq_some_iff.mp htotal
  rw [eq_of_admits_static h hstatic]

theorem volume_eraseIdx {index n : Nat} (h : r[index]? = some n) :
    (Shape.mk r).volume = n * (Shape.mk (r.eraseIdx index)).volume := by
  induction r generalizing index with
  | nil => cases h
  | cons m r ih =>
    cases index with
    | zero =>
      cases h
      rfl
    | succ index =>
      rw [List.eraseIdx_cons_succ, Shape.volume_cons, Shape.volume_cons, ih h, Nat.mul_left_comm]

theorem forall₂_eraseIdx {α β : Type} {R : α → β → Prop} {xs : List α} {ys : List β} (h : List.Forall₂ R xs ys)
    (index : Nat) : List.Forall₂ R (xs.eraseIdx index) (ys.eraseIdx index) := by
  rw [List.eraseIdx_eq_take_drop_succ, List.eraseIdx_eq_take_drop_succ]
  exact List.rel_append (List.forall₂_take _ h) (List.forall₂_drop _ h)

theorem forall₂_set {α β : Type} {R : α → β → Prop} {xs : List α} {ys : List β} (h : List.Forall₂ R xs ys)
    {index : Nat} {x : α} {y : β} (hy : ys[index]? = some y) (hxy : R x y) : List.Forall₂ R (xs.set index x) ys := by
  induction h generalizing index with
  | nil => exact .nil
  | cons hhead htail ih =>
    cases index with
    | zero =>
      cases hy
      exact .cons hxy htail
    | succ index => exact .cons hhead (ih hy)

/-! ## The open size -/

/-- The number of elements over that of the other axes is the size left for an axis, also in words: if the others do not
fit one, the axis is empty. -/
theorem quotient_eq {n known : Nat} (hfits : n * known < Word.count) (hpositive : Word.wrap known ≠ 0) :
    Word.wrap (n * known) / Word.wrap known = n := by
  rw [Word.wrap, Nat.mod_eq_of_lt hfits]
  rcases Nat.eq_zero_or_pos n with rfl | hn
  · rw [Nat.zero_mul, Nat.zero_div]
  · have hknown : known < Word.count := Nat.lt_of_le_of_lt (Nat.le_mul_of_pos_left _ hn) hfits
    rw [Word.wrap, Nat.mod_eq_of_lt hknown] at hpositive ⊢
    exact Nat.mul_div_cancel _ (Nat.pos_of_ne_zero hpositive)

theorem leftOver?_eq_some_iff {dims : List Dim} {index size : Nat} :
    leftOver? input dims index = some size ↔
      ∃ total, input.bind product? = some total ∧ ∃ known, product? (dims.eraseIdx index) = some known ∧
        (known ≠ 0 ∧ total % known = 0) ∧ total / known = size := by
  simp only [leftOver?, bind, Option.bind_eq_some_iff, Option.ite_none_right_eq_some, Option.some_inj]

/-- An open size that is filled in is the one that any shape of as many elements has there. -/
theorem eq_of_leftOver? {dims : List Dim} {index size n : Nat}
    (hinput : ∀ axes ∈ input, List.Forall₂ (Dim.Admits sizes) axes s) (hdims : List.Forall₂ (Dim.Admits sizes) dims r)
    (hvolume : (Shape.mk r).volume = (Shape.mk s).volume) (hfits : (Shape.mk s).volume < Word.count)
    (hn : r[index]? = some n) (h : leftOver? input dims index = some size) : size = n := by
  obtain ⟨total, htotal, known, hknown, ⟨hne, -⟩, rfl⟩ := leftOver?_eq_some_iff.mp h
  obtain ⟨axes, haxes, htotal⟩ := Option.bind_eq_some_iff.mp htotal
  have hproduct := volume_eraseIdx hn
  rw [product?_of_admits (forall₂_eraseIdx hdims index) hknown] at hne ⊢
  rw [product?_of_admits (hinput axes haxes) htotal, ← hvolume, hproduct]
  exact quotient_eq (by rwa [← hproduct, hvolume]) hne

theorem product?_static (shape : List Nat) :
    product? (shape.map .static) = some (Word.wrap (Shape.mk shape).volume) := by
  rw [product?, mapM_size?_static]
  rfl

/-- Where all other sizes are fixed and there are elements, the open size is filled in. -/
theorem leftOver?_of_static {dims : List Dim} {index n : Nat}
    (hdims : dims.eraseIdx index = (r.eraseIdx index).map .static)
    (hvolume : (Shape.mk r).volume = (Shape.mk s).volume) (hpositive : 0 < (Shape.mk s).volume)
    (hfits : (Shape.mk s).volume < Word.count) (hn : r[index]? = some n) :
    leftOver? (some (s.map .static)) dims index = some n := by
  have hproduct := volume_eraseIdx hn
  rw [hvolume] at hproduct
  rw [hproduct] at hpositive hfits
  have hrest : Word.wrap (Shape.mk (r.eraseIdx index)).volume = (Shape.mk (r.eraseIdx index)).volume := by
    have hn : 0 < n := Nat.pos_of_mul_pos_right hpositive
    exact Nat.mod_eq_of_lt (Nat.lt_of_le_of_lt (Nat.le_mul_of_pos_left _ hn) hfits)
  have hne : Word.wrap (Shape.mk (r.eraseIdx index)).volume ≠ 0 := by
    rw [hrest]
    exact Nat.ne_of_gt (Nat.pos_of_mul_pos_left hpositive)
  refine leftOver?_eq_some_iff.mpr ⟨_, product?_static s, _, hdims ▸ product?_static _, ⟨hne, ?_⟩, ?_⟩
  · rw [hproduct, hrest, Word.wrap, Nat.mod_eq_of_lt hfits]
    exact Nat.mul_mod_left ..
  · rw [hproduct]
    exact quotient_eq hfits hne

/-! ## Each axis -/

theorem targetDim_of_neg {index : Nat} {size : Int} (h : size < 0) :
    targetDim input allowZero index size = .unknown := by
  rw [targetDim, if_neg (by omega), Word.size?, if_neg (by omega), Dim.ofSize?]

theorem targetDim_of_pos {index : Nat} {size : Int} (h : 0 < size) :
    targetDim input allowZero index size = .static size.toNat := by
  rw [targetDim, if_neg (by omega), Word.size?, if_pos (by omega), Dim.ofSize?]

theorem targetDim_zero {index : Nat} :
    targetDim input allowZero index 0 = if allowZero then .static 0 else (input.bind (·[index]?)).getD .unknown :=
  if_pos rfl

/-- An axis that meets its entry is one that the entry stands for. -/
theorem admits_targetDim {entry : Int × Nat} {n : Nat}
    (hinput : ∀ axes ∈ input, List.Forall₂ (Dim.Admits sizes) axes s) (h : MeetsEntry allowZero s entry n) :
    (targetDim input allowZero entry.2 entry.1).Admits sizes n := by
  obtain ⟨size, index⟩ := entry
  obtain ⟨hfixed, hkept⟩ := h
  dsimp only at hfixed hkept ⊢
  rcases Int.lt_trichotomy size 0 with hnegative | rfl | hpositive
  · rw [targetDim_of_neg hnegative]
    trivial
  · have hzero := hkept rfl
    rw [targetDim_zero]
    cases allowZero with
    | true => exact hzero
    | false =>
      cases input with
      | none => trivial
      | some axes =>
        -- the axis of the input at this place stands for the size that is kept
        have hrelated := forall₂_iff_getElem?.mp (hinput axes rfl) index
        rw [if_neg (by simp)] at hzero
        rw [hzero] at hrelated
        cases haxis : axes[index]? with
        | none => simp [haxis] at hrelated
        | some axis =>
          rw [haxis] at hrelated
          cases hrelated with
          | some hadmits => simpa [haxis] using hadmits
  · have hsize := hfixed hpositive
    have hnatural : n = size.toNat := by omega
    rw [targetDim_of_pos hpositive]
    exact hnatural

/-- Over an input of fixed sizes, an axis that is not left open has a fixed size. -/
theorem targetDim_static {entry : Int × Nat} {n : Nat} (h : MeetsEntry allowZero s entry n) (hentry : 0 ≤ entry.1) :
    targetDim (some (s.map .static)) allowZero entry.2 entry.1 = .static n := by
  obtain ⟨size, index⟩ := entry
  obtain ⟨hfixed, hkept⟩ := h
  dsimp only at hfixed hkept hentry ⊢
  rcases Int.lt_or_eq_of_le hentry with hpositive | rfl
  · have hsize := hfixed hpositive
    have hnatural : size.toNat = n := by omega
    rw [targetDim_of_pos hpositive, hnatural]
  · have hzero := hkept rfl
    rw [targetDim_zero]
    cases allowZero with
    | true => simpa using hzero.symm
    | false => simp_all

end Infer

/-- There is one open size at most. -/
theorem ValidTarget.open_unique {target : List Int} (h : ValidTarget target) {i j : Nat}
    (hi : target[i]? = some (-1)) (hj : target[j]? = some (-1)) : i = j := by
  by_contra hne
  wlog hlt : i < j generalizing i j
  · exact this hj hi (Ne.symm hne) (by omega)
  obtain ⟨hi', hi⟩ := List.getElem?_eq_some_iff.mp hi
  obtain ⟨hj', hj⟩ := List.getElem?_eq_some_iff.mp hj
  have hduplicate : List.Duplicate (-1) target :=
    List.duplicate_iff_exists_distinct_get.mpr ⟨⟨i, hi'⟩, ⟨j, hj'⟩, hlt, hi.symm, hj.symm⟩
  exact absurd h.1 (Nat.not_le.mpr (List.duplicate_iff_two_le_count.mp hduplicate))

namespace Infer

variable {input : Option (List Dim)} {allowZero : Bool} {target : List Int} {sizes : String → Nat} {s r : List Nat}

/-! ## All axes -/

theorem admits_plannedDims (hinput : ∀ axes ∈ input, List.Forall₂ (Dim.Admits sizes) axes s)
    (h : List.Forall₂ (MeetsEntry allowZero s) target.zipIdx r) :
    List.Forall₂ (Dim.Admits sizes) (plannedDims input allowZero target.zipIdx) r :=
  List.forall₂_map_left_iff.mpr (h.imp fun _ _ => admits_targetDim hinput)

theorem admits_filledDims (hinput : ∀ axes ∈ input, List.Forall₂ (Dim.Admits sizes) axes s)
    (h : Reshapes allowZero target s r) (hfits : (Shape.mk s).volume < Word.count) :
    List.Forall₂ (Dim.Admits sizes) (filledDims input target (plannedDims input allowZero target.zipIdx)) r := by
  obtain ⟨hmeets, hvolume⟩ := h
  have hplanned := admits_plannedDims hinput hmeets
  unfold filledDims
  cases hopen : target.findIdx? (· == -1) with
  | none => exact hplanned
  | some index =>
    cases hsize : leftOver? input (plannedDims input allowZero target.zipIdx) index with
    | none => simpa [hsize] using hplanned
    | some size =>
      have hindex : index < r.length := by
        obtain ⟨hlt, -⟩ := List.findIdx?_eq_some_iff_getElem.mp hopen
        simpa [← hmeets.length_eq] using hlt
      have hn := List.getElem?_eq_getElem hindex
      rw [Option.elim_some, hsize, Option.elim_some]
      exact forall₂_set hplanned hn (eq_of_leftOver? hinput hplanned hvolume hfits hn hsize).symm

theorem getElem?_plannedDims_static (hmeets : List.Forall₂ (MeetsEntry allowZero s) target.zipIdx r)
    (hvalid : ValidTarget target) {i : Nat} (hi : target[i]? ≠ some (-1)) :
    (plannedDims (some (s.map .static)) allowZero target.zipIdx)[i]? = (r.map Dim.static)[i]? := by
  have hrelated := forall₂_iff_getElem?.mp hmeets i
  rw [List.getElem?_zipIdx] at hrelated
  rw [plannedDims, List.getElem?_map, List.getElem?_map, List.getElem?_zipIdx]
  cases hsize : target[i]? with
  | none =>
    cases hn : r[i]? with
    | none => rfl
    | some n => simp [hsize, hn] at hrelated
  | some size =>
    cases hn : r[i]? with
    | none => simp [hsize, hn] at hrelated
    | some n =>
      rw [hsize, hn] at hrelated
      have hentry : 0 ≤ size := by
        have hleast := hvalid.2 size (List.mem_of_getElem? hsize)
        have hother : size ≠ -1 := fun heq => hi (heq ▸ hsize)
        omega
      cases hrelated with
      | some hmeets => exact congrArg some (targetDim_static hmeets hentry)

/-- Over an input of fixed sizes that has elements, all sizes are fixed. -/
theorem filledDims_static (hvalid : ValidTarget target) (h : Reshapes allowZero target s r)
    (hpositive : 0 < (Shape.mk s).volume) (hfits : (Shape.mk s).volume < Word.count) :
    filledDims (some (s.map .static)) target (plannedDims (some (s.map .static)) allowZero target.zipIdx)
      = r.map .static := by
  obtain ⟨hmeets, hvolume⟩ := h
  unfold filledDims
  cases hopen : target.findIdx? (· == -1) with
  | none =>
    refine List.ext_getElem? fun i => getElem?_plannedDims_static hmeets hvalid fun hi => ?_
    have := List.findIdx?_eq_none_iff.mp hopen _ (List.mem_of_getElem? hi)
    simp at this
  | some index =>
    obtain ⟨hlt, hentry, -⟩ := List.findIdx?_eq_some_iff_getElem.mp hopen
    have hindex : target[index]? = some (-1) := List.getElem?_eq_some_iff.mpr ⟨hlt, by simpa using hentry⟩
    have hlt' : index < r.length := by simpa [← hmeets.length_eq] using hlt
    have hset : (plannedDims (some (s.map .static)) allowZero target.zipIdx).set index (.static r[index])
        = r.map .static := by
      refine List.ext_getElem? fun i => ?_
      by_cases hi : index = i
      · subst hi
        simp [plannedDims, hlt, hlt']
      · rw [List.getElem?_set_ne hi]
        exact getElem?_plannedDims_static hmeets hvalid fun hopen' => hi (hvalid.open_unique hindex hopen')
    have hrest : (plannedDims (some (s.map .static)) allowZero target.zipIdx).eraseIdx index
        = (r.eraseIdx index).map .static := by
      rw [← List.eraseIdx_set_eq, hset]
      simp only [List.eraseIdx_eq_take_drop_succ, List.map_append, List.map_take, List.map_drop]
    rw [Option.elim_some, leftOver?_of_static hrest hvolume hpositive hfits (List.getElem?_eq_getElem hlt')]
    exact hset

end Infer

/-- A target is refused exactly if it has -1 more than once or an entry below it. The axes inferred from any other stand,
for any sizes of the named axes, for every shape that meets the target, if the input has one of the shapes that its axes
stand for and fewer than `2 ^ 64` elements; and they are of fixed sizes if those of the input are and there are elements
at all. -/
theorem reshape_sound (input : Option (List Dim)) (target : List Int) (allowZero : Bool) :
    ((∃ err, reshapeDims input target allowZero = .error err) ↔ 1 < target.count (-1) ∨ ∃ size ∈ target, size < -1) ∧
    ∀ dims, reshapeDims input target allowZero = .ok dims →
      ∀ (sizes : String → Nat) (s r : List Nat), (∀ axes ∈ input, List.Forall₂ (Dim.Admits sizes) axes s) →
        Reshapes allowZero target s r → (Shape.mk s).volume < Word.count →
        List.Forall₂ (Dim.Admits sizes) dims r ∧
          (input = some (s.map .static) → 0 < (Shape.mk s).volume → dims = r.map .static) := by
  refine ⟨reshapeDims_fails_iff, ?_⟩
  intro dims hdims sizes s r hinput hreshapes hfits
  obtain ⟨hvalid, rfl⟩ := reshapeDims_eq_ok_iff.mp hdims
  refine ⟨admits_filledDims hinput hreshapes hfits, ?_⟩
  rintro rfl hpositive
  exact filledDims_static hvalid hreshapes hpositive hfits

/-- A named axis kept at its place and a size left over, and a size left open by others that do not fit a word. -/
theorem reshape_sound_kept :
    let batch : List Dim := [.dynamic (some "batch"), .static 6, .static 4]
    let sizes : String → Nat := fun _ => 5
    reshapeDims (some batch) [0, 8, -1] false = .ok [.dynamic (some "batch"), .static 8, .unknown] ∧
      List.Forall₂ (Dim.Admits sizes) [.dynamic (some "batch"), .static 8, .unknown] [5, 8, 3] ∧
      reshapeDims (some [.static 0]) [-1, 4294967296, 4294967296] false
        = .ok [.unknown, .static 4294967296, .static 4294967296] ∧
      List.Forall₂ (Dim.Admits sizes) [.unknown, .static 4294967296, .static 4294967296]
        [0, 4294967296, 4294967296] := by
  intro batch sizes
  have hbatch : reshapeDims (some batch) [0, 8, -1] false = .ok [.dynamic (some "batch"), .static 8, .unknown] := rfl
  have hempty : reshapeDims (some [.static 0]) [-1, 4294967296, 4294967296] false
      = .ok [.unknown, .static 4294967296, .static 4294967296] := rfl
  refine ⟨hbatch, ?_, hempty, ?_⟩
  · exact ((reshape_sound (some batch) [0, 8, -1] false).2 _ hbatch sizes [5, 6, 4] [5, 8, 3] (by decide) (by decide)
      (by decide)).1
  · exact ((reshape_sound (some [.static 0]) [-1, 4294967296, 4294967296] false).2 _ hempty sizes [0]
      [0, 4294967296, 4294967296] (by decide) (by decide) (by decide)).1

end ModelImport
