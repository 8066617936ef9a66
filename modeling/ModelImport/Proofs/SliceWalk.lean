import ModelImport.Infer.Slice
/-!
# What a slice selects

A slice walks along an axis: from its first index by its step, as long as the end is ahead. `sliceLength_counts_walk`:
the length that is inferred for it is the number of indices the walk visits, all of which lie on the axis; and the
numbers that come up on the way to it fit a signed value of 128 bits.

Walks up and walks down are one in terms of the distance that remains (`remaining`): each step takes the size of the step
off it, and the length is the distance divided by that size, rounded up (`stepCount`).
-/

namespace ModelImport

namespace Infer

/-! ## Walks -/

/-- The end of a walk by `step` is still ahead at index `i`. -/
def Ahead (step stop i : Int) : Prop := if 0 < step then i < stop else stop < i

instance (step stop i : Int) : Decidable (Ahead step stop i) :=
  inferInstanceAs (Decidable (if 0 < step then i < stop else stop < i))

/-- How far the end of a walk by `step` is from index `i`. -/
def remaining (step stop i : Int) : Int := if 0 < step then stop - i else i - stop

theorem ahead_iff {step stop i : Int} : Ahead step stop i ↔ 0 < remaining step stop i := by
  unfold Ahead remaining
  split <;> omega

theorem remaining_add (step stop i : Int) :
    remaining step stop (i + step) = remaining step stop i - step.natAbs := by
  unfold remaining
  split <;> omega

/-- The indices that a walk visits from `i` on. -/
def walk (step stop i : Int) : List Int :=
  if step ≠ 0 ∧ Ahead step stop i then i :: walk step stop (i + step) else []
termination_by (remaining step stop i).toNat
decreasing_by
  have hahead := ahead_iff.mp (by assumption : _ ∧ _).2
  rw [remaining_add]
  omega

/-- The indices that a slice of an axis selects, in order. Its bounds are counted from the back if they are negative, and
then moved: going up, both to between 0 and the length; going down, the start to the first or last index, and the end to
the last one or to before the first. -/
def sliceWalk (length : Nat) (start stop step : Int) : List Int :=
  let place (bound : Int) : Int := if bound < 0 then bound + length else bound
  if 0 < step then walk step (max 0 (min length (place stop))) (max 0 (min length (place start)))
  else walk step (max (-1) (min (length - 1) (place stop))) (max 0 (min (length - 1) (place start)))

theorem mem_walk {step stop i j : Int} (h : j ∈ walk step stop i) :
    Ahead step stop j ∧ remaining step stop j ≤ remaining step stop i := by
  fun_induction walk step stop i with
  | case1 i hahead ih =>
    rcases List.mem_cons.mp h with rfl | h
    · exact ⟨hahead.2, Int.le_refl _⟩
    · have hlater := ih h
      rw [remaining_add] at hlater
      exact ⟨hlater.1, by omega⟩
  | case2 i hend => exact absurd h List.not_mem_nil

theorem length_walk_le (step stop i : Int) : (walk step stop i).length ≤ (remaining step stop i).toNat := by
  fun_induction walk step stop i with
  | case1 i hahead ih =>
    have hpositive := ahead_iff.mp hahead.2
    have hstep : 0 < step.natAbs := Int.natAbs_pos.mpr hahead.1
    rw [remaining_add] at ih
    rw [List.length_cons]
    omega
  | case2 i hend => exact Nat.zero_le _

/-! ## Counting the steps -/

/-- A distance divided by the size of a step, rounded up by dividing toward zero. -/
def stepCount (distance size : Int) : Nat := ((distance + size - 1).tdiv size).toNat

theorem stepCount_of_nonpos {distance size : Int} (hsize : 0 < size) (h : distance ≤ 0) : stepCount distance size = 0 := by
  unfold stepCount
  rcases Int.lt_or_le (distance + size - 1) 0 with hnegative | hnatural
  · have hopposite := Int.tdiv_nonneg (Int.neg_nonneg_of_nonpos (Int.le_of_lt hnegative)) (Int.le_of_lt hsize)
    rw [Int.neg_tdiv] at hopposite
    omega
  · rw [Int.tdiv_eq_zero_of_lt hnatural (by omega)]
    rfl

theorem stepCount_of_pos {distance size : Int} (hsize : 0 < size) (h : 0 < distance) :
    stepCount distance size = stepCount (distance - size) size + 1 := by
  have hnatural : 0 ≤ distance - 1 := by omega
  have hrest : distance - size + size - 1 = distance - 1 := by omega
  have hfull : distance + size - 1 = distance - 1 + 1 * size := by omega
  have hquotient : 0 ≤ (distance - 1) / size := Int.ediv_nonneg hnatural (Int.le_of_lt hsize)
  unfold stepCount
  rw [hrest, hfull, Int.tdiv_eq_ediv_of_nonneg hnatural, Int.tdiv_eq_ediv_of_nonneg (by omega),
    Int.add_mul_ediv_right _ _ (by omega)]
  omega

theorem length_walk {step : Int} (hne : step ≠ 0) (stop i : Int) :
    (walk step stop i).length = stepCount (remaining step stop i) step.natAbs := by
  have hsize : (0 : Int) < step.natAbs := Int.natCast_pos.mpr (Int.natAbs_pos.mpr hne)
  fun_induction walk step stop i with
  | case1 i hahead ih =>
    rw [stepCount_of_pos hsize (ahead_iff.mp hahead.2), List.length_cons, ih, remaining_add]
  | case2 i hend =>
    have hdone : remaining step stop i ≤ 0 := Int.not_lt.mp fun h => hend ⟨hne, ahead_iff.mpr h⟩
    rw [stepCount_of_nonpos hsize hdone, List.length_nil]

/-! ## The walk of a slice -/

section Slice

variable {length : Nat} {start stop step : Int}

theorem sliceWalk_eq :
    sliceWalk length start stop step = walk step (sliceEnd length stop step) (sliceStart length start step) := by
  unfold sliceWalk sliceStart sliceEnd
  by_cases hpositive : 0 < step
  · simp only [if_pos hpositive, clamp, fromBack]
  · simp only [if_neg hpositive, clamp, fromBack]

theorem sliceLength_eq_stepCount (hlength : 0 < length) :
    sliceLength length start stop step
      = stepCount (remaining step (sliceEnd length stop step) (sliceStart length start step)) step.natAbs := by
  rw [sliceLength, if_neg (Nat.ne_of_gt hlength), stepCount, remaining]
  by_cases hpositive : 0 < step
  · have hsize : (step.natAbs : Int) = step := by omega
    simp only [hpositive, hsize, if_true]
  · have hsize : (step.natAbs : Int) = -step := by omega
    simp only [hpositive, hsize, if_false, Int.sub_eq_add_neg]

theorem sliceStart_bounds (start step : Int) (hlength : 0 < length) :
    0 ≤ sliceStart length start step ∧ sliceStart length start step ≤ length ∧
      (¬ 0 < step → sliceStart length start step < length) := by
  unfold sliceStart clamp
  split <;> omega

theorem sliceEnd_bounds (stop step : Int) (hlength : 0 < length) :
    -1 ≤ sliceEnd length stop step ∧ sliceEnd length stop step ≤ length ∧
      (0 < step → 0 ≤ sliceEnd length stop step) := by
  unfold sliceEnd clamp
  split <;> omega

theorem remaining_slice_le (start stop step : Int) (hlength : 0 < length) :
    remaining step (sliceEnd length stop step) (sliceStart length start step) ≤ length := by
  have hstart := sliceStart_bounds start step hlength
  have hstop := sliceEnd_bounds stop step hlength
  unfold remaining
  split <;> omega

theorem length_sliceWalk (hlength : 0 < length) (hne : step ≠ 0) :
    (sliceWalk length start stop step).length = sliceLength length start stop step := by
  rw [sliceWalk_eq, length_walk hne, sliceLength_eq_stepCount hlength]

theorem mem_sliceWalk {i : Int} (hlength : 0 < length) (h : i ∈ sliceWalk length start stop step) :
    0 ≤ i ∧ i < length := by
  rw [sliceWalk_eq] at h
  have hstart := sliceStart_bounds start step hlength
  have hstop := sliceEnd_bounds stop step hlength
  obtain ⟨hahead, hcloser⟩ := mem_walk h
  by_cases hpositive : 0 < step
  · simp only [Ahead, remaining, if_pos hpositive] at hahead hcloser
    omega
  · simp only [Ahead, remaining, if_neg hpositive] at hahead hcloser
    omega

end Slice

end Infer

/-! ## In values of 128 bits -/

namespace Word

/-- The integers that a signed 128-bit value can hold. -/
def FitsWide (i : Int) : Prop := -Int.pow 2 127 ≤ i ∧ i < Int.pow 2 127

instance (i : Int) : Decidable (FitsWide i) := inferInstanceAs (Decidable (_ ∧ _))

/-- An integer, when a signed 128-bit value can hold it. -/
def wide? (i : Int) : Option Int := if FitsWide i then some i else none

theorem fitsSigned_iff {i : Int} : FitsSigned i ↔ -9223372036854775808 ≤ i ∧ i < 9223372036854775808 := Iff.rfl

theorem wide?_eq_some {i : Int}
    (h : -170141183460469231731687303715884105728 ≤ i ∧ i < 170141183460469231731687303715884105728) :
    wide? i = some i := if_pos h

end Word

namespace Infer

open Word (wide?)

/-- A bound counted from the back, if what comes up fits 128 bits. -/
def wideFromBack? (length bound : Int) : Option Int := if bound < 0 then wide? (bound + length) else wide? bound

/-- A distance divided by the size of a step and rounded up, if what comes up fits 128 bits. -/
def wideStepCount? (far near size : Int) : Option Int := do
  let distance ← wide? (far - near)
  let raised ← wide? (distance + size)
  let numerator ← wide? (raised - 1)
  wide? (numerator.tdiv size)

/-- The length of a slice, if all the numbers on the way to it fit 128 bits. -/
def wideSliceLength? (length : Nat) (start stop step : Int) : Option Nat :=
  if length = 0 then some 0
  else do
    let start ← wideFromBack? length start
    let stop ← wideFromBack? length stop
    if 0 < step then do
      let count ← wideStepCount? (clamp 0 length stop) (clamp 0 length start) step
      return count.toNat
    else do
      let last ← wide? (length - 1)
      let size ← wide? (-step)
      let count ← wideStepCount? (clamp 0 last start) (clamp (-1) last stop) size
      return count.toNat

theorem wideFromBack?_eq {length bound : Int} (hlength : 0 ≤ length ∧ length < 18446744073709551616)
    (hbound : Word.FitsSigned bound) : wideFromBack? length bound = some (fromBack length bound) := by
  rw [Word.fitsSigned_iff] at hbound
  unfold wideFromBack? fromBack
  split
  · exact Word.wide?_eq_some (by omega)
  · exact Word.wide?_eq_some (by omega)

theorem wideStepCount?_eq {far near size : Int} (hfar : -1 ≤ far ∧ far < 18446744073709551616)
    (hnear : -1 ≤ near ∧ near < 18446744073709551616) (hsize : 0 < size ∧ size ≤ 9223372036854775808) :
    wideStepCount? far near size = some ((far - near + size - 1).tdiv size) := by
  -- the quotient is no larger than what is divided
  have hquotient := Int.natAbs_tdiv_le_natAbs (far - near + size - 1) size
  simp only [wideStepCount?, bind, Option.bind]
  rw [Word.wide?_eq_some (by omega)]
  dsimp only
  rw [Word.wide?_eq_some (by omega)]
  dsimp only
  rw [Word.wide?_eq_some (by omega)]
  exact Word.wide?_eq_some (by omega)

theorem wideSliceLength?_eq {length : Nat} {start stop step : Int} (hlength : length < Word.count)
    (hstart : Word.FitsSigned start) (hstop : Word.FitsSigned stop) (hstep : Word.FitsSigned step) (hne : step ≠ 0) :
    wideSliceLength? length start stop step = some (sliceLength length start stop step) := by
  unfold wideSliceLength? sliceLength
  by_cases hzero : length = 0
  · rw [if_pos hzero, if_pos hzero]
  · have hword : (0 : Int) ≤ length ∧ (length : Int) < 18446744073709551616 :=
      ⟨Int.natCast_nonneg _, Int.ofNat_lt.mpr hlength⟩
    rw [Word.fitsSigned_iff] at hstep
    rw [if_neg hzero, if_neg hzero, wideFromBack?_eq hword hstart, wideFromBack?_eq hword hstop]
    simp only [sliceStart, sliceEnd, bind, Option.bind, pure]
    by_cases hpositive : 0 < step
    · simp only [if_pos hpositive]
      rw [wideStepCount?_eq (by unfold clamp; omega) (by unfold clamp; omega) (by omega)]
    · simp only [if_neg hpositive]
      rw [Word.wide?_eq_some (by omega), Word.wide?_eq_some (by omega)]
      dsimp only
      rw [wideStepCount?_eq (by unfold clamp; omega) (by unfold clamp; omega) (by omega)]
      simp only [Int.sub_eq_add_neg]

/-- For any axis length of 64 bits, signed bounds and signed step other than 0: the length of a slice is the number of
indices that its walk visits, all of them on the axis, so it is at most the length of the axis; and it comes out the same
when each number on the way has to fit 128 bits. An axis without elements has an empty slice. -/
theorem sliceLength_counts_walk (length : Nat) (start stop step : Int) (hlength : length < Word.count)
    (hstart : Word.FitsSigned start) (hstop : Word.FitsSigned stop) (hstep : Word.FitsSigned step) (hne : step ≠ 0) :
    (length = 0 → sliceLength length start stop step = 0) ∧
    (0 < length →
      sliceLength length start stop step = (sliceWalk length start stop step).length ∧
        ∀ i ∈ sliceWalk length start stop step, 0 ≤ i ∧ i < length) ∧
    sliceLength length start stop step ≤ length ∧
    wideSliceLength? length start stop step = some (sliceLength length start stop step) := by
  refine ⟨fun hzero => if_pos hzero,
    fun hpositive => ⟨(length_sliceWalk hpositive hne).symm, fun i => mem_sliceWalk hpositive⟩, ?_,
    wideSliceLength?_eq hlength hstart hstop hstep hne⟩
  rcases Nat.eq_zero_or_pos length with hzero | hpositive
  · exact Nat.le_trans (Nat.le_of_eq (if_pos hzero)) (Nat.zero_le _)
  · have hwalk := length_walk_le step (sliceEnd length stop step) (sliceStart length start step)
    have hdistance := remaining_slice_le start stop step hpositive
    rw [← length_sliceWalk hpositive hne, sliceWalk_eq]
    omega

/-- From the last index of the longest axis down to the first by the largest step there is. -/
theorem sliceLength_counts_walk_extremes :
    sliceLength 18446744073709551615 (-1) 0 (-9223372036854775808) = 2 ∧
      (sliceWalk 18446744073709551615 (-1) 0 (-9223372036854775808)).length = 2 ∧
      wideSliceLength? 18446744073709551615 (-1) 0 (-9223372036854775808) = some 2 := by
  have htwo : sliceLength 18446744073709551615 (-1) 0 (-9223372036854775808) = 2 := by decide
  obtain ⟨-, hwalk, -, hwide⟩ := sliceLength_counts_walk 18446744073709551615 (-1) 0 (-9223372036854775808) (by decide)
    (by decide) (by decide) (by decide) (by decide)
  rw [htwo] at hwalk hwide
  exact ⟨htwo, (hwalk (by decide)).1.symm, hwide⟩

end Infer

end ModelImport
