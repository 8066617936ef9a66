import Mathlib.Data.Set.Card
import ModelImport.Proofs.SlidingWindows
/-!
# Counting the positions of a window

The number of positions of a sliding window, once as a machine works it out and once as a count. The machine adds and
multiplies sizes so that they stop at the largest one, but two of its differences and its last sum are unguarded:
`checkedWindowOutput` gives up at each of them where the result would be no size, and never does. Where nothing has
been cut off at the largest size, rounding down counts the positions that fit, and rounding up gives the fewest that
reach the end of the padded input (`window_positions_counted`).
-/

namespace ModelImport

namespace Word

/-- The difference of two sizes, unless it falls below zero. -/
def minus? (a b : Nat) : Option Nat := if b ≤ a then some (a - b) else none

/-- The sum of two sizes, unless it exceeds the largest one. -/
def plus? (a b : Nat) : Option Nat := if a + b ≤ largest then some (a + b) else none

theorem minus?_eq {a b : Nat} (h : b ≤ a) : minus? a b = some (a - b) := if_pos h

theorem plus?_eq {a b : Nat} (h : a + b ≤ largest) : plus? a b = some (a + b) := if_pos h

theorem satAdd_le_largest (a b : Nat) : satAdd a b ≤ largest := Nat.min_le_right _ _

/-- Rounding up gives what rounding down does, or one more. -/
theorem div_le_ceilDiv {a b : Nat} (hb : 0 < b) : a / b ≤ ceilDiv a b ∧ ceilDiv a b ≤ a / b + 1 := by
  rw [ceilDiv_eq]
  constructor
  · have hup : a ≤ b * (a ⌈/⌉ b) := (ceilDiv_le_iff_le_mul hb).1 (Nat.le_refl _)
    exact Nat.div_le_of_le_mul hup
  · exact (ceilDiv_le_iff_le_mul hb).2 (Nat.le_of_lt (Nat.lt_mul_div_succ a hb))

theorem ceilDiv_le_self (a : Nat) {b : Nat} (hb : 0 < b) : ceilDiv a b ≤ a :=
  (ceilDiv_le_iff_le_mul hb).2 (Nat.le_mul_of_pos_left a hb)

end Word

namespace Infer

open Word

/-! ## The machine's way -/

/-- The number of positions of a window on one axis, worked out in sizes; nothing, where an unguarded difference or sum
is not a size. -/
def checkedWindowOutput (input : Dim) (kernel stride : Nat) (pads : Nat × Nat) (dilation : Nat) (ceilMode : Bool) :
    Option Dim :=
  match input with
  | .dynamic _ => some .unknown
  | .static input => do
    let extent := satAdd (satMul dilation (← minus? (max kernel 1) 1)) 1
    let padded := satAdd (satAdd input pads.1) pads.2
    if padded < extent ∨ stride = 0 then return .unknown
    let span ← minus? padded extent
    let steps := if ceilMode then ceilDiv span stride else span / stride
    return .static (← plus? steps 1)

/-- There are no more steps than elements beyond the kernel, in whichever way they are rounded. -/
theorem steps_le_span (span stride : Nat) (hstride : 0 < stride) (ceilMode : Bool) :
    (if ceilMode then ceilDiv span stride else span / stride) ≤ span := by
  cases ceilMode with
  | true => exact ceilDiv_le_self span hstride
  | false => exact Nat.div_le_self span stride

/-- Nothing is ever given up: a kernel touches an element, so that the steps are fewer than the largest size. -/
theorem checkedWindowOutput_eq (input : Dim) (kernel stride : Nat) (pads : Nat × Nat) (dilation : Nat)
    (ceilMode : Bool) :
    checkedWindowOutput input kernel stride pads dilation ceilMode =
      some (windowOutput input kernel stride pads dilation ceilMode) := by
  cases input with
  | dynamic name => rfl
  | static input =>
    have hpositive := kernelExtent_pos kernel dilation
    have hpadded : satAdd (satAdd input pads.1) pads.2 ≤ largest := satAdd_le_largest _ _
    simp only [checkedWindowOutput, windowOutput, minus?_eq (Nat.le_max_right kernel 1), Option.bind_eq_bind,
      Option.bind_some]
    rw [← kernelExtent]
    generalize satAdd (satAdd input pads.1) pads.2 = padded at hpadded ⊢
    generalize kernelExtent kernel dilation = extent at hpositive ⊢
    split
    · rfl
    · next hfits =>
      have hsteps := steps_le_span (padded - extent) stride (by omega) ceilMode
      rw [minus?_eq (by omega), Option.bind_some, plus?_eq (by omega)]
      rfl

/-! ## Positions counted -/

section Counts
variable {stride extent padded : Nat}

/-- The positions that fit are those up to a quotient. -/
theorem ncard_positions (hstride : 0 < stride) (hfits : extent ≤ padded) :
    Set.ncard {n | n * stride + extent ≤ padded} = (padded - extent) / stride + 1 := by
  have hpositions : {n | n * stride + extent ≤ padded} = ↑(Finset.range ((padded - extent) / stride + 1)) := by
    ext n
    rw [Set.mem_ofPred_eq, Finset.mem_coe, Finset.mem_range, Nat.lt_succ_iff, Nat.le_div_iff_mul_le hstride]
    omega
  rw [hpositions, Set.ncard_coe_finset, Finset.card_range]

/-- The fewest positions that reach the end of the input are those up to a quotient rounded up. -/
theorem isLeast_positions (hstride : 0 < stride) (hfits : extent ≤ padded) :
    IsLeast {n | 1 ≤ n ∧ padded ≤ (n - 1) * stride + extent} (ceilDiv (padded - extent) stride + 1) := by
  have hreaches : ∀ steps, padded ≤ steps * stride + extent ↔ ceilDiv (padded - extent) stride ≤ steps := by
    intro steps
    rw [ceilDiv_eq, ceilDiv_le_iff_le_mul hstride, Nat.mul_comm stride]
    omega
  constructor
  · exact ⟨Nat.le_add_left 1 _, (hreaches _).2 (Nat.le_refl _)⟩
  · rintro n ⟨hn, hend⟩
    have := (hreaches _).1 hend
    omega

end Counts

/-- Where no size is cut off at the largest one, the number of positions is a quotient of the sizes themselves. -/
theorem windowOutput_of_le {size kernel stride dilation : Nat} {pads : Nat × Nat} (ceilMode : Bool)
    (hstride : 0 < stride) (hextent : dilation * (max kernel 1 - 1) + 1 ≤ largest)
    (hpadded : size + pads.1 + pads.2 ≤ largest) :
    windowOutput (.static size) kernel stride pads dilation ceilMode =
      let extent := dilation * (max kernel 1 - 1) + 1
      let span := size + pads.1 + pads.2 - extent
      if size + pads.1 + pads.2 < extent then .unknown
      else .static ((if ceilMode then ceilDiv span stride else span / stride) + 1) := by
  have hcount : 0 < count := by decide
  have hkernel : kernelExtent kernel dilation = dilation * (max kernel 1 - 1) + 1 :=
    kernelExtent_of_lt (by unfold largest at hextent; omega)
  have hsum : satAdd (satAdd size pads.1) pads.2 = size + pads.1 + pads.2 := by
    rw [satAdd_satAdd, Nat.min_eq_left hpadded]
  simp only [windowOutput, hkernel, hsum, Nat.ne_of_gt hstride, or_false]

end Infer

open Infer

/-- The number of positions of a window never leaves the sizes. On a static axis, with a positive stride and neither the
extent of the kernel nor the padded size beyond the largest size, it is unknown if the kernel does not fit; else it is
the number of positions that fit, or, rounded up, the least number that reaches the end, which is at most one more. -/
theorem window_positions_counted (input : Dim) (kernel stride : Nat) (pads : Nat × Nat) (dilation : Nat) :
    (∀ ceilMode, checkedWindowOutput input kernel stride pads dilation ceilMode =
      some (windowOutput input kernel stride pads dilation ceilMode)) ∧
    ∀ size extent padded, input = .static size → 1 ≤ stride →
      extent = dilation * (max kernel 1 - 1) + 1 → extent ≤ Word.largest →
      padded = size + pads.1 + pads.2 → padded ≤ Word.largest →
      (∀ ceilMode, windowOutput input kernel stride pads dilation ceilMode = .unknown ↔ padded < extent) ∧
      (extent ≤ padded → ∃ floor ceil,
        windowOutput input kernel stride pads dilation false = .static floor ∧
        windowOutput input kernel stride pads dilation true = .static ceil ∧
        Set.ncard {n | n * stride + extent ≤ padded} = floor ∧
        IsLeast {n | 1 ≤ n ∧ padded ≤ (n - 1) * stride + extent} ceil ∧
        floor ≤ ceil ∧ ceil ≤ floor + 1) := by
  refine ⟨checkedWindowOutput_eq input kernel stride pads dilation, ?_⟩
  rintro size extent padded rfl hstride rfl hextent rfl hpadded
  have houtput := fun ceilMode => windowOutput_of_le ceilMode hstride hextent hpadded
  constructor
  · intro ceilMode
    rw [houtput]
    dsimp only
    split
    · next hshort => simp [hshort]
    · next hfits => simp [hfits, Dim.unknown]
  · intro hfits
    have hbounds := Word.div_le_ceilDiv (a := size + pads.1 + pads.2 - (dilation * (max kernel 1 - 1) + 1)) hstride
    refine ⟨_, _, ?_, ?_, ncard_positions hstride hfits, isLeast_positions hstride hfits, ?_, ?_⟩
    · rw [houtput]
      exact if_neg (Nat.not_lt.2 hfits)
    · rw [houtput]
      exact if_neg (Nat.not_lt.2 hfits)
    · omega
    · omega

/-- A window of every fourth element over the largest axis there is, where rounding matters. -/
theorem largest_axis_positions :
    let extent := 1 * (max 1 1 - 1) + 1
    let padded := Word.largest + 0 + 0
    1 ≤ 4 ∧ extent ≤ Word.largest ∧ padded ≤ Word.largest ∧ extent ≤ padded ∧
      checkedWindowOutput (.static Word.largest) 1 4 (0, 0) 1 true = some (.static 4611686018427387905) ∧
      windowOutput (.static Word.largest) 1 4 (0, 0) 1 false = .static 4611686018427387904 ∧
      Set.ncard {n | n * 4 + extent ≤ padded} = 4611686018427387904 ∧
      IsLeast {n | 1 ≤ n ∧ padded ≤ (n - 1) * 4 + extent} 4611686018427387905 := by
  intro extent padded
  have hextent : extent ≤ Word.largest := by decide
  have hpadded : padded ≤ Word.largest := by decide
  have hfits : extent ≤ padded := by decide
  have hfloor : windowOutput (.static Word.largest) 1 4 (0, 0) 1 false = .static 4611686018427387904 := by decide
  have hceil : windowOutput (.static Word.largest) 1 4 (0, 0) 1 true = .static 4611686018427387905 := by decide
  obtain ⟨hchecked, hcounted⟩ := window_positions_counted (.static Word.largest) 1 4 (0, 0) 1
  obtain ⟨-, hpositions⟩ := hcounted _ extent padded rfl (by decide) rfl hextent rfl hpadded
  obtain ⟨floor, ceil, hfloor', hceil', hcount, hleast, -, -⟩ := hpositions hfits
  obtain rfl : floor = 4611686018427387904 := Dim.static.inj (hfloor'.symm.trans hfloor)
  obtain rfl : ceil = 4611686018427387905 := Dim.static.inj (hceil'.symm.trans hceil)
  exact ⟨by decide, hextent, hpadded, hfits, (hchecked true).trans (congrArg some hceil), hfloor, hcount, hleast⟩

end ModelImport
