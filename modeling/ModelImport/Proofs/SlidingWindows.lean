import Mathlib.Algebra.Order.Floor.Div
import ModelImport.Infer.Window
/-!
# Positions of a sliding window

A window moves along an axis in steps of its stride, and each of its positions covers as many elements as the dilated
kernel spans. The number of positions in a padded input is a quotient of saturating sizes (`windowOutput_floor`), and
rounding that quotient up instead changes it unless the last position ends where the padded input ends
(`windowOutput_modes_iff`).

`same_padding_positions`: padding that is to keep `ceil (input / stride)` positions is split in halves, up to an odd
one, and keeps them. There are two reasons. Where the last position reaches beyond the input, the padding fills the gap
exactly; where it ends within the input there is no padding at all, and what is left over is less than a stride.
-/

namespace ModelImport

/-! ## Saturating sizes -/

namespace Word

theorem satAdd_of_lt {a b : Nat} (h : a + b < count) : satAdd a b = a + b := by
  unfold satAdd largest
  omega

theorem satMul_of_lt {a b : Nat} (h : a * b < count) : satMul a b = a * b := by
  unfold satMul largest
  omega

/-- A sum of three stops where a sum of two would. -/
theorem satAdd_satAdd (a b c : Nat) : satAdd (satAdd a b) c = min (a + b + c) largest := by
  unfold satAdd
  omega

theorem ceilDiv_eq (a b : Nat) : ceilDiv a b = a ⌈/⌉ b := rfl

/-- Rounding a quotient up makes no difference if there is no remainder, and only then. -/
theorem ceilDiv_eq_div_iff {a b : Nat} (hb : 0 < b) : ceilDiv a b = a / b ↔ b ∣ a := by
  constructor
  · intro h
    have hup : a ≤ b * (a ⌈/⌉ b) := (ceilDiv_le_iff_le_mul hb).1 (Nat.le_refl _)
    rw [← ceilDiv_eq, h] at hup
    have hdown := Nat.mul_div_le a b
    exact ⟨a / b, by omega⟩
  · rintro ⟨q, rfl⟩
    rw [Nat.mul_div_cancel_left q hb]
    apply Nat.le_antisymm
    · exact (ceilDiv_le_iff_le_mul hb).2 (Nat.le_refl _)
    · have hup : b * q ≤ b * (b * q ⌈/⌉ b) := (ceilDiv_le_iff_le_mul hb).1 (Nat.le_refl _)
      exact Nat.le_of_mul_le_mul_left hup hb

end Word

namespace Infer

open Word

/-! ## The number of positions -/

section Positions
variable {input kernel stride dilation : Nat} {pads : Nat × Nat}

theorem kernelExtent_of_lt (h : dilation * (max kernel 1 - 1) + 1 < count) :
    kernelExtent kernel dilation = dilation * (max kernel 1 - 1) + 1 := by
  unfold kernelExtent
  rw [satMul_of_lt (by omega), satAdd_of_lt h]

theorem kernelExtent_pos (kernel dilation : Nat) : 0 < kernelExtent kernel dilation := by
  have hcount : 1 < count := by decide
  unfold kernelExtent satAdd largest
  omega

/-- There are `n` positions if the last of them still fits and one more would not. -/
theorem windowOutput_floor {n : Nat} (hstride : 0 < stride) (hn : 0 < n)
    (hfits : (n - 1) * stride + kernelExtent kernel dilation ≤ satAdd (satAdd input pads.1) pads.2)
    (hlast : satAdd (satAdd input pads.1) pads.2 < n * stride + kernelExtent kernel dilation) :
    windowOutput (.static input) kernel stride pads dilation false = .static n := by
  simp only [windowOutput]
  generalize satAdd (satAdd input pads.1) pads.2 = padded at hfits hlast ⊢
  generalize kernelExtent kernel dilation = extent at hfits hlast ⊢
  have hsome : ¬(padded < extent ∨ stride = 0) := by omega
  have hsteps : (padded - extent) / stride = n - 1 := by
    apply Nat.div_eq_of_lt_le
    · omega
    · rw [Nat.sub_add_cancel hn]
      omega
  rw [if_neg hsome, if_neg Bool.false_ne_true, hsteps, Nat.sub_add_cancel hn]

/-- The two ways of rounding agree if the last position ends where the padded input ends, and only then. -/
theorem windowOutput_modes_iff (hstride : 0 < stride)
    (hfits : kernelExtent kernel dilation ≤ satAdd (satAdd input pads.1) pads.2) :
    windowOutput (.static input) kernel stride pads dilation true =
        windowOutput (.static input) kernel stride pads dilation false ↔
      stride ∣ satAdd (satAdd input pads.1) pads.2 - kernelExtent kernel dilation := by
  have hsome : ¬(satAdd (satAdd input pads.1) pads.2 < kernelExtent kernel dilation ∨ stride = 0) := by omega
  simp only [windowOutput, if_neg hsome, if_neg Bool.false_ne_true, if_true, Dim.static.injEq, Nat.add_right_cancel_iff]
  exact ceilDiv_eq_div_iff hstride

end Positions

/-! ## Padding that keeps the positions -/

/-- Where the last of `ceil (input / stride)` positions ends. -/
def WindowAxis.reach (a : WindowAxis) (input : Nat) : Nat :=
  (input ⌈/⌉ a.stride - 1) * a.stride + a.dilation * (max a.kernel 1 - 1) + 1

section SamePadding
variable {a : WindowAxis} {input : Nat}

/-- The input ends after the start of the last position, and not after that of the next one. -/
theorem ceilDiv_bounds {stride : Nat} (hinput : 0 < input) (hstride : 0 < stride) :
    0 < input ⌈/⌉ stride ∧ (input ⌈/⌉ stride - 1) * stride < input ∧ input ≤ input ⌈/⌉ stride * stride := by
  have hle : ∀ n, input ⌈/⌉ stride ≤ n ↔ input ≤ n * stride := by
    intro n
    rw [ceilDiv_le_iff_le_mul hstride, Nat.mul_comm]
  have hpositive : 0 < input ⌈/⌉ stride := by
    apply Nat.pos_of_ne_zero
    intro hzero
    have := (hle 0).1 (Nat.le_of_eq hzero)
    omega
  refine ⟨hpositive, ?_, (hle _).1 (Nat.le_refl _)⟩
  apply Nat.lt_of_not_le
  intro h
  have := (hle _).2 h
  omega

theorem reach_eq (hfits : a.reach input < count) :
    a.reach input = (input ⌈/⌉ a.stride - 1) * a.stride + kernelExtent a.kernel a.dilation := by
  unfold WindowAxis.reach at hfits ⊢
  rw [kernelExtent_of_lt (by omega), Nat.add_assoc]

/-- The padding is what the last position needs beyond the input, the larger half on the side that is asked for. -/
theorem samePads_halves (upper : Bool) (hstride : 0 < a.stride) (hfits : a.reach input < count) :
    samePads upper input a.kernel a.stride a.dilation =
      let total := a.reach input - input
      if upper then (total / 2, total - total / 2) else (total - total / 2, total / 2) := by
  have hcovered : satAdd (satMul (ceilDiv input a.stride - 1) a.stride) (kernelExtent a.kernel a.dilation) =
      a.reach input := by
    have hreach := reach_eq hfits
    rw [ceilDiv_eq, satMul_of_lt (by omega), satAdd_of_lt (by omega), hreach]
  simp only [samePads, Nat.max_eq_left hstride, hcovered]

/-- Padded, the input ends where the last position does, unless it ended later anyway. -/
theorem padded_samePads (upper : Bool) (hstride : 0 < a.stride) (hfits : a.reach input < count) :
    let pads := samePads upper input a.kernel a.stride a.dilation
    satAdd (satAdd input pads.1) pads.2 = min (max input (a.reach input)) largest := by
  intro pads
  have hpads : pads.1 + pads.2 = a.reach input - input := by
    have hhalves : pads = _ := samePads_halves upper hstride hfits
    rw [hhalves]
    cases upper with
    | true =>
      simp only [if_true]
      omega
    | false =>
      simp only [Bool.false_eq_true, if_false]
      omega
  rw [satAdd_satAdd]
  omega

/-- The positions are kept, whether the padding fills a gap or there is none to fill. -/
theorem windowOutput_samePads (upper : Bool) (hinput : 0 < input) (hstride : 0 < a.stride)
    (hfits : a.reach input < count) :
    windowOutput (.static input) a.kernel a.stride (samePads upper input a.kernel a.stride a.dilation) a.dilation
      false = .static (input ⌈/⌉ a.stride) := by
  obtain ⟨hpositive, hstart, hend⟩ := ceilDiv_bounds hinput hstride
  have hreach := reach_eq hfits
  have hlargest : a.reach input ≤ largest := Nat.le_sub_one_of_lt hfits
  have hpadded := padded_samePads upper hstride hfits
  apply windowOutput_floor hstride hpositive
  · omega
  · have hextent := kernelExtent_pos a.kernel a.dilation
    have hnext : (input ⌈/⌉ a.stride - 1) * a.stride + a.stride = input ⌈/⌉ a.stride * a.stride := by
      rw [← Nat.succ_mul, Nat.succ_eq_add_one, Nat.sub_add_cancel hpositive]
    omega

/-- The rounding of the number of positions matters where the last of them ends within the input, and only there. -/
theorem windowOutput_samePads_modes_iff (upper : Bool) (hinput : 0 < input) (hsize : input < count)
    (hstride : 0 < a.stride) (hfits : a.reach input < count) :
    windowOutput (.static input) a.kernel a.stride (samePads upper input a.kernel a.stride a.dilation) a.dilation true =
        windowOutput (.static input) a.kernel a.stride (samePads upper input a.kernel a.stride a.dilation) a.dilation
          false ↔
      input ≤ a.reach input := by
  have hreach := reach_eq hfits
  have hlargest : max input (a.reach input) ≤ largest := by
    unfold largest
    omega
  have hpadded := padded_samePads upper hstride hfits
  rw [windowOutput_modes_iff hstride (by omega), hpadded, Nat.min_eq_left hlargest]
  constructor
  · intro hdvd
    by_contra hshort
    -- the input would end at a start of a position, between the last one and the next
    obtain ⟨hpositive, hstart, hend⟩ := ceilDiv_bounds hinput hstride
    have hextent := kernelExtent_pos a.kernel a.dilation
    rw [Nat.max_eq_left (Nat.le_of_not_le hshort)] at hdvd
    obtain ⟨q, hq⟩ := hdvd
    rw [Nat.mul_comm] at hq
    have hafter : input ⌈/⌉ a.stride - 1 < q := by
      apply Nat.lt_of_mul_lt_mul_right (a := a.stride)
      omega
    have hbefore : q < input ⌈/⌉ a.stride := by
      apply Nat.lt_of_mul_lt_mul_right (a := a.stride)
      omega
    omega
  · intro hlong
    rw [Nat.max_eq_right hlong, hreach, Nat.add_sub_cancel]
    exact Nat.dvd_mul_left _ _

end SamePadding

/-- The padding that an axis gets when its positions are to be kept. -/
theorem axisPads_same {autoPad : AutoPad} (hsame : autoPad = .sameUpper ∨ autoPad = .sameLower) (a : WindowAxis)
    {input : Nat} (hinput : 0 < input) :
    Window.axisPads autoPad a input = samePads (autoPad = .sameUpper) input a.kernel a.stride a.dilation := by
  have hne : input ≠ 0 := Nat.ne_of_gt hinput
  rcases hsame with rfl | rfl
  · simp [Window.axisPads, hne]
  · simp [Window.axisPads, hne]

/-- On an axis that is to keep its positions, the rounding matters where the last of them ends within the input. -/
theorem outputDim_modes_iff {w : Window} {axis : Nat} {a : WindowAxis} {input : Nat}
    (hsame : w.autoPad = .sameUpper ∨ w.autoPad = .sameLower) (ha : w.axis? axis = some a) (hinput : 0 < input)
    (hsize : input < count) (hstride : 0 < a.stride) (hfits : a.reach input < count) :
    w.outputDim true axis (.static input) = w.outputDim false axis (.static input) ↔ input ≤ a.reach input := by
  simp only [Window.outputDim, ha, axisPads_same hsame a hinput]
  exact windowOutput_samePads_modes_iff _ hinput hsize hstride hfits

/-- The two ways of rounding come to the same axes if they do on each axis whose kernel size is known. -/
theorem outputDims_modes_iff (w : Window) (sizes : List Nat) :
    w.outputDims (sizes.map .static) true = w.outputDims (sizes.map .static) false ↔
      ∀ axis a input, w.axis? axis = some a → sizes[axis]? = some input →
        w.outputDim true axis (.static input) = w.outputDim false axis (.static input) := by
  unfold Window.outputDims
  rw [List.ext_getElem?_iff]
  simp only [List.getElem?_mapIdx, List.getElem?_map]
  constructor
  · intro h axis a input ha hinput
    have haxis := h axis
    simpa [hinput] using haxis
  · intro h axis
    cases hinput : sizes[axis]? with
    | none => rfl
    | some input =>
      cases ha : w.axis? axis with
      | none => simp [Window.outputDim, ha]
      | some a => simp [h axis a input ha hinput]

/-! ## Transposed convolutions -/

/-- The size before padding is taken off, where a word can hold it. -/
theorem transposedExtent_of_lt {input kernel stride dilation padding : Nat}
    (hfits : stride * (input - 1) + padding + dilation * (max kernel 1 - 1) + 1 < count) :
    transposedExtent input kernel stride dilation padding =
      stride * (input - 1) + padding + kernelExtent kernel dilation := by
  have hextent : kernelExtent kernel dilation = dilation * (max kernel 1 - 1) + 1 := kernelExtent_of_lt (by omega)
  have hsteps : satMul stride (input - 1) = stride * (input - 1) := satMul_of_lt (by omega)
  have hsum : satAdd (stride * (input - 1)) padding = stride * (input - 1) + padding := satAdd_of_lt (by omega)
  unfold transposedExtent
  rw [hextent, hsteps, hsum, satAdd_of_lt (by omega)]

/-- The size of a transposed convolution is one on which a window has as many positions as the input had elements: the
padding is put back, and the output padding is less than a step. -/
theorem windowOutput_transposedOutput {input kernel stride dilation padding : Nat} {pads : Nat × Nat}
    (hinput : 1 ≤ input) (hpadding : padding < stride)
    (hfits : stride * (input - 1) + padding + dilation * (max kernel 1 - 1) + 1 < count)
    (hpads : pads.1 + pads.2 ≤ stride * (input - 1) + padding + dilation * (max kernel 1 - 1) + 1) :
    ∃ size, transposedOutput .notSet input kernel stride dilation padding pads = .static size ∧
      windowOutput (.static size) kernel stride pads dilation false = .static input := by
  have hextent : kernelExtent kernel dilation = dilation * (max kernel 1 - 1) + 1 := kernelExtent_of_lt (by omega)
  have hfull := transposedExtent_of_lt hfits
  have hcut : satAdd pads.1 pads.2 = pads.1 + pads.2 := satAdd_of_lt (by omega)
  refine ⟨transposedExtent input kernel stride dilation padding - (pads.1 + pads.2), ?_, ?_⟩
  · simp only [transposedOutput, if_true, hcut]
    rw [if_pos (by omega)]
  · have hsteps : stride * (input - 1) + stride = input * stride := by
      rw [← Nat.mul_succ, Nat.succ_eq_add_one, Nat.sub_add_cancel hinput, Nat.mul_comm]
    have hpadded : satAdd (satAdd (transposedExtent input kernel stride dilation padding - (pads.1 + pads.2)) pads.1)
        pads.2 = transposedExtent input kernel stride dilation padding := by
      rw [satAdd_satAdd]
      unfold largest
      omega
    apply windowOutput_floor (Nat.zero_lt_of_lt hpadding) hinput
    · rw [hpadded, hfull, Nat.mul_comm]
      omega
    · rw [hpadded, hfull]
      omega

theorem getElem?_transposedDims {w : Window} {outputPadding : List Nat} {spatial : List Dim} {axis input padding : Nat}
    {a : WindowAxis} (ha : w.axis? axis = some a) (hinput : spatial[axis]? = some (.static input))
    (hpadding : outputPadding[axis]? = some padding) :
    (w.transposedDims outputPadding spatial)[axis]? =
      some (transposedOutput w.autoPad input a.kernel a.stride a.dilation padding a.pads) := by
  simp [Window.transposedDims, hinput, ha, hpadding]

end Infer

open Infer

/-- An axis that is to keep its positions is padded by halves, up to one element more on the side that the mode names,
and then has `ceil (input / stride)` of them. -/
theorem same_padding_positions (w : Window) (axis : Nat) (a : WindowAxis) (input : Nat)
    (hsame : w.autoPad = .sameUpper ∨ w.autoPad = .sameLower) (ha : w.axis? axis = some a) (hinput : 0 < input)
    (hstride : 1 ≤ a.stride)
    (hfits : (input ⌈/⌉ a.stride - 1) * a.stride + a.dilation * (max a.kernel 1 - 1) + 1 < Word.count) :
    ∃ before after, Window.axisPads w.autoPad a input = (before, after) ∧
      (w.autoPad = .sameUpper → before ≤ after ∧ after ≤ before + 1) ∧
      (w.autoPad = .sameLower → after ≤ before ∧ before ≤ after + 1) ∧
      windowOutput (.static input) a.kernel a.stride (before, after) a.dilation false = .static (input ⌈/⌉ a.stride) ∧
      w.outputDim false axis (.static input) = .static (input ⌈/⌉ a.stride) := by
  obtain ⟨⟨before, after⟩, hpads⟩ : ∃ pads, pads = Window.axisPads w.autoPad a input := ⟨_, rfl⟩
  have hsplit := hpads.trans (axisPads_same hsame a hinput)
  have houtput : windowOutput (.static input) a.kernel a.stride (before, after) a.dilation false =
      .static (input ⌈/⌉ a.stride) := by
    rw [hsplit]
    exact windowOutput_samePads _ hinput hstride hfits
  rw [samePads_halves _ hstride hfits] at hsplit
  refine ⟨before, after, hpads.symm, ?_, ?_, houtput, ?_⟩
  · intro hupper
    simp only [hupper, decide_true, if_true, Prod.mk.injEq] at hsplit
    omega
  · intro hlower
    simp only [hlower, reduceCtorEq, decide_false, Bool.false_eq_true, if_false, Prod.mk.injEq] at hsplit
    omega
  · simp only [Window.outputDim, ha, ← hpads]
    exact houtput

/-- An odd padding for a dilated kernel, and a stride beyond the kernel that needs none. -/
theorem same_padding_positions_wide :
    let w : Window := ⟨[3, 2], [2, 5], [2, 1], [0, 0, 0, 0], .sameLower⟩
    w.axis? 0 = some ⟨3, 2, 2, (0, 0)⟩ ∧ w.axis? 1 = some ⟨2, 5, 1, (0, 0)⟩ ∧
      Window.axisPads .sameLower ⟨3, 2, 2, (0, 0)⟩ 8 = (2, 1) ∧
      Window.axisPads .sameLower ⟨2, 5, 1, (0, 0)⟩ 10 = (0, 0) ∧
      w.outputDim false 0 (.static 8) = .static 4 ∧ w.outputDim false 1 (.static 10) = .static 2 := by
  intro w
  have hfirst : w.axis? 0 = some ⟨3, 2, 2, (0, 0)⟩ := rfl
  have hsecond : w.axis? 1 = some ⟨2, 5, 1, (0, 0)⟩ := rfl
  obtain ⟨_, _, -, -, -, -, hpositions⟩ :=
    same_padding_positions w 0 _ 8 (.inr rfl) hfirst (by decide) (by decide) (by decide)
  obtain ⟨_, _, -, -, -, -, hpositions'⟩ :=
    same_padding_positions w 1 _ 10 (.inr rfl) hsecond (by decide) (by decide) (by decide)
  exact ⟨hfirst, hsecond, by decide, by decide, hpositions, hpositions'⟩

end ModelImport
