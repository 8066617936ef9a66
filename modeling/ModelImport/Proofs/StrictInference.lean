import ModelImport.Proofs.AxisPlaces
import ModelImport.Proofs.Broadcasting
import ModelImport.Proofs.EinsumGrammar
import ModelImport.Proofs.StrictAccess
/-!
# Strict inference

The computations of shapes and types in terms of strict accesses, with the condition under which each of them comes to
the same as that of the library. Where there is no condition the computation checks for itself what it relies on.
-/

namespace ModelImport

namespace Infer

theorem length_targetDims {input : Option (List Dim)} {allowZero : Bool} {start : Nat} {inferred : Bool}
    {target : List Int} {dims : List Dim} (h : targetDims input allowZero start inferred target = .ok dims) :
    dims.length = target.length := by
  induction target generalizing start inferred dims with
  | nil =>
    cases h
    rfl
  | cons size rest ih =>
    simp only [targetDims, bind, Except.bind, pure, Except.pure] at h
    split at h
    · cases h
    · split at h
      · cases h
      · split at h
        · cases h
        · next tail htail =>
          cases h
          simp [ih htail]

end Infer

namespace Strict

open Infer

/-! ## Broadcasting -/

/-- One axis of a result. A shape that is too short has no axis there. -/
def broadcastAxis (rank : Nat) (shapes : List (List Dim)) (axis : Nat) : Except Fault Dim :=
  shapes.foldlM (fun known shape =>
    if rank ≤ axis + shape.length then do return broadcastDim known (← index shape (axis + shape.length - rank))
    else return known) (.static 1)

def broadcastDims (shapes : List (List Dim)) : Except Fault (List Dim) :=
  (List.range (commonRank shapes)).mapM (broadcastAxis (commonRank shapes) shapes)

def broadcastType (element : ElementType) (types : List TensorType) : Except Fault TensorType :=
  match types.mapM TensorType.shape with
  | some shapes => return .ranked element (← broadcastDims shapes)
  | none => return .unranked element

/-- An axis counted from the front is one counted from the end. -/
theorem index_axis? {α : Type} {shape : List α} {rank axis : Nat} (haxis : axis < rank)
    (h : rank ≤ axis + shape.length) :
    shape[axis + shape.length - rank]? = axis? (rank - 1 - axis) shape := by
  rw [axis?, List.getElem?_reverse (by omega)]
  congr 1
  omega

theorem broadcastAxis_eq {rank axis : Nat} (haxis : axis < rank) :
    ∀ shapes : List (List Dim), (∀ shape ∈ shapes, shape.length ≤ rank) →
      broadcastAxis rank shapes axis = .ok ((axesAt (rank - 1 - axis) shapes).foldl broadcastDim (.static 1)) := by
  suffices h : ∀ (shapes : List (List Dim)) (known : Dim), (∀ shape ∈ shapes, shape.length ≤ rank) →
      shapes.foldlM (fun known shape =>
        if rank ≤ axis + shape.length then do return broadcastDim known (← index shape (axis + shape.length - rank))
        else return known) known = Except.ok ((axesAt (rank - 1 - axis) shapes).foldl broadcastDim known) from
    fun shapes => h shapes (.static 1)
  -- on the shapes, for whatever is known of the axis from those before
  intro shapes
  induction shapes with
  | nil => intro known _; rfl
  | cons shape shapes ih =>
    intro known hlengths
    rw [List.forall_mem_cons] at hlengths
    rw [List.foldlM_cons, axesAt_cons, List.foldl_append]
    by_cases hthere : rank ≤ axis + shape.length
    · have hindex := index_axis? haxis hthere
      have hsome : axis? (rank - 1 - axis) shape = some shape[axis + shape.length - rank] := by
        rw [← hindex, List.getElem?_eq_getElem]
      rw [if_pos hthere, index_of_lt (by omega), hsome]
      exact ih _ hlengths.2
    · have hnone : axis? (rank - 1 - axis) shape = none := by
        rw [axis?_eq_none_iff]
        omega
      rw [if_neg hthere, hnone]
      exact ih _ hlengths.2

theorem broadcastDims_eq (shapes : List (List Dim)) :
    broadcastDims shapes = .ok (Infer.broadcastDims shapes) := by
  have hmap : broadcastDims shapes = .ok ((List.range (commonRank shapes)).map fun axis =>
      (axesAt (commonRank shapes - 1 - axis) shapes).foldl broadcastDim (.static 1)) := by
    refine mapM_eq fun axis haxis => broadcastAxis_eq (List.mem_range.1 haxis) shapes fun shape hshape => ?_
    exact length_le_commonRank hshape
  rw [hmap]
  congr 1
  -- the library aligns the shapes at their ends, so its axes are counted from there
  apply List.ext_getElem?
  intro axis
  by_cases haxis : axis < commonRank shapes
  · have hend := axis?_broadcastDims shapes (commonRank shapes - 1 - axis)
    rw [if_pos (by omega), axis?, List.getElem?_reverse (by rw [length_broadcastDims]; omega),
      length_broadcastDims] at hend
    have hplace : commonRank shapes - 1 - (commonRank shapes - 1 - axis) = axis := by omega
    rw [hplace] at hend
    simp [haxis, hend]
  · rw [List.getElem?_eq_none (by simpa using haxis), List.getElem?_eq_none]
    rw [length_broadcastDims]
    omega

theorem broadcastType_eq (element : ElementType) (types : List TensorType) :
    broadcastType element types = .ok (Infer.broadcastType element types) := by
  unfold broadcastType Infer.broadcastType broadcast?
  cases types.mapM TensorType.shape with
  | none => rfl
  | some shapes =>
    simp only [broadcastDims_eq]
    rfl

/-! ## Matrix products -/

/-- A left operand as the axes before its matrix and the axis of rows. A single axis is made the row of one. -/
def leftRows (a : List Dim) : Except Fault (List Dim × List Dim) := do
  let matrix ← if a.length = 1 then insert a 0 (.static 1) else pure a
  let rows ← index matrix (← minus matrix.length 2)
  let batch ← upTo matrix (← minus matrix.length 2)
  return (batch, if a.length = 1 then [] else [rows])

/-- A right operand as the axes before its matrix and the axis of columns. A single axis is made a column first. -/
def rightColumns (b : List Dim) : Except Fault (List Dim × List Dim) := do
  let matrix := if b.length = 1 then b ++ [.static 1] else b
  let columns ← index matrix (← minus matrix.length 1)
  let batch ← upTo matrix (← minus matrix.length 2)
  return (batch, if b.length = 1 then [] else [columns])

def matMulType (a b : TensorType) : Except Fault TensorType :=
  match a.shape, b.shape with
  | some aDims, some bDims =>
    if aDims = [] ∨ bDims = [] then return .unranked a.element
    else do
      let (batchA, rows) ← leftRows aDims
      let (batchB, columns) ← rightColumns bDims
      return .ranked a.element ((← broadcastDims [batchA, batchB]) ++ rows ++ columns)
  | _, _ => return .unranked a.element

theorem leftRows_eq {a : List Dim} (h : a ≠ []) : ∃ parts, leftRows a = .ok parts ∧ Infer.leftRows a = some parts := by
  match a, h with
  | [x], _ => exact ⟨_, rfl, rfl⟩
  | x :: y :: rest, _ =>
    have hlt : (x :: y :: rest).length - 2 < (x :: y :: rest).length := by simp only [List.length_cons]; omega
    have hone : (x :: y :: rest).length ≠ 1 := by simp
    have htwo : 2 ≤ (x :: y :: rest).length := by simp
    refine ⟨_, ?_, rfl⟩
    simp only [leftRows, if_neg hone, minus_eq htwo, index_of_lt hlt, upTo_eq (Nat.le_of_lt hlt), bind, Except.bind,
      pure, Except.pure, List.drop_eq_getElem_cons hlt, List.take_succ_cons, List.take_zero]

theorem rightColumns_eq {b : List Dim} (h : b ≠ []) :
    ∃ parts, rightColumns b = .ok parts ∧ Infer.rightColumns b = some parts := by
  match b, h with
  | [x], _ => exact ⟨_, rfl, rfl⟩
  | x :: y :: rest, _ =>
    have hlt : (x :: y :: rest).length - 1 < (x :: y :: rest).length := by simp
    have hle : (x :: y :: rest).length - 2 ≤ (x :: y :: rest).length := Nat.sub_le _ _
    have hone : (x :: y :: rest).length ≠ 1 := by simp
    have htwo : 2 ≤ (x :: y :: rest).length := by simp
    have hlast : (x :: y :: rest).drop ((x :: y :: rest).length - 1 + 1) = [] := by simp
    refine ⟨_, ?_, rfl⟩
    simp only [rightColumns, if_neg hone, minus_eq htwo, minus_eq (Nat.le_of_lt htwo), index_of_lt hlt, upTo_eq hle,
      bind, Except.bind, pure, Except.pure, List.drop_eq_getElem_cons hlt, hlast]

theorem matMulType_eq (a b : TensorType) : matMulType a b = .ok (Infer.matMulType a b) := by
  unfold matMulType Infer.matMulType
  cases a.shape with
  | none => rfl
  | some aDims =>
    cases b.shape with
    | none => rfl
    | some bDims =>
      by_cases ha : aDims = []
      · simp [ha, Infer.matMulDims, Infer.leftRows, TensorType.ofDims?, pure, Except.pure]
      · obtain ⟨left, hleft, hleft'⟩ := leftRows_eq ha
        by_cases hb : bDims = []
        · simp [hb, Infer.matMulDims, Infer.rightColumns, TensorType.ofDims?, pure, Except.pure]
        · obtain ⟨right, hright, hright'⟩ := rightColumns_eq hb
          simp [ha, hb, hleft, hright, hleft', hright', Infer.matMulDims, TensorType.ofDims?, broadcastDims_eq, bind,
            Except.bind, pure, Except.pure]

/-! ## Sliding windows -/

def windowOutput (input : Dim) (kernel stride : Nat) (pads : Nat × Nat) (dilation : Nat) (ceilMode : Bool) :
    Except Fault Dim :=
  match input with
  | .dynamic _ => return .unknown
  | .static size =>
    let extent := kernelExtent kernel dilation
    let padded := Word.satAdd (Word.satAdd size pads.1) pads.2
    if padded < extent ∨ stride = 0 then return .unknown
    else do
      let steps ← if ceilMode then ceilQuotient (padded - extent) stride else quotient (padded - extent) stride
      return .static (steps + 1)

theorem windowOutput_eq (input : Dim) (kernel stride : Nat) (pads : Nat × Nat) (dilation : Nat) (ceilMode : Bool) :
    windowOutput input kernel stride pads dilation ceilMode =
      .ok (Infer.windowOutput input kernel stride pads dilation ceilMode) := by
  unfold windowOutput Infer.windowOutput
  cases input with
  | dynamic name => rfl
  | static size =>
    dsimp only
    split
    · rfl
    · next h =>
      rw [not_or] at h
      cases ceilMode
      · rw [quotient_eq h.2]
        rfl
      · rw [ceilQuotient_eq h.2]
        rfl

/-- The padding before and after that keeps the size, up to the stride. A stride of 0 counts as 1. -/
def samePads (upper : Bool) (input kernel stride dilation : Nat) : Except Fault (Nat × Nat) := do
  let stride := max stride 1
  let positions ← ceilQuotient input stride
  let covered := Word.satAdd (Word.satMul (positions - 1) stride) (kernelExtent kernel dilation)
  let total := covered - input
  let small := total / 2
  return if upper then (small, total - small) else (total - small, small)

theorem samePads_eq (upper : Bool) (input kernel stride dilation : Nat) :
    samePads upper input kernel stride dilation = .ok (Infer.samePads upper input kernel stride dilation) := by
  have hstride : max stride 1 ≠ 0 := by omega
  simp only [samePads, ceilQuotient_eq hstride]
  rfl

/-- The padding of one axis that keeps the size, where input and kernel are known. -/
def samePadsAt (w : Window) (upper : Bool) (axis : Nat) (input : Dim) : Except Fault (Option (Nat × Nat)) :=
  match input with
  | .dynamic _ => return none
  | .static size =>
    if size = 0 then return some (0, 0)
    else
      match w.kernel[axis]? with
      | none => return none
      | some kernel => do
        let stride ← index w.strides axis
        let dilation ← index w.dilations axis
        return some (← samePads upper size kernel stride dilation)

/-- The padding of one axis, if it is known. -/
def axisPads (w : Window) (axis : Nat) (input : Dim) : Except Fault (Option (Nat × Nat)) :=
  match w.autoPad with
  | .notSet => return some (← index w.pads axis, ← index w.pads (axis + w.strides.length))
  | .valid => return some (0, 0)
  | .sameUpper => samePadsAt w true axis input
  | .sameLower => samePadsAt w false axis input

/-- The number of positions on one axis. -/
def outputDim (w : Window) (ceilMode : Bool) (axis : Nat) (input : Dim) : Except Fault Dim := do
  match w.kernel[axis]?, ← axisPads w axis input with
  | some kernel, some pads =>
    windowOutput input kernel (← index w.strides axis) pads (← index w.dilations axis) ceilMode
  | _, _ => return .unknown

def outputDims (w : Window) (spatial : List Dim) (ceilMode : Bool) : Except Fault (List Dim) :=
  spatial.zipIdx.mapM fun (input, axis) => outputDim w ceilMode axis input

/-- The size of a transposed convolution on one axis. -/
def transposedDim (w : Window) (outputPadding : List Nat) (spatial axis : Nat) (input : Dim) : Except Fault Dim :=
  match input, w.kernel[axis]? with
  | .static size, some kernel => do
    let pads ← if w.autoPad = .notSet then pure (← index w.pads axis, ← index w.pads (axis + spatial)) else pure (0, 0)
    let dilation ← index w.dilations axis
    let stride ← index w.strides axis
    let padding ← index outputPadding axis
    return transposedOutput w.autoPad size kernel stride dilation padding pads
  | _, _ => return .unknown

def transposedDims (w : Window) (outputPadding : List Nat) (spatial : Nat) (dims : List Dim) :
    Except Fault (List Dim) :=
  dims.zipIdx.mapM fun (input, axis) => transposedDim w outputPadding spatial axis input

/-- The window has settings for so many axes. -/
structure Covers (w : Window) (count : Nat) : Prop where
  strides : w.strides.length = count
  dilations : w.dilations.length = count
  pads : w.pads.length = count * 2

section Window
variable {w : Window} {count axis : Nat}

theorem Covers.axis?_eq (h : Covers w count) (haxis : axis < count) {kernel : Nat}
    (hkernel : w.kernel[axis]? = some kernel) :
    ∃ a, w.axis? axis = some a ∧ a.kernel = kernel ∧ index w.strides axis = .ok a.stride ∧
      index w.dilations axis = .ok a.dilation ∧ index w.pads axis = .ok a.pads.1 ∧
      index w.pads (axis + count) = .ok a.pads.2 := by
  have hstride : axis < w.strides.length := by rw [h.strides]; exact haxis
  have hdilation : axis < w.dilations.length := by rw [h.dilations]; exact haxis
  have hbefore : axis < w.pads.length := by rw [h.pads]; omega
  have hafter : axis + count < w.pads.length := by rw [h.pads]; omega
  refine ⟨⟨kernel, w.strides[axis], w.dilations[axis], (w.pads[axis], w.pads[axis + count])⟩, ?_, rfl,
    index_of_lt hstride, index_of_lt hdilation, index_of_lt hbefore, index_of_lt hafter⟩
  simp only [Window.axis?, hkernel, h.strides, List.getElem?_eq_getElem hstride, List.getElem?_eq_getElem hdilation,
    List.getElem?_eq_getElem hbefore, List.getElem?_eq_getElem hafter]
  rfl

theorem axisPads_eq (h : Covers w count) (haxis : axis < count) {kernel : Nat} {a : WindowAxis}
    (hkernel : w.kernel[axis]? = some kernel) (ha : w.axis? axis = some a) (size : Nat) :
    axisPads w axis (.static size) = .ok (some (Window.axisPads w.autoPad a size)) := by
  obtain ⟨a', ha', hk, hstride, hdilation, hbefore, hafter⟩ := h.axis?_eq haxis hkernel
  cases ha.symm.trans ha'
  have hsame : ∀ upper, samePadsAt w upper axis (.static size) =
      .ok (some (if size = 0 then (0, 0) else Infer.samePads upper size a.kernel a.stride a.dilation)) := by
    intro upper
    unfold samePadsAt
    dsimp only
    split
    · rfl
    · simp only [hkernel, hstride, hdilation, samePads_eq, hk]
      rfl
  unfold axisPads Window.axisPads
  cases w.autoPad with
  | notSet =>
    rw [h.strides]
    simp only [hbefore, hafter]
    rfl
  | sameUpper => exact hsame true
  | sameLower => exact hsame false
  | valid => rfl

theorem axisPads_isOk (h : Covers w count) (haxis : axis < count) (input : Dim) :
    ∃ pads, axisPads w axis input = .ok pads := by
  have hstride : axis < w.strides.length := by rw [h.strides]; exact haxis
  have hdilation : axis < w.dilations.length := by rw [h.dilations]; exact haxis
  have hbefore : axis < w.pads.length := by rw [h.pads]; omega
  have hafter : axis + w.strides.length < w.pads.length := by rw [h.pads, h.strides]; omega
  have hsame : ∀ upper, ∃ pads, samePadsAt w upper axis input = .ok pads := by
    intro upper
    unfold samePadsAt
    cases input with
    | dynamic name => exact ⟨_, rfl⟩
    | static size =>
      dsimp only
      split
      · exact ⟨_, rfl⟩
      · cases w.kernel[axis]? with
        | none => exact ⟨_, rfl⟩
        | some kernel =>
          simp only [index_of_lt hstride, index_of_lt hdilation, samePads_eq]
          exact ⟨_, rfl⟩
  unfold axisPads
  cases w.autoPad with
  | notSet =>
    simp only [index_of_lt hbefore, index_of_lt hafter]
    exact ⟨_, rfl⟩
  | sameUpper => exact hsame true
  | sameLower => exact hsame false
  | valid => exact ⟨_, rfl⟩

theorem outputDim_eq (h : Covers w count) (haxis : axis < count) (ceilMode : Bool) (input : Dim) :
    outputDim w ceilMode axis input = .ok (w.outputDim ceilMode axis input) := by
  unfold outputDim Window.outputDim
  obtain ⟨pads, hpads⟩ := axisPads_isOk h haxis input
  cases hkernel : w.kernel[axis]? with
  | none =>
    have hnone : w.axis? axis = none := by simp [Window.axis?, hkernel]
    rw [hpads, hnone]
    rfl
  | some kernel =>
    obtain ⟨a, ha, hk, hstride, hdilation, -, -⟩ := h.axis?_eq haxis hkernel
    cases input with
    | dynamic name =>
      -- the padding may be known, the result is not
      rw [hpads, ha]
      cases pads with
      | none => rfl
      | some pads =>
        simp only [hstride, hdilation]
        rfl
    | static size =>
      rw [axisPads_eq h haxis hkernel ha size]
      simp only [hstride, hdilation, ha, hk, bind, Except.bind]
      exact windowOutput_eq ..

theorem outputDims_eq (h : Covers w count) {spatial : List Dim} (hspatial : spatial.length = count) (ceilMode : Bool) :
    outputDims w spatial ceilMode = .ok (w.outputDims spatial ceilMode) := by
  unfold outputDims Window.outputDims
  rw [List.mapIdx_eq_zipIdx_map]
  refine mapM_eq fun entry hentry => ?_
  have haxis : entry.2 < count := by
    rw [← hspatial]
    exact List.snd_lt_of_mem_zipIdx hentry
  exact outputDim_eq h haxis ceilMode entry.1

theorem transposedDim_eq (h : Covers w count) (haxis : axis < count) {outputPadding : List Nat}
    (hpadding : outputPadding.length = count) (input : Dim) :
    transposedDim w outputPadding count axis input = .ok (match w.axis? axis, input, outputPadding[axis]? with
      | some a, .static size, some padding =>
        transposedOutput w.autoPad size a.kernel a.stride a.dilation padding a.pads
      | _, _, _ => .unknown) := by
  have hindex : axis < outputPadding.length := by rw [hpadding]; exact haxis
  cases hkernel : w.kernel[axis]? with
  | none =>
    have hnone : w.axis? axis = none := by simp [Window.axis?, hkernel]
    rw [hnone]
    cases input <;> simp [transposedDim, hkernel, pure, Except.pure]
  | some kernel =>
    obtain ⟨a, ha, hk, hstride, hdilation, hbefore, hafter⟩ := h.axis?_eq haxis hkernel
    cases input with
    | dynamic name => simp [transposedDim, pure, Except.pure]
    | static size =>
      simp only [transposedDim, hkernel, ha, hk, hstride, hdilation, hbefore, hafter, index_of_lt hindex,
        List.getElem?_eq_getElem hindex]
      by_cases hpad : w.autoPad = .notSet
      · simp [hpad, bind, Except.bind, pure, Except.pure]
      · -- the padding is read only where it counts
        simp [hpad, transposedOutput, bind, Except.bind, pure, Except.pure]

theorem transposedDims_eq (h : Covers w count) {outputPadding : List Nat} (hpadding : outputPadding.length = count)
    {dims : List Dim} (hdims : dims.length = count) :
    transposedDims w outputPadding count dims = .ok (w.transposedDims outputPadding dims) := by
  unfold transposedDims Window.transposedDims
  rw [List.mapIdx_eq_zipIdx_map]
  refine mapM_eq fun entry hentry => ?_
  have haxis : entry.2 < count := by
    rw [← hdims]
    exact List.snd_lt_of_mem_zipIdx hentry
  exact transposedDim_eq h haxis hpadding entry.1

end Window

/-! ## Einsum -/

open Einsum in
/-- Notes the axes of the labels of a term from the given one on, where an ellipsis covers `width` axes. -/
def noteLabels (width : Nat) (dims : List Dim) : Term → Nat → Axes → Except Fault Axes
  | [], _, a => return a
  | .letter c :: labels, axis, a => do
    let dim ← index dims axis
    noteLabels width dims labels (axis + 1) (a.note c dim)
  | .ellipsis :: labels, axis, a => do
    let covered ← segment dims axis (axis + width)
    noteLabels width dims labels (axis + width) { a with covered := a.covered ++ [covered] }

open Einsum in
/-- What all operands say, or nothing when one of them has an unknown rank. -/
def gatherAxes : List (Term × TensorType) → Axes → StrictExcept (Option Axes)
  | [], a => return some a
  | (term, type) :: rest, a =>
    match type.shape with
    | none => return none
    | some dims =>
      if fits term dims.length then do
        let width ← minus dims.length (letters term).length
        gatherAxes rest (← noteLabels width dims term 0 a)
      else (invalid s!"term of {term.length} labels for rank {dims.length}" : Except ImportError (Option Axes))

open Einsum in
/-- The axes of the result, of which the ellipsis stands for those given. -/
def outputAxes (a : Axes) (covered : List Dim) : Term → Except ImportError (List Dim)
  | [] => .ok []
  | .ellipsis :: labels => return covered ++ (← outputAxes a covered labels)
  | .letter c :: labels =>
    match a.find? c with
    | some dim => return dim :: (← outputAxes a covered labels)
    | none => invalid s!"output label {Text.quotedChar c} not in any input"

open Einsum in
/-- The type of an einsum, with the element type of the first operand. -/
def outputType (e : Equation) (operands : List TensorType) : StrictExcept TensorType := do
  let start ← first operands
  if e.inputs.length ≠ operands.length then
    (invalid s!"{e.inputs.length} terms for {operands.length} operands" : Except ImportError Unit)
  match ← gatherAxes (e.inputs.zip operands) ⟨[], []⟩ with
  | none => return .unranked start.element
  | some axes =>
    let covered ← broadcastDims axes.covered
    return .ranked start.element (← outputAxes axes covered e.output)

section Einsum

open Einsum

/-- The number of axes that the labels of a term stand for, where an ellipsis covers `width` of them. -/
def span (width : Nat) (term : Term) : Nat := (letters term).length + term.count .ellipsis * width

theorem noteLabels_eq {width : Nat} {dims : List Dim} {term : Term} :
    ∀ {axis : Nat} (a : Axes), axis + span width term ≤ dims.length →
      noteLabels width dims term axis a = .ok (Axes.noteLabels width term (dims.drop axis) a) := by
  induction term with
  | nil => exact fun _ _ => rfl
  | cons label labels ih =>
    intro axis a hspan
    cases label with
    | letter c =>
      have hspan' : axis + 1 + span width labels ≤ dims.length := by
        simp only [span, letters, List.filterMap_cons, Label.letter?, List.length_cons,
          List.count_cons_of_ne (show Label.letter c ≠ .ellipsis by simp)] at hspan ⊢
        omega
      have hlt : axis < dims.length := by omega
      rw [noteLabels, index_of_lt hlt]
      refine (ih _ hspan').trans ?_
      rw [Axes.noteLabels, List.tail_drop, List.head?_drop, List.getElem?_eq_getElem hlt]
      rfl
    | ellipsis =>
      have hspan' : axis + width + span width labels ≤ dims.length := by
        simp only [span, letters, List.filterMap_cons, Label.letter?, List.count_cons_self, Nat.add_mul,
          Nat.one_mul] at hspan ⊢
        omega
      rw [noteLabels, segment_eq (Nat.le_add_right ..) (by omega)]
      refine (ih _ hspan').trans ?_
      rw [Axes.noteLabels, List.drop_drop, List.drop_take, Nat.add_sub_cancel_left]

/-- At most one ellipsis is what makes the labels of a term that fits an operand stand for its axes. -/
theorem span_of_fits {term : Term} {rank : Nat} (hone : term.count .ellipsis ≤ 1) (h : fits term rank = true) :
    (letters term).length ≤ rank ∧ span (rank - (letters term).length) term ≤ rank := by
  have hlength := length_letters_add_count term
  unfold span
  simp only [fits] at h
  split at h
  · have hle : (letters term).length ≤ rank := by simpa using h
    have hcount : term.count .ellipsis = 1 := by omega
    rw [hcount]
    omega
  · have heq : rank = (letters term).length := by simpa using h
    rw [heq, Nat.sub_self, Nat.mul_zero]
    exact ⟨Nat.le_refl _, Nat.le_refl _⟩

theorem gatherAxes_agrees {terms : List (Term × TensorType)} (h : ∀ entry ∈ terms, entry.1.count .ellipsis ≤ 1)
    (a : Axes) : (gatherAxes terms a).Agrees (Einsum.gather terms a) := by
  induction terms generalizing a with
  | nil => exact .pure
  | cons entry terms ih =>
    obtain ⟨term, type⟩ := entry
    obtain ⟨hterm, hterms⟩ := List.forall_mem_cons.1 h
    unfold gatherAxes Einsum.gather
    cases type.shape with
    | none => exact .pure
    | some dims =>
      dsimp only
      split
      · next hfits =>
        obtain ⟨hle, hspan⟩ := span_of_fits hterm hfits
        refine .access (minus_eq hle) (.access (noteLabels_eq a ?_) (ih hterms _))
        rw [Nat.zero_add]
        exact hspan
      · exact .lift

/-- A second ellipsis would stand for axes that are not there. -/
example : gatherAxes [([.ellipsis, .ellipsis], .ranked .f32 [.static 2])] ⟨[], []⟩ =
    .error (.fault (.slice 1 2 1)) := rfl

theorem outputAxes_eq (a : Axes) (term : Term) :
    outputAxes a (Infer.broadcastDims a.covered) term = Einsum.outputDims a term := by
  induction term with
  | nil => rfl
  | cons label labels ih =>
    cases label with
    | letter c =>
      cases hfind : a.find? c <;> simp only [outputAxes, Einsum.outputDims, ih, hfind]
    | ellipsis => simp only [outputAxes, Einsum.outputDims, ih]

theorem outputType_agrees {e : Equation} (h : ∀ term ∈ e.inputs, term.count .ellipsis ≤ 1) {start : TensorType}
    {operands : List TensorType} (hstart : operands.head? = some start) :
    (outputType e operands).Agrees (Einsum.outputType e start.element operands) := by
  refine .access (first_eq_ok.2 hstart) (.guard fun _ => ?_)
  have hterms : ∀ entry ∈ e.inputs.zip operands, entry.1.count .ellipsis ≤ 1 :=
    fun entry hentry => h _ (List.of_mem_zip hentry).1
  refine .bind (gatherAxes_agrees hterms _) fun axes? _ => ?_
  cases axes? with
  | none => exact .pure
  | some axes =>
    refine .access (broadcastDims_eq _) ?_
    rw [outputAxes_eq]
    exact .bind .lift fun _ _ => .pure

theorem count_parse {text : String} {e : Equation} (h : Einsum.parse text = .ok e) :
    ∀ term ∈ e.inputs, term.count .ellipsis ≤ 1 := by
  obtain ⟨-, hall, -⟩ := (parse_eq_ok_iff.mp h).proper
  exact fun term hterm => (hall term hterm).2

end Einsum

end Strict

end ModelImport
