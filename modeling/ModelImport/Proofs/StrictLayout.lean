import ModelImport.Proofs.StrictInference
/-!
# Strict layouts

The computations of axes that are laid out anew, joined, split, sliced and padded, and those of stored tensors, in terms
of strict accesses. The places they read come from attributes, and have been checked against the rank or against the
length of another list before.
-/

namespace ModelImport.Strict

open Infer Operator

/-! ## Reshaping -/

/-- The size left over for one axis. -/
def leftOver? (input : Option (List Dim)) (dims : List Dim) (place : Nat) : Except Fault (Option Nat) :=
  match input.bind product?, product? (dims.eraseIdx place) with
  | some total, some known =>
    if known ≠ 0 then do
      if (← remainder total known) = 0 then return some (← quotient total known) else return none
    else return none
  | _, _ => return none

theorem leftOver?_eq (input : Option (List Dim)) (dims : List Dim) (place : Nat) :
    leftOver? input dims place = .ok (Infer.leftOver? input dims place) := by
  unfold leftOver? Infer.leftOver?
  cases input.bind product? with
  | none => rfl
  | some total =>
    cases product? (dims.eraseIdx place) with
    | none => rfl
    | some known =>
      by_cases hknown : known = 0
      · simp [hknown, pure, Except.pure]
      · simp only [ne_eq, hknown, not_false_eq_true, if_true, true_and, remainder_eq hknown, quotient_eq hknown, bind,
          Except.bind, Option.bind_some]
        split <;> rfl

def reshapeDims (input : Option (List Dim)) (target : List Int) (allowZero : Bool) : StrictExcept (List Dim) := do
  let dims ← targetDims input allowZero 0 false target
  match target.findIdx? (· == -1) with
  | none => return dims
  | some place =>
    match ← leftOver? input dims place with
    | some size => replace dims place (.static size)
    | none => return dims

theorem reshapeDims_agrees (input : Option (List Dim)) (target : List Int) (allowZero : Bool) :
    (reshapeDims input target allowZero).Agrees (Infer.reshapeDims input target allowZero) := by
  refine StrictExcept.Agrees.bind .lift fun dims hdims => ?_
  cases hplace : target.findIdx? (· == -1) with
  | none => exact .pure
  | some place =>
    have hlt : place < dims.length := by
      rw [length_targetDims hdims]
      exact (List.findIdx?_eq_some_iff_getElem.1 hplace).1
    refine .access (leftOver?_eq input dims place) ?_
    dsimp only
    cases Infer.leftOver? input dims place with
    | none => exact .pure
    | some size =>
      dsimp only
      rw [replace_eq hlt]
      rfl

def flattenDims (dims : List Dim) (axis : Int) : StrictExcept (Nat × List Dim) := do
  let axis ← normalizeAxis "axis" axis (dims.length + 1)
  let outer ← upTo dims axis
  let inner ← since dims axis
  return (axis, [.ofSize? (product? outer), .ofSize? (product? inner)])

theorem flattenDims_agrees (dims : List Dim) (axis : Int) :
    (flattenDims dims axis).Agrees (Infer.flattenDims dims axis) := by
  refine StrictExcept.Agrees.bind .lift fun place hplace => ?_
  have hle : place ≤ dims.length := Nat.le_of_lt_succ (lt_of_normalizeAxis hplace)
  exact .access (upTo_eq hle) (.access (since_eq hle) .pure)

/-- The axes in the order of a permutation. -/
def permute (dims : List Dim) (perm : List Nat) : Except Fault (List Dim) := perm.mapM (index dims)

theorem permute_eq {dims : List Dim} {perm : List Nat} (h : ∀ place ∈ perm, place < dims.length) :
    permute dims perm = .ok (Infer.permute dims perm) :=
  mapM_eq_filterMap fun place hplace => ⟨_, index_of_lt (h place hplace), List.getElem?_eq_getElem _⟩

theorem lt_of_permutation {perm : Option (List Int)} {rank : Nat} {places : List Nat}
    (h : permutation perm rank = .ok places) : ∀ place ∈ places, place < rank := by
  unfold permutation at h
  split at h
  · cases h
    simp
  · split at h
    · cases h
    · exact lt_of_normalizeAxes h

/-! ## Axes of size 1 -/

def checkUnitAxes (dims : List Dim) : List Nat → StrictExcept Unit
  | [] => return ()
  | axis :: rest => do
    match (← index dims axis).size? with
    | some size =>
      if size = 1 then checkUnitAxes dims rest
      else (Except.error (.invalidAttribute "axes" s!"axis {axis} has size {size}, not 1") : Except ImportError Unit)
    | none => checkUnitAxes dims rest

theorem checkUnitAxes_agrees {dims : List Dim} {axes : List Nat} (h : ∀ axis ∈ axes, axis < dims.length) :
    (checkUnitAxes dims axes).Agrees (Infer.checkUnitAxes dims axes) := by
  induction axes with
  | nil => exact .pure
  | cons axis axes ih =>
    rw [List.forall_mem_cons] at h
    unfold checkUnitAxes Infer.checkUnitAxes
    refine .access (index_of_lt h.1) ?_
    rw [List.getElem?_eq_getElem h.1, Option.bind_some]
    cases dims[axis].size? with
    | none => exact ih h.2
    | some size =>
      dsimp only
      split
      · exact ih h.2
      · exact .lift

def squeezeDims (dims : List Dim) (axes : List Int) : StrictExcept (List Nat × List Dim) := do
  let axes ← normalizeAxes "axes" axes dims.length
  checkUnitAxes dims axes
  return (axes, dropAxes dims axes)

theorem squeezeDims_agrees (dims : List Dim) (axes : List Int) :
    (squeezeDims dims axes).Agrees (Infer.squeezeDims dims axes) := by
  refine StrictExcept.Agrees.bind .lift fun places hplaces => ?_
  exact .bind (checkUnitAxes_agrees (lt_of_normalizeAxes hplaces)) fun _ _ => .pure

/-- The places of the axes of size 1. -/
def unitAxes (dims : List Dim) : Except Fault (List Nat) :=
  (List.range dims.length).filterM fun place => return (← index dims place) == .static 1

theorem unitAxes_eq (dims : List Dim) : unitAxes dims = .ok (Infer.unitAxes dims) := by
  have hfilter :
      unitAxes dims = .ok ((List.range dims.length).filter fun place => dims[place]? == some (.static 1)) := by
    refine filterM_eq fun place hplace => ?_
    have hlt : place < dims.length := List.mem_range.1 hplace
    rw [index_of_lt hlt, List.getElem?_eq_getElem hlt]
    rfl
  have hplaces : List.range dims.length = dims.zipIdx.map (·.2) := by
    rw [List.zipIdx_map_snd, List.range_eq_range']
  rw [hfilter, Infer.unitAxes, hplaces, List.filter_map]
  congr 2
  apply List.filter_congr
  rintro ⟨dim, place⟩ hentry
  rw [List.mem_zipIdx_iff_getElem?] at hentry
  simp [hentry]

/-! ## Joining and splitting -/

/-- The axes that shapes have at one place. -/
def column (shapes : List (List Dim)) (axis : Nat) : Except Fault (List Dim) := shapes.mapM (index · axis)

def concatDims (shapes : List (List Dim)) (axis : Int) : StrictExcept (Nat × List Dim) := do
  let start ← first shapes
  if shapes.any (·.length ≠ start.length) then
    (Except.error (.invalidAttribute "axis" "operands differ in rank") : Except ImportError Unit)
  let axis ← normalizeAxis "axis" axis start.length
  let along ← column shapes axis
  return (axis, ← replace start axis (.ofSize? (sum? along)))

theorem column_eq {shapes : List (List Dim)} {axis : Nat} (h : ∀ shape ∈ shapes, axis < shape.length) :
    column shapes axis = .ok (shapes.filterMap (·[axis]?)) :=
  mapM_eq_filterMap fun shape hshape => ⟨_, index_of_lt (h shape hshape), List.getElem?_eq_getElem _⟩

theorem concatDims_agrees {shapes : List (List Dim)} (h : shapes ≠ []) (axis : Int) :
    (concatDims shapes axis).Agrees (Operator.concatDims shapes axis) := by
  obtain ⟨start, rest, rfl⟩ := List.exists_cons_of_ne_nil h
  refine .access (first_eq_ok.2 rfl) (.guard fun hranks => .bind .lift fun place hplace => ?_)
  have hlt : place < start.length := lt_of_normalizeAxis hplace
  -- the axis has been checked against the first shape only, and the others have its rank
  have hall : ∀ shape ∈ start :: rest, place < shape.length := by
    intro shape hshape
    have hrank : shape.length = start.length := by
      by_contra hne
      exact hranks (List.any_eq_true.2 ⟨shape, hshape, by simpa using hne⟩)
    rw [hrank]
    exact hlt
  exact .access (column_eq hall) (.access (replace_eq hlt _) .pure)

example : concatDims [] 0 = .error (.fault .empty) := rfl

def evenChunks (length count : Nat) : Except Fault (List Nat) := do
  let chunk ← ceilQuotient length count
  return (List.range count).map fun i => min (length - chunk * i) chunk

/-- The sizes of the pieces of an axis. -/
def chunkDims (sizes : Option (List Int)) (dim : Dim) (count : Nat) : Except Fault (List Dim) :=
  match sizes, dim.size? with
  | some sizes, _ => return sizes.map fun s => .ofSize? (Word.size? s)
  | none, some length => return (← evenChunks length count).map .static
  | none, none => return List.replicate count .unknown

/-- The axes of each piece. -/
def splitDims (dims : List Dim) (axis : Nat) (sizes : Option (List Int)) (count : Nat) :
    Except Fault (List (List Dim)) := do
  let chunks ← chunkDims sizes (← index dims axis) count
  chunks.mapM (replace dims axis)

theorem splitDims_eq {dims : List Dim} {axis count : Nat} (haxis : axis < dims.length) (hcount : count ≠ 0)
    (sizes : Option (List Int)) :
    splitDims dims axis sizes count = .ok ((Operator.chunkDims sizes dims[axis]? count).map (dims.set axis ·)) := by
  have hchunks : chunkDims sizes dims[axis] count = .ok (Operator.chunkDims sizes dims[axis]? count) := by
    rw [List.getElem?_eq_getElem haxis]
    unfold chunkDims Operator.chunkDims
    rw [Option.bind_some]
    cases sizes with
    | some sizes => rfl
    | none =>
      cases dims[axis].size? with
      | none => rfl
      | some length =>
        simp only [evenChunks, ceilQuotient_eq hcount]
        rfl
  simp only [splitDims, index_of_lt haxis, hchunks, bind, Except.bind]
  exact mapM_eq fun chunk _ => replace_eq haxis chunk

/-! ## Slices -/

def sliceLength (length : Nat) (start stop step : Int) : Except Fault Nat :=
  if length = 0 then return 0
  else if 0 < step then do
    let start ← clamp 0 length (fromBack length start)
    let stop ← clamp 0 length (fromBack length stop)
    return (← truncated (stop - start + step - 1) step).toNat
  else do
    let start ← clamp 0 (length - 1) (fromBack length start)
    let stop ← clamp (-1) (length - 1) (fromBack length stop)
    return (← truncated (start - stop - step - 1) (-step)).toNat

theorem sliceLength_eq (length : Nat) (start stop : Int) {step : Int} (hstep : step ≠ 0) :
    sliceLength length start stop step = .ok (Infer.sliceLength length start stop step) := by
  unfold sliceLength Infer.sliceLength sliceStart sliceEnd
  by_cases hlength : length = 0
  · simp [hlength, pure, Except.pure]
  · have hleast : (0 : Int) ≤ length := by omega
    have hleast' : (0 : Int) ≤ length - 1 := by omega
    have hless : (-1 : Int) ≤ length - 1 := by omega
    have hneg : -step ≠ 0 := by omega
    by_cases hpos : 0 < step
    · simp [hlength, hpos, clamp_eq hleast, truncated_eq hstep, bind, Except.bind, pure, Except.pure]
    · simp [hlength, hpos, clamp_eq hleast', clamp_eq hless, truncated_eq hneg, bind, Except.bind, pure, Except.pure]

/-- The axes after the slices from the `i`-th on. -/
def sliceDims (dims : List Dim) (starts ends steps : List Int) : Nat → List Nat → List Dim → Except Fault (List Dim)
  | _, [], out => return out
  | i, axis :: axes, out => do
    let dim ← match (← index dims axis).size? with
      | some length => pure (.static (← sliceLength length (← index starts i) (← index ends i) (← index steps i)))
      | none => pure .unknown
    sliceDims dims starts ends steps (i + 1) axes (← replace out axis dim)

/-- Slices of the axes at the given places. -/
def sliceAlong (dims : List Dim) (starts ends steps : List Int) (axes : List Nat) :
    StrictExcept (Params × List Dim) := do
  if axes.length ≠ starts.length ∨ steps.length ≠ starts.length then
    (Except.error (.invalidAttribute "axes" "bound lists differ in length") : Except ImportError Unit)
  if steps.contains 0 then (Except.error (.invalidAttribute "steps" "step of 0") : Except ImportError Unit)
  let params := Params.ofList
    [("starts", .ints starts), ("ends", .ints ends), ("axes", axesParam axes), ("steps", .ints steps)]
  return (params, ← sliceDims dims starts ends steps 0 axes dims)

def sliceAll (dims : List Dim) (starts ends : List Int) (axes steps : Option (List Int)) :
    StrictExcept (Params × List Dim) := do
  if starts.length ≠ ends.length then
    (Except.error (.invalidAttribute "ends" "starts and ends differ in length") : Except ImportError Unit)
  let places : Except ImportError (List Nat) := match axes with
    | some axes => normalizeAxes "axes" axes dims.length
    | none =>
      if dims.length < starts.length then
        .error (.invalidAttribute "starts" s!"{starts.length} bounds for rank {dims.length}")
      else .ok (List.range starts.length)
  sliceAlong dims starts ends (steps.getD (List.replicate starts.length 1)) (← places)

/-- The bounds of a slice, from the `i`-th on. -/
def boundsFrom (starts ends steps : List Int) (i : Nat) (axes : List Nat) : List SliceAxis :=
  (axes.zip ((starts.drop i).zip ((ends.drop i).zip (steps.drop i)))).map fun (axis, start, stop, step) =>
    SliceAxis.mk axis start stop step

theorem boundsFrom_cons {starts ends steps : List Int} {i axis : Nat} {axes : List Nat} (hstart : i < starts.length)
    (hend : i < ends.length) (hstep : i < steps.length) :
    boundsFrom starts ends steps i (axis :: axes) =
      ⟨axis, starts[i], ends[i], steps[i]⟩ :: boundsFrom starts ends steps (i + 1) axes := by
  simp only [boundsFrom, List.drop_eq_getElem_cons hstart, List.drop_eq_getElem_cons hend,
    List.drop_eq_getElem_cons hstep, List.zip_cons_cons, List.map_cons]

theorem sliceDims_eq {dims : List Dim} {starts ends steps : List Int} (hends : ends.length = starts.length)
    (hsteps : steps.length = starts.length) (hzero : 0 ∉ steps) {axes : List Nat} :
    ∀ {i : Nat} {out : List Dim}, (∀ axis ∈ axes, axis < dims.length) → i + axes.length = starts.length →
      out.length = dims.length → sliceDims dims starts ends steps i axes out =
        .ok ((boundsFrom starts ends steps i axes).foldl (fun out s => out.set s.axis
          (.ofSize? (((dims[s.axis]?).bind Dim.size?).map (Infer.sliceLength · s.start s.stop s.step)))) out) := by
  induction axes with
  | nil => exact fun _ _ _ => rfl
  | cons axis axes ih =>
    intro i out haxes hcount hout
    rw [List.forall_mem_cons] at haxes
    rw [List.length_cons] at hcount
    -- an axis is left, so each list has a bound for it
    have hstart : i < starts.length := by omega
    have hend : i < ends.length := by omega
    have hstep : i < steps.length := by omega
    have hne : steps[i] ≠ 0 := fun h => hzero (h ▸ List.getElem_mem hstep)
    have hreplace : axis < out.length := by rw [hout]; exact haxes.1
    rw [boundsFrom_cons hstart hend hstep, List.foldl_cons, ← ih haxes.2 (by omega) (by rw [List.length_set, hout])]
    simp only [sliceDims, index_of_lt haxes.1, index_of_lt hstart, index_of_lt hend, index_of_lt hstep,
      List.getElem?_eq_getElem haxes.1, Option.bind_some]
    cases hsize : dims[axis].size? with
    | none => simp [hsize, Dim.ofSize?, replace_eq hreplace, bind, Except.bind, pure, Except.pure]
    | some length =>
      simp [hsize, Dim.ofSize?, replace_eq hreplace, sliceLength_eq _ _ _ hne, bind, Except.bind, pure, Except.pure]

theorem sliceAlong_agrees {dims : List Dim} {starts ends steps : List Int} {axes : List Nat}
    (haxes : ∀ axis ∈ axes, axis < dims.length) (hends : ends.length = starts.length) :
    (sliceAlong dims starts ends steps axes).Agrees (do
      if axes.length ≠ starts.length ∨ steps.length ≠ starts.length then
        .error (.invalidAttribute "axes" "bound lists differ in length")
      if steps.contains 0 then .error (.invalidAttribute "steps" "step of 0")
      return (Params.ofList
        [("starts", .ints starts), ("ends", .ints ends), ("axes", axesParam axes), ("steps", .ints steps)],
        Infer.sliceDims dims (boundsFrom starts ends steps 0 axes))) := by
  refine .guard fun hlengths => .guard fun hzero => ?_
  rw [not_or, not_ne_iff, not_ne_iff] at hlengths
  refine .access (sliceDims_eq hends hlengths.2 ?_ haxes ?_ rfl) .pure
  · simpa using hzero
  · rw [Nat.zero_add]
    exact hlengths.1

theorem sliceAll_agrees (dims : List Dim) (starts ends : List Int) (axes steps : Option (List Int)) :
    (sliceAll dims starts ends axes steps).Agrees (Operator.sliceAll dims starts ends axes steps) := by
  refine .guard fun hends => ?_
  rw [not_ne_iff] at hends
  cases axes with
  | some axes => exact .bind .lift fun places hplaces => sliceAlong_agrees (lt_of_normalizeAxes hplaces) hends.symm
  | none =>
    by_cases hfew : dims.length < starts.length
    · simp only [if_pos hfew]
      rfl
    · simp only [if_neg hfew]
      refine sliceAlong_agrees ?_ hends.symm
      intro place hplace
      rw [List.mem_range] at hplace
      omega

/-! ## Pads -/

/-- The axes after padding, from the `i`-th of the axes on, of which there are `count`. -/
def padDims (dims : List Dim) (pads : List Int) (count : Nat) : Nat → List Nat → List Dim → StrictExcept (List Dim)
  | _, [], out => return out
  | i, axis :: axes, out => do
    match (← index dims axis).size? with
    | none => padDims dims pads count (i + 1) axes (← replace out axis .unknown)
    | some size =>
      let grown ← padSize axis size (← index pads i) (← index pads (i + count))
      padDims dims pads count (i + 1) axes (← replace out axis (.static grown))

/-- Padding of the axes at the given places. -/
def padAlong (dims : List Dim) (pads : List Int) (axes : List Nat) : StrictExcept (List Nat × List Dim) := do
  if pads.length ≠ axes.length * 2 then
    (Except.error (.invalidAttribute "pads" s!"{pads.length} values for {axes.length} axes") : Except ImportError Unit)
  return (axes, ← padDims dims pads axes.length 0 axes dims)

def padAll (dims : List Dim) (pads : List Int) (axes : Option (List Int)) : StrictExcept (List Nat × List Dim) := do
  match axes with
  | some axes => padAlong dims pads (← normalizeAxes "axes" axes dims.length)
  | none => padAlong dims pads (List.range dims.length)

theorem padDims_agrees {dims : List Dim} {pads : List Int} {count : Nat} (hpads : pads.length = count * 2)
    {axes : List Nat} :
    ∀ {i : Nat} {out : List Dim}, (∀ axis ∈ axes, axis < dims.length) → i + axes.length = count →
      out.length = dims.length → (padDims dims pads count i axes out).Agrees
        (Infer.padDims dims (axes.zip (((pads.take count).drop i).zip ((pads.drop count).drop i))) out) := by
  induction axes with
  | nil => exact fun _ _ _ => .pure
  | cons axis axes ih =>
    intro i out haxes hcount hout
    rw [List.forall_mem_cons] at haxes
    rw [List.length_cons] at hcount
    -- the amounts before the axes are the first half of the pads, those after them the second
    have hbefore : i < (pads.take count).length := by
      rw [List.length_take]
      omega
    have hafter : i < (pads.drop count).length := by
      rw [List.length_drop]
      omega
    have hreplace : axis < out.length := by rw [hout]; exact haxes.1
    rw [List.drop_eq_getElem_cons hbefore, List.drop_eq_getElem_cons hafter, List.zip_cons_cons, List.zip_cons_cons]
    unfold padDims Infer.padDims
    refine .access (index_of_lt haxes.1) ?_
    rw [List.getElem?_eq_getElem haxes.1, Option.bind_some]
    cases dims[axis].size? with
    | none =>
      refine .access (replace_eq hreplace _) (ih haxes.2 (by omega) ?_)
      rw [List.length_set, hout]
    | some size =>
      have hindex : index pads i = .ok (pads.take count)[i] := by
        rw [index_eq_ok, List.getElem_take, List.getElem?_eq_getElem]
      have hindex' : index pads (i + count) = .ok (pads.drop count)[i] := by
        rw [index_eq_ok, List.getElem_drop, Nat.add_comm i, List.getElem?_eq_getElem]
      refine .access hindex (.access hindex' (.bind .lift fun grown _ => ?_))
      refine .access (replace_eq hreplace _) (ih haxes.2 (by omega) ?_)
      rw [List.length_set, hout]

theorem padAlong_agrees {dims : List Dim} {pads : List Int} {axes : List Nat}
    (haxes : ∀ axis ∈ axes, axis < dims.length) : (padAlong dims pads axes).Agrees (do
      if pads.length ≠ axes.length * 2 then
        .error (.invalidAttribute "pads" s!"{pads.length} values for {axes.length} axes")
      let amounts := (pads.take axes.length).zip (pads.drop axes.length)
      return (axes, ← Infer.padDims dims (axes.zip amounts) dims)) := by
  refine .guard fun hlength => ?_
  rw [not_ne_iff] at hlength
  exact .bind (padDims_agrees hlength haxes (Nat.zero_add _) rfl) fun _ _ => .pure

theorem padAll_agrees (dims : List Dim) (pads : List Int) (axes : Option (List Int)) :
    (padAll dims pads axes).Agrees (Operator.padAll dims pads axes) := by
  cases axes with
  | some axes => exact .bind .lift fun places hplaces => padAlong_agrees (lt_of_normalizeAxes hplaces)
  | none => exact padAlong_agrees fun place hplace => List.mem_range.1 hplace

/-! ## Stored tensors -/

/-- The strides of the axes before the `i`-th, from those of it and of the ones after it. -/
def stridesBefore (dims : List Nat) : Nat → List Nat → Except Fault (List Nat)
  | 0, strides => return strides
  | i + 1, strides => do
    let next ← index strides (i + 1)
    let size ← index dims (i + 1)
    stridesBefore dims i (← replace strides i (next * size))

/-- For each axis, how far apart two neighbours along it are. -/
def strides (dims : List Nat) : Except Fault (List Nat) :=
  stridesBefore dims (dims.length - 1) (List.replicate dims.length 1)

theorem getElem?_strides (dims : List Nat) (i : Nat) :
    (Shape.strides dims)[i]? = if i < dims.length then some ((dims.drop (i + 1)).foldr (· * ·) 1) else none := by
  induction dims generalizing i with
  | nil => simp [Shape.strides]
  | cons d dims ih =>
    cases i with
    | zero => simp [Shape.strides]
    | succ i => simp [Shape.strides, ih]

theorem stridesBefore_eq {dims : List Nat} {i : Nat} (hi : i ≤ dims.length - 1) {strides : List Nat}
    (hlength : strides.length = dims.length) (hdone : ∀ j, i ≤ j → strides[j]? = (Shape.strides dims)[j]?) :
    stridesBefore dims i strides = .ok (Shape.strides dims) := by
  induction i generalizing strides with
  | zero =>
    have hall : strides = Shape.strides dims := List.ext_getElem? fun j => hdone j (Nat.zero_le j)
    rw [stridesBefore, hall]
    rfl
  | succ i ih =>
    have hlt : i + 1 < dims.length := by omega
    have hnext := hdone (i + 1) (Nat.le_refl _)
    rw [getElem?_strides, if_pos hlt] at hnext
    rw [stridesBefore, index_eq_ok.2 hnext, index_of_lt hlt]
    simp only [bind, Except.bind, replace_eq (show i < strides.length by omega)]
    refine ih (by omega) (by rw [List.length_set, hlength]) fun j hj => ?_
    by_cases heq : i = j
    · -- the product of the sizes after an axis is that after the next one, times the size of the next one
      subst heq
      rw [List.getElem?_set_self (by omega), getElem?_strides, if_pos (by omega), List.drop_eq_getElem_cons hlt,
        List.foldr_cons, Nat.mul_comm]
    · rw [List.getElem?_set_ne heq]
      exact hdone j (by omega)

theorem strides_eq (dims : List Nat) : strides dims = .ok (Shape.strides dims) := by
  refine stridesBefore_eq (Nat.le_refl _) List.length_replicate fun j hj => ?_
  rw [getElem?_strides, List.getElem?_replicate]
  split
  · rw [List.drop_eq_nil_of_le (by omega)]
    rfl
  · rfl

/-- The first `count` groups of `size` bytes each. -/
def byteGroups (size : Nat) : Nat → Bytes → Except Fault (List Bytes)
  | 0, _ => return []
  | count + 1, bytes => return (← upTo bytes size) :: (← byteGroups size count (← since bytes size))

theorem byteGroups_eq {size : Nat} {count : Nat} {bytes : Bytes} (h : count * size ≤ bytes.length) :
    byteGroups size count bytes = .ok (ModelImport.byteGroups size count bytes) := by
  induction count generalizing bytes with
  | zero => rfl
  | succ count ih =>
    rw [Nat.succ_mul] at h
    have hsize : size ≤ bytes.length := by omega
    have hrest : count * size ≤ (bytes.drop size).length := by
      rw [List.length_drop]
      omega
    simp only [byteGroups, upTo_eq hsize, since_eq hsize, bind, Except.bind, ih hrest]
    rfl

/-- The number of raw bytes that are shown when a tensor is read. -/
def previewLength : Nat := 16

/-- The elements of a payload; only raw bytes are cut into pieces. -/
def readPayload (p : Payload) (name : String) (e : ElementType) (count : Nat) : StrictExcept (List e.Carrier) :=
  match p with
  | .raw bytes => do
    let _ ← upTo bytes (min bytes.length previewLength)
    if bytes.length ≠ count * e.size then
      (Except.error (.malformedTensorPayload name
        s!"{count} x {e.name} needs {count * e.size} bytes, payload has {bytes.length}") : Except ImportError _)
    else return (← byteGroups e.size count bytes).map e.ofBytes
  | p => p.read name e count

theorem readPayload_agrees (p : Payload) (name : String) (e : ElementType) (count : Nat) :
    (readPayload p name e count).Agrees (p.read name e count) := by
  cases p with
  | raw bytes =>
    unfold readPayload Payload.read
    dsimp only
    refine .access (upTo_eq (Nat.min_le_left ..)) ?_
    split
    · exact .lift
    · next h => exact .access (byteGroups_eq (by omega)) .pure
  | _ => exact .lift

def materialize (t : StoredTensor) : StrictExcept TensorData := do
  let e ← resolveElement t.code
  match t.dims.find? (· < 0) with
  | some d =>
    (Except.error (.malformedTensorPayload t.name s!"negative dimension {d} in {intsText t.dims}") :
      Except ImportError TensorData)
  | none =>
    let shape : Shape := ⟨t.dims.map Int.toNat⟩
    let _ ← strides shape.dims
    let values ← readPayload t.payload t.name e shape.volume
    match Tensor.ofList? values shape with
    | some tensor => return ⟨e, tensor⟩
    | none => (Except.error (.malformedTensorPayload t.name "element count mismatch") : Except ImportError TensorData)

theorem materialize_agrees (t : StoredTensor) : (materialize t).Agrees t.materialize := by
  refine StrictExcept.Agrees.bind .lift fun e _ => ?_
  cases t.dims.find? (· < 0) with
  | some d => exact .lift
  | none =>
    refine .access (strides_eq _) (.bind (readPayload_agrees ..) fun values _ => ?_)
    cases Tensor.ofList? values _ with
    | none => exact .lift
    | some tensor => exact .pure

/-- A tensor has as many values as its shape calls for. -/
def Full (t : TensorData) : Prop := t.tensor.values.length = t.length

theorem full_of_materialize {t : StoredTensor} {data : TensorData} (h : t.materialize = .ok data) : Full data := by
  simp only [StoredTensor.materialize, bind, Except.bind] at h
  split at h
  · cases h
  split at h
  · cases h
  split at h
  · cases h
  · dsimp only [Tensor.ofList?] at h
    split_ifs at h with hlength
    cases h
    exact hlength

/-- The single element of a tensor as a parameter. -/
def fillParam (t : TensorData) : Except Fault Param :=
  match t.ints? with
  | some is => return .int (← first is)
  | none => return .float (← first t.doubles).toSingle

theorem fillParam_eq {t : TensorData} (hfull : Full t) (hone : t.length = 1) :
    fillParam t = .ok (Operator.fillParam t) := by
  obtain ⟨value, hvalue⟩ : ∃ value, t.tensor.values = [value] := List.length_eq_one_iff.1 (hfull.trans hone)
  unfold fillParam Operator.fillParam
  unfold TensorData.ints? TensorData.doubles
  rw [hvalue]
  cases t.element.isFloat <;> rfl

end ModelImport.Strict
