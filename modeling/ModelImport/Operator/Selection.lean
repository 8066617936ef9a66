import ModelImport.Infer.Slice
import ModelImport.Operator.Layout
import ModelImport.Text.Number
import ModelImport.Text.Quoted
/-!
# Operators that select, join and repeat elements
-/

namespace ModelImport.Operator

open LookM ConverterM Infer

/-! ## Joining and splitting -/

/-- The joined axes: those of the first shape, with the sizes along the axis added up. -/
def concatDims (shapes : List (List Dim)) (axis : Int) : Except ImportError (Nat × List Dim) := do
  let first := shapes.headD []
  if shapes.any (·.length ≠ first.length) then .error (.invalidAttribute "axis" "operands differ in rank")
  let axis ← normalizeAxis "axis" axis first.length
  return (axis, first.set axis (.ofSize? (sum? (shapes.filterMap (·[axis]?)))))

def concat : ConverterM (List ValueId) := do
  checkInputs 1 none
  checkOutputs 1 (some 1)
  let axis ← attr .int "axis"
  let first ← inputType 0
  let types ← inputTypes
  match types.mapM TensorType.shape with
  | some shapes =>
    let (axis, dims) ← concatDims shapes axis
    emit [("axis", .int axis)] [.ranked first.element dims]
  | none => emit [("axis", .int axis)] [.unranked first.element]

/-- The sizes of the pieces of an axis: the given ones, else even chunks, else unknown. -/
def chunkDims (sizes : Option (List Int)) (dim : Option Dim) (count : Nat) : List Dim :=
  match sizes, dim.bind Dim.size? with
  | some sizes, _ => sizes.map fun s => .ofSize? (Word.size? s)
  | none, some length => (evenChunks length count).map .static
  | none, none => List.replicate count .unknown

/-- The sizes are an attribute before operator set 13 and an input from then on. -/
def split : ConverterM (List ValueId) := do
  checkInputs 1 (some (if (← opset) < 13 then 1 else 2))
  checkOutputs 1 none
  let axis ← attrOr .int "axis" 0
  let declared ← attr? .int "num_outputs"
  let sizes ← intsByOpset "split" 1 13
  let outputs ← outputCount
  if let some n := declared then
    if Word.ofSigned n ≠ outputs then invalid "num_outputs" s!"{n} declared, node has {outputs} outputs"
  if let some sizes := sizes then
    if sizes.length ≠ outputs then invalid "split" s!"{sizes.length} sizes for {outputs} outputs"
  let x ← inputType 0
  let sizesParam := sizes.map Param.ints
  match x.shape with
  | some dims =>
    let axis ← normalizeAxis "axis" axis dims.length
    let types := (chunkDims sizes dims[axis]? outputs).map fun chunk => .ranked x.element (dims.set axis chunk)
    emit (Params.insert? "split" sizesParam [("axis", .int axis)]) types
  | none =>
    emit (Params.insert? "split" sizesParam [("axis", .int axis)]) (List.replicate outputs (.unranked x.element))

/-! ## Slices -/

/-- The configuration of a slice; a part that is not known before run time is `none`. -/
structure SliceBounds where
  starts : Option (List Int)
  ends : Option (List Int)
  axes : Option (List Int)
  steps : Option (List Int)

/-- The bounds are attributes before operator set 10 and inputs from then on. -/
def readSliceBounds : LookM SliceBounds := do
  if (← opset) < 10 then
    checkInputs 1 (some 1)
    let starts ← attr .ints "starts"
    let ends ← attr .ints "ends"
    return ⟨some starts, some ends, ← attr? .ints "axes", none⟩
  else
    checkInputs 3 (some 5)
    let _ ← input 1
    let _ ← input 2
    return ⟨← constantInts? 1, ← constantInts? 2, ← constantInts? 3, ← constantInts? 4⟩

/-- A slice with every part known: parameters and axes. -/
def sliceAll (dims : List Dim) (starts ends : List Int) (axes steps : Option (List Int)) :
    Except ImportError (Params × List Dim) := do
  if starts.length ≠ ends.length then
    .error (.invalidAttribute "ends" "starts and ends differ in length")
  let axes ← match axes with
    | some axes => normalizeAxes "axes" axes dims.length
    | none =>
      if dims.length < starts.length then
        .error (.invalidAttribute "starts" s!"{starts.length} bounds for rank {dims.length}")
      else .ok (List.range starts.length)
  let steps := steps.getD (List.replicate starts.length 1)
  if axes.length ≠ starts.length ∨ steps.length ≠ starts.length then
    .error (.invalidAttribute "axes" "bound lists differ in length")
  if steps.contains 0 then .error (.invalidAttribute "steps" "step of 0")
  let slices := (axes.zip (starts.zip (ends.zip steps))).map fun (axis, start, stop, step) =>
    SliceAxis.mk axis start stop step
  let params := Params.ofList
    [("starts", .ints starts), ("ends", .ints ends), ("axes", axesParam axes), ("steps", .ints steps)]
  return (params, sliceDims dims slices)

def slice : ConverterM (List ValueId) := do
  checkOutputs 1 (some 1)
  let bounds ← readSliceBounds
  let axesKnown := bounds.axes.isSome || (← input? 3).isNone
  let stepsKnown := bounds.steps.isSome || (← input? 4).isNone
  let x ← inputType 0
  match x.shape with
  | none => emit [] [.unranked x.element]
  | some dims =>
    match bounds.starts, bounds.ends, axesKnown && stepsKnown with
    | some starts, some ends, true =>
      let (params, dims) ← sliceAll dims starts ends bounds.axes bounds.steps
      emit params [.ranked x.element dims]
    | _, _, _ => emit [] [.ofRank x.element dims.length]

/-! ## Gathering -/

def gather : ConverterM (List ValueId) := do
  checkArity 2
  let axis ← attrOr .int "axis" 0
  let data ← inputType 0
  let indices ← inputType 1
  match data.shape with
  | none => emit [("axis", .int axis)] [.unranked data.element]
  | some dims =>
    let axis ← normalizeAxis "axis" axis dims.length
    let shape := indices.shape.map fun inner => dims.take axis ++ inner ++ dims.drop (axis + 1)
    emit [("axis", .int axis)] [⟨data.element, shape⟩]

def gatherElements : ConverterM (List ValueId) := do
  checkArity 2
  let axis ← attrOr .int "axis" 0
  let data ← inputType 0
  let indices ← inputType 1
  let axis ← match data.rank? with
    | some rank => pure (((← normalizeAxis "axis" axis rank) : Nat) : Int)
    | none => pure axis
  emit [("axis", .int axis)] [indices.withElement data.element]

/-! ## Repeating and padding -/

def tile : ConverterM (List ValueId) := do
  checkArity 2
  let x ← inputType 0
  match x.shape, ← constantInts? 1 with
  | some dims, some repeats =>
    if repeats.length ≠ dims.length ∨ repeats.any (· < 0) then
      invalid "repeats" s!"{intsText repeats} does not fit rank {dims.length}"
    let out ← tileDims dims repeats
    emit [("repeats", .ints repeats)] [.ranked x.element out]
  | some dims, none => emit [] [.ofRank x.element dims.length]
  | none, _ => emit [] [.unranked x.element]

/-- The axes after padding, with the places of the padded ones. -/
def padAll (dims : List Dim) (pads : List Int) (axes : Option (List Int)) :
    Except ImportError (List Nat × List Dim) := do
  let axes ← match axes with
    | some axes => normalizeAxes "axes" axes dims.length
    | none => .ok (List.range dims.length)
  if pads.length ≠ axes.length * 2 then
    .error (.invalidAttribute "pads" s!"{pads.length} values for {axes.length} axes")
  let amounts := (pads.take axes.length).zip (pads.drop axes.length)
  return (axes, ← padDims dims (axes.zip amounts) dims)

/-- The amounts of padding, the axes they are for and the parameters read on the way. Before operator set 11 the amounts
and the value are attributes, and the first set had another name for the amounts; from then on they are inputs. -/
def readPads (params : Params) : LookM (Option (List Int) × Option (List Int) × Params) := do
  if (← opset) < 11 then
    checkInputs 1 (some 1)
    let pads ← attr .ints (if (← opset) < 2 then "paddings" else "pads")
    let value ← attrOr .float "value" ⟨0⟩
    return (some pads, none, params.insert "value" (.float value))
  else
    checkInputs 2 (some 4)
    let _ ← input 1
    let value := (← constantDouble? 2).map fun x => Param.float x.toSingle
    return (← constantInts? 1, ← constantInts? 3, params.insert? "value" value)

def padModes : List String := ["constant", "reflect", "edge", "wrap"]

def pad : ConverterM (List ValueId) := do
  checkOutputs 1 (some 1)
  let mode ← attrOr .string "mode" "constant"
  if !padModes.contains mode then invalid "mode" s!"unknown mode {Text.quoted mode}"
  let (pads, axes, params) ← readPads [("mode", .string mode)]
  let axesKnown := axes.isSome || (← input? 3).isNone
  let x ← inputType 0
  match x.shape with
  | none => emit params [.unranked x.element]
  | some dims =>
    match pads, axesKnown with
    | some pads, true =>
      let (axes, out) ← padAll dims pads axes
      emit (params.insert "pads" (.ints pads) |>.insert "axes" (axesParam axes)) [.ranked x.element out]
    | _, _ => emit params [.ofRank x.element dims.length]

/-- The operators of this family. -/
def selections : List (String × Converter) :=
  [("Concat", .of concat), ("Split", .of split), ("Slice", .of slice), ("Gather", .of gather),
    ("GatherElements", .of gatherElements), ("Tile", .of tile), ("Pad", .of pad)]

end ModelImport.Operator
