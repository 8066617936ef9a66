import ModelImport.Operator.Layout
/-!
# Reductions
-/

namespace ModelImport.Operator

open LookM ConverterM Infer

def reductionNames : List String := ["ReduceMax", "ReduceMin", "ReduceMean", "ReduceSum", "ReduceProd", "ReduceL2"]

/-- The operator set from which on the axes are an input. -/
def axesInputSince (opType : String) : Int := if opType = "ReduceSum" then 13 else 18

/-- The axes after a reduction: those reduced are gone, or of size 1 when they are kept. -/
def reducedDims (dims : List Dim) (axes : List Nat) (keep : Bool) : List Dim :=
  if keep then dims.mapIdx fun i d => if i ∈ axes then .static 1 else d else dropAxes dims axes

/-- What is known of the axes to reduce over. -/
inductive ReductionAxes where
  /-- None given, or an empty list. -/
  | all
  | listed (axes : List Int)
  /-- Known at run time only. -/
  | runtime

def ReductionAxes.ofList? : Option (List Int) → ReductionAxes
  | none | some [] => .all
  | some axes => .listed axes

def readReductionAxes : LookM ReductionAxes := do
  if (← opset) < axesInputSince (← opType) then
    checkInputs 1 (some 1)
    return .ofList? (← attr? .ints "axes")
  else
    checkInputs 1 (some 2)
    match ← input? 1 with
    | none => return .all
    | some _ =>
      match ← constantInts? 1 with
      | some axes => return .ofList? (some axes)
      | none => return .runtime

/-- The places of the axes to reduce over; all of them when none are listed. -/
def reductionPlaces (axes : Option (List Int)) (rank : Nat) : Except ImportError (List Nat) :=
  match axes with
  | some axes => normalizeAxes "axes" axes rank
  | none => .ok (List.range rank)

def keepParam (keep : Bool) : Params := [("keepdims", .int (if keep then 1 else 0))]

/-- A reduction over known axes. -/
def reduceOver (x : TensorType) (axes : Option (List Int)) (keep : Bool) : ConverterM (List ValueId) := do
  match x.shape with
  | some dims =>
    let places ← reductionPlaces axes dims.length
    emit ((keepParam keep).insert "axes" (axesParam places)) [.ranked x.element (reducedDims dims places keep)]
  | none => emit ((keepParam keep).insert? "axes" (axes.map .ints)) [.unranked x.element]

/-- Without axes a reduction goes over all of them, or does nothing when it is told so. -/
def reduce : ConverterM (List ValueId) := do
  checkOutputs 1 (some 1)
  let keep ← flag "keepdims" 1
  let noop ← flag "noop_with_empty_axes" 0
  let axes ← readReductionAxes
  let x ← inputType 0
  match axes with
  | .runtime =>
    let type := match keep, x.rank? with
      | true, some rank => TensorType.ofRank x.element rank
      | _, _ => .unranked x.element
    emit (keepParam keep) [type]
  | .listed axes => reduceOver x (some axes) keep
  | .all =>
    if noop then emitOp "Identity" [← input? 0] [("noop_with_empty_axes", .int 1)] [x]
    else reduceOver x none keep

/-- The place of the extreme element along an axis. -/
def argReduce : ConverterM (List ValueId) := do
  checkArity 1
  let axis ← attrOr .int "axis" 0
  let keep ← flag "keepdims" 1
  let selectLast ← attrOr .int "select_last_index" 0
  let x ← inputType 0
  let (axis, type) ← match x.shape with
    | some dims => do
      let place ← normalizeAxis "axis" axis dims.length
      pure ((place : Int), TensorType.ranked .i64 (reducedDims dims [place] keep))
    | none => pure (axis, .unranked .i64)
  let params := Params.ofList
    [("axis", .int axis), ("keepdims", .int (if keep then 1 else 0)), ("select_last_index", .int selectLast)]
  emit params [type]

/-- The number of elements asked for is an attribute before operator set 10 and an input from then on. -/
def readTopCount : LookM (Option Int) := do
  if (← opset) < 10 then
    checkInputs 1 (some 1)
    return some (← attr .int "k")
  else
    checkInputs 2 (some 2)
    let _ ← input 1
    return (← constantInts? 1).bind List.head?

/-- The axis left after the `k` extreme elements are taken. -/
def topDim (k : Option Int) : Except ImportError Dim :=
  match k with
  | none => .ok .unknown
  | some k =>
    match Word.size? k with
    | some n => .ok (.static n)
    | none => .error (.invalidAttribute "k" s!"negative k {k}")

def topK : ConverterM (List ValueId) := do
  checkOutputs 2 (some 2)
  let k ← readTopCount
  let axis ← attrOr .int "axis" (-1)
  let largest ← attrOr .int "largest" 1
  let sorted ← attrOr .int "sorted" 1
  let x ← inputType 0
  let (axis, shape) ← match x.shape with
    | some dims => do
      let place ← normalizeAxis "axis" axis dims.length
      pure ((place : Int), some (dims.set place (← topDim k)))
    | none => pure (axis, none)
  let params := Params.ofList [("axis", .int axis), ("largest", .int largest), ("sorted", .int sorted)]
  emit (params.insert? "k" (k.map .int)) [⟨x.element, shape⟩, ⟨.i64, shape⟩]

/-- The operators of this family. -/
def reductions : List (String × Converter) :=
  reductionNames.map (fun name => (name, .of reduce)) ++
    [("ArgMax", .of argReduce), ("ArgMin", .of argReduce), ("TopK", .of topK)]

end ModelImport.Operator
