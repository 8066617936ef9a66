import ModelImport.Infer.Slice
import ModelImport.Operator.Layout
import ModelImport.Tensor.Stored
import ModelImport.Text.Number
import ModelImport.Text.Quoted
/-!
# Constants, sizes and casts

Operators whose result depends on constants and types rather than on elements. A shape that is known is folded to a
constant.
-/

namespace ModelImport.Operator

open LookM ConverterM Infer

/-! ## Constants -/

/-- The attributes that can give the value of a constant. -/
def valueKeys : List String :=
  ["value", "value_float", "value_floats", "value_int", "value_ints", "value_string", "value_strings"]

/-- The keys under which a constant has a value. -/
def presentKeys : LookM (List String) := valueKeys.filterM hasAttr

/-- The value of a constant under one of its keys. Text has no element type. -/
def readValue (key : String) : LookM TensorData := do
  if key = "value" then (← attr .tensor key).materialize
  else if key = "value_float" then return .scalarSingle (← attr .float key)
  else if key = "value_floats" then return .vectorSingles (← attr .floats key)
  else if key = "value_int" then return .scalarInt (← attr .int key)
  else if key = "value_ints" then return .vectorInts (← attr .ints key)
  else throw (.unsupportedElementType ElementType.textCode)

/-- Exactly one of the attributes for the value must be there. -/
def constant : ConverterM (List ValueId) := do
  checkInputs 0 (some 0)
  checkOutputs 1 (some 1)
  match ← presentKeys with
  | [] => throw (.missingAttribute "value")
  | [key] => fold (← readValue key)
  | first :: second :: _ => invalid second s!"conflicts with {first}"

/-- The single element of a tensor as a parameter. -/
def fillParam (t : TensorData) : Param :=
  match t.ints? with
  | some is => .int (is.headD 0)
  | none => .float ((t.doubles.head?.map Double.toSingle).getD ⟨0⟩)

/-- Sizes that must not be negative. -/
def fillSizes (shape : List Int) : Except ImportError (List Nat) :=
  match shape.mapM Word.size? with
  | some sizes => .ok sizes
  | none => .error (.invalidAttribute "input" s!"negative shape {intsText shape}")

/-- The value defaults to the single 0.0. -/
def constantOfShape : ConverterM (List ValueId) := do
  checkArity 1
  let value ← match ← attr? .tensor "value" with
    | some tensor => tensor.materialize
    | none => pure (TensorData.scalarSingle ⟨0⟩)
  if value.length ≠ 1 then invalid "value" s!"expected one element, got {value.length}"
  let params : Params := [("value", fillParam value)]
  match ← constantInts? 0 with
  | some shape =>
    let sizes ← fillSizes shape
    emit (params.insert "shape" (.ints shape)) [.ofSizes value.element sizes]
  | none => emit params [ofLength value.element (← inputType 0)]

/-! ## Shapes and sizes -/

/-- A bound on the axes, counted from the back when it is negative and kept within them. -/
def axisBound (rank : Nat) (bound : Int) : Nat := (clamp 0 rank (fromBack rank bound)).toNat

/-- On the axes themselves a bound that is kept within them is as good as the given one. -/
theorem axisBound_le_iff {rank i : Nat} (hi : i < rank) (bound : Int) :
    axisBound rank bound ≤ i ↔ fromBack rank bound ≤ i := by
  simp only [axisBound, clamp]
  omega

/-- The axes from `start` to `stop` as a constant, when all of them are static. -/
def shapeOf : ConverterM (List ValueId) := do
  checkArity 1
  let start ← attrOr .int "start" 0
  let stop ← attr? .int "end"
  let x ← inputType 0
  match x.shape with
  | none => emit [("start", .int start)] [.ofRank .i64 1]
  | some dims =>
    let first := axisBound dims.length start
    let last := axisBound dims.length (stop.getD dims.length)
    let selected := (dims.take (max last first)).drop first
    match selected.mapM Dim.size? with
    | some sizes => fold (.vectorInts (sizes.map Word.toSigned))
    | none =>
      emit (.ofList [("start", .int first), ("end", .int last)]) [.ofSizes .i64 [selected.length]]

/-- The number of elements as a constant, when it is known. -/
def sizeOf : ConverterM (List ValueId) := do
  checkArity 1
  let x ← inputType 0
  match x.shape.bind product? with
  | some volume => fold (.scalarInt (Word.toSigned volume))
  | none => emit [] [.scalar .i64]

/-- One row for each axis of the operand and an unknown number of columns. -/
def nonZero : ConverterM (List ValueId) := do
  checkArity 1
  let x ← inputType 0
  emit [] [.ranked .i64 [.ofSize? x.rank?, .unknown]]

/-! ## Casts -/

/-- A code out of the range of 32-bit integers is blamed as the largest of them. -/
def castCode (code : Int) : Int := if -Int.pow 2 31 ≤ code ∧ code < Int.pow 2 31 then code else Int.pow 2 31 - 1

def cast : ConverterM (List ValueId) := do
  checkArity 1
  let code ← attr .int "to"
  let saturate ← attrOr .int "saturate" 1
  let element ← resolveElement (castCode code)
  let type := (← inputType 0).withElement element
  emit (.ofList [("to", .element element), ("saturate", .int saturate)]) [type]

/-! ## Sequences -/

/-- The number of elements from `start` up to `limit` by `delta`. -/
def rangeLength (start limit delta : Double) : Nat := ((limit.sub start).div delta).ceil.toSize

def range : ConverterM (List ValueId) := do
  checkArity 3
  let type ← inputType 0
  let length ← match ← constantDouble? 0, ← constantDouble? 1, ← constantDouble? 2 with
    | some start, some limit, some delta =>
      if delta.isZero then invalid "delta" "delta of 0" else pure (Dim.static (rangeLength start limit delta))
    | _, _, _ => pure .unknown
  emit [] [.ranked type.element [length]]

/-- A new axis whose size is the depth, if that is constant. -/
def oneHot : ConverterM (List ValueId) := do
  checkArity 3
  let axis ← attrOr .int "axis" (-1)
  let indices ← inputType 0
  let values ← inputType 2
  let depth := Dim.ofSize? ((← constantDouble? 1).map Double.toSize)
  match indices.shape with
  | some dims =>
    let axis ← normalizeAxis "axis" axis (dims.length + 1)
    emit [("axis", .int axis)] [.ranked values.element (dims.take axis ++ depth :: dims.drop axis)]
  | none => emit [("axis", .int axis)] [.unranked values.element]

/-! ## Resizing -/

/-- An axis after scaling. A dynamic axis keeps its name only under a scale of 1. -/
def scaledDim (dim : Dim) (scale : Double) : Dim :=
  match dim with
  | .static size => .static ((Double.ofSize size).mul scale).floor.toSize
  | .dynamic _ => if scale.isOne then dim else .unknown

/-- The axes of a resized value, from the sizes or, without them, from the scales. -/
def resizedDims (dims : List Dim) (sizes : Option (List Int)) (scales : Option (List Double)) :
    Except ImportError (List Dim) :=
  let mismatch := Except.error (.invalidAttribute "scales" s!"resize target does not match rank {dims.length}")
  match sizes, scales with
  | some sizes, _ =>
    if sizes.length = dims.length then .ok (sizes.map fun s => .ofSize? (Word.size? s)) else mismatch
  | none, some scales =>
    if scales.length = dims.length then .ok (List.zipWith scaledDim dims scales) else mismatch
  | none, none => .ok (dims.map fun _ => .unknown)

def resizeModes : List String := ["nearest", "linear", "cubic"]

/-- An empty list counts as none. -/
def nonEmpty {α : Type} (xs : Option (List α)) : Option (List α) := xs.filter fun l => !l.isEmpty

/-- The inputs are the operand and the scales before operator set 11; from then on there is a region between them, and
the sizes after them. -/
def resize : ConverterM (List ValueId) := do
  checkOutputs 1 (some 1)
  let legacy := (← opset) < 11
  if legacy then checkInputs 2 (some 2) else checkInputs 1 (some 4)
  let mode ← attrOr .string "mode" "nearest"
  if !resizeModes.contains mode then invalid "mode" s!"unknown mode {Text.quoted mode}"
  let coordinates ← attrOr .string "coordinate_transformation_mode" "half_pixel"
  let nearest ← attrOr .string "nearest_mode" "round_prefer_floor"
  let cubic ← attrOr .float "cubic_coeff_a" ⟨0xbf400000⟩
  let exclude ← attrOr .int "exclude_outside" 0
  let extrapolation ← attrOr .float "extrapolation_value" ⟨0⟩
  let antialias ← attrOr .int "antialias" 0
  let x ← inputType 0
  let sizes := nonEmpty (← if legacy then pure none else constantInts? 3)
  let scales := nonEmpty ((← constant? (if legacy then 1 else 2)).map TensorData.doubles)
  let shape ← match x.shape with
    | some dims => some <$> resizedDims dims sizes scales
    | none => pure none
  let params := Params.ofList
    [("mode", .string mode), ("coordinate_transformation_mode", .string coordinates),
      ("nearest_mode", .string nearest), ("cubic_coeff_a", .float cubic), ("exclude_outside", .int exclude),
      ("extrapolation_value", .float extrapolation), ("antialias", .int antialias)]
  let params := params.insert? "sizes" (sizes.map .ints)
  let params := params.insert? "scales" (scales.map fun s => .floats (s.map Double.toSingle))
  emit params [⟨x.element, shape⟩]

/-- The operators of this family. -/
def constants : List (String × Converter) :=
  [("Constant", .of constant), ("ConstantOfShape", .of constantOfShape), ("Shape", .of shapeOf), ("Size", .of sizeOf),
    ("NonZero", .of nonZero), ("Cast", .of cast), ("Range", .of range), ("OneHot", .of oneHot), ("Resize", .of resize)]

end ModelImport.Operator
