import ModelImport.Infer.Window
import ModelImport.Operator.Converter
import ModelImport.Text.Quoted
/-!
# Convolutions and pools

Operators that slide a window over the axes after the first two. The window is read from the attributes, with the
kernel sizes taken from the weights when no attribute gives them.
-/

namespace ModelImport.Operator

open LookM ConverterM Infer

/-! ## Reading the window -/

/-- Values that must not be negative. -/
def nonNegative (key : String) : List Int → Except ImportError (List Nat)
  | [] => .ok []
  | v :: rest =>
    match Word.size? v with
    | some n => return n :: (← nonNegative key rest)
    | none => .error (.invalidAttribute key s!"negative value {v}")

/-- They are the sizes that they name. -/
theorem nonNegative_eq_ok_iff {key : String} {values : List Int} {sizes : List Nat} :
    nonNegative key values = .ok sizes ↔ values = sizes.map Int.ofNat := by
  induction values generalizing sizes with
  | nil => cases sizes <;> simp [nonNegative]
  | cons v rest ih =>
    unfold nonNegative Word.size?
    by_cases hv : 0 ≤ v
    · simp only [if_pos hv, bind_eq_ok_iff, ih]
      constructor
      · rintro ⟨sizes', rfl, hsizes⟩
        cases hsizes
        simp [Int.toNat_of_nonneg hv]
      · intro h
        cases sizes with
        | nil => simp at h
        | cons n sizes' =>
          obtain ⟨rfl, rfl⟩ := List.cons.inj h
          exact ⟨sizes', rfl, rfl⟩
    · simp only [if_neg hv]
      constructor
      · intro h
        cases h
      · rintro h
        cases sizes with
        | nil => simp at h
        | cons n sizes' =>
          obtain ⟨rfl, -⟩ := List.cons.inj h
          exact absurd (Int.natCast_nonneg n) hv

/-- An attribute with a fixed number of entries, or that many defaults. -/
def perAxis (key : String) (count default : Nat) : LookM (List Nat) := do
  match ← attr? .ints key with
  | none => return List.replicate count default
  | some values =>
    if values.length ≠ count then invalid key s!"expected {count} values, got {values.length}"
    else nonNegative key values

/-- The kernel sizes: from the attribute, else from the weights. Without either they are unknown if there are weights,
and missing if there are none. -/
def readKernel (spatial : Nat) (weights : Option TensorType) : LookM (List Nat) := do
  match ← attr? .ints "kernel_shape" with
  | some kernel => nonNegative "kernel_shape" kernel
  | none =>
    match weights with
    | none => throw (.missingAttribute "kernel_shape")
    | some w =>
      match w.sizes? with
      | some sizes => return if sizes.length = spatial + 2 then sizes.drop 2 else []
      | none => return []

def readAutoPad : LookM AutoPad := do
  let name ← attrOr .string "auto_pad" "NOTSET"
  match AutoPad.ofName? name with
  | some autoPad => return autoPad
  | none => invalid "auto_pad" s!"unknown mode {Text.quoted name}"

/-- The window over the given number of spatial axes. -/
def readWindow (spatial : Nat) (weights : Option TensorType) : LookM Window := do
  let kernel ← readKernel spatial weights
  if kernel ≠ [] ∧ kernel.length ≠ spatial then
    invalid "kernel_shape" s!"expected {spatial} values, got {kernel.length}"
  let autoPad ← readAutoPad
  let strides ← perAxis "strides" spatial 1
  let dilations ← perAxis "dilations" spatial 1
  let pads ← perAxis "pads" (spatial * 2) 0
  return { kernel, strides, dilations, pads, autoPad }

/-- Sizes as a parameter. -/
def sizesParam (sizes : List Nat) : Param := .ints (sizes.map Word.toSigned)

def windowParams (w : Window) : Params :=
  Params.insert? "kernel_shape" (if w.kernel = [] then none else some (sizesParam w.kernel))
    (.ofList [("strides", sizesParam w.strides), ("dilations", sizesParam w.dilations), ("pads", sizesParam w.pads),
      ("auto_pad", .string w.autoPad.name)])

/-- The number of spatial axes: from the input, else from the weights, else from the kernel sizes. -/
def spatialAxes (x : TensorType) (weights : Option TensorType) : LookM Nat := do
  match x.rank? with
  | some rank =>
    if rank < 3 then invalid "input" s!"{← opType} expects at least 3 axes, got {rank}" else return rank - 2
  | none =>
    match weights.bind TensorType.rank? with
    | some rank => return rank - 2
    | none => return ((← attr? .ints "kernel_shape").map List.length).getD 0

/-! ## Convolutions -/

/-- The number of groups, at least one. -/
def readGroup : LookM Int := do
  let group ← attrOr .int "group" 1
  if group < 1 then invalid "group" s!"must be positive, got {group}" else return group

/-- The first axis of the input, the channels, and the spatial axes. -/
def convolvedType (x : TensorType) (channels : Dim) (spatial : List Dim → List Dim) : TensorType :=
  ⟨x.element, x.shape.map fun dims => dims.take 1 ++ [channels] ++ spatial (dims.drop 2)⟩

def conv : ConverterM (List ValueId) := do
  checkInputs 2 (some 3)
  checkOutputs 1 (some 1)
  let x ← inputType 0
  let w ← inputType 1
  let group ← readGroup
  let spatial ← spatialAxes x (some w)
  let window ← readWindow spatial (some w)
  let channels := (w.shape.bind List.head?).getD .unknown
  let type := convolvedType x channels fun dims => window.outputDims dims false
  emit ((windowParams window).insert "group" (.int group)) [type]

def convTranspose : ConverterM (List ValueId) := do
  checkInputs 2 (some 3)
  checkOutputs 1 (some 1)
  let x ← inputType 0
  let w ← inputType 1
  let group ← readGroup
  let spatial ← spatialAxes x (some w)
  let window ← readWindow spatial (some w)
  let outputPadding ← perAxis "output_padding" spatial 0
  let outputShape ← attr? .ints "output_shape"
  let perGroup := (w.shape.bind fun dims => dims[1]?).bind Dim.size?
  let channels := Dim.ofSize? (perGroup.map (Word.satMul · group.toNat))
  let fixed ← match x.shape, outputShape with
    | some _, some shape => some <$> nonNegative "output_shape" shape
    | _, _ => pure none
  let type := convolvedType x channels fun dims =>
    match fixed with
    | some sizes => sizes.map .static
    | none => window.transposedDims outputPadding dims
  let params := windowParams window |>.insert "group" (.int group)
    |>.insert "output_padding" (sizesParam outputPadding)
    |>.insert? "output_shape" (outputShape.map .ints)
  emit params [type]

/-! ## Pools -/

/-- The first two axes of the input and the window positions. -/
def pooledType (x : TensorType) (window : Window) (ceilMode : Bool) : TensorType :=
  ⟨x.element, x.shape.map fun dims => dims.take 2 ++ window.outputDims (dims.drop 2) ceilMode⟩

/-- What the two pools have in common: the window, its result type and its parameters. -/
def readPool : LookM (TensorType × Params) := do
  let x ← inputType 0
  let spatial ← spatialAxes x none
  let window ← readWindow spatial none
  let ceilMode ← flag "ceil_mode" 0
  return (pooledType x window ceilMode, (windowParams window).insert "ceil_mode" (.int (if ceilMode then 1 else 0)))

/-- The second output, if there is one, holds the places of the maxima. -/
def maxPool : ConverterM (List ValueId) := do
  checkInputs 1 (some 1)
  checkOutputs 1 (some 2)
  let (type, params) ← readPool
  let order ← attrOr .int "storage_order" 0
  let types := if (← outputCount) = 2 then [type, type.withElement .i64] else [type]
  emit (params.insert "storage_order" (.int order)) types

def averagePool : ConverterM (List ValueId) := do
  checkArity 1
  let (type, params) ← readPool
  let includePad ← attrOr .int "count_include_pad" 0
  emit (params.insert "count_include_pad" (.int includePad)) [type]

/-- Each spatial axis collapses to size 1. -/
def globalPool : ConverterM (List ValueId) := do
  checkArity 1
  let x ← inputType 0
  let type := match x.shape with
    | some (n :: c :: spatial) => .ranked x.element (n :: c :: spatial.map fun _ => .static 1)
    | _ => .unranked x.element
  emit [] [type]

/-- The operators of this family. -/
def windowed : List (String × Converter) :=
  [("Conv", .of conv), ("ConvTranspose", .of convTranspose), ("MaxPool", .of maxPool),
    ("AveragePool", .of averagePool), ("GlobalAveragePool", .of globalPool), ("GlobalMaxPool", .of globalPool)]

end ModelImport.Operator
