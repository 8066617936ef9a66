import ModelImport.Numeric.Word
import ModelImport.Tensor.Type
/-!
# Sliding windows

The arithmetic of convolutions and pools along one spatial axis, in saturating 64-bit sizes: how far a dilated kernel
reaches, how many positions it has in a padded input, how much padding keeps `ceil (input / stride)` positions, and
the size that a transposed convolution produces.
-/

namespace ModelImport.Infer

open Word

/-- How the padding of a window is chosen. -/
inductive AutoPad where
  | notSet | sameUpper | sameLower | valid
deriving DecidableEq, Repr, Inhabited

namespace AutoPad

def name : AutoPad → String
  | notSet => "NOTSET"
  | sameUpper => "SAME_UPPER"
  | sameLower => "SAME_LOWER"
  | valid => "VALID"

def ofName? (s : String) : Option AutoPad :=
  if s = "NOTSET" then some notSet
  else if s = "SAME_UPPER" then some sameUpper
  else if s = "SAME_LOWER" then some sameLower
  else if s = "VALID" then some valid
  else none

theorem ofName?_name (p : AutoPad) : ofName? p.name = some p := by cases p <;> rfl

theorem ofName?_eq_some_iff {s : String} {p : AutoPad} : ofName? s = some p ↔ s = p.name := by
  constructor
  · intro h
    unfold ofName? at h
    repeat' split at h
    all_goals cases h
    all_goals assumption
  · rintro rfl
    exact ofName?_name p

end AutoPad

/-- The number of input elements from the first to the last that a kernel touches. An empty kernel counts as one of
size 1. -/
def kernelExtent (kernel dilation : Nat) : Nat := satAdd (satMul dilation (max kernel 1 - 1)) 1

/-- The number of positions of a window on one axis. It is unknown when the kernel does not fit or the stride is 0. -/
def windowOutput (input : Dim) (kernel stride : Nat) (pads : Nat × Nat) (dilation : Nat) (ceilMode : Bool) : Dim :=
  match input with
  | .dynamic _ => .unknown
  | .static input =>
    let extent := kernelExtent kernel dilation
    let padded := satAdd (satAdd input pads.1) pads.2
    if padded < extent ∨ stride = 0 then .unknown
    else
      let span := padded - extent
      .static ((if ceilMode then ceilDiv span stride else span / stride) + 1)

/-- The padding before and after that gives `ceil (input / stride)` positions. -/
def samePads (upper : Bool) (input kernel stride dilation : Nat) : Nat × Nat :=
  let stride := max stride 1
  let covered := satAdd (satMul (ceilDiv input stride - 1) stride) (kernelExtent kernel dilation)
  let total := covered - input
  let small := total / 2
  if upper then (small, total - small) else (total - small, small)

/-- The size of a transposed convolution on one axis before padding is taken off. -/
def transposedExtent (input kernel stride dilation outputPadding : Nat) : Nat :=
  satAdd (satAdd (satMul stride (input - 1)) outputPadding) (kernelExtent kernel dilation)

/-- The size of a transposed convolution on one axis; it is unknown when the padding exceeds it. -/
def transposedOutput (autoPad : AutoPad) (input kernel stride dilation outputPadding : Nat) (pads : Nat × Nat) : Dim :=
  match autoPad with
  | .sameUpper | .sameLower => .static (satMul input stride)
  | _ =>
    let full := transposedExtent input kernel stride dilation outputPadding
    let cut := if autoPad = .notSet then satAdd pads.1 pads.2 else 0
    if cut ≤ full then .static (full - cut) else .unknown

/-- A sliding window over several spatial axes. -/
structure Window where
  /-- The kernel sizes; none when they are unknown. -/
  kernel : List Nat
  strides : List Nat
  dilations : List Nat
  /-- The padding before each axis, then after each axis. -/
  pads : List Nat
  autoPad : AutoPad
deriving DecidableEq, Repr

/-- The settings of a window on one axis. -/
structure WindowAxis where
  kernel : Nat
  stride : Nat
  dilation : Nat
  pads : Nat × Nat
deriving DecidableEq, Repr

namespace Window

/-- The settings on one axis, if the kernel size there is known. -/
def axis? (w : Window) (axis : Nat) : Option WindowAxis := do
  return ⟨← w.kernel[axis]?, ← w.strides[axis]?, ← w.dilations[axis]?,
    (← w.pads[axis]?, ← w.pads[axis + w.strides.length]?)⟩

/-- The padding on one axis. An empty input is not padded. -/
def axisPads (autoPad : AutoPad) (a : WindowAxis) (input : Nat) : Nat × Nat :=
  match autoPad with
  | .notSet => a.pads
  | .valid => (0, 0)
  | .sameUpper => if input = 0 then (0, 0) else samePads true input a.kernel a.stride a.dilation
  | .sameLower => if input = 0 then (0, 0) else samePads false input a.kernel a.stride a.dilation

/-- The number of positions on one axis. -/
def outputDim (w : Window) (ceilMode : Bool) (axis : Nat) (input : Dim) : Dim :=
  match w.axis? axis, input with
  | some a, .static size =>
    windowOutput input a.kernel a.stride (axisPads w.autoPad a size) a.dilation ceilMode
  | _, _ => .unknown

/-- The number of positions on each spatial axis. -/
def outputDims (w : Window) (spatial : List Dim) (ceilMode : Bool) : List Dim :=
  spatial.mapIdx (w.outputDim ceilMode)

/-- The size of a transposed convolution on each spatial axis. -/
def transposedDims (w : Window) (outputPadding : List Nat) (spatial : List Dim) : List Dim :=
  spatial.mapIdx fun axis input =>
    match w.axis? axis, input, outputPadding[axis]? with
    | some a, .static size, some padding =>
      transposedOutput w.autoPad size a.kernel a.stride a.dilation padding a.pads
    | _, _, _ => .unknown

end Window

end ModelImport.Infer
