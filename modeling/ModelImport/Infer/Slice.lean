import ModelImport.Infer.Axis
import ModelImport.Numeric.Word
/-!
# Slices, pads, splits and repeats

How operators that select or repeat elements change the size of an axis.
-/

namespace ModelImport.Infer

/-- A bound counted from the back when it is negative. -/
def fromBack (length bound : Int) : Int := if bound < 0 then bound + length else bound

/-- A number moved into a range. -/
def clamp (least greatest x : Int) : Int := max least (min greatest x)

/-- The first index of a slice. -/
def sliceStart (length start step : Int) : Int :=
  clamp 0 (if 0 < step then length else length - 1) (fromBack length start)

/-- The bound at which a slice ends. -/
def sliceEnd (length stop step : Int) : Int :=
  if 0 < step then clamp 0 length (fromBack length stop) else clamp (-1) (length - 1) (fromBack length stop)

/-- The number of elements from `start` to `stop` by `step`, on an axis of the given length. -/
def sliceLength (length : Nat) (start stop step : Int) : Nat :=
  if length = 0 then 0
  else
    let start := sliceStart length start step
    let stop := sliceEnd length stop step
    (if 0 < step then (stop - start + step - 1).tdiv step else (start - stop - step - 1).tdiv (-step)).toNat

/-- One slice of an axis: its place and its bounds. -/
structure SliceAxis where
  axis : Nat
  start : Int
  stop : Int
  step : Int
deriving DecidableEq, Repr

/-- The axes after slices; an axis of unknown size loses its name. -/
def sliceDims (dims : List Dim) (slices : List SliceAxis) : List Dim :=
  slices.foldl (fun out s =>
    out.set s.axis (.ofSize? (((dims[s.axis]?).bind Dim.size?).map (sliceLength · s.start s.stop s.step)))) dims

/-- The size of an axis after padding on both ends. -/
def padSize (axis size : Nat) (before after : Int) : Except ImportError Nat :=
  let grown? := do Word.checkedAdd (← Word.checkedAdd (← Word.signed? size) before) after
  match grown? with
  | none => .error (.invalidAttribute "pads" s!"axis {axis} overflows")
  | some grown =>
    if grown < 0 then .error (.invalidAttribute "pads" s!"axis {axis} shrinks to {grown}") else .ok grown.toNat

/-- The axes after padding; each entry is an axis with what is added before and after it. An axis of unknown size loses
its name. -/
def padDims (dims : List Dim) : List (Nat × Int × Int) → List Dim → Except ImportError (List Dim)
  | [], out => .ok out
  | (axis, before, after) :: rest, out =>
    match (dims[axis]?).bind Dim.size? with
    | none => padDims dims rest (out.set axis .unknown)
    | some size => do
      let grown ← padSize axis size before after
      padDims dims rest (out.set axis (.static grown))

/-- The sizes of `count` even chunks of an axis, the last ones smaller. -/
def evenChunks (length count : Nat) : List Nat :=
  let chunk := Word.ceilDiv length count
  (List.range count).map fun i => min (length - chunk * i) chunk

/-- The axes repeated. A dynamic axis keeps its name only if it is repeated once. -/
def tileDims : List Dim → List Int → Except ImportError (List Dim)
  | d :: dims, r :: repeats => do
    let dim ← match d with
      | .static size =>
        if size * r.toNat < Word.count then .ok (Dim.static (size * r.toNat))
        else .error (.invalidAttribute "repeats" s!"{size} * {r} overflows")
      | .dynamic _ => .ok (if r = 1 then d else .unknown)
    return dim :: (← tileDims dims repeats)
  | _, _ => .ok []

end ModelImport.Infer
