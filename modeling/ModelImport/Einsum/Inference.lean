import ModelImport.Einsum.Equation
import ModelImport.Infer.Broadcast
/-!
# Types of einsum results

Each letter takes its axis from the operands, a static one before a dynamic one; the axes that the ellipses cover are
broadcast. The result puts them together in the order of its term.
-/

namespace ModelImport.Einsum

open Infer

/-- What the operands seen so far say about the letters and about the ellipsis. -/
structure Axes where
  named : List (Char × Dim)
  covered : List (List Dim)
deriving DecidableEq, Repr, Inhabited

namespace Axes

/-- The axis of a letter. -/
def find? (a : Axes) (c : Char) : Option Dim := (a.named.find? (·.1 == c)).map (·.2)

/-- Notes an axis of a letter: the first static one is kept, else the first. -/
def note (a : Axes) (c : Char) (dim : Dim) : Axes :=
  match a.find? c with
  | none => { a with named := (c, dim) :: a.named }
  | some known =>
    if known.size?.isNone && dim.size?.isSome then { a with named := (c, dim) :: a.named } else a

/-- Notes the axes of the labels of a term, where an ellipsis covers `width` axes. -/
def noteLabels (width : Nat) : Term → List Dim → Axes → Axes
  | [], _, a => a
  | .letter c :: labels, dims, a => noteLabels width labels dims.tail (a.note c (dims.head?.getD .unknown))
  | .ellipsis :: labels, dims, a =>
    noteLabels width labels (dims.drop width) { a with covered := a.covered ++ [dims.take width] }

end Axes

/-- Whether an operand of the given rank fits a term. -/
def fits (term : Term) (rank : Nat) : Bool :=
  let named := (letters term).length
  if named < term.length then named ≤ rank else rank == named

/-- What all operands say, or nothing when one of them has an unknown rank. -/
def gather : List (Term × TensorType) → Axes → Except ImportError (Option Axes)
  | [], a => .ok (some a)
  | (term, type) :: rest, a =>
    match type.shape with
    | none => .ok none
    | some dims =>
      if fits term dims.length then
        gather rest (a.noteLabels (dims.length - (letters term).length) term dims)
      else invalid s!"term of {term.length} labels for rank {dims.length}"

/-- The axes of the result. -/
def outputDims (a : Axes) : Term → Except ImportError (List Dim)
  | [] => .ok []
  | .ellipsis :: labels => return broadcastDims a.covered ++ (← outputDims a labels)
  | .letter c :: labels =>
    match a.find? c with
    | some dim => return dim :: (← outputDims a labels)
    | none => invalid s!"output label {Text.quotedChar c} not in any input"

/-- The type of the result over operands of which the first has the given element type. -/
def outputType (e : Equation) (element : ElementType) (operands : List TensorType) : Except ImportError TensorType := do
  if e.inputs.length ≠ operands.length then
    invalid s!"{e.inputs.length} terms for {operands.length} operands"
  match ← gather (e.inputs.zip operands) ⟨[], []⟩ with
  | none => return .unranked element
  | some axes => return .ranked element (← outputDims axes e.output)

end ModelImport.Einsum
