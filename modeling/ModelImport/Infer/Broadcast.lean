import ModelImport.Tensor.Type
/-!
# Broadcasting

The axes of an elementwise result. Shapes are aligned at their last axes; where a shape has no axis it counts as one of
size 1, and a size of 1 gives way to whatever the others have.
-/

namespace ModelImport.Infer

/-- One axis of a result: what is known so far, combined with the axis of the next operand. Two different sizes other
than 1 leave the axis unknown; a size wins over a name, which could only be 1 or the same size. -/
def broadcastDim : Dim → Dim → Dim
  | .static 1, next => next
  | known, .static 1 => known
  | .static a, .static b => if a = b then .static a else .unknown
  | .static a, .dynamic _ => .static a
  | .dynamic _, .static b => .static b
  | .dynamic (some a), .dynamic (some b) => if a = b then .dynamic (some a) else .unknown
  | _, _ => .unknown

/-- A shape filled up with axes of size 1 on the left. -/
def alignRight (rank : Nat) (dims : List Dim) : List Dim := List.replicate (rank - dims.length) (.static 1) ++ dims

/-- The axes that shapes have in common. -/
def broadcastDims (shapes : List (List Dim)) : List Dim :=
  let rank := (shapes.map List.length).foldl max 0
  shapes.foldl (fun known dims => List.zipWith broadcastDim known (alignRight rank dims))
    (List.replicate rank (.static 1))

/-- The axes that types have in common, if every rank is known. -/
def broadcast? (types : List TensorType) : Option (List Dim) := (types.mapM TensorType.shape).map broadcastDims

/-- The type with the axes that types have in common. -/
def broadcastType (element : ElementType) (types : List TensorType) : TensorType := .ofDims? element (broadcast? types)

end ModelImport.Infer
