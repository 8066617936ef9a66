import ModelImport.Infer.Broadcast
/-!
# Matrix products

The last two axes of each operand form a matrix and the axes before them broadcast. An operand with a single axis is
taken as a row on the left and as a column on the right, and the axis added for that is left out of the result.
-/

namespace ModelImport.Infer

/-- A left operand as the axes before its matrix and the axis of rows, which a single axis does not have. -/
def leftRows : List Dim → Option (List Dim × List Dim)
  | [] => none
  | [_] => some ([], [])
  | dims => some (dims.take (dims.length - 2), dims.drop (dims.length - 2) |>.take 1)

/-- A right operand as the axes before its matrix and the axis of columns, which a single axis does not have. -/
def rightColumns : List Dim → Option (List Dim × List Dim)
  | [] => none
  | [_] => some ([], [])
  | dims => some (dims.take (dims.length - 2), dims.drop (dims.length - 1))

/-- The axes of a matrix product; a scalar has none. -/
def matMulDims (a b : List Dim) : Option (List Dim) := do
  let (batchA, rows) ← leftRows a
  let (batchB, columns) ← rightColumns b
  return broadcastDims [batchA, batchB] ++ rows ++ columns

/-- The type of a matrix product. -/
def matMulType (a b : TensorType) : TensorType :=
  .ofDims? a.element do matMulDims (← a.shape) (← b.shape)

end ModelImport.Infer
