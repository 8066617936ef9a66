import ModelImport.Function.Basic
/-!
# Building functions

A builder is a function under construction with the stack of its open blocks, the entry at the bottom. Instructions,
arguments and results go to the innermost open block. The last block on the stack is never closed.
-/

namespace ModelImport

/-- What is needed to append an instruction. Results without a name get the empty one. -/
structure OpSpec where
  opType : String
  name : String
  operands : List (Option ValueId)
  params : Params
  resultNames : List String
  resultTypes : List TensorType
deriving DecidableEq, Repr, Inhabited

structure Builder where
  function : Function
  /-- The open blocks, innermost first. -/
  stack : List BlockId

namespace Builder

def new (name : String) : Builder := ⟨.new name, [.entry]⟩

/-- The innermost open block. -/
def current (b : Builder) : BlockId := b.stack.head?.getD .entry

/-- The handle of the next value. -/
def nextValue (b : Builder) : ValueId := ⟨b.function.values.size⟩

/-- The builder with one more value. -/
def pushValue (b : Builder) (value : Value) : Builder :=
  { b with function.values := b.function.values.push value }

/-- The builder with a block changed. -/
def modifyBlock (b : Builder) (id : BlockId) (f : Block → Block) : Builder :=
  { b with function.blocks := b.function.blocks.modify id.index f }

/-- Adds an input of the function. -/
def createPlaceholder (b : Builder) (name : String) (type : TensorType) : ValueId × Builder :=
  let v := b.nextValue
  let b := b.pushValue ⟨name, type, .placeholder⟩
  (v, { b with function.placeholders := b.function.placeholders.push v })

/-- Adds a constant, typed like its data. -/
def createConstant (b : Builder) (name : String) (data : TensorData) : ValueId × Builder :=
  let v := b.nextValue
  let b := b.pushValue ⟨name, .ofSizes data.element data.shape.dims, .constant⟩
  let b := { b with function.constants := b.function.constants.push v }
  (v, { b with function.constantData := b.function.constantData.insert v data })

/-- Adds the results of the instruction at `index` of `block`, named as far as there are names. -/
def pushResults (block : BlockId) (index : Nat) : List String → List TensorType → Builder → List ValueId × Builder
  | _, [], b => ([], b)
  | names, type :: types, b =>
    let v := b.nextValue
    let rest := pushResults block index names.tail types
      (b.pushValue ⟨names.head?.getD "", type, .instruction block index⟩)
    (v :: rest.1, rest.2)

/-- Appends an instruction to the innermost open block; one handle for each result type. -/
def append (b : Builder) (op : OpSpec) : List ValueId × Builder :=
  let block := b.current
  let index := ((b.function.block? block).map fun blk => blk.instructions.size).getD 0
  let (results, b) := pushResults block index op.resultNames op.resultTypes b
  let instruction : Instruction := ⟨op.opType, op.name, op.operands, op.params, results⟩
  (results, b.modifyBlock block fun blk => { blk with instructions := blk.instructions.push instruction })

/-- Opens a block inside the innermost one. -/
def openBlock (b : Builder) (name : String) : BlockId × Builder :=
  let id : BlockId := ⟨b.function.blocks.size⟩
  (id, { b with function.blocks := b.function.blocks.push (.new id name), stack := id :: b.stack })

/-- Adds an argument to the innermost open block. -/
def createArgument (b : Builder) (name : String) (type : TensorType) : ValueId × Builder :=
  let block := b.current
  let v := b.nextValue
  let b := b.pushValue ⟨name, type, .argument block⟩
  (v, b.modifyBlock block fun blk => { blk with arguments := blk.arguments.push v })

/-- Sets the values that the innermost open block yields. -/
def setResults (b : Builder) (results : List ValueId) : Builder :=
  b.modifyBlock b.current fun blk => { blk with results }

/-- Closes the innermost open block, unless it is the last one. -/
def closeBlock (b : Builder) : BlockId × Builder :=
  (b.current, if b.stack.length > 1 then { b with stack := b.stack.tail } else b)

end Builder

end ModelImport
