import ModelImport.Tensor.Data
import ModelImport.Tensor.Type
/-!
# Functions

The result of an import: a table of typed values and a table of blocks. A value is an input of the function, a
constant, an argument of a block or a result of an instruction, and its record says which. Block 0 is the entry; the
others are bodies of loops, each named by a parameter of its loop instruction.
-/

namespace ModelImport

/-! ## Handles -/

/-- A value, by its number in the table of values. -/
structure ValueId where
  index : Nat
deriving DecidableEq, Repr, Inhabited

def ValueId.text (v : ValueId) : String := s!"%{v.index}"

/-- A block, by its number in the table of blocks. -/
structure BlockId where
  index : Nat
deriving DecidableEq, Repr, Inhabited

def BlockId.text (b : BlockId) : String := s!"^bb{b.index}"

/-- The entry block of every function. -/
def BlockId.entry : BlockId := ⟨0⟩

/-! ## Parameters -/

/-- A parameter of an instruction, with defaults already filled in. -/
inductive Param where
  | int (value : Int)
  | float (value : Single)
  | ints (values : List Int)
  | floats (values : List Single)
  | string (value : String)
  | element (value : ElementType)
  | block (value : BlockId)
deriving DecidableEq, Repr, Inhabited

/-- The parameters of an instruction, in increasing order of their keys. -/
abbrev Params := List (String × Param)

namespace Params

/-- The parameters with one set, in place of the one that had its key. -/
def insert (key : String) (value : Param) : Params → Params
  | [] => [(key, value)]
  | (k, v) :: rest =>
    if key < k then (key, value) :: (k, v) :: rest
    else if key = k then (key, value) :: rest
    else (k, v) :: insert key value rest

/-- Parameters from entries in any order; a later entry replaces an earlier one. -/
def ofList (entries : List (String × Param)) : Params := entries.foldl (fun ps (key, value) => insert key value ps) []

/-- The parameters with one set if it is present. -/
def insert? (key : String) (value : Option Param) (ps : Params) : Params :=
  match value with
  | some value => insert key value ps
  | none => ps

def find? (ps : Params) (key : String) : Option Param := (List.find? (·.1 == key) ps).map (·.2)

end Params

/-! ## Instructions, blocks and values -/

/-- One operator applied to operands; an omitted operand is `none`. -/
structure Instruction where
  opType : String
  name : String
  operands : List (Option ValueId)
  params : Params
  results : List ValueId
deriving DecidableEq, Repr, Inhabited

/-- A straight line of instructions. The results are the outputs of the function for the entry block, and the values of
the next iteration for the body of a loop. -/
structure Block where
  id : BlockId
  name : String
  arguments : Array ValueId
  instructions : Array Instruction
  results : List ValueId
deriving DecidableEq, Repr, Inhabited

/-- A block without content. -/
def Block.new (id : BlockId) (name : String) : Block := ⟨id, name, #[], #[], []⟩

/-- How a value comes about. -/
inductive Definition where
  | placeholder
  | constant
  | argument (block : BlockId)
  | instruction (block : BlockId) (index : Nat)
deriving DecidableEq, Repr, Inhabited

/-- The record of a value. -/
structure Value where
  name : String
  type : TensorType
  definition : Definition
deriving DecidableEq, Repr, Inhabited

/-- Data by the value they belong to, at most one entry for each. -/
abbrev DataTable := List (ValueId × TensorData)

namespace DataTable

/-- The table with the data of a value set, in place of those it had. -/
def insert (v : ValueId) (data : TensorData) (t : DataTable) : DataTable := (v, data) :: t.filter (·.1 ≠ v)

def find? (t : DataTable) (v : ValueId) : Option TensorData := (List.find? (·.1 = v) t).map (·.2)

theorem find?_insert_self (v : ValueId) (data : TensorData) (t : DataTable) : (t.insert v data).find? v = some data := by
  simp [find?, insert]

theorem find?_insert_of_ne {v w : ValueId} (h : w ≠ v) {data : TensorData} {t : DataTable} :
    (t.insert v data).find? w = t.find? w := by
  have hsame : ∀ u : ValueId, u ≠ v ∧ u = w ↔ u = w := fun u => ⟨And.right, fun hu => ⟨hu ▸ h, hu⟩⟩
  rw [find?, insert, List.find?_cons_of_neg (by simpa using Ne.symm h), List.find?_filter]
  simp only [decide_eq_true_eq, hsame, find?]

end DataTable

/-- A function: its values, its inputs and constants in the order of their creation, the data of the constants, and its
blocks. -/
structure Function where
  name : String
  values : Array Value
  placeholders : Array ValueId
  constants : Array ValueId
  constantData : DataTable
  blocks : Array Block

namespace Function

/-- The function with nothing but an empty entry block. -/
def new (name : String) : Function := ⟨name, #[], #[], #[], [], #[.new .entry "entry"]⟩

def value? (f : Function) (v : ValueId) : Option Value := f.values[v.index]?

def type? (f : Function) (v : ValueId) : Option TensorType := (f.value? v).map Value.type

/-- The first value of the given name. -/
def findValue? (f : Function) (name : String) : Option ValueId :=
  (f.values.findIdx? (·.name == name)).map ValueId.mk

/-- The data of a constant. -/
def constant? (f : Function) (v : ValueId) : Option TensorData := f.constantData.find? v

def block? (f : Function) (b : BlockId) : Option Block := f.blocks[b.index]?

/-- The results of the entry block. -/
def outputs (f : Function) : List ValueId := ((f.block? .entry).map Block.results).getD []

/-- The instruction that a value is a result of. -/
def producer? (f : Function) (v : ValueId) : Option Instruction := do
  match (← f.value? v).definition with
  | .instruction block index => (← f.block? block).instructions[index]?
  | _ => none

/-- The number of instructions of all blocks. -/
def instructionCount (f : Function) : Nat := f.blocks.foldr (fun b n => b.instructions.size + n) 0

end Function

end ModelImport
