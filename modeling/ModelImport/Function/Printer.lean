import ModelImport.Function.Basic
import ModelImport.Text.Number
import ModelImport.Text.Quoted
/-!
# Printed functions

One line for each input and constant, then each block with its arguments, its instructions and the values it yields.
Names of values stand between quotes as they are; text parameters are quoted with escapes.
-/

namespace ModelImport

def Param.text : Param → String
  | int v => toString v
  | float v => v.text
  | ints vs => intsText vs
  | floats vs => singlesText vs
  | string v => Text.quoted v
  | element v => v.name
  | block v => v.text

def Instruction.text (i : Instruction) : String :=
  let results := if i.results.isEmpty then "" else ", ".intercalate (i.results.map ValueId.text) ++ " = "
  let operands := i.operands.map fun o => (o.map ValueId.text).getD "_"
  let params := i.params.map fun (key, value) => key ++ "=" ++ value.text
  let params := if params.isEmpty then "" else " \x7b" ++ ", ".intercalate params ++ "\x7d"
  results ++ i.opType ++ "(" ++ ", ".intercalate operands ++ ")" ++ params

def Definition.text : Definition → String
  | placeholder => "placeholder"
  | constant => "constant"
  | argument b => s!"argument {b.text}"
  | instruction b index => s!"instruction {b.text} {index}"

namespace Function

/-- A value with its type and name. -/
def describe (f : Function) (v : ValueId) : String :=
  match f.value? v with
  | some value => s!"{v.text}: {value.type.text} \"{value.name}\""
  | none => v.text

/-- The lines of a block. -/
def blockLines (f : Function) (b : Block) : List String :=
  let arguments := ", ".intercalate (b.arguments.toList.map f.describe)
  [s!"{b.id.text} {b.name}({arguments}):"] ++
    b.instructions.toList.map (fun i => "  " ++ i.text) ++
    ["  yield " ++ ", ".intercalate (b.results.map ValueId.text)]

/-- The lines of a function. -/
def lines (f : Function) : List String :=
  [s!"func {f.name}"] ++
    f.placeholders.toList.map (fun v => "  input " ++ f.describe v) ++
    f.constants.toList.map (fun c => "  const " ++ f.describe c) ++
    f.blocks.toList.flatMap f.blockLines

/-- The lines of a function, each ended. -/
def text (f : Function) : String := String.join (f.lines.map (· ++ "\n"))

end Function

end ModelImport
