import ModelImport.Operator.Activation
import ModelImport.Operator.Constant
import ModelImport.Operator.Convolution
import ModelImport.Operator.Elementwise
import ModelImport.Operator.Linear
import ModelImport.Operator.Normalization
import ModelImport.Operator.Reduction
import ModelImport.Operator.Selection
import ModelImport.Text.Names
/-!
# The table of converters

Converters by the name of their operator. A name has one converter; registering another replaces it.
-/

namespace ModelImport

structure Registry where
  entries : List (String × Converter)

namespace Registry

def empty : Registry := ⟨[]⟩

/-- The converters of every operator this library knows. -/
def builtin : Registry :=
  ⟨Operator.activations ++ Operator.elementwise ++ Operator.products ++ Operator.windowed ++ Operator.normalizations ++
    Operator.layouts ++ Operator.selections ++ Operator.reductions ++ Operator.constants⟩

def find? (r : Registry) (opType : String) : Option Converter := (r.entries.find? (·.1 == opType)).map (·.2)

def contains (r : Registry) (opType : String) : Bool := (r.find? opType).isSome

/-- The converter of an operator. -/
def lookup (r : Registry) (opType : String) : Except ImportError Converter :=
  match r.find? opType with
  | some c => .ok c
  | none => .error (.unsupportedOperator opType)

/-- The table with a converter registered, in place of the one that had its name. -/
def register (r : Registry) (opType : String) (c : Converter) : Registry :=
  ⟨(opType, c) :: r.entries.filter (·.1 != opType)⟩

/-- The number of operators. -/
def size (r : Registry) : Nat := r.entries.length

/-- The names of the operators, in increasing order. -/
def opTypes (r : Registry) : List String := Text.sortNames (r.entries.map (·.1))

end Registry

end ModelImport
