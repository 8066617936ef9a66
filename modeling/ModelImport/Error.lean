import ModelImport.Attribute.Kind
/-!
# Failures

What can go wrong when a model is imported, as causes. `ImportError.message` is the wording of each and `kind` its
classification.
-/

namespace ModelImport

inductive ErrorKind where
  | nameNotFound
  | duplicateBinding
  | attributeTypeMismatch
  | missingAttribute
  | invalidAttribute
  | unsupportedElementType
  | malformedTensorPayload
  | unsupportedOperator
  | unresolvedInput
  | invalidNodeArity
  | unsupportedOpset
  | decode
  | io
  | cancelled
deriving DecidableEq, Repr, Inhabited

namespace ErrorKind

def name : ErrorKind → String
  | nameNotFound => "NameNotFound"
  | duplicateBinding => "DuplicateBinding"
  | attributeTypeMismatch => "AttributeTypeMismatch"
  | missingAttribute => "MissingAttribute"
  | invalidAttribute => "InvalidAttribute"
  | unsupportedElementType => "UnsupportedElementType"
  | malformedTensorPayload => "MalformedTensorPayload"
  | unsupportedOperator => "UnsupportedOperator"
  | unresolvedInput => "UnresolvedInput"
  | invalidNodeArity => "InvalidNodeArity"
  | unsupportedOpset => "UnsupportedOpset"
  | decode => "Decode"
  | io => "Io"
  | cancelled => "Cancelled"

/-- Every kind. -/
def all : List ErrorKind :=
  [.nameNotFound, .duplicateBinding, .attributeTypeMismatch, .missingAttribute, .invalidAttribute,
    .unsupportedElementType, .malformedTensorPayload, .unsupportedOperator, .unresolvedInput, .invalidNodeArity,
    .unsupportedOpset, .decode, .io, .cancelled]

end ErrorKind

inductive ImportError where
  | nameNotFound (name : String)
  | duplicateBinding (name : String)
  | attributeTypeMismatch (key : String) (expected actual : AttributeKind)
  | missingAttribute (key : String)
  /-- Present and of the right kind, but without meaning for the operator. -/
  | invalidAttribute (key reason : String)
  | unsupportedElementType (code : Int)
  | malformedTensorPayload (tensor reason : String)
  | unsupportedOperator (opType : String)
  | unresolvedInput (name : String)
  | invalidNodeArity (opType what expected : String) (actual : Nat)
  | unsupportedOpset (opset least : Int)
  | decode (reason : String)
  | io (path reason : String)
  | cancelled
deriving DecidableEq, Repr, Inhabited

namespace ImportError

def kind : ImportError → ErrorKind
  | nameNotFound .. => .nameNotFound
  | duplicateBinding .. => .duplicateBinding
  | attributeTypeMismatch .. => .attributeTypeMismatch
  | missingAttribute .. => .missingAttribute
  | invalidAttribute .. => .invalidAttribute
  | unsupportedElementType .. => .unsupportedElementType
  | malformedTensorPayload .. => .malformedTensorPayload
  | unsupportedOperator .. => .unsupportedOperator
  | unresolvedInput .. => .unresolvedInput
  | invalidNodeArity .. => .invalidNodeArity
  | unsupportedOpset .. => .unsupportedOpset
  | decode .. => .decode
  | io .. => .io
  | cancelled => .cancelled

def message : ImportError → String
  | nameNotFound name => s!"name `{name}` is not bound in any enclosing scope"
  | duplicateBinding name => s!"name `{name}` is already bound in this scope"
  | attributeTypeMismatch key expected actual => s!"attribute `{key}` holds {actual.text}, expected {expected.text}"
  | missingAttribute key => s!"required attribute `{key}` is missing"
  | invalidAttribute key reason => s!"attribute `{key}` is invalid: {reason}"
  | unsupportedElementType code => s!"unsupported element type code {code}"
  | malformedTensorPayload tensor reason => s!"malformed payload for tensor `{tensor}`: {reason}"
  | unsupportedOperator opType => s!"no converter registered for operator `{opType}`"
  | unresolvedInput name => s!"input `{name}` is not produced by any earlier node, initializer or graph input"
  | invalidNodeArity opType what expected actual => s!"`{opType}` expects {expected} {what}, got {actual}"
  | unsupportedOpset opset least => s!"model uses opset {opset}, at least {least} is required"
  | decode reason => s!"failed to decode model: {reason}"
  | io path reason => s!"failed to read `{path}`: {reason}"
  | cancelled => "conversion cancelled"

/-- The wording of an expected count: exact, open above, or a range. -/
def expectedCount (least : Nat) (most : Option Nat) : String :=
  match most with
  | none => s!"at least {least}"
  | some most => if least = most then toString least else s!"{least} to {most}"

/-- A wrong number of something an operator needs `least` to `most` of. -/
def arity (opType what : String) (least : Nat) (most : Option Nat) (actual : Nat) : ImportError :=
  .invalidNodeArity opType what (expectedCount least most) actual

end ImportError

/-- What goes on with the result of something else succeeds when both do. -/
theorem bind_eq_ok_iff {α β : Type} {x : Except ImportError α} {f : α → Except ImportError β} {b : β} :
    x >>= f = .ok b ↔ ∃ a, x = .ok a ∧ f a = .ok b := by
  cases x <;> simp [bind, Except.bind]

end ModelImport
