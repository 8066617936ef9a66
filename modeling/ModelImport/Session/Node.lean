import ModelImport.Session.Basic
/-!
# Converting one node

An ordinary node goes to the converter of its operator: its inputs are resolved, the converter runs on the function under
construction, and the outputs are bound in the scope of the node.
-/

namespace ModelImport

/-- How the conversion of a node ended. -/
inductive NodeOutcome where
  | converted
  /-- Failed; what went wrong inside it has been recorded already. -/
  | reported
  | failed (error : ImportError)
deriving DecidableEq

namespace ScopeTree

/-- Binds names to values in a scope, up to the first that cannot be bound. Empty names are passed over. -/
def insertAll (t : ScopeTree) (scope : ScopeId) : List (String × ValueId) → Option ImportError × ScopeTree
  | [] => (none, t)
  | (name, v) :: rest =>
    if name = "" then insertAll t scope rest
    else
      match t.insert scope name v with
      | .ok t => insertAll t scope rest
      | .error e => (some e, t)

end ScopeTree

namespace Session

/-- Binds the outputs of a node. There must be a value for each, omitted ones included; more values do no harm. -/
def bindOutputs (s : Session) (scope : ScopeId) (node : Node) (values : List ValueId) : NodeOutcome × Session :=
  let declared := node.outputs.length
  if values.length < declared then
    (.failed (.arity node.opType "results" declared (some declared) values.length), s)
  else
    match s.scopes.insertAll scope (node.outputs.zip values) with
    | (none, scopes) => (.converted, { s with scopes })
    | (some e, scopes) => (.failed e, { s with scopes })

/-- The converter of a node and what it is given. -/
def dispatch (s : Session) (scope : ScopeId) (opset : Int) (node : Node) :
    Except ImportError (Converter × Context) := do
  let operands ← s.resolveInputs scope node
  if !isStandardDomain node.domain then .error (.unsupportedOperator s!"{node.domain}.{node.opType}")
  let converter ← s.registry.lookup node.opType
  return (converter, ⟨node, operands, opset⟩)

/-- What is left to do for a node that has its values: it is warned of what was not read, and the outputs are bound. -/
def conclude (s : Session) (scope : ScopeId) (node : Node) (values : List ValueId) (view : AttributeView) :
    NodeOutcome × Session :=
  (s.warnUnread node view).bindOutputs scope node values

/-- Converts a node by the converter of its operator. What a converter has done to the function before it fails is
kept. -/
def convertNode (s : Session) (scope : ScopeId) (opset : Int) (node : Node) : NodeOutcome × Session :=
  match s.dispatch scope opset node with
  | .error e => (.failed e, s)
  | .ok (converter, context) =>
    let s := if converter.cancels then s.cancel else s
    match converter.run context s.builder with
    | (.error e, builder) => (.failed e, { s with builder })
    | (.ok (values, view), builder) => { s with builder }.conclude scope node values view

/-- Takes note of how the conversion of a node ended. -/
def settle (s : Session) (scope : ScopeId) (node : Node) (outcome : NodeOutcome) : Session :=
  let lost := (node.outputs.filter (· ≠ "")).map fun name => (scope, name)
  match outcome with
  | .converted => { s with convertedNodes := s.convertedNodes + 1 }
  | .reported => { s with failedOutputs := lost ++ s.failedOutputs }
  | .failed e => { s.record node.displayName node.opType e with failedOutputs := lost ++ s.failedOutputs }

end Session

end ModelImport
