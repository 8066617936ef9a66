import ModelImport.Session.Node
/-!
# Nodes in order, and loops

The nodes of a graph are converted in the order in which they stand. A loop has the inputs trip count, condition and
initial values, and carries its body as an attribute; the body takes the iteration number, the condition and the
carried values, and yields the condition, the carried values and the values to be scanned. It becomes a block of its
own, with its names in a scope that is gone when the body is done, followed by one instruction that refers to the block.
-/

namespace ModelImport

/-- Whether a node is a loop of the standard operators. -/
def Node.isLoop (node : Node) : Bool := node.opType == "Loop" && isStandardDomain node.domain

/-- A loop whose parts fit together. -/
structure LoopPlan where
  operands : List (Option ValueId)
  body : Graph
  /-- The types of the initial values. -/
  carried : List TensorType

namespace LoopPlan

/-- The types that the inputs of the body have unless it declares others. -/
def expected (p : LoopPlan) : List TensorType := .scalar .i64 :: .scalar .bool :: p.carried

end LoopPlan

/-- The type of a scanned value: an axis of unknown size in front of that of one iteration. -/
def TensorType.stacked (type : TensorType) : TensorType := { type with shape := type.shape.map (Dim.unknown :: ·) }

/-- The body of a loop. -/
def loopBody (node : Node) : Except ImportError Graph :=
  ((AttributeView.ofBag node.attributes).required .graph "body").1

theorem sizeOf_loopBody {node : Node} {body : Graph} (h : loopBody node = .ok body) : sizeOf body < sizeOf node := by
  simp only [loopBody, AttributeView.required, AttributeView.value, AttributeView.ofBag] at h
  cases hf : AttributeBag.find? node.attributes "body" with
  | none => simp [hf, bind, Except.bind] at h
  | some stored =>
    have hlt := AttributeBag.sizeOf_find? hf
    cases stored <;> simp [hf, AttributeValue.as?, bind, Except.bind] at h
    subst h
    cases node
    simp only [NodeOf.mk.sizeOf_spec, AttributeValue.graph.sizeOf_spec] at hlt ⊢
    omega

namespace Session

/-- The operands of a loop: at least the trip count and the condition, either of which may be omitted. -/
def loopOperands (s : Session) (scope : ScopeId) (node : Node) : Except ImportError (List (Option ValueId)) := do
  let operands ← s.resolveInputs scope node
  if operands.length < 2 then .error (.arity "Loop" "inputs" 2 none operands.length)
  return operands

def typeOf (s : Session) (v : ValueId) : Except ImportError TensorType :=
  match s.builder.function.type? v with
  | some type => .ok type
  | none => .error (.nameNotFound v.text)

/-- The types of the initial values, none of which may be omitted. -/
def carriedTypes (s : Session) (initial : List (Option ValueId)) : Except ImportError (List TensorType) := do
  let present := initial.filterMap id
  if present.length ≠ initial.length then
    .error (.arity "Loop" "present loop-carried inputs" initial.length (some initial.length) present.length)
  present.mapM s.typeOf

/-- Checks the loop and its body against the number of carried values. -/
def checkLoop (node : Node) (body : Graph) (carried : Nat) : Except ImportError Unit := do
  if body.inputs.length ≠ carried + 2 then
    .error (.arity "Loop" "body inputs" (carried + 2) (some (carried + 2)) body.inputs.length)
  if body.outputs.length < carried + 1 then
    .error (.arity "Loop" "body outputs" (carried + 1) none body.outputs.length)
  if body.outputs.length - 1 < node.outputs.length then
    .error (.arity "Loop" "outputs" 0 (some (body.outputs.length - 1)) node.outputs.length)

/-- The parts of a loop, checked against one another. -/
def planLoop (s : Session) (scope : ScopeId) (node : Node) : Except ImportError LoopPlan :=
  match s.loopOperands scope node with
  | .error e => .error e
  | .ok operands =>
    match loopBody node with
    | .error e => .error e
    | .ok body => do
      let carried ← s.carriedTypes (operands.drop 2)
      checkLoop node body carried.length
      return ⟨operands, body, carried⟩

/-- All that a loop is checked for. -/
theorem planLoop_eq_ok {s : Session} {scope : ScopeId} {node : Node} {plan : LoopPlan}
    (h : s.planLoop scope node = .ok plan) :
    s.loopOperands scope node = .ok plan.operands ∧ loopBody node = .ok plan.body ∧
      s.carriedTypes (plan.operands.drop 2) = .ok plan.carried ∧
      checkLoop node plan.body plan.carried.length = .ok () := by
  unfold planLoop at h
  split at h
  · cases h
  · rename_i operands ho
    split at h
    · cases h
    · rename_i body hb
      simp only [bind, Except.bind, pure, Except.pure] at h
      split at h
      · cases h
      · rename_i carried hc
        split at h
        · cases h
        · rename_i hcheck
          cases h
          exact ⟨ho, hb, hc, hcheck⟩

theorem sizeOf_planLoop {s : Session} {scope : ScopeId} {node : Node} {plan : LoopPlan}
    (h : s.planLoop scope node = .ok plan) : sizeOf plan.body < sizeOf node :=
  sizeOf_loopBody (planLoop_eq_ok h).2.1

/-- Opens the block and the scope of a loop body. -/
def enterBody (s : Session) (scope : ScopeId) (node : Node) (body : Graph) : BlockId × ScopeId × Session :=
  let (block, builder) := s.builder.openBlock s!"{node.displayName}_body"
  let (child, scopes) := s.scopes.createChild scope
  (block, child, { s with builder, scopes, phase := .inBody, path := s.path ++ [body.name] })

/-- Closes the block and the scope of a loop body, which yields the results if it has succeeded. -/
def leaveBody (s : Session) (child : ScopeId) (outer : Phase) (results : Option (List ValueId)) : Session :=
  let builder := match results with
    | some results => s.builder.setResults results
    | none => s.builder
  { s with
    builder := builder.closeBlock.2
    scopes := s.scopes.destroy child
    phase := outer
    path := s.path.dropLast }

/-- The types of the results of a loop: those of the carried values, then those of the scanned ones. -/
def loopTypes (s : Session) (node : Node) (carried : List TensorType) (yielded : List ValueId) : List TensorType :=
  let scanned := (yielded.drop (1 + carried.length)).map fun v =>
    ((s.builder.function.type? v).getD (.unranked .f32)).stacked
  (carried ++ scanned).take node.outputs.length

/-- Adds the instruction of a loop whose body has been converted, and binds the outputs. -/
def finishLoop (s : Session) (scope : ScopeId) (node : Node) (plan : LoopPlan) (block : BlockId)
    (yielded : List ValueId) : NodeOutcome × Session :=
  let op : OpSpec :=
    { opType := "Loop"
      name := node.displayName
      operands := plan.operands
      params := [("body", .block block)]
      resultNames := node.outputs
      resultTypes := s.loopTypes node plan.carried yielded }
  let (results, builder) := s.builder.append op
  { s with builder }.conclude scope node results ((AttributeView.ofBag node.attributes).note "body")

/-- Stops the session before a node, because the token has been found set. -/
def stop (s : Session) (node : Node) : Session :=
  { s.record node.displayName node.opType .cancelled with cancelled := true }

mutual

/-- Converts nodes in order. The token is asked before each of them; nothing happens any more once it was found set. -/
def convertNodes (s : Session) (scope : ScopeId) (opset : Int) (nodes : List Node) : Session :=
  match nodes with
  | [] => s
  | node :: rest =>
    if s.cancelled then s
    else if s.token.isSet then s.stop node
    else
      let s := { s with token := s.token.asked }
      let (outcome, s) :=
        if node.isLoop then convertLoop s scope opset node else s.convertNode scope opset node
      convertNodes (s.settle scope node outcome) scope opset rest
termination_by sizeOf nodes

/-- Converts a loop: first its body, then the instruction. -/
def convertLoop (s : Session) (scope : ScopeId) (opset : Int) (node : Node) : NodeOutcome × Session :=
  match h : s.planLoop scope node with
  | .error e => (.failed e, s)
  | .ok plan =>
    have := sizeOf_planLoop h
    let outer := s.phase
    let (block, child, s) := s.enterBody scope node plan.body
    let (results, s) := convertBody s child opset plan.expected plan.body
    let s := s.leaveBody child outer results
    match results with
    | none => (.reported, s)
    | some yielded => s.finishLoop scope node plan block yielded
termination_by sizeOf node

/-- Converts the body of a loop in its own scope; the values it yields, unless any part of it has failed. -/
def convertBody (s : Session) (scope : ScopeId) (opset : Int) (expected : List TensorType) (body : Graph) :
    Option (List ValueId) × Session :=
  let before := s.diagnostics.length
  let s := s.bindFormals scope (body.inputs.zip expected)
  let s := s.bindInitializers scope body.initializers
  let s := convertNodes s scope opset body.nodes
  if s.cancelled then (none, s)
  else
    let s := s.checkOutputs scope body.outputs
    (if s.diagnostics.length = before then s.resolveOutputs scope body.outputs else none, s)
termination_by sizeOf body
decreasing_by
  cases body
  simp only [GraphOf.mk.sizeOf_spec]
  omega

end

end Session

end ModelImport
