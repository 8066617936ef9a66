import ModelImport.Proofs.LoopBody
import ModelImport.Proofs.StrictSessions
/-!
# Loops without faults

The conversion of loops in terms of strict accesses, down to the nodes of their bodies and the loops among those. What
makes the slices of a loop safe are its own checks: there are two operands at least, and the body has an output for the
condition and for each carried value. The main result (`conversion_never_faults`) is about every converter of the table
and every loop.
-/

namespace ModelImport

namespace Session
variable {s s' t : Session} {scope : ScopeId} {node : Node} {plan : LoopPlan}

/-! ## What a run keeps -/

/-- The table of converters is the same, and the function has gone on. -/
structure Keeps (s s' : Session) : Prop where
  registry : s'.registry = s.registry
  builder : s.builder.Grows s'.builder

theorem Keeps.trans (h : s.Keeps s') (h' : s'.Keeps t) : s.Keeps t :=
  ⟨h'.registry.trans h.registry, h.builder.trans h'.builder⟩

theorem Ready.keeps (h : s.Ready) (hk : s.Keeps s') : s'.Ready :=
  ⟨hk.registry.trans h.registry, h.standing.grows hk.builder⟩

theorem Evolves.keeps (h : s.Evolves scope s') (hs : s.Ready) : s.Keeps s' := ⟨h.registry, h.builder hs.additive⟩

theorem keeps_ask (s : Session) : s.Keeps s.ask := ⟨rfl, .refl _⟩

theorem Ready.ask (h : s.Ready) : s.ask.Ready := h.keeps s.keeps_ask

theorem keeps_settle (s : Session) (scope : ScopeId) (node : Node) (outcome : NodeOutcome) :
    s.Keeps (s.settle scope node outcome) := by
  cases outcome <;> exact ⟨rfl, .refl _⟩

theorem Ready.enterBody (h : s.Ready) (scope : ScopeId) (node : Node) (body : Graph) :
    (s.enterBody scope node body).2.2.Ready :=
  ⟨h.registry, h.standing.openBlock _⟩

theorem Ready.enterLoop (h : s.Ready) (scope : ScopeId) (node : Node) (plan : LoopPlan) :
    (s.enterLoop scope node plan).Ready :=
  (h.enterBody scope node plan.body).evolves (evolves_enterLoop s scope node plan)

/-- A body leaves the blocks around it as they were, whatever scope it is in. -/
theorem keeps_leaveBody (hs : s.Ready) (h : (s.enterBody scope node plan.body).2.2.Keeps t) (child : ScopeId)
    (outer : Phase) (results : Option (List ValueId)) : s.Keeps (t.leaveBody child outer results) := by
  refine ⟨h.registry, Builder.grows_openBlock hs.standing.nonempty (h.builder.trans ?_)⟩
  cases results with
  | none => exact .refl _
  | some results => exact Builder.grows_setResults ..

/-- What has become of the block of a body by the time it is left. -/
theorem keeps_yieldBody (hs : s.Ready) (h : (s.enterLoop scope node plan).Keeps t) (child : ScopeId) (before : Nat) :
    (s.enterBody scope node plan.body).2.2.Keeps (t.yieldBody child before plan.body).2 := by
  have hopen := hs.enterBody scope node plan.body
  have hinner := ((evolves_enterLoop s scope node plan).keeps hopen).trans h
  exact hinner.trans ((evolves_yieldBody t child before plan.body).keeps (hopen.keeps hinner))

theorem keeps_afterLoop (hs : s.ask.Ready) (h : (s.ask.enterLoop scope node plan).Keeps t) :
    s.Keeps (s.afterLoop scope node plan t) := by
  have hyield := keeps_yieldBody hs h (s.ask.bodyScope scope) s.ask.diagnostics.length
  refine s.keeps_ask.trans ?_
  rw [afterLoop, endLoop_eq]
  dsimp only
  split
  · exact (keeps_leaveBody hs hyield (s.ask.bodyScope scope) s.ask.phase none).trans (keeps_settle ..)
  · next yielded _ =>
    have hleft := keeps_leaveBody hs hyield (s.ask.bodyScope scope) s.ask.phase (some yielded)
    exact hleft.trans ((evolves_finishLoop ..).keeps (hs.keeps hleft))

theorem Run.keeps {opset : Int} {nodes : List Node} (h : Run opset scope nodes s s') (hs : s.Ready) : s.Keeps s' := by
  induction h with
  | done => exact ⟨rfl, .refl _⟩
  | halted => exact ⟨rfl, .refl _⟩
  | stopped => exact ⟨rfl, .refl _⟩
  | @node scope node rest s s' ha hl _ ih =>
    have hnode := (evolves_afterNode s scope opset node).keeps hs
    exact hnode.trans (ih (hs.keeps hnode))
  | @refused scope node rest s s' e ha hl hp _ ih =>
    have hnode := s.keeps_ask.trans (keeps_settle s.ask scope node (.failed e))
    exact hnode.trans (ih (hs.keeps hnode))
  | @loop scope node rest s s' plan inner ha hl hp _ _ ihb ih =>
    have hnode := keeps_afterLoop hs.ask (ihb (hs.ask.enterLoop scope node plan))
    exact hnode.trans (ih (hs.keeps hnode))

end Session

namespace Strict
variable {s t : Session} {scope : ScopeId} {node : Node} {plan : LoopPlan}

/-! ## The parts of a loop -/

def checkLoop (node : Node) (body : Graph) (carried : Nat) : StrictExcept Unit := do
  if body.inputs.length ≠ carried + 2 then
    (Except.error (.arity "Loop" "body inputs" (carried + 2) (some (carried + 2)) body.inputs.length) :
      Except ImportError Unit)
  if body.outputs.length < carried + 1 then
    (Except.error (.arity "Loop" "body outputs" (carried + 1) none body.outputs.length) : Except ImportError Unit)
  let produced ← minus body.outputs.length 1
  if produced < node.outputs.length then
    (Except.error (.arity "Loop" "outputs" 0 (some produced) node.outputs.length) : Except ImportError Unit)

theorem checkLoop_agrees (node : Node) (body : Graph) (carried : Nat) :
    (checkLoop node body carried).Agrees (Session.checkLoop node body carried) := by
  refine .guard fun _ => .guard fun hleast => .access (minus_eq (by omega)) ?_
  split
  · exact .lift
  · exact .pure

/-- The parts of a loop, checked against one another. -/
def planLoop (s : Session) (scope : ScopeId) (node : Node) : StrictExcept LoopPlan := do
  let operands ← s.loopOperands scope node
  let body ← loopBody node
  let initial ← since operands 2
  let carried ← s.carriedTypes initial
  checkLoop node body carried.length
  return ⟨operands, body, carried⟩

theorem planLoop_agrees (s : Session) (scope : ScopeId) (node : Node) :
    (planLoop s scope node).Agrees (s.planLoop scope node) := by
  unfold planLoop Session.planLoop
  cases hoperands : s.loopOperands scope node with
  | error e => rfl
  | ok operands =>
    have htwo := (Session.loopOperands_eq_ok hoperands).2
    cases loopBody node with
    | error e => rfl
    | ok body =>
      refine .access (since_eq htwo) (.bind .lift fun carried _ => .bind (checkLoop_agrees ..) fun _ _ => .pure)

theorem sizeOf_planLoop (h : attempt (planLoop s scope node) = .ok (.ok plan)) :
    sizeOf plan.body < sizeOf node := by
  rw [attempt_eq (planLoop_agrees s scope node)] at h
  exact Session.sizeOf_planLoop (Except.ok.inj h)

/-- Opens the block and the scope of a loop body. -/
def enterBody (s : Session) (scope : ScopeId) (node : Node) (body : Graph) :
    Except Fault (BlockId × ScopeId × Session) := do
  let (block, builder) := s.builder.openBlock s!"{node.displayName}_body"
  let (child, scopes) ← createChild s.scopes scope
  return (block, child, { s with builder, scopes, phase := .inBody, path := s.path ++ [body.name] })

theorem enterBody_eq (s : Session) (scope : ScopeId) (node : Node) (body : Graph) :
    enterBody s scope node body = .ok (s.enterBody scope node body) := by
  simp only [enterBody, createChild_eq]
  rfl

/-- Closes the block and the scope of a loop body, which yields the results if it has succeeded. -/
def leaveBody (s : Session) (child : ScopeId) (outer : Phase) (results : Option (List ValueId)) :
    Except Fault Session := do
  let builder ← match results with
    | some results => setResults s.builder results
    | none => pure s.builder
  let scopes ← destroy s.scopes child
  return { s with builder := builder.closeBlock.2, scopes, phase := outer, path := s.path.dropLast }

theorem leaveBody_eq (h : s.builder.Standing) (child : ScopeId) (outer : Phase) (results : Option (List ValueId)) :
    leaveBody s child outer results = .ok (s.leaveBody child outer results) := by
  unfold leaveBody
  rw [destroy_eq]
  cases results with
  | none => rfl
  | some results =>
    simp only [setResults_eq h]
    rfl

/-- The types of the results of a loop: those of the carried values, then those of the scanned ones. -/
def loopTypes (s : Session) (node : Node) (carried : List TensorType) (yielded : List ValueId) :
    Except Fault (List TensorType) := do
  let scanned ← since yielded (1 + carried.length)
  return (carried ++ scanned.map fun v => ((s.builder.function.type? v).getD (.unranked .f32)).stacked).take
    node.outputs.length

/-- Adds the instruction of a loop whose body has been converted, and binds the outputs. -/
def finishLoop (s : Session) (scope : ScopeId) (node : Node) (plan : LoopPlan) (block : BlockId)
    (yielded : List ValueId) : Except Fault (NodeOutcome × Session) := do
  let resultTypes ← loopTypes s node plan.carried yielded
  let op : OpSpec :=
    { opType := "Loop"
      name := node.displayName
      operands := plan.operands
      params := [("body", .block block)]
      resultNames := node.outputs
      resultTypes }
  let (results, builder) ← append s.builder op
  return { s with builder }.conclude scope node results ((AttributeView.ofBag node.attributes).note "body")

theorem finishLoop_eq (h : s.builder.Standing) {yielded : List ValueId}
    (hyielded : 1 + plan.carried.length ≤ yielded.length) (block : BlockId) :
    finishLoop s scope node plan block yielded = .ok (s.finishLoop scope node plan block yielded) := by
  rw [finishLoop, loopTypes, since_eq hyielded]
  simp only [append_eq h, bind, Except.bind, pure, Except.pure]
  rfl

/-- A body yields a value for each of its outputs. -/
theorem length_yieldBody {before : Nat} {body : Graph} {yielded : List ValueId}
    (h : (t.yieldBody scope before body).1 = some yielded) : yielded.length = body.outputs.length := by
  unfold Session.yieldBody at h
  split at h
  · cases h
  · dsimp only at h
    split at h
    · exact Session.length_resolveOutputs h
    · cases h

/-- There is a result for the condition and for each carried value. -/
theorem carried_lt_outputs (h : s.planLoop scope node = .ok plan) :
    1 + plan.carried.length ≤ plan.body.outputs.length := by
  obtain ⟨-, -, -, hcheck⟩ := Session.planLoop_eq_ok h
  obtain ⟨-, hleast, -⟩ := Session.checkLoop_eq_ok hcheck
  omega

/-! ## Nodes in order -/

mutual

def convertNodes (s : Session) (scope : ScopeId) (opset : Int) (nodes : List Node) : Except Fault Session :=
  match nodes with
  | [] => return s
  | node :: rest =>
    if s.cancelled then return s
    else if s.token.isSet then return s.stop node
    else do
      let (outcome, s) ← if node.isLoop then convertLoop s.ask scope opset node else convertNode s.ask scope opset node
      convertNodes (s.settle scope node outcome) scope opset rest
termination_by sizeOf nodes

def convertLoop (s : Session) (scope : ScopeId) (opset : Int) (node : Node) : Except Fault (NodeOutcome × Session) :=
  match h : attempt (planLoop s scope node) with
  | .error f => .error f
  | .ok (.error e) => .ok (.failed e, s)
  | .ok (.ok plan) =>
    have := sizeOf_planLoop h
    do
      let (block, child, t) ← enterBody s scope node plan.body
      let (results, t) ← convertBody t child opset plan.expected plan.body
      let t ← leaveBody t child s.phase results
      match results with
      | none => return (.reported, t)
      | some yielded => finishLoop t scope node plan block yielded
termination_by sizeOf node

def convertBody (s : Session) (scope : ScopeId) (opset : Int) (expected : List TensorType) (body : Graph) :
    Except Fault (Option (List ValueId) × Session) := do
  let before := s.diagnostics.length
  let s ← bindFormals s scope (body.inputs.zip expected)
  let s ← bindInitializers s scope body.initializers
  let s ← convertNodes s scope opset body.nodes
  return s.yieldBody scope before body
termination_by sizeOf body
decreasing_by
  cases body
  simp only [GraphOf.mk.sizeOf_spec]
  omega

end

theorem convertLoop_of_error {e : ImportError} (h : s.planLoop scope node = .error e) (opset : Int) :
    convertLoop s scope opset node = .ok (.failed e, s) := by
  have hplan := attempt_eq (planLoop_agrees s scope node)
  rw [h] at hplan
  rw [convertLoop]
  split
  · next f hf => rw [hplan] at hf; cases hf
  · next e' he => rw [hplan] at he; cases he; rfl
  · next plan hp => rw [hplan] at hp; cases hp

theorem convertBody_eq {inner : Session} {opset : Int} (hready : s.Ready)
    (hbody : convertNodes (s.enterLoop scope node plan) (s.bodyScope scope) opset plan.body.nodes = .ok inner) :
    convertBody (s.enterBody scope node plan.body).2.2 (s.enterBody scope node plan.body).2.1 opset plan.expected
      plan.body = .ok (inner.yieldBody (s.bodyScope scope) s.diagnostics.length plan.body) := by
  have hscope : (s.enterBody scope node plan.body).2.1 = s.bodyScope scope := rfl
  rw [Session.enterLoop] at hbody
  rw [hscope, convertBody, bindFormals_eq (hready.enterBody scope node plan.body)]
  simp only [bind, Except.bind, bindInitializers_eq, hbody]
  rfl

/-- A loop whose parts fit, once the nodes of its body have been converted. -/
theorem convertLoop_of_ok {inner : Session} {opset : Int} (hready : s.Ready) (h : s.planLoop scope node = .ok plan)
    (hbody : convertNodes (s.enterLoop scope node plan) (s.bodyScope scope) opset plan.body.nodes = .ok inner)
    (hkeeps : (s.enterLoop scope node plan).Keeps inner) :
    convertLoop s scope opset node = .ok (s.endLoop scope node plan inner) := by
  have hplan := attempt_eq (planLoop_agrees s scope node)
  rw [h] at hplan
  rw [convertLoop]
  split
  · next f hf => rw [hplan] at hf; cases hf
  · next e he => rw [hplan] at he; cases he
  · next plan' hp =>
    rw [hplan] at hp
    cases hp
    -- what the body has done leaves the open blocks there, to be written when it ends and when the loop is added
    have hyield := Session.keeps_yieldBody hready hkeeps (s.bodyScope scope) s.diagnostics.length
    have hstanding := ((hready.enterBody scope node plan.body).keeps hyield).standing
    have hleft := fun results => (hready.keeps
      (Session.keeps_leaveBody hready hyield (s.bodyScope scope) s.phase results)).standing
    simp only [enterBody_eq, bind, Except.bind, convertBody_eq hready hbody, leaveBody_eq hstanding]
    rw [Session.endLoop_eq]
    dsimp only
    cases hresults : (inner.yieldBody (s.bodyScope scope) s.diagnostics.length plan.body).1 with
    | none => rfl
    | some yielded =>
      refine finishLoop_eq (hleft (some yielded)) ?_ _
      rw [length_yieldBody hresults]
      exact carried_lt_outputs h

theorem convertNodes_eq {opset : Int} {nodes : List Node} {s s' : Session} (h : Session.Run opset scope nodes s s')
    (hready : s.Ready) : convertNodes s scope opset nodes = .ok s' := by
  -- on the run, which has one below it for the body of each loop
  induction h with
  | done =>
    rw [convertNodes]
    rfl
  | halted hc =>
    rw [convertNodes, if_pos hc]
    rfl
  | stopped hc ht =>
    rw [convertNodes, if_neg (by simp [hc]), if_pos ht]
    rfl
  | @node scope node rest s s' ha hl _ ih =>
    rw [convertNodes, if_neg (by simp [ha.1]), if_neg (by simp [ha.2])]
    simp only [hl, Bool.false_eq_true, if_false, convertNode_eq hready.ask, bind, Except.bind]
    exact ih (hready.evolves (Session.evolves_afterNode s scope opset node))
  | @refused scope node rest s s' e ha hl hp _ ih =>
    rw [convertNodes, if_neg (by simp [ha.1]), if_neg (by simp [ha.2])]
    simp only [hl, if_true, convertLoop_of_error hp, bind, Except.bind]
    exact ih (hready.ask.keeps (Session.keeps_settle ..))
  | @loop scope node rest s s' plan inner ha hl hp hbody _ ihb ih =>
    have hinside := hready.ask.enterLoop scope node plan
    have hinner := hbody.keeps hinside
    have hloop := convertLoop_of_ok hready.ask hp (ihb hinside) hinner
    rw [convertNodes, if_neg (by simp [ha.1]), if_neg (by simp [ha.2])]
    simp only [hl, if_true, hloop, bind, Except.bind]
    exact ih (hready.keeps (Session.keeps_afterLoop hready.ask hinner))

theorem convertLoop_eq (hready : s.Ready) (scope : ScopeId) (opset : Int) (node : Node) :
    convertLoop s scope opset node = .ok (s.convertLoop scope opset node) := by
  cases hplan : s.planLoop scope node with
  | error e => rw [convertLoop_of_error hplan, Session.convertLoop_of_error hplan]
  | ok plan =>
    have hrun := Session.run_convertNodes (s.enterLoop scope node plan) (s.bodyScope scope) opset plan.body.nodes
    have hinside := hready.enterLoop scope node plan
    have hbody := convertNodes_eq hrun hinside
    rw [convertLoop_of_ok hready hplan hbody (hrun.keeps hinside), Session.convertLoop_of_ok hplan]

/-! ## Converters at work -/

/-- What a strict converter answers at a node, and what it leaves of the builder. -/
def perform (twins : Twins) (node : Node) (operands : List (Option ValueId)) (opset : Int) (b : Builder) :
    Except Fault (Except ImportError (List ValueId) × Builder) := do
  let (answer, b') ← run twins ⟨node, operands, opset⟩ b
  return (answer.map Prod.fst, b')

theorem perform_eq {b : Builder} (h : b.Standing) (twins : Twins) (node : Node) (operands : List (Option ValueId))
    (opset : Int) :
    perform twins node operands opset b = .ok ((Converter.of twins.lower).perform node operands opset b) := by
  rw [perform, run_eq h]
  rfl

end Strict

/-- No converter of the library and no loop goes wrong. With every access strict, so that an index or a slice out of
range, an insertion beyond the end, the first element of an empty list or a division by zero is a fault of its own, a
converter at any node answers as it does without: with values, or with an error. So does a loop in any session, down to
the nodes of its body. The builder is one that any calls have led to. -/
theorem conversion_never_faults (name : String) (calls : List Builder.Call) :
    let b := ((Builder.new name).performAll calls).2
    (∀ opType c, Registry.builtin.find? opType = some c → ∃ twins, Strict.find? opType = some twins ∧
      ∀ node operands opset,
        Strict.perform twins node operands opset b = .ok (c.perform node operands opset b)) ∧
      ∀ (s : Session) scope opset node, s.registry = .builtin → s.builder = b →
        Strict.convertLoop s scope opset node = .ok (s.convertLoop scope opset node) := by
  intro b
  have hstanding : b.Standing := Builder.standing_performAll name calls
  constructor
  · intro opType c hc
    rw [Strict.builtin_find?] at hc
    obtain ⟨twins, htwins, rfl⟩ := Option.map_eq_some_iff.1 hc
    exact ⟨twins, htwins, Strict.perform_eq hstanding twins⟩
  · intro s scope opset node hregistry hbuilder
    exact Strict.convertLoop_eq ⟨hregistry, hbuilder ▸ hstanding⟩ scope opset node

/-- A function of one input, a number. -/
def scalarBuilder : Builder := ((Builder.new "f").createPlaceholder "x" (.ofSizes .f32 [])).2

def scalarConcat : Node := ⟨"", "Concat", "", ["x"], ["y"], [("axis", .int 0)]⟩

/-- A loop whose body has no output, not even for the condition. -/
def fruitlessLoop : Node :=
  ⟨"", "Loop", "", ["", ""], [], [("body", .graph ⟨"body", [], [⟨"i", none, none⟩, ⟨"c", none, none⟩], [], []⟩)]⟩

/-- A number has no axis to join along, and a body without outputs no condition to leave out. -/
theorem conversion_never_faults_scalar :
    (∃ twins, Strict.find? "Concat" = some twins ∧
      Strict.perform twins scalarConcat [some ⟨0⟩] 13 scalarBuilder =
        .ok (.error (.invalidAttribute "axis" "axis 0 out of range for rank 0"), scalarBuilder)) ∧
      let s := { Session.new "f" .builtin .standard with builder := scalarBuilder }
      Strict.convertLoop s .root 13 fruitlessLoop = .ok (.failed (.arity "Loop" "body outputs" 1 none 0), s) := by
  obtain ⟨hconverters, hloops⟩ := conversion_never_faults "f" [.placeholder "x" (.ofSizes .f32 [])]
  constructor
  · obtain ⟨twins, htwins, hperform⟩ := hconverters "Concat" (.of Operator.concat) rfl
    exact ⟨twins, htwins, hperform scalarConcat [some ⟨0⟩] 13⟩
  · intro s
    have hplan : s.planLoop .root fruitlessLoop = .error (.arity "Loop" "body outputs" 1 none 0) := rfl
    have hloop := hloops s .root 13 fruitlessLoop rfl rfl
    rwa [Session.convertLoop_of_error hplan] at hloop

end ModelImport
