import ModelImport.Proofs.ConverterEffect
import ModelImport.Proofs.DefinitionSites
import ModelImport.Proofs.SessionRun
import ModelImport.Proofs.StrictConverters
/-!
# Sessions without faults

A session in terms of strict accesses. The builder is strict, the arena of scopes is written slot by slot, and each node
goes to the strict converter of its operator. Besides the checks that converters make, all of this rests on the open
blocks being there (`Builder.Standing`). They are, whatever calls have been made to a builder, and so they are in the
builders that a session goes through.
-/

namespace ModelImport

/-- Whatever calls have been made to a builder, its open blocks are there. -/
theorem Builder.standing_performAll (name : String) (calls : List Call) :
    ((new name).performAll calls).2.Standing := by
  have hconsistent := ((consistent_new name).performAll calls).1
  refine ⟨hconsistent.stack_ne_nil, fun x hx => ?_⟩
  obtain ⟨blk, hblk⟩ := hconsistent.exist x (List.mem_reverse.2 hx)
  exact (Array.getElem?_eq_some_iff.1 hblk).1

namespace Session
variable {s s' : Session}

/-- A session with the converters of the library, whose open blocks are there. -/
structure Ready (s : Session) : Prop where
  registry : s.registry = .builtin
  standing : s.builder.Standing

theorem Ready.additive (h : s.Ready) : s.Additive := additive_of_builtin h.registry h.standing.nonempty

theorem Ready.evolves {scope : ScopeId} (h : s.Ready) (he : s.Evolves scope s') : s'.Ready :=
  ⟨he.registry.trans h.registry, h.standing.grows (he.builder h.additive)⟩

end Session

namespace Strict

/-! ## Scopes -/

/-- The array with the element at a place replaced. -/
def store {α : Type} (xs : Array α) (place : Nat) (x : α) : Except Fault (Array α) :=
  if place < xs.size then .ok (xs.setIfInBounds place x) else .error (.index place xs.size)

def createChild (t : ScopeTree) (parent : ScopeId) : Except Fault (ScopeId × ScopeTree) :=
  let record : ScopeRecord := ⟨t.nextSerial, if t.isLive parent then some parent.index else none, []⟩
  match t.slots.findIdx? Option.isNone with
  | some free => do
    let slots ← store t.slots free (some record)
    return (⟨free, t.nextSerial⟩, ⟨slots, t.nextSerial + 1⟩)
  | none => return (⟨t.slots.size, t.nextSerial⟩, ⟨t.slots.push (some record), t.nextSerial + 1⟩)

theorem createChild_eq (t : ScopeTree) (parent : ScopeId) : createChild t parent = .ok (t.createChild parent) := by
  unfold createChild ScopeTree.createChild
  dsimp only
  cases hfree : t.slots.findIdx? Option.isNone with
  | none => rfl
  | some free =>
    have hlt : free < t.slots.size := (Array.findIdx?_eq_some_iff_getElem.1 hfree).1
    simp only [store, if_pos hlt]
    rfl

/-- The slots with those at some places given up. -/
def clear (places : List Nat) (slots : Array (Option ScopeRecord)) : Except Fault (Array (Option ScopeRecord)) :=
  places.foldlM (fun slots place => store slots place none) slots

theorem clear_eq {places : List Nat} {slots : Array (Option ScopeRecord)} (h : ∀ place ∈ places, place < slots.size) :
    clear places slots = .ok (slots.mapIdx fun place slot => if place ∈ places then none else slot) := by
  induction places generalizing slots with
  | nil => exact congrArg Except.ok (Array.ext (by simp) fun i _ _ => by simp)
  | cons first places ih =>
    rw [List.forall_mem_cons] at h
    rw [clear, List.foldlM_cons, store, if_pos h.1]
    refine (ih (by simpa using h.2)).trans (congrArg Except.ok (Array.ext (by simp) fun i hi hi' => ?_))
    rw [Array.getElem_mapIdx, Array.getElem_mapIdx, Array.getElem_setIfInBounds (by simpa using hi')]
    by_cases hfirst : first = i
    · subst hfirst
      simp
    · simp [hfirst, Ne.symm hfirst]

def destroy (t : ScopeTree) (id : ScopeId) : Except Fault ScopeTree :=
  if id.index = 0 || !t.isLive id then return t
  else do
    let doomed := (List.range t.slots.size).filter (t.descends · id.index)
    let slots ← clear doomed t.slots
    return { t with slots := slots.popWhile Option.isNone }

theorem destroy_eq (t : ScopeTree) (id : ScopeId) : destroy t id = .ok (t.destroy id) := by
  unfold destroy ScopeTree.destroy
  split
  · rfl
  · have hclear : clear ((List.range t.slots.size).filter (t.descends · id.index)) t.slots =
        .ok (t.slots.mapIdx fun index slot => if t.descends index id.index then none else slot) := by
      rw [clear_eq fun place hplace => List.mem_range.1 (List.mem_filter.1 hplace).1]
      refine congrArg Except.ok (Array.ext (by simp) fun i hi _ => ?_)
      have hlt : i < t.slots.size := by simpa using hi
      simp [hlt]
    simp only [hclear]
    rfl

/-! ## Names -/

/-- What a computation comes to, when a failure is to be dealt with. -/
def attempt {α : Type} : StrictExcept α → Except Fault (Except ImportError α)
  | .ok a => .ok (.ok a)
  | .error (.failure e) => .ok (.error e)
  | .error (.fault f) => .error f

theorem attempt_eq {α : Type} {m : StrictExcept α} {n : Except ImportError α} (h : m.Agrees n) : attempt m = .ok n := by
  rw [show m = _ from h]
  cases n <;> rfl

section Session
variable {s : Session} {scope : ScopeId}

def bindFormal (s : Session) (scope : ScopeId) (formal : DeclaredValue) (expected : TensorType) :
    Except Fault Session :=
  match if formal.code.isSome then formal.type else .ok expected with
  | .error e => return s.record formal.name "<input>" e
  | .ok type => do
    let (v, builder) ← createArgument s.builder formal.name type
    return { s with builder }.bindName scope formal.name "<input>" v

theorem bindFormal_eq (h : s.builder.Standing) (formal : DeclaredValue) (expected : TensorType) :
    bindFormal s scope formal expected = .ok (s.bindFormal scope formal expected) := by
  unfold bindFormal Session.bindFormal
  cases (if formal.code.isSome then formal.type else .ok expected : Except ImportError TensorType) with
  | error e => rfl
  | ok type =>
    simp only [createArgument_eq h]
    rfl

def bindFormals (s : Session) (scope : ScopeId) (formals : List (DeclaredValue × TensorType)) : Except Fault Session :=
  formals.foldlM (fun s entry => bindFormal s scope entry.1 entry.2) s

theorem bindFormals_eq (h : s.Ready) (formals : List (DeclaredValue × TensorType)) :
    bindFormals s scope formals = .ok (s.bindFormals scope formals) := by
  induction formals generalizing s with
  | nil => rfl
  | cons formal formals ih =>
    have hformal : s.Evolves scope (s.bindFormal scope formal.1 formal.2) := Session.evolves_bindFormal ..
    rw [bindFormals, List.foldlM_cons, bindFormal_eq h.standing]
    exact ih (h.evolves hformal)

def bindInitializer (s : Session) (scope : ScopeId) (tensor : StoredTensor) : Except Fault Session := do
  match ← attempt (materialize tensor) with
  | .error e => return s.record tensor.name "<initializer>" e
  | .ok data =>
    let (v, builder) := s.builder.createConstant tensor.name data
    return { s with builder }.bindName scope tensor.name "<initializer>" v

theorem bindInitializer_eq (s : Session) (scope : ScopeId) (tensor : StoredTensor) :
    bindInitializer s scope tensor = .ok (s.bindInitializer scope tensor) := by
  rw [bindInitializer, attempt_eq (materialize_agrees tensor), Session.bindInitializer]
  cases tensor.materialize <;> rfl

def bindInitializers (s : Session) (scope : ScopeId) (tensors : List StoredTensor) : Except Fault Session :=
  tensors.foldlM (bindInitializer · scope) s

theorem bindInitializers_eq (s : Session) (scope : ScopeId) (tensors : List StoredTensor) :
    bindInitializers s scope tensors = .ok (s.bindInitializers scope tensors) :=
  foldlM_eq (fun s tensor _ => bindInitializer_eq s scope tensor) s

/-! ## Nodes -/

/-- Runs a strict converter at a node: its answer, and what it leaves of the builder. -/
def run (twins : Twins) (context : Context) (b : Builder) :
    Except Fault (Except ImportError (List ValueId × AttributeView) × Builder) := do
  let (answer, b') := twins.strict context (.ofBag context.node.attributes) b
  return (← attempt answer, b')

theorem run_eq {b : Builder} (h : b.Standing) (twins : Twins) (context : Context) :
    run twins context b = .ok ((Converter.of twins.lower).run context b) := by
  have hstrict := twins.agrees ⟨context, b.function⟩ (.ofBag context.node.attributes) b.stack h
  rw [run, hstrict]
  dsimp only
  rw [attempt_eq rfl]
  rfl

/-- The strict converter of a node and what it will see. -/
def dispatch (s : Session) (scope : ScopeId) (opset : Int) (node : Node) : Except ImportError (Twins × Context) := do
  let operands ← s.resolveInputs scope node
  if !isStandardDomain node.domain then .error (.unsupportedOperator s!"{node.domain}.{node.opType}")
  match find? node.opType with
  | some twins => return (twins, ⟨node, operands, opset⟩)
  | none => .error (.unsupportedOperator node.opType)

theorem dispatch_eq (h : s.registry = .builtin) (opset : Int) (node : Node) :
    s.dispatch scope opset node = (dispatch s scope opset node).map fun r => (.of r.1.lower, r.2) := by
  unfold Session.dispatch dispatch
  rw [h, Registry.lookup, builtin_find?]
  cases s.resolveInputs scope node with
  | error e => rfl
  | ok operands =>
    simp only [bind, Except.bind]
    split
    · rfl
    · cases find? node.opType <;> rfl

def convertNode (s : Session) (scope : ScopeId) (opset : Int) (node : Node) : Except Fault (NodeOutcome × Session) :=
  match dispatch s scope opset node with
  | .error e => return (.failed e, s)
  | .ok (twins, context) => do
    match ← run twins context s.builder with
    | (.error e, builder) => return (.failed e, { s with builder })
    | (.ok (values, view), builder) => return { s with builder }.conclude scope node values view

theorem convertNode_eq (h : s.Ready) (opset : Int) (node : Node) :
    convertNode s scope opset node = .ok (s.convertNode scope opset node) := by
  rw [convertNode, Session.convertNode, dispatch_eq h.registry]
  cases dispatch s scope opset node with
  | error e => rfl
  | ok r =>
    obtain ⟨twins, context⟩ := r
    have hcancels : (Converter.of twins.lower).cancels = false := rfl
    simp only [Except.map, run_eq h.standing, hcancels, Bool.false_eq_true, if_false, bind, Except.bind]
    rcases (Converter.of twins.lower).run context s.builder with ⟨_ | ⟨values, view⟩, b⟩ <;> rfl

end Session

end Strict

end ModelImport
