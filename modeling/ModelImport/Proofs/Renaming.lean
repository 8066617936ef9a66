import Mathlib.Logic.Equiv.Basic
import ModelImport.Proofs.MappedScopes
import ModelImport.Session.Graph
/-!
# Renaming values

A renaming gives every value of a model another name, in one way throughout. Here it is carried through everything that
has names of values: models, the attributes that hold graphs, and scopes. In scopes, what stands under the new name is
what stood under the old one (`ScopeTree.find?_rename`). A function keeps names for the reader only; `anonymous` takes
them out, and a builder does the same to what is left whatever the names are.
-/

namespace ModelImport

/-- An injective map on names that leaves the empty name, which stands for an omitted value, as it is. -/
structure Renaming where
  apply : String → String
  injective : Function.Injective apply
  empty : apply "" = ""

instance : CoeFun Renaming fun _ => String → String := ⟨Renaming.apply⟩

namespace Renaming
variable (r : Renaming)

theorem beq (a b : String) : (r a == r b) = (a == b) := by
  rw [Bool.eq_iff_iff, beq_iff_eq, beq_iff_eq]
  exact r.injective.eq_iff

theorem eq_empty {a : String} : r a = "" ↔ a = "" := by
  constructor
  · intro h
    exact r.injective (h.trans r.empty.symm)
  · rintro rfl
    exact r.empty

/-- The renaming that exchanges two names. -/
def swap (a b : String) (ha : a ≠ "") (hb : b ≠ "") : Renaming where
  apply := Equiv.swap a b
  injective := (Equiv.swap a b).injective
  empty := Equiv.swap_apply_of_ne_of_ne ha.symm hb.symm

end Renaming

/-! ## Models -/

def DeclaredValue.rename (r : Renaming) (d : DeclaredValue) : DeclaredValue := { d with name := r d.name }

def StoredTensor.rename (r : Renaming) (t : StoredTensor) : StoredTensor := { t with name := r t.name }

mutual

/-- Renames the values of the graphs in an attribute. The name of a tensor in an attribute is not that of a value. -/
def AttributeValue.rename (r : Renaming) (v : AttributeValue) : AttributeValue :=
  match v with
  | .graph g => .graph (GraphOf.rename r g)
  | .graphs gs => .graphs (gs.map fun g => GraphOf.rename r g)
  | v => v
termination_by sizeOf v

def NodeOf.rename (r : Renaming) (node : Node) : Node :=
  { node with
    inputs := node.inputs.map r
    outputs := node.outputs.map r
    attributes := node.attributes.map fun entry => (entry.1, entry.2.rename r) }
termination_by sizeOf node
decreasing_by
  have hlt := List.sizeOf_lt_of_mem (show entry ∈ node.attributes by assumption)
  cases node
  cases entry
  simp only [NodeOf.mk.sizeOf_spec, Prod.mk.sizeOf_spec] at *
  omega

def GraphOf.rename (r : Renaming) (g : Graph) : Graph :=
  { g with
    nodes := g.nodes.map fun node => node.rename r
    inputs := g.inputs.map (DeclaredValue.rename r)
    outputs := g.outputs.map (DeclaredValue.rename r)
    initializers := g.initializers.map (StoredTensor.rename r) }
termination_by sizeOf g
decreasing_by
  have hlt := List.sizeOf_lt_of_mem (show node ∈ g.nodes by assumption)
  cases g
  simp only [GraphOf.mk.sizeOf_spec] at *
  omega

end

def Model.rename (r : Renaming) (m : Model) : Model := { m with graph := m.graph.rename r }

/-- Sizes for graph inputs go by their names. -/
def Options.rename (r : Renaming) (o : Options) : Options :=
  { o with inputShapes := o.inputShapes.map fun entry => (r entry.1, entry.2) }

def AttributeBag.rename (r : Renaming) (bag : AttributeBag) : AttributeBag :=
  bag.map fun entry => (entry.1, entry.2.rename r)

section Model
variable (r : Renaming)

@[simp] theorem DeclaredValue.name_rename (d : DeclaredValue) : (d.rename r).name = r d.name := rfl

@[simp] theorem DeclaredValue.code_rename (d : DeclaredValue) : (d.rename r).code = d.code := rfl

@[simp] theorem DeclaredValue.type_rename (d : DeclaredValue) : (d.rename r).type = d.type := rfl

@[simp] theorem StoredTensor.name_rename (t : StoredTensor) : (t.rename r).name = r t.name := rfl

theorem NodeOf.rename_eq (node : Node) : node.rename r =
    { node with
      inputs := node.inputs.map r
      outputs := node.outputs.map r
      attributes := AttributeBag.rename r node.attributes } := by
  rw [NodeOf.rename]
  rfl

theorem GraphOf.rename_eq (g : Graph) : g.rename r =
    { g with
      nodes := g.nodes.map (NodeOf.rename r)
      inputs := g.inputs.map (DeclaredValue.rename r)
      outputs := g.outputs.map (DeclaredValue.rename r)
      initializers := g.initializers.map (StoredTensor.rename r) } := by
  rw [GraphOf.rename]

@[simp] theorem NodeOf.opType_rename (node : Node) : (node.rename r).opType = node.opType := by rw [rename_eq]

@[simp] theorem NodeOf.domain_rename (node : Node) : (node.rename r).domain = node.domain := by rw [rename_eq]

@[simp] theorem NodeOf.inputs_rename (node : Node) : (node.rename r).inputs = node.inputs.map r := by rw [rename_eq]

@[simp] theorem NodeOf.outputs_rename (node : Node) : (node.rename r).outputs = node.outputs.map r := by rw [rename_eq]

@[simp] theorem NodeOf.attributes_rename (node : Node) :
    (node.rename r).attributes = AttributeBag.rename r node.attributes := by rw [rename_eq]

@[simp] theorem NodeOf.isLoop_rename (node : Node) : (node.rename r).isLoop = node.isLoop := by
  simp [Node.isLoop]

@[simp] theorem GraphOf.nodes_rename (g : Graph) : (g.rename r).nodes = g.nodes.map (NodeOf.rename r) := by
  rw [rename_eq]

@[simp] theorem GraphOf.inputs_rename (g : Graph) : (g.rename r).inputs = g.inputs.map (DeclaredValue.rename r) := by
  rw [rename_eq]

@[simp] theorem GraphOf.outputs_rename (g : Graph) : (g.rename r).outputs = g.outputs.map (DeclaredValue.rename r) := by
  rw [rename_eq]

@[simp] theorem GraphOf.initializers_rename (g : Graph) :
    (g.rename r).initializers = g.initializers.map (StoredTensor.rename r) := by rw [rename_eq]

theorem Options.pin_rename (o : Options) (name : String) (type : TensorType) :
    (o.rename r).pin (r name) type = o.pin name type := by
  simp only [pin, Options.rename, List.find?_map, Function.comp_def, r.beq]
  cases o.inputShapes.find? (·.1 == name) <;> rfl

theorem AttributeBag.find?_rename (bag : AttributeBag) (key : String) :
    find? (bag.rename r) key = (find? bag key).map (AttributeValue.rename r) := by
  simp only [find?, rename, List.find?_map, Function.comp_def, Option.map_map]

theorem AttributeValue.kind_rename (v : AttributeValue) : (v.rename r).kind = v.kind := by
  cases v <;> simp [rename, kind]

/-! Failures may be worded otherwise after a renaming, but they are of the same kind. -/

/-- Results that are the same up to the wording of failures. -/
def SameUpToWording {α : Type} (x y : Except ImportError α) : Prop :=
  x.mapError ImportError.kind = y.mapError ImportError.kind

theorem SameUpToWording.cases {α : Type} {x y : Except ImportError α} (h : SameUpToWording x y) :
    (∃ a, x = .ok a ∧ y = .ok a) ∨ ∃ e e', x = .error e ∧ y = .error e' ∧ e.kind = e'.kind := by
  cases x with
  | ok a =>
    cases y with
    | ok b => exact .inl ⟨a, rfl, congrArg Except.ok (Except.ok.inj h).symm⟩
    | error e => cases h
  | error e =>
    cases y with
    | ok b => cases h
    | error e' => exact .inr ⟨e, e', rfl, rfl, Except.error.inj h⟩

theorem SameUpToWording.bind {α β : Type} {x y : Except ImportError α} {f g : α → Except ImportError β}
    (h : SameUpToWording x y) (hf : ∀ a, SameUpToWording (f a) (g a)) : SameUpToWording (x >>= f) (y >>= g) := by
  rcases h.cases with ⟨a, rfl, rfl⟩ | ⟨e, e', rfl, rfl, hkind⟩
  · exact hf a
  · exact congrArg Except.error hkind

theorem SameUpToWording.mapM {α : Type} {f f' : String → Except ImportError α} {g : String → String}
    (h : ∀ name, SameUpToWording (f' (g name)) (f name)) (names : List String) :
    SameUpToWording ((names.map g).mapM f') (names.mapM f) := by
  induction names with
  | nil => rfl
  | cons name names ih =>
    rw [List.map_cons, List.mapM_cons, List.mapM_cons]
    exact (h name).bind fun value => ih.bind fun values => rfl

theorem Payload.read_name (p : Payload) (name name' : String) (e : ElementType) (count : Nat) :
    SameUpToWording (p.read name e count) (p.read name' e count) := by
  unfold read
  dsimp only
  split
  · split <;> rfl
  · rfl
  · rfl
  · split <;> rfl
  · split
    · rfl
    · split <;> rfl

theorem StoredTensor.materialize_rename (t : StoredTensor) :
    SameUpToWording (t.rename r).materialize t.materialize := by
  unfold materialize
  refine SameUpToWording.bind rfl fun e => ?_
  simp only [StoredTensor.rename]
  split
  · rfl
  · refine SameUpToWording.bind (Payload.read_name ..) fun values => ?_
    split <;> rfl

end Model

/-- The renaming that changes nothing. -/
def Renaming.refl : Renaming := ⟨id, Function.injective_id, rfl⟩

mutual

theorem AttributeValue.rename_refl (v : AttributeValue) : v.rename .refl = v := by
  cases v with
  | graph g => rw [AttributeValue.rename, GraphOf.rename_refl g]
  | graphs gs =>
    rw [AttributeValue.rename]
    exact congrArg _ ((List.map_congr_left fun g hg => GraphOf.rename_refl g).trans (List.map_id _))
  | _ => rw [AttributeValue.rename] <;> simp
termination_by sizeOf v
decreasing_by
  · simp
  · have := List.sizeOf_lt_of_mem hg
    simp
    omega

theorem NodeOf.rename_refl (node : Node) : node.rename .refl = node := by
  have hattributes : AttributeBag.rename .refl node.attributes = node.attributes :=
    (List.map_congr_left fun entry hentry => by rw [AttributeValue.rename_refl entry.2]; rfl).trans (List.map_id _)
  rw [NodeOf.rename_eq, hattributes]
  simp [Renaming.refl]
termination_by sizeOf node
decreasing_by
  have hlt := List.sizeOf_lt_of_mem hentry
  cases node
  cases entry
  simp only [NodeOf.mk.sizeOf_spec, Prod.mk.sizeOf_spec] at *
  omega

theorem GraphOf.rename_refl (g : Graph) : g.rename .refl = g := by
  have hnodes : g.nodes.map (NodeOf.rename .refl) = g.nodes :=
    (List.map_congr_left fun node hnode => NodeOf.rename_refl node).trans (List.map_id _)
  have hdeclared (values : List DeclaredValue) : values.map (DeclaredValue.rename .refl) = values := List.map_id _
  have hstored : g.initializers.map (StoredTensor.rename .refl) = g.initializers := List.map_id _
  rw [GraphOf.rename_eq, hnodes, hdeclared, hdeclared, hstored]
termination_by sizeOf g
decreasing_by
  have hlt := List.sizeOf_lt_of_mem hnode
  cases g
  simp only [GraphOf.mk.sizeOf_spec] at *
  omega

end

theorem AttributeBag.rename_refl (bag : AttributeBag) : AttributeBag.rename .refl bag = bag := by
  simp [AttributeBag.rename, AttributeValue.rename_refl]

/-! ## Scopes -/

def ScopeRecord.rename (r : Renaming) (s : ScopeRecord) : ScopeRecord :=
  { s with bindings := s.bindings.map fun binding => (r binding.1, binding.2) }

def ScopeTree.rename (r : Renaming) (t : ScopeTree) : ScopeTree :=
  { t with slots := t.slots.map (Option.map (ScopeRecord.rename r)) }

theorem ScopeRecord.find?_rename (r : Renaming) (s : ScopeRecord) (name : String) :
    (s.rename r).find? (r name) = s.find? name := by
  simp only [find?, rename, List.find?_map, Function.comp_def, r.beq, Option.map_map]

theorem ScopeRecord.keepsPlace_rename (r : Renaming) : KeepsPlace (ScopeRecord.rename r) :=
  ⟨fun _ => rfl, fun _ => rfl, fun _ _ => rfl⟩

namespace ScopeTree
variable (r : Renaming) (t : ScopeTree)

/-- A name stands for what it stood for before the renaming. -/
theorem find?_rename (id : ScopeId) (name : String) : (t.rename r).find? id (r name) = t.find? id name :=
  t.find?_mapRecords (ScopeRecord.keepsPlace_rename r) (fun s => s.find?_rename r name) id

theorem contains_rename (id : ScopeId) (name : String) : (t.rename r).contains id (r name) = t.contains id name := by
  rw [contains, contains, find?_rename]

theorem insert_rename (id : ScopeId) (name : String) (v : ValueId) :
    (∃ t', t.insert id name v = .ok t' ∧ (t.rename r).insert id (r name) v = .ok (t'.rename r)) ∨
      ∃ e e', t.insert id name v = .error e ∧ (t.rename r).insert id (r name) v = .error e' ∧ e'.kind = e.kind := by
  rcases t.insert_mapRecords (ScopeRecord.keepsPlace_rename r) (fun s => s.find?_rename r name)
    (v := v) (fun _ => rfl) id with hok | ⟨hs, ht⟩ | ⟨hs, ht⟩
  · exact .inl hok
  · exact .inr ⟨_, _, hs, ht, rfl⟩
  · exact .inr ⟨_, _, hs, ht, rfl⟩

theorem createChild_rename (parent : ScopeId) :
    (t.rename r).createChild parent = ((t.createChild parent).1, (t.createChild parent).2.rename r) :=
  t.createChild_mapRecords (ScopeRecord.keepsPlace_rename r) parent

theorem destroy_rename (id : ScopeId) : (t.rename r).destroy id = (t.destroy id).rename r :=
  t.destroy_mapRecords (ScopeRecord.keepsPlace_rename r) id

/-- Names are bound one after another as before, and the first that cannot be bound is the same. -/
theorem insertAll_rename (id : ScopeId) (pairs : List (String × ValueId)) :
    ∃ e, (t.rename r).insertAll id (pairs.map fun x => (r x.1, x.2)) = (e, (t.insertAll id pairs).2.rename r) ∧
      e.map ImportError.kind = (t.insertAll id pairs).1.map ImportError.kind := by
  induction pairs generalizing t with
  | nil => exact ⟨none, rfl, rfl⟩
  | cons pair pairs ih =>
    rw [List.map_cons, insertAll, insertAll]
    by_cases hname : pair.1 = ""
    · rw [if_pos hname, if_pos (r.eq_empty.2 hname)]
      exact ih t
    · rw [if_neg hname, if_neg (mt r.eq_empty.1 hname)]
      rcases insert_rename r t id pair.1 pair.2 with ⟨t', ht, hr⟩ | ⟨e, e', ht, hr, hkind⟩
      · rw [ht, hr]
        exact ih t'
      · rw [ht, hr]
        exact ⟨some e', rfl, congrArg some hkind⟩

end ScopeTree

/-! ## Functions without names -/

def Value.anonymous (v : Value) : Value := { v with name := "" }

def Instruction.anonymous (i : Instruction) : Instruction := { i with name := "" }

def Block.anonymous (b : Block) : Block :=
  { b with name := "", instructions := b.instructions.map Instruction.anonymous }

/-- The function with every name of a value, an instruction or a block taken out. -/
def Function.anonymous (f : Function) : Function :=
  { f with values := f.values.map Value.anonymous, blocks := f.blocks.map Block.anonymous }

def OpSpec.anonymous (op : OpSpec) : OpSpec := { op with name := "", resultNames := [] }

def Builder.anonymous (b : Builder) : Builder := { b with function := b.function.anonymous }

namespace Function

theorem type?_anonymous (f : Function) (v : ValueId) : f.anonymous.type? v = f.type? v := by
  simp only [type?, value?, anonymous, Array.getElem?_map, Option.map_map, Function.comp_def]
  rfl

end Function

namespace Builder
variable (b : Builder)

theorem nextValue_anonymous : b.anonymous.nextValue = b.nextValue := by
  simp [nextValue, anonymous, Function.anonymous]

theorem current_anonymous : b.anonymous.current = b.current := rfl

theorem pushValue_anonymous (v : Value) : b.anonymous.pushValue v.anonymous = (b.pushValue v).anonymous := by
  simp [pushValue, anonymous, Function.anonymous]

theorem modifyBlock_anonymous (id : BlockId) {f g : Block → Block} (h : ∀ blk, g blk.anonymous = (f blk).anonymous) :
    b.anonymous.modifyBlock id g = (b.modifyBlock id f).anonymous := by
  have hblocks : (b.function.blocks.map Block.anonymous).modify id.index g =
      (b.function.blocks.modify id.index f).map Block.anonymous := by
    apply Array.ext_getElem?
    intro j
    simp only [Array.getElem?_modify, Array.getElem?_map]
    split
    · simp only [Option.map_map, Function.comp_def, h]
    · rfl
  simp [modifyBlock, anonymous, Function.anonymous, hblocks]

theorem createPlaceholder_anonymous (name : String) (type : TensorType) :
    b.anonymous.createPlaceholder "" type =
      ((b.createPlaceholder name type).1, (b.createPlaceholder name type).2.anonymous) := by
  simp [createPlaceholder, nextValue, pushValue, anonymous, Function.anonymous, Value.anonymous]

theorem createConstant_anonymous (name : String) (data : TensorData) :
    b.anonymous.createConstant "" data =
      ((b.createConstant name data).1, (b.createConstant name data).2.anonymous) := by
  simp [createConstant, nextValue, pushValue, anonymous, Function.anonymous, Value.anonymous]

theorem createArgument_anonymous (name : String) (type : TensorType) :
    b.anonymous.createArgument "" type =
      ((b.createArgument name type).1, (b.createArgument name type).2.anonymous) := by
  have hpush := b.pushValue_anonymous ⟨name, type, .argument b.current⟩
  refine Prod.ext b.nextValue_anonymous ?_
  change (b.anonymous.pushValue (Value.anonymous ⟨name, type, .argument b.current⟩)).modifyBlock b.current _ = _
  rw [hpush, nextValue_anonymous]
  exact modifyBlock_anonymous _ _ fun _ => rfl

theorem openBlock_anonymous (name : String) :
    b.anonymous.openBlock "" = ((b.openBlock name).1, (b.openBlock name).2.anonymous) := by
  simp [openBlock, anonymous, Function.anonymous, Block.new, Block.anonymous]

theorem closeBlock_anonymous : b.anonymous.closeBlock = (b.closeBlock.1, b.closeBlock.2.anonymous) := by
  by_cases hlength : b.stack.length > 1
  · simp [closeBlock, anonymous, current, hlength]
  · simp [closeBlock, anonymous, current, hlength]

theorem setResults_anonymous (results : List ValueId) :
    b.anonymous.setResults results = (b.setResults results).anonymous :=
  b.modifyBlock_anonymous b.current fun _ => rfl

theorem pushResults_anonymous (block : BlockId) (index : Nat) (names : List String) (types : List TensorType) :
    pushResults block index [] types b.anonymous =
      ((pushResults block index names types b).1, (pushResults block index names types b).2.anonymous) := by
  induction types generalizing b names with
  | nil => simp [pushResults]
  | cons type types ih =>
    have hrest := ih (b.pushValue ⟨names.head?.getD "", type, .instruction block index⟩) names.tail
    rw [← pushValue_anonymous] at hrest
    obtain ⟨hvalues, hbuilder⟩ := Prod.ext_iff.1 hrest
    simp only [pushResults, nextValue_anonymous]
    exact Prod.ext (congrArg (_ :: ·) hvalues) hbuilder

theorem append_anonymous (op : OpSpec) :
    b.anonymous.append op.anonymous = ((b.append op).1, (b.append op).2.anonymous) := by
  have hindex : (b.anonymous.function.block? b.current).map (fun blk => blk.instructions.size) =
      (b.function.block? b.current).map fun blk => blk.instructions.size := by
    simp [Function.block?, anonymous, Function.anonymous, Block.anonymous, Function.comp_def]
  have hresults := b.pushResults_anonymous b.current
    (((b.function.block? b.current).map fun blk => blk.instructions.size).getD 0) op.resultNames op.resultTypes
  simp only [append, current_anonymous, hindex]
  rw [show op.anonymous.resultNames = [] from rfl, show op.anonymous.resultTypes = op.resultTypes from rfl, hresults]
  refine Prod.ext rfl (modifyBlock_anonymous _ _ fun blk => ?_)
  simp [Block.anonymous, Instruction.anonymous, OpSpec.anonymous]

/-! Two builders that differ in names only go on doing so. -/

def Alike (b b' : Builder) : Prop := b'.anonymous = b.anonymous

section Alike
variable {b b' : Builder} (h : b.Alike b')
include h

/-- A step that does the same to a builder without names does so to both. -/
theorem Alike.step {α : Type} (step : Builder → α × Builder) {x x' : α × Builder}
    (hx : step b.anonymous = (x.1, x.2.anonymous)) (hx' : step b'.anonymous = (x'.1, x'.2.anonymous)) :
    x'.1 = x.1 ∧ x.2.Alike x'.2 := by
  rw [show b'.anonymous = b.anonymous from h, hx] at hx'
  obtain ⟨hvalue, hbuilder⟩ := Prod.ext_iff.1 hx'
  exact ⟨hvalue.symm, hbuilder.symm⟩

theorem Alike.createPlaceholder (name name' : String) (type : TensorType) :
    (b'.createPlaceholder name' type).1 = (b.createPlaceholder name type).1 ∧
      (b.createPlaceholder name type).2.Alike (b'.createPlaceholder name' type).2 :=
  h.step (Builder.createPlaceholder · "" type) (b.createPlaceholder_anonymous name type)
    (b'.createPlaceholder_anonymous name' type)

theorem Alike.createConstant (name name' : String) (data : TensorData) :
    (b'.createConstant name' data).1 = (b.createConstant name data).1 ∧
      (b.createConstant name data).2.Alike (b'.createConstant name' data).2 :=
  h.step (Builder.createConstant · "" data) (b.createConstant_anonymous name data)
    (b'.createConstant_anonymous name' data)

theorem Alike.createArgument (name name' : String) (type : TensorType) :
    (b'.createArgument name' type).1 = (b.createArgument name type).1 ∧
      (b.createArgument name type).2.Alike (b'.createArgument name' type).2 :=
  h.step (Builder.createArgument · "" type) (b.createArgument_anonymous name type)
    (b'.createArgument_anonymous name' type)

theorem Alike.openBlock (name name' : String) :
    (b'.openBlock name').1 = (b.openBlock name).1 ∧ (b.openBlock name).2.Alike (b'.openBlock name').2 :=
  h.step (Builder.openBlock · "") (b.openBlock_anonymous name) (b'.openBlock_anonymous name')

theorem Alike.append {op op' : OpSpec} (hop : op'.anonymous = op.anonymous) :
    (b'.append op').1 = (b.append op).1 ∧ (b.append op).2.Alike (b'.append op').2 := by
  have hop' := b'.append_anonymous op'
  rw [hop] at hop'
  exact h.step (Builder.append · op.anonymous) (b.append_anonymous op) hop'

theorem Alike.setResults (results : List ValueId) : (b.setResults results).Alike (b'.setResults results) := by
  rw [Alike, ← setResults_anonymous, ← setResults_anonymous, show b'.anonymous = b.anonymous from h]

theorem Alike.closeBlock : b.closeBlock.2.Alike b'.closeBlock.2 :=
  (h.step Builder.closeBlock b.closeBlock_anonymous b'.closeBlock_anonymous).2

theorem Alike.type? (v : ValueId) : b'.function.type? v = b.function.type? v := by
  have hanonymous := congrArg (fun c => c.function.type? v) (show b'.anonymous = b.anonymous from h)
  exact (b'.function.type?_anonymous v).symm.trans (hanonymous.trans (b.function.type?_anonymous v))

theorem Alike.constant? (v : ValueId) : b'.function.constant? v = b.function.constant? v := by
  exact congrArg (fun c => c.function.constant? v) (show b'.anonymous = b.anonymous from h)

end Alike

end Builder

end ModelImport
