import ModelImport.Proofs.MappedScopes
import ModelImport.Proofs.ScopeArena
import ModelImport.Session.Loop
/-!
# Reading one value for another

`redirect x y` has everything that reads the value `y` read `x` instead: the inputs of nodes and, since what a loop
body yields is read from it, the outputs of loop bodies, at every depth. What is bound to which name stays as it is.
When nothing reads `y` any more its binding is of no use, and `ScopeTree.forget` takes it out of the scopes: no other
name is found or bound differently.
-/

namespace ModelImport

/-! ## Models -/

/-- The name to be read instead of a name. -/
def redirectName (x y name : String) : String := if name = y then x else name

def DeclaredValue.redirect (x y : String) (d : DeclaredValue) : DeclaredValue :=
  { d with name := redirectName x y d.name }

mutual

def AttributeValue.redirect (x y : String) (v : AttributeValue) : AttributeValue :=
  match v with
  | .graph g => .graph (GraphOf.redirect x y g)
  | v => v
termination_by sizeOf v

/-- Only a loop has a body, and only there are the nodes of a graph in an attribute ever converted. -/
def NodeOf.redirect (x y : String) (node : Node) : Node :=
  { node with
    inputs := node.inputs.map (redirectName x y)
    attributes :=
      if node.isLoop then
        node.attributes.map fun entry => (entry.1, if entry.1 = "body" then entry.2.redirect x y else entry.2)
      else node.attributes }
termination_by sizeOf node
decreasing_by
  have hlt := List.sizeOf_lt_of_mem (show entry ∈ node.attributes by assumption)
  cases node
  cases entry
  simp only [NodeOf.mk.sizeOf_spec, Prod.mk.sizeOf_spec] at *
  omega

def GraphOf.redirect (x y : String) (g : Graph) : Graph :=
  { g with
    nodes := g.nodes.map fun node => node.redirect x y
    outputs := g.outputs.map (DeclaredValue.redirect x y) }
termination_by sizeOf g
decreasing_by
  have hlt := List.sizeOf_lt_of_mem (show node ∈ g.nodes by assumption)
  cases g
  simp only [GraphOf.mk.sizeOf_spec] at *
  omega

end

/-- A node binds a name: as an output, or in the body of a loop as an input, an initializer or by a node of the body. -/
inductive NodeOf.Binds (name : String) : Node → Prop
  | output {node} : name ∈ node.outputs → Binds name node
  | formal {node body formal} : node.isLoop = true → loopBody node = .ok body → formal ∈ body.inputs →
      formal.name = name → Binds name node
  | initializer {node body tensor} : node.isLoop = true → loopBody node = .ok body → tensor ∈ body.initializers →
      tensor.name = name → Binds name node
  | inner {node body inner} : node.isLoop = true → loopBody node = .ok body → inner ∈ body.nodes →
      Binds name inner → Binds name node

theorem NodeOf.binds_of_node {node : Node} (h : node.isLoop = false) (name : String) :
    node.Binds name ↔ name ∈ node.outputs := by
  constructor
  · intro hbinds
    cases hbinds with
    | output hmem => exact hmem
    | formal hl | initializer hl | inner hl => cases h.symm.trans hl
  · exact .output

theorem NodeOf.binds_of_loop {node : Node} (h : node.isLoop = true) {body : Graph} (hbody : loopBody node = .ok body)
    (name : String) :
    node.Binds name ↔ name ∈ node.outputs ∨ (∃ formal ∈ body.inputs, formal.name = name) ∨
      (∃ tensor ∈ body.initializers, tensor.name = name) ∨ ∃ inner ∈ body.nodes, inner.Binds name := by
  have heq {other : Graph} (hother : loopBody node = .ok other) : other = body :=
    Except.ok.inj (hother.symm.trans hbody)
  constructor
  · intro hbinds
    cases hbinds with
    | output hmem => exact .inl hmem
    | formal _ hother hmem he => exact .inr (.inl ⟨_, heq hother ▸ hmem, he⟩)
    | initializer _ hother hmem he => exact .inr (.inr (.inl ⟨_, heq hother ▸ hmem, he⟩))
    | inner _ hother hmem hinner => exact .inr (.inr (.inr ⟨_, heq hother ▸ hmem, hinner⟩))
  · rintro (hmem | ⟨formal, hmem, he⟩ | ⟨tensor, hmem, he⟩ | ⟨inner, hmem, hinner⟩)
    · exact .output hmem
    · exact .formal h hbody hmem he
    · exact .initializer h hbody hmem he
    · exact .inner h hbody hmem hinner

section Model
variable (x y : String)

theorem NodeOf.redirect_eq (node : Node) : node.redirect x y =
    { node with
      inputs := node.inputs.map (redirectName x y)
      attributes :=
        if node.isLoop then
          node.attributes.map fun entry => (entry.1, if entry.1 = "body" then entry.2.redirect x y else entry.2)
        else node.attributes } := by
  rw [NodeOf.redirect]

theorem GraphOf.redirect_eq (g : Graph) : g.redirect x y =
    { g with
      nodes := g.nodes.map (NodeOf.redirect x y)
      outputs := g.outputs.map (DeclaredValue.redirect x y) } := by
  rw [GraphOf.redirect]

@[simp] theorem NodeOf.opType_redirect (node : Node) : (node.redirect x y).opType = node.opType := by rw [redirect_eq]

@[simp] theorem NodeOf.domain_redirect (node : Node) : (node.redirect x y).domain = node.domain := by rw [redirect_eq]

@[simp] theorem NodeOf.inputs_redirect (node : Node) :
    (node.redirect x y).inputs = node.inputs.map (redirectName x y) := by rw [redirect_eq]

@[simp] theorem NodeOf.outputs_redirect (node : Node) : (node.redirect x y).outputs = node.outputs := by
  rw [redirect_eq]

@[simp] theorem NodeOf.displayName_redirect (node : Node) : (node.redirect x y).displayName = node.displayName := by
  rw [redirect_eq, displayName, displayName]

@[simp] theorem NodeOf.isLoop_redirect (node : Node) : (node.redirect x y).isLoop = node.isLoop := by
  simp [Node.isLoop]

@[simp] theorem GraphOf.name_redirect (g : Graph) : (g.redirect x y).name = g.name := by rw [redirect_eq]

@[simp] theorem GraphOf.nodes_redirect (g : Graph) : (g.redirect x y).nodes = g.nodes.map (NodeOf.redirect x y) := by
  rw [redirect_eq]

@[simp] theorem GraphOf.inputs_redirect (g : Graph) : (g.redirect x y).inputs = g.inputs := by rw [redirect_eq]

@[simp] theorem GraphOf.outputs_redirect (g : Graph) :
    (g.redirect x y).outputs = g.outputs.map (DeclaredValue.redirect x y) := by rw [redirect_eq]

@[simp] theorem GraphOf.initializers_redirect (g : Graph) : (g.redirect x y).initializers = g.initializers := by
  rw [redirect_eq]

/-- Away from loops, only the names of the inputs change. -/
theorem NodeOf.redirect_of_node {node : Node} (h : node.isLoop = false) :
    node.redirect x y = { node with inputs := node.inputs.map (redirectName x y) } := by
  rw [redirect_eq, if_neg (by simp [h])]

theorem AttributeValue.as?_graph_redirect (v : AttributeValue) :
    (v.redirect x y).as? .graph = (v.as? .graph).map (GraphOf.redirect x y) := by
  cases v <;> simp [redirect, as?]

theorem AttributeValue.kind_redirect (v : AttributeValue) : (v.redirect x y).kind = v.kind := by
  cases v <;> simp [redirect, kind]

theorem loopBody_redirect {node : Node} (h : node.isLoop = true) :
    loopBody (node.redirect x y) = (loopBody node).map (GraphOf.redirect x y) := by
  have hfind : AttributeBag.find? (node.redirect x y).attributes "body" =
      (AttributeBag.find? node.attributes "body").map (AttributeValue.redirect x y) := by
    rw [NodeOf.redirect_eq, if_pos h, AttributeBag.find?, AttributeBag.find?, List.find?_map]
    simp only [Function.comp_def, Option.map_map]
    cases hentry : node.attributes.find? (·.1 == "body") with
    | none => rfl
    | some entry =>
      have hkey : entry.1 = "body" := by simpa using List.find?_some hentry
      simp [hkey]
  simp only [loopBody, AttributeView.required, AttributeView.value, AttributeView.ofBag, hfind]
  cases AttributeBag.find? node.attributes "body" with
  | none => rfl
  | some stored =>
    simp only [Option.map_some, AttributeValue.as?_graph_redirect, AttributeValue.kind_redirect]
    cases stored.as? .graph <;> rfl

def LoopPlan.redirect (p : LoopPlan) : LoopPlan := { p with body := p.body.redirect x y }

theorem Session.checkLoop_redirect (node : Node) (body : Graph) (carried : Nat) :
    checkLoop (node.redirect x y) (body.redirect x y) carried = checkLoop node body carried := by
  simp [checkLoop]

end Model

/-! ## Scopes -/

/-- Takes a name out of the scope with the given serial number. -/
def ScopeRecord.forget (serial : Nat) (name : String) (r : ScopeRecord) : ScopeRecord :=
  if r.serial = serial then { r with bindings := r.bindings.filter (·.1 ≠ name) } else r

def ScopeTree.forget (serial : Nat) (name : String) (t : ScopeTree) : ScopeTree :=
  t.mapRecords (ScopeRecord.forget serial name)

namespace ScopeRecord
variable {serial : Nat} {y name : String}

theorem keepsPlace_forget : KeepsPlace (forget serial y) where
  serial r := by unfold forget; split <;> rfl
  parent r := by unfold forget; split <;> rfl
  empty s parent := by simp [forget]

theorem find?_forget (hne : name ≠ y) (r : ScopeRecord) : (r.forget serial y).find? name = r.find? name := by
  unfold forget
  split
  · simp only [find?, List.find?_filter]
    congr 2
    funext binding
    by_cases h : binding.1 = name <;> simp [h, hne]
  · rfl

/-- What a scope does not bind cannot be taken out. -/
theorem forget_of_free {r : ScopeRecord} (h : r.find? y = none) : r.forget serial y = r := by
  have hall : ∀ binding ∈ r.bindings, binding.1 ≠ y := by
    simpa [find?] using h
  unfold forget
  split
  · have hfilter : r.bindings.filter (·.1 ≠ y) = r.bindings := List.filter_eq_self.mpr (by simpa using hall)
    rw [hfilter]
  · rfl

theorem forget_cons (hne : name ≠ y) (v : ValueId) (r : ScopeRecord) :
    forget serial y { r with bindings := (name, v) :: r.bindings } =
      { r.forget serial y with bindings := (name, v) :: (r.forget serial y).bindings } := by
  unfold forget
  split <;> simp [hne]

end ScopeRecord

namespace ScopeTree
variable {serial : Nat} {y : String}

/-- No other name is missed. -/
theorem find?_forget {name : String} (hne : name ≠ y) (t : ScopeTree) (id : ScopeId) :
    (t.forget serial y).find? id name = t.find? id name :=
  t.find?_mapRecords ScopeRecord.keepsPlace_forget (ScopeRecord.find?_forget hne) id

theorem insert_forget {name : String} (hne : name ≠ y) (t : ScopeTree) (id : ScopeId) (v : ValueId) :
    (t.forget serial y).insert id name v = (t.insert id name v).map (forget serial y) := by
  have hplace : ScopeRecord.KeepsPlace (ScopeRecord.forget serial y) := ScopeRecord.keepsPlace_forget
  rcases t.insert_mapRecords hplace (ScopeRecord.find?_forget hne) (ScopeRecord.forget_cons hne v) id with
    ⟨t', hs, ht⟩ | ⟨hs, ht⟩ | ⟨hs, ht⟩
  all_goals
    rw [hs]
    exact ht

theorem insertAll_forget {pairs : List (String × ValueId)} (hne : ∀ pair ∈ pairs, pair.1 ≠ y) (t : ScopeTree)
    (id : ScopeId) :
    (t.forget serial y).insertAll id pairs = ((t.insertAll id pairs).1, (t.insertAll id pairs).2.forget serial y) := by
  induction pairs generalizing t with
  | nil => rfl
  | cons pair pairs ih =>
    obtain ⟨hpair, hrest⟩ := List.forall_mem_cons.mp hne
    rw [insertAll, insertAll, insert_forget hpair]
    by_cases hname : pair.1 = ""
    · rw [if_pos hname, if_pos hname]
      exact ih hrest t
    · rw [if_neg hname, if_neg hname]
      cases t.insert id pair.1 pair.2 with
      | error e => rfl
      | ok t' => exact ih hrest t'

theorem createChild_forget (t : ScopeTree) (parent : ScopeId) :
    (t.forget serial y).createChild parent =
      ((t.createChild parent).1, (t.createChild parent).2.forget serial y) :=
  t.createChild_mapRecords ScopeRecord.keepsPlace_forget parent

theorem destroy_forget (t : ScopeTree) (id : ScopeId) :
    (t.forget serial y).destroy id = (t.destroy id).forget serial y :=
  t.destroy_mapRecords ScopeRecord.keepsPlace_forget id

/-- To forget a name that has just been bound is to undo the binding. -/
theorem forget_insert {t t' : ScopeTree} (wf : t.WellFormed) {id : ScopeId} {v : ValueId}
    (h : t.insert id y v = .ok t') : t'.forget id.serial y = t := by
  obtain ⟨r, hr, hfree, rfl⟩ := insert_eq_ok h
  obtain ⟨hslot, hserial⟩ := record?_eq_some.mp hr
  rw [forget, mapRecords, addNames]
  congr 1
  apply Array.ext_getElem?
  intro j
  rw [Array.getElem?_map, Array.getElem?_modify]
  rcases hj : t.slots[j]? with _ | _ | q
  · simp
  · split <;> simp
  · have hq : t.slot? j = some q := by simp [slot?, hj]
    by_cases hindex : id.index = j
    · -- the scope itself: the new binding goes, and there was none of the name before
      obtain rfl : r = q := by simpa [hindex, hq] using hslot.symm
      have hadd : (r.add [(y, v)]).forget id.serial y = r.forget id.serial y := by
        simp [ScopeRecord.forget, ScopeRecord.add, hserial]
      simp [hindex, hadd, ScopeRecord.forget_of_free hfree]
    · have hother : q.serial ≠ id.serial := fun he => hindex (wf.distinct hslot hq (hserial.trans he.symm))
      simp [hindex, ScopeRecord.forget, hother]

end ScopeTree

end ModelImport
