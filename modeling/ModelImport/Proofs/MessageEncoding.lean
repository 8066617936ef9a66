import Mathlib.Data.List.Basic
import ModelImport.Message.Decode
import ModelImport.Proofs.Utf8Text
/-!
# From models to messages

`GraphOf.encode` writes a graph as a message: an attribute under the tag of its kind with only the field of that kind
filled, a payload in the field of its own, external data by their location.

`encoded_graph_read_back`: decoding takes back every graph whose payloads, names of axes and type codes do not fall
together with absent ones, with the graphs in its attributes at any depth (`GraphOf.Inside`); and an attribute is read
without its tag as with it exactly when its value fills its field. What an attribute is decoded to is said once, by the
kind it is taken for and the field of that kind (`AttributeMessage.decode?_eq`).
-/

namespace ModelImport

/-- A list is read back if each of its elements is. -/
theorem map_map_of_inverse {α β : Type} {f : α → β} {g : β → α} {xs : List α} (h : ∀ x ∈ xs, g (f x) = x) :
    (xs.map f).map g = xs := by
  rw [List.map_map]
  exact (List.map_congr_left h).trans (List.map_id xs)

/-! ## Tensors -/

/-- A payload that is a list has elements. One without is no different from one that is not there. -/
def Payload.Filled : Payload → Prop
  | raw bytes => bytes ≠ []
  | floats values => values ≠ []
  | int32s values => values ≠ []
  | int64s values => values ≠ []
  | doubles values => values ≠ []
  | uint64s values => values ≠ []
  | strings values => values ≠ []
  | external _ | empty => True

namespace StoredTensor

/-- The message of a tensor, with the payload in its own field. -/
def encode (t : StoredTensor) : TensorMessage :=
  let blank : TensorMessage := ⟨t.name, t.code, t.dims, [], [], [], [], [], [], [], []⟩
  match t.payload with
  | .raw bytes => { blank with raw := bytes }
  | .floats values => { blank with floats := values }
  | .int32s values => { blank with int32s := values }
  | .int64s values => { blank with int64s := values }
  | .doubles values => { blank with doubles := values }
  | .uint64s values => { blank with uint64s := values }
  | .strings values => { blank with strings := values }
  | .external location => { blank with externalData := [("location", location)] }
  | .empty => blank

theorem decode_encode {t : StoredTensor} (h : t.payload.Filled) : t.encode.decode = t := by
  obtain ⟨name, code, dims, payload⟩ := t
  cases payload with
  | raw | floats | int32s | int64s | doubles | uint64s | strings =>
    simp only [Payload.Filled] at h
    simp [encode, TensorMessage.decode, TensorMessage.payload, TensorMessage.location?, h]
  | external | empty => rfl

end StoredTensor

/-! ## Declared values -/

def DeclaredDim.encode : DeclaredDim → DimMessage
  | value size => .value size
  | param name => .param name
  | unknown => .unset

theorem DeclaredDim.decode_encode {d : DeclaredDim} (h : d ≠ .param "") : d.encode.decode = d := by
  cases d with
  | value | unknown => rfl
  | param name => exact if_neg fun hname : name = "" => h (hname ▸ rfl)

namespace DeclaredValue

/-- A declaration whose code and names are not those that stand for none. -/
@[mk_iff] structure Definite (d : DeclaredValue) : Prop where
  code : d.code ≠ some 0
  named : ∀ axes ∈ d.shape, .param "" ∉ axes

/-- The message of a declared value; with neither a code nor a shape it has no type. -/
def encode (d : DeclaredValue) : ValueMessage :=
  ⟨d.name, if d.code = none ∧ d.shape = none then none
    else some ⟨d.code.getD 0, d.shape.map (·.map DeclaredDim.encode)⟩⟩

theorem decode_encode {d : DeclaredValue} (h : d.Definite) : d.encode.decode = d := by
  obtain ⟨name, code, shape⟩ := d
  have hshape : (shape.map (·.map DeclaredDim.encode)).map (·.map DimMessage.decode) = shape := by
    cases shape with
    | none => rfl
    | some axes =>
      have haxis (d : DeclaredDim) (hd : d ∈ axes) : d.encode.decode = d :=
        DeclaredDim.decode_encode fun he => h.named axes rfl (he ▸ hd)
      rw [Option.map_some, Option.map_some, map_map_of_inverse haxis]
  have hcode : (if code.getD 0 = 0 then none else some (code.getD 0)) = code := by
    cases code with
    | none => rfl
    | some code => exact if_neg fun hzero => h.code (congrArg some hzero)
  unfold encode ValueMessage.decode
  by_cases hnone : code = none ∧ shape = none
  · simp [hnone]
  · simp only [hnone, if_false, hshape, hcode]

end DeclaredValue

/-! ## Attributes -/

namespace AttributeKind

def tag : AttributeKind → Int
  | float => 1
  | int => 2
  | string => 3
  | tensor => 4
  | graph => 5
  | floats => 6
  | ints => 7
  | strings => 8
  | tensors => 9
  | graphs => 10

theorem tag_ne_zero (kind : AttributeKind) : kind.tag ≠ 0 := by
  cases kind <;> decide

theorem ofTag?_tag (kind : AttributeKind) : ofTag? kind.tag = some kind := by
  cases kind <;> rfl

end AttributeKind

/-- The message of an attribute with no field filled. -/
def AttributeMessage.blank (name : String) (kind : AttributeKind) : AttributeMessage :=
  ⟨name, kind.tag, ⟨0⟩, 0, [], none, none, [], [], [], [], []⟩

mutual

/-- The message of an attribute: the tag of its kind, and only the field of that kind filled. -/
def AttributeValue.encode (name : String) (v : AttributeValue) : AttributeMessage :=
  match v with
  | .int value => { AttributeMessage.blank name .int with int := value }
  | .float value => { AttributeMessage.blank name .float with float := value }
  | .string value => { AttributeMessage.blank name .string with string := Utf8.encode value }
  | .tensor value => { AttributeMessage.blank name .tensor with tensor := some value.encode }
  | .graph value => { AttributeMessage.blank name .graph with graph := some (GraphOf.encode value) }
  | .ints values => { AttributeMessage.blank name .ints with ints := values }
  | .floats values => { AttributeMessage.blank name .floats with floats := values }
  | .strings values => { AttributeMessage.blank name .strings with strings := values.map Utf8.encode }
  | .tensors values => { AttributeMessage.blank name .tensors with tensors := values.map StoredTensor.encode }
  | .graphs values => { AttributeMessage.blank name .graphs with graphs := values.map fun g => GraphOf.encode g }
termination_by sizeOf v
decreasing_by
  · simp only [AttributeValue.graph.sizeOf_spec]
    omega
  · have hlt := List.sizeOf_lt_of_mem (show g ∈ values by assumption)
    simp only [AttributeValue.graphs.sizeOf_spec]
    omega

def NodeOf.encode (node : Node) : NodeMessage :=
  { inputs := node.inputs
    outputs := node.outputs
    name := node.name
    opType := node.opType
    domain := node.domain
    attributes := node.attributes.map fun entry => entry.2.encode entry.1 }
termination_by sizeOf node
decreasing_by
  have hlt := List.sizeOf_lt_of_mem (show entry ∈ node.attributes by assumption)
  cases node
  cases entry
  simp only [NodeOf.mk.sizeOf_spec, Prod.mk.sizeOf_spec] at *
  omega

def GraphOf.encode (g : Graph) : GraphMessage :=
  { nodes := g.nodes.map fun node => node.encode
    name := g.name
    initializers := g.initializers.map StoredTensor.encode
    inputs := g.inputs.map DeclaredValue.encode
    outputs := g.outputs.map DeclaredValue.encode }
termination_by sizeOf g
decreasing_by
  have hlt := List.sizeOf_lt_of_mem (show node ∈ g.nodes by assumption)
  cases g
  simp only [GraphOf.mk.sizeOf_spec] at *
  omega

end

theorem NodeOf.encode_eq (node : Node) : node.encode =
    ⟨node.inputs, node.outputs, node.name, node.opType, node.domain,
      node.attributes.map fun entry => entry.2.encode entry.1⟩ := by
  rw [NodeOf.encode]

theorem GraphOf.encode_eq (g : Graph) : g.encode =
    ⟨g.nodes.map NodeOf.encode, g.name, g.initializers.map StoredTensor.encode, g.inputs.map DeclaredValue.encode,
      g.outputs.map DeclaredValue.encode⟩ := by
  rw [GraphOf.encode]

/-! ## What decoding reads -/

namespace AttributeMessage

/-- The value in the field of a kind, if the field is there. -/
def read? (m : AttributeMessage) : AttributeKind → Option AttributeValue
  | .float => some (.float m.float)
  | .int => some (.int m.int)
  | .string => some (.string (Utf8.decodeLossy m.string))
  | .tensor => m.tensor.map fun t => .tensor t.decode
  | .graph => m.graph.map fun g => .graph (GraphMessage.decode g)
  | .floats => some (.floats m.floats)
  | .ints => some (.ints m.ints)
  | .strings => some (.strings (m.strings.map Utf8.decodeLossy))
  | .tensors => some (.tensors (m.tensors.map TensorMessage.decode))
  | .graphs => some (.graphs (m.graphs.map GraphMessage.decode))

theorem decode?_eq (m : AttributeMessage) : m.decode? = m.kind?.bind m.read? := by
  rw [decode?]
  cases m.kind? with
  | none => rfl
  | some kind =>
    cases kind with
    | int | float | string | tensor | ints | floats | strings | tensors => rfl
    | graph | graphs => simp [read?]

/-- The message without its tag. -/
def untagged (m : AttributeMessage) : AttributeMessage := { m with tag := 0 }

theorem decode?_untagged (m : AttributeMessage) : m.untagged.decode? = m.read? m.inferredKind := by
  have hkind : m.untagged.kind? = some m.inferredKind := rfl
  rw [decode?_eq, hkind, Option.bind_some]
  cases m.inferredKind <;> rfl

end AttributeMessage

theorem NodeMessage.decode_eq (m : NodeMessage) : NodeMessage.decode m =
    ⟨m.name, m.opType, m.domain, m.inputs, m.outputs,
      AttributeBag.ofEntries (m.attributes.filterMap fun a => a.decode?.map fun v => (a.name, v))⟩ := by
  rw [NodeMessage.decode]
  simp

theorem GraphMessage.decode_eq (m : GraphMessage) : GraphMessage.decode m =
    ⟨m.name, m.nodes.map NodeMessage.decode, m.inputs.map ValueMessage.decode, m.outputs.map ValueMessage.decode,
      m.initializers.map TensorMessage.decode⟩ := by
  rw [GraphMessage.decode]
  simp

/-! ## Attributes read back -/

theorem Single.isZero_zero : (⟨0⟩ : Single).isZero = true := rfl

namespace AttributeValue

/-- The tensors in an attribute. -/
def stored : AttributeValue → List StoredTensor
  | tensor t => [t]
  | tensors ts => ts
  | _ => []

/-- The graphs in an attribute. -/
def bodies : AttributeValue → List Graph
  | graph g => [g]
  | graphs gs => gs
  | _ => []

theorem sizeOf_bodies {v : AttributeValue} {g : Graph} (h : g ∈ v.bodies) : sizeOf g < sizeOf v := by
  cases v with
  | graph body =>
    obtain rfl : g = body := List.mem_singleton.1 h
    simp only [AttributeValue.graph.sizeOf_spec]
    omega
  | graphs bodies =>
    have := List.sizeOf_lt_of_mem (show g ∈ bodies from h)
    simp only [AttributeValue.graphs.sizeOf_spec]
    omega
  | _ => cases h

/-- A value whose field, when it is filled with it, is told apart from an empty one. An integer need not be: a message
with no field filled is read as an integer. -/
def Evident : AttributeValue → Prop
  | float value => value.isZero = false
  | string value => value ≠ ""
  | ints values => values ≠ []
  | floats values => values ≠ []
  | strings values => values ≠ []
  | tensors values => values ≠ []
  | graphs values => values ≠ []
  | int _ | tensor _ | graph _ => True

variable (name : String) (v : AttributeValue)

theorem name_encode : (v.encode name).name = name := by
  cases v <;> rw [encode] <;> rfl

theorem tag_encode : (v.encode name).tag = v.kind.tag := by
  cases v <;> rw [encode] <;> rfl

theorem kind?_encode : (v.encode name).kind? = some v.kind := by
  rw [AttributeMessage.kind?, tag_encode, if_neg (AttributeKind.tag_ne_zero _), AttributeKind.ofTag?_tag]

theorem decode?_encode_eq : (v.encode name).decode? = (v.encode name).read? v.kind := by
  rw [AttributeMessage.decode?_eq, kind?_encode, Option.bind_some]

/-- The field of a value of its kind is there. -/
theorem read?_encode : ∃ w : AttributeValue, (v.encode name).read? v.kind = some w ∧ w.kind = v.kind := by
  cases v <;> rw [encode] <;> exact ⟨_, rfl, rfl⟩

theorem inferredKind_encode_of_evident {v : AttributeValue} (h : v.Evident) :
    (v.encode name).inferredKind = v.kind := by
  cases v <;> rw [encode] <;>
    simp_all [AttributeMessage.inferredKind, AttributeMessage.blank, Single.isZero_zero, kind, Evident,
      Utf8.encode_eq_nil_iff]

theorem inferredKind_encode_of_not_evident {v : AttributeValue} (h : ¬ v.Evident) :
    (v.encode name).inferredKind = .int ∧ v.kind ≠ .int := by
  cases v <;> rw [encode] <;>
    simp_all [AttributeMessage.inferredKind, AttributeMessage.blank, Single.isZero_zero, kind, Evident,
      Utf8.encode_eq_nil_iff]

/-- Without its tag an attribute is read as with it if its value is evident, and only then. -/
theorem decode?_untagged_encode : ∃ w : AttributeValue,
    (v.encode name).decode? = some w ∧ ((v.encode name).untagged.decode? = some w ↔ v.Evident) := by
  obtain ⟨w, hw, hkind⟩ := read?_encode name v
  refine ⟨w, (decode?_encode_eq name v).trans hw, ?_⟩
  rw [AttributeMessage.decode?_untagged]
  constructor
  · intro huntagged
    by_contra hevident
    obtain ⟨hint, hne⟩ := inferredKind_encode_of_not_evident name hevident
    rw [hint] at huntagged
    -- The other reading is an integer, and the value is not.
    obtain rfl := Option.some.inj huntagged
    exact hne hkind.symm
  · intro hevident
    rw [inferredKind_encode_of_evident name hevident, hw]

/-- An attribute is read back from its message if the tensors and the graphs in it are. -/
theorem decode?_encode {v : AttributeValue} (hstored : ∀ t ∈ v.stored, t.payload.Filled)
    (hbodies : ∀ g ∈ v.bodies, GraphMessage.decode g.encode = g) : (v.encode name).decode? = some v := by
  rw [decode?_encode_eq]
  cases v with
  | int | float | ints | floats => rw [encode]; rfl
  | string value => simp [encode, AttributeMessage.read?, kind]
  | strings values => simp [encode, AttributeMessage.read?, kind, Function.comp_def]
  | tensor t =>
    have ht := StoredTensor.decode_encode (hstored t List.mem_cons_self)
    simp [encode, AttributeMessage.read?, kind, ht]
  | tensors ts =>
    have hts : (ts.map StoredTensor.encode).map TensorMessage.decode = ts :=
      map_map_of_inverse fun t ht => StoredTensor.decode_encode (hstored t ht)
    simp only [encode, AttributeMessage.read?, kind]
    rw [hts]
  | graph g =>
    have hg := hbodies g List.mem_cons_self
    simp [encode, AttributeMessage.read?, kind, hg]
  | graphs gs =>
    have hgs : (gs.map GraphOf.encode).map GraphMessage.decode = gs := map_map_of_inverse hbodies
    simp only [encode, AttributeMessage.read?, kind]
    rw [hgs]

end AttributeValue

/-! ## Nodes -/

/-- A bag in which no key is entered twice has every entry. -/
theorem AttributeBag.ofEntries_of_nodup {entries : List (String × AttributeValue)}
    (h : (entries.map (·.1)).Nodup) : ofEntries entries = entries := by
  induction entries with
  | nil => rfl
  | cons entry entries ih =>
    obtain ⟨key, value⟩ := entry
    obtain ⟨hkey, hrest⟩ := List.nodup_cons.1 h
    have hcontains : contains entries key = false := by
      rw [contains, find?, Option.isSome_map, Option.isSome_eq_false_iff, Option.isNone_iff_eq_none, List.find?_eq_none]
      intro entry hentry heq
      exact hkey (List.mem_map.2 ⟨entry, hentry, eq_of_beq heq⟩)
    rw [ofEntries, ih hrest]
    simp only [hcontains, Bool.false_eq_true, if_false]

/-- A node is read back from its message if its attributes are and have different names. -/
theorem NodeOf.decode_encode {node : Node} (hkeys : (node.attributes.map (·.1)).Nodup)
    (hattributes : ∀ entry ∈ node.attributes, (entry.2.encode entry.1).decode? = some entry.2) :
    NodeMessage.decode node.encode = node := by
  have hentries : (node.attributes.map fun entry => entry.2.encode entry.1).filterMap
      (fun a => a.decode?.map fun v => (a.name, v)) = node.attributes := by
    have hread : ∀ entry ∈ node.attributes,
        ((entry.2.encode entry.1).decode?.map fun v => ((entry.2.encode entry.1).name, v)) = some entry := by
      intro entry hentry
      rw [hattributes entry hentry, AttributeValue.name_encode, Option.map_some]
    rw [List.filterMap_map]
    exact (List.filterMap_congr hread).trans List.filterMap_some
  rw [NodeMessage.decode_eq, NodeOf.encode_eq]
  simp only [hentries, AttributeBag.ofEntries_of_nodup hkeys]

/-! ## Graphs -/

namespace GraphOf

/-- The tensors of a graph, the initializers and those in attributes. -/
def stored (g : Graph) : List StoredTensor :=
  g.initializers ++ g.nodes.flatMap fun node => node.attributes.flatMap fun entry => entry.2.stored

/-- The graphs in the attributes of a graph. -/
def bodies (g : Graph) : List Graph := g.nodes.flatMap fun node => node.attributes.flatMap fun entry => entry.2.bodies

theorem sizeOf_bodies {g body : Graph} (h : body ∈ g.bodies) : sizeOf body < sizeOf g := by
  obtain ⟨node, hnode, hattributes⟩ := List.mem_flatMap.1 h
  obtain ⟨entry, hentry, hbody⟩ := List.mem_flatMap.1 hattributes
  have hvalue := AttributeValue.sizeOf_bodies hbody
  have hinNode := List.sizeOf_lt_of_mem hentry
  have hinGraph := List.sizeOf_lt_of_mem hnode
  cases g
  cases node
  cases entry
  simp only [GraphOf.mk.sizeOf_spec, NodeOf.mk.sizeOf_spec, Prod.mk.sizeOf_spec] at *
  omega

/-- A graph is the given one or nested in it, at any depth. -/
inductive Inside (inner : Graph) : Graph → Prop
  | self : Inside inner inner
  | nested {outer body} : body ∈ outer.bodies → Inside inner body → Inside inner outer

theorem forall_inside_iff {P : Graph → Prop} {g : Graph} :
    (∀ inner : Graph, inner.Inside g → P inner) ↔
      P g ∧ ∀ body ∈ g.bodies, ∀ inner : Graph, inner.Inside body → P inner := by
  constructor
  · intro h
    exact ⟨h g .self, fun body hbody inner hinner => h inner (.nested hbody hinner)⟩
  · rintro ⟨hself, hbodies⟩ inner hinner
    cases hinner with
    | self => exact hself
    | nested hbody hinner => exact hbodies _ hbody _ hinner

/-- A graph that holds nothing that a message cannot tell from what is absent. That no node has two attributes of one
name is no restriction: the first of them is the only one that counts. -/
@[mk_iff] structure Definite (g : Graph) : Prop where
  stored : ∀ t ∈ g.stored, t.payload.Filled
  declared : ∀ d ∈ g.inputs ++ g.outputs, d.Definite
  keys : ∀ node ∈ g.nodes, (node.attributes.map (·.1)).Nodup

/-- A graph is read back from its message if the graphs in its attributes are. -/
theorem decode_encode_of_bodies {g : Graph} (h : g.Definite)
    (hbodies : ∀ body ∈ g.bodies, GraphMessage.decode body.encode = body) : GraphMessage.decode g.encode = g := by
  have hnode (node : Node) (hmem : node ∈ g.nodes) : NodeMessage.decode node.encode = node := by
    refine NodeOf.decode_encode (h.keys node hmem) fun entry hentry => ?_
    refine AttributeValue.decode?_encode entry.1 (fun t ht => h.stored t ?_) fun body hbody => hbodies body ?_
    · exact List.mem_append_right _ (List.mem_flatMap.2 ⟨node, hmem, List.mem_flatMap.2 ⟨entry, hentry, ht⟩⟩)
    · exact List.mem_flatMap.2 ⟨node, hmem, List.mem_flatMap.2 ⟨entry, hentry, hbody⟩⟩
  have hvalue (d : DeclaredValue) (hd : d ∈ g.inputs ++ g.outputs) : d.encode.decode = d :=
    DeclaredValue.decode_encode (h.declared d hd)
  have htensor (t : StoredTensor) (ht : t ∈ g.initializers) : t.encode.decode = t :=
    StoredTensor.decode_encode (h.stored t (List.mem_append_left _ ht))
  rw [GraphMessage.decode_eq, encode_eq]
  simp only [map_map_of_inverse hnode, map_map_of_inverse htensor,
    map_map_of_inverse fun d hd => hvalue d (List.mem_append_left _ hd),
    map_map_of_inverse fun d hd => hvalue d (List.mem_append_right _ hd)]

theorem decode_encode {g : Graph} (h : ∀ inner : Graph, inner.Inside g → inner.Definite) :
    GraphMessage.decode g.encode = g := by
  obtain ⟨hself, hbodies⟩ := forall_inside_iff.1 h
  exact decode_encode_of_bodies hself fun body hbody => decode_encode (hbodies body hbody)
termination_by sizeOf g
decreasing_by exact sizeOf_bodies hbody

end GraphOf

/-- A graph is read back from its message, with the graphs in its attributes at every depth, if each of them is
definite. Every attribute is read from its message, and without the tag it is read as the same value exactly when the
value is evident: not a zero, an empty text or an empty list. -/
theorem encoded_graph_read_back :
    (∀ g : Graph, (∀ inner : Graph, inner.Inside g → inner.Definite) → GraphMessage.decode g.encode = g) ∧
      ∀ (name : String) (v : AttributeValue), ∃ w : AttributeValue,
        (v.encode name).decode? = some w ∧ ((v.encode name).untagged.decode? = some w ↔ v.Evident) := by
  constructor
  · intro g hdefinite
    exact GraphOf.decode_encode hdefinite
  · intro name v
    exact AttributeValue.decode?_untagged_encode name v

/-- A graph with texts beyond ASCII, an empty list, a zero, and tensors stored in several ways. -/
def storedBody : Graph :=
  { name := "body"
    nodes := [⟨"", "Gather", "", ["x", ""], ["y"],
      [("axis", .int 0), ("scale", .float ⟨0⟩), ("mode", .string "größe 😀"), ("names", .strings ["", "é"]),
        ("table", .tensor ⟨"t", 8, [1], .strings [[]]⟩), ("rest", .tensors [])]⟩]
    inputs := [⟨"x", some 1, some [.value 2, .param "batch", .unknown]⟩]
    outputs := [⟨"y", none, some []⟩]
    initializers := [⟨"w", 7, [1], .int64s [5]⟩, ⟨"v", 1, [3], .external "weights.bin"⟩, ⟨"e", 1, [0], .empty⟩] }

/-- A graph with a graph in an attribute. -/
def storedLoop : Graph := ⟨"loop", [⟨"", "Loop", "", [], ["z"], [("body", .graph storedBody)]⟩], [], [], []⟩

/-- A graph with two graphs in an attribute, one of them with a graph in an attribute of its own. -/
def storedBranches : Graph :=
  { name := "main"
    nodes := [⟨"if", "If", "", ["z"], ["z"], [("branches", .graphs [storedLoop, storedBody])]⟩]
    inputs := [⟨"z", none, none⟩]
    outputs := []
    initializers := [] }

theorem branches_read_back :
    (∀ inner : Graph, inner.Inside storedBranches → inner.Definite) ∧
      GraphMessage.decode storedBranches.encode = storedBranches ∧
      ∃ w, ((AttributeValue.string "é").encode "mode").decode? = some w ∧
        ((AttributeValue.string "é").encode "mode").untagged.decode? = some w := by
  have hbody : ∀ inner : Graph, inner.Inside storedBody → inner.Definite := by
    refine GraphOf.forall_inside_iff.2 ⟨?_, List.forall_mem_nil _⟩
    simp [GraphOf.definite_iff, DeclaredValue.definite_iff, storedBody, GraphOf.stored, AttributeValue.stored,
      Payload.Filled]
  have hloop : ∀ inner : Graph, inner.Inside storedLoop → inner.Definite := by
    refine GraphOf.forall_inside_iff.2 ⟨?_, List.forall_mem_singleton.2 hbody⟩
    simp [GraphOf.definite_iff, storedLoop, GraphOf.stored, AttributeValue.stored]
  have hbranches : ∀ inner : Graph, inner.Inside storedBranches → inner.Definite := by
    refine GraphOf.forall_inside_iff.2 ⟨?_, List.forall_mem_cons.2 ⟨hloop, List.forall_mem_singleton.2 hbody⟩⟩
    simp [GraphOf.definite_iff, DeclaredValue.definite_iff, storedBranches, GraphOf.stored, AttributeValue.stored]
  obtain ⟨w, hw, huntagged⟩ := encoded_graph_read_back.2 "mode" (.string "é")
  have hevident : (AttributeValue.string "é").Evident := by simp [AttributeValue.Evident]
  exact ⟨hbranches, encoded_graph_read_back.1 storedBranches hbranches, w, hw, huntagged.2 hevident⟩

end ModelImport
