import ModelImport.Diagnostic
import ModelImport.Graph.Basic
import ModelImport.Message.Basic
import ModelImport.Text.Utf8
/-!
# From messages to models

Decoding decides which fields of a message count: the payload of a tensor is the first field that is filled, and the
kind of an attribute is given by its tag or, when that is missing, by the first field that is filled. An attribute of
a kind that is not supported is left out with a warning.
-/

namespace ModelImport

/-! ## Tensors and declared values -/

namespace TensorMessage

/-- The location of external data. -/
def location? (m : TensorMessage) : Option String := (m.externalData.find? (·.1 == "location")).map (·.2)

/-- The first field that is filled. -/
def payload (m : TensorMessage) : Payload :=
  match m.location? with
  | some location => .external location
  | none =>
    if !m.raw.isEmpty then .raw m.raw
    else if !m.floats.isEmpty then .floats m.floats
    else if !m.int32s.isEmpty then .int32s m.int32s
    else if !m.int64s.isEmpty then .int64s m.int64s
    else if !m.doubles.isEmpty then .doubles m.doubles
    else if !m.uint64s.isEmpty then .uint64s m.uint64s
    else if !m.strings.isEmpty then .strings m.strings
    else .empty

def decode (m : TensorMessage) : StoredTensor := ⟨m.name, m.dataType, m.dims, m.payload⟩

end TensorMessage

/-- An axis; an empty name is none. -/
def DimMessage.decode : DimMessage → DeclaredDim
  | value size => .value size
  | param name => if name = "" then .unknown else .param name
  | unset => .unknown

/-- A declared value; the type code 0 is none. -/
def ValueMessage.decode (m : ValueMessage) : DeclaredValue :=
  match m.type with
  | none => ⟨m.name, none, none⟩
  | some type =>
    ⟨m.name, if type.elemType = 0 then none else some type.elemType, type.shape.map (·.map DimMessage.decode)⟩

/-! ## Attributes -/

/-- The kind of attribute that a tag stands for. -/
def AttributeKind.ofTag? (tag : Int) : Option AttributeKind :=
  [(1, float), (2, int), (3, string), (4, tensor), (5, graph), (6, floats), (7, ints), (8, strings), (9, tensors),
    (10, graphs)].lookup tag

namespace AttributeMessage

/-- The kind of an attribute without a tag: that of the first field that is filled, and an integer if none is. -/
def inferredKind (m : AttributeMessage) : AttributeKind :=
  if m.tensor.isSome then .tensor
  else if m.graph.isSome then .graph
  else if !m.floats.isEmpty then .floats
  else if !m.ints.isEmpty then .ints
  else if !m.strings.isEmpty then .strings
  else if !m.tensors.isEmpty then .tensors
  else if !m.graphs.isEmpty then .graphs
  else if !m.string.isEmpty then .string
  else if !m.float.isZero then .float
  else .int

/-- The kind of an attribute, if it is supported. -/
def kind? (m : AttributeMessage) : Option AttributeKind :=
  if m.tag = 0 then some m.inferredKind else AttributeKind.ofTag? m.tag

end AttributeMessage

/-! ## Graphs -/

mutual

/-- The value of an attribute, if it is of a supported kind and the field of that kind is there. -/
def AttributeMessage.decode? (m : AttributeMessage) : Option AttributeValue :=
  match m.kind? with
  | none => none
  | some .float => some (.float m.float)
  | some .int => some (.int m.int)
  | some .string => some (.string (Utf8.decodeLossy m.string))
  | some .tensor => m.tensor.map fun t => .tensor t.decode
  | some .graph => m.graph.attach.map fun ⟨g, _⟩ => .graph (GraphMessage.decode g)
  | some .floats => some (.floats m.floats)
  | some .ints => some (.ints m.ints)
  | some .strings => some (.strings (m.strings.map Utf8.decodeLossy))
  | some .tensors => some (.tensors (m.tensors.map TensorMessage.decode))
  | some .graphs => some (.graphs (m.graphs.attach.map fun ⟨g, _⟩ => GraphMessage.decode g))
termination_by sizeOf m
decreasing_by
  · rename_i hg
    cases m
    simp only [AttributeMessage.mk.sizeOf_spec]
    simp only at hg
    subst hg
    simp only [Option.some.sizeOf_spec]
    omega
  · rename_i hg
    cases m
    simp only [AttributeMessage.mk.sizeOf_spec]
    have := List.sizeOf_lt_of_mem hg
    simp only at this
    omega

/-- A node; of several attributes with one key the last one counts. -/
def NodeMessage.decode (m : NodeMessage) : Node :=
  { name := m.name
    opType := m.opType
    domain := m.domain
    inputs := m.inputs
    outputs := m.outputs
    attributes := AttributeBag.ofEntries
      (m.attributes.attach.filterMap fun ⟨a, _⟩ => (AttributeMessage.decode? a).map fun v => (a.name, v)) }
termination_by sizeOf m
decreasing_by
  rename_i ha
  cases m
  simp only [NodeMessageOf.mk.sizeOf_spec]
  have := List.sizeOf_lt_of_mem ha
  simp only at this
  omega

def GraphMessage.decode (m : GraphMessage) : Graph :=
  { name := m.name
    nodes := m.nodes.attach.map fun ⟨n, _⟩ => NodeMessage.decode n
    inputs := m.inputs.map ValueMessage.decode
    outputs := m.outputs.map ValueMessage.decode
    initializers := m.initializers.map TensorMessage.decode }
termination_by sizeOf m
decreasing_by
  rename_i hn
  cases m
  simp only [GraphMessageOf.mk.sizeOf_spec]
  have := List.sizeOf_lt_of_mem hn
  simp only at this
  omega

end

/-! ## Warnings -/

/-- The graphs that are decoded with an attribute. -/
def AttributeMessage.bodies (m : AttributeMessage) : List GraphMessage :=
  match m.kind? with
  | some .graph => m.graph.toList
  | some .graphs => m.graphs
  | _ => []

theorem AttributeMessage.sizeOf_bodies {m : AttributeMessage} {g : GraphMessage} (h : g ∈ m.bodies) :
    sizeOf g < sizeOf m := by
  unfold bodies at h
  cases m
  simp only [AttributeMessage.mk.sizeOf_spec]
  split at h
  · simp only [Option.mem_toList] at h
    subst h
    simp only [Option.some.sizeOf_spec]
    omega
  · have := List.sizeOf_lt_of_mem h
    simp only at this
    omega
  · cases h

mutual

/-- The attributes that decoding a graph leaves out, in the order in which they are met. -/
def GraphMessage.warnings (m : GraphMessage) : List Warning :=
  m.nodes.attach.flatMap fun ⟨n, _⟩ => NodeMessage.warnings n
termination_by sizeOf m
decreasing_by
  rename_i hn
  cases m
  simp only [GraphMessageOf.mk.sizeOf_spec]
  have := List.sizeOf_lt_of_mem hn
  simp only at this
  omega

def NodeMessage.warnings (m : NodeMessage) : List Warning :=
  m.attributes.attach.flatMap fun ⟨a, _⟩ => AttributeMessage.warnings m.name m.opType a
termination_by sizeOf m
decreasing_by
  rename_i ha
  cases m
  simp only [NodeMessageOf.mk.sizeOf_spec]
  have := List.sizeOf_lt_of_mem ha
  simp only at this
  omega

/-- What is left out inside an attribute, then the attribute itself if it is left out. -/
def AttributeMessage.warnings (node opType : String) (m : AttributeMessage) : List Warning :=
  (m.bodies.attach.flatMap fun ⟨g, _⟩ => GraphMessage.warnings g) ++
    if m.decode?.isSome then [] else [.droppedAttribute node opType m.name m.tag]
termination_by sizeOf m
decreasing_by
  rename_i hg
  exact AttributeMessage.sizeOf_bodies hg

end

/-! ## Models -/

namespace ModelMessage

/-- The version of the standard operator set. -/
def opset (m : ModelMessage) : Int :=
  ((m.opsets.find? fun o => isStandardDomain o.domain).map (·.version)).getD defaultOpset

def decode (m : ModelMessage) : Except ImportError Model :=
  match m.graph with
  | none => .error (.decode "model carries no graph")
  | some graph => .ok ⟨m.irVersion, m.opset, m.producer, GraphMessage.decode graph⟩

/-- The attributes that decoding a model leaves out. -/
def warnings (m : ModelMessage) : List Warning := (m.graph.map GraphMessage.warnings).getD []

end ModelMessage

end ModelImport
