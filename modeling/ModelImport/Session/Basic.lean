import ModelImport.Diagnostic
import ModelImport.Operator.Registry
import ModelImport.Scope
/-!
# Import sessions

A session takes in graphs one after another and builds one function. It holds the function under construction, the
names bound so far and everything that went wrong. A failure is recorded with its place and the session goes on, so
that one run reports every problem. This module has the state of a session and its small steps: recording a failure,
binding names, resolving inputs and outputs.
-/

namespace ModelImport

/-- The cancellation token of a session, asked once before each node: when it will be found set. -/
inductive CancelToken where
  | never
  /-- Set after so many more questions. -/
  | after (questions : Nat)
deriving DecidableEq, Repr, Inhabited

namespace CancelToken

def isSet (t : CancelToken) : Bool := t == after 0

/-- The token after one question. -/
def asked : CancelToken → CancelToken
  | after (n + 1) => after n
  | t => t

end CancelToken

structure Options where
  /-- Sizes for graph inputs, by name, in place of those that the model declares. -/
  inputShapes : List (String × List Nat)
  /-- The least version of the operator set that is accepted. -/
  minOpset : Int
  cancel : CancelToken
deriving DecidableEq, Repr

namespace Options

def standard : Options := ⟨[], 1, .never⟩

/-- The type of a graph input, with its shape replaced if the options give one. -/
def pin (o : Options) (name : String) (type : TensorType) : TensorType :=
  match o.inputShapes.find? (·.1 == name) with
  | some (_, sizes) => .ofSizes type.element sizes
  | none => type

end Options

/-- Where a session stands. -/
inductive Phase where
  | idle
  | inGraph
  | inBody
  | success
  | failed
deriving DecidableEq, Repr, Inhabited

structure Session where
  registry : Registry
  options : Options
  token : CancelToken
  builder : Builder
  scopes : ScopeTree
  phase : Phase
  diagnostics : List Diagnostic
  warnings : List Warning
  /-- The names of the graphs under way, outermost first. -/
  path : List String
  /-- The values of the outputs of the graphs taken in so far. -/
  outputs : List ValueId
  /-- The outputs of nodes that failed, so that their absence is reported once. -/
  failedOutputs : List (ScopeId × String)
  /-- The number of nodes converted, loop bodies included. -/
  convertedNodes : Nat
  /-- Whether the token has been found set. -/
  cancelled : Bool

namespace Session

/-- A session that builds a function of the given name. -/
def new (name : String) (registry : Registry) (options : Options) : Session where
  registry
  options
  token := options.cancel
  builder := .new name
  scopes := .new
  phase := .idle
  diagnostics := []
  warnings := []
  path := []
  outputs := []
  failedOutputs := []
  convertedNodes := 0
  cancelled := false

/-- Sets the cancellation token. -/
def cancel (s : Session) : Session := { s with token := .after 0 }

/-! ## Failures and warnings -/

/-- Records a failure at a node or value of the graph under way. -/
def record (s : Session) (node opType : String) (error : ImportError) : Session :=
  { s with diagnostics := s.diagnostics ++ [⟨⟨"/".intercalate s.path, node, opType⟩, error⟩] }

/-- Records a failure outside any graph. -/
def report (s : Session) (place : Place) (error : ImportError) : Session :=
  { s with diagnostics := s.diagnostics ++ [⟨place, error⟩], phase := .failed }

def warn (s : Session) (warnings : List Warning) : Session := { s with warnings := s.warnings ++ warnings }

/-- Warns of the attributes of a node that nothing has read. -/
def warnUnread (s : Session) (node : Node) (view : AttributeView) : Session :=
  s.warn (view.unread.map (.ignoredAttribute node.displayName node.opType))

/-! ## Names -/

/-- Binds a value that is not the output of a node, or records why it cannot be bound. -/
def bindName (s : Session) (scope : ScopeId) (name kind : String) (v : ValueId) : Session :=
  match s.scopes.insert scope name v with
  | .ok scopes => { s with scopes }
  | .error e => s.record name kind e

/-- Makes a placeholder of a graph input. -/
def bindInput (s : Session) (scope : ScopeId) (input : DeclaredValue) : Session :=
  match input.type with
  | .error e => s.record input.name "<input>" e
  | .ok type =>
    let (v, builder) := s.builder.createPlaceholder input.name (s.options.pin input.name type)
    { s with builder }.bindName scope input.name "<input>" v

/-- Makes placeholders of the inputs of a graph, except for those that an initializer gives a value. -/
def bindInputs (s : Session) (scope : ScopeId) (graph : Graph) : Session :=
  let free := graph.inputs.filter fun input => !graph.initializers.any (·.name == input.name)
  free.foldl (bindInput · scope) s

/-- Makes an argument of an input of a loop body; one declared without a type has the expected one. -/
def bindFormal (s : Session) (scope : ScopeId) (formal : DeclaredValue) (expected : TensorType) : Session :=
  match if formal.code.isSome then formal.type else .ok expected with
  | .error e => s.record formal.name "<input>" e
  | .ok type =>
    let (v, builder) := s.builder.createArgument formal.name type
    { s with builder }.bindName scope formal.name "<input>" v

def bindFormals (s : Session) (scope : ScopeId) (formals : List (DeclaredValue × TensorType)) : Session :=
  formals.foldl (fun s (formal, expected) => s.bindFormal scope formal expected) s

/-- Makes a constant of an initializer. -/
def bindInitializer (s : Session) (scope : ScopeId) (tensor : StoredTensor) : Session :=
  match tensor.materialize with
  | .error e => s.record tensor.name "<initializer>" e
  | .ok data =>
    let (v, builder) := s.builder.createConstant tensor.name data
    { s with builder }.bindName scope tensor.name "<initializer>" v

def bindInitializers (s : Session) (scope : ScopeId) (tensors : List StoredTensor) : Session :=
  tensors.foldl (bindInitializer · scope) s

/-- The value of a node input; an empty name is an omitted input. -/
def resolveInput (s : Session) (scope : ScopeId) (name : String) : Except ImportError (Option ValueId) :=
  if name = "" then .ok none
  else
    match s.scopes.find? scope name with
    | some v => .ok (some v)
    | none => .error (.unresolvedInput name)

/-- The values of the inputs of a node. -/
def resolveInputs (s : Session) (scope : ScopeId) (node : Node) : Except ImportError (List (Option ValueId)) :=
  node.inputs.mapM (s.resolveInput scope)

/-- The values of the outputs of a graph, if all are bound. -/
def resolveOutputs (s : Session) (scope : ScopeId) (outputs : List DeclaredValue) : Option (List ValueId) :=
  outputs.mapM fun output => s.scopes.find? scope output.name

/-- Records an output of a graph that is not bound, unless the node that should have made it has failed. -/
def checkOutput (s : Session) (scope : ScopeId) (output : DeclaredValue) : Session :=
  if s.scopes.contains scope output.name || s.failedOutputs.contains (scope, output.name) then s
  else s.record output.name "<output>" (.unresolvedInput output.name)

def checkOutputs (s : Session) (scope : ScopeId) (outputs : List DeclaredValue) : Session :=
  outputs.foldl (checkOutput · scope) s

end Session

end ModelImport
