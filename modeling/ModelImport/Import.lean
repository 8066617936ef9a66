import ModelImport.Message.Decode
import ModelImport.Message.Reader
import ModelImport.Session.Graph
/-!
# Importing models

The ways into the library: models, messages, buffers and files are imported into one function called `main`. A source
that cannot be read is reported under its own name, and the others are imported all the same.
-/

namespace ModelImport

/-- A model to be imported, or the reason why there is none. -/
structure Source where
  /-- The name under which a failure to read the model is reported. -/
  name : String
  model : Except ImportError Model
  /-- What decoding the model left out. -/
  warnings : List Warning

namespace Source

/-- The source of a message. -/
def ofMessage (name : String) (message : ModelMessage) : Source := ⟨name, message.decode, message.warnings⟩

/-- The source of a serialized model. -/
def ofBytes (name : String) (bytes : Bytes) : Source :=
  match ModelMessage.ofBytes bytes with
  | .ok message => ofMessage name message
  | .error e => ⟨name, .error e, []⟩

end Source

/-- What an import comes to. -/
structure Outcome where
  result : Except (List Diagnostic) Function
  warnings : List Warning

namespace Session

/-- Takes in a source. -/
def take (s : Session) (source : Source) : Session :=
  let s := s.warn source.warnings
  match source.model with
  | .ok model => s.convertModel model
  | .error e => s.report (.model source.name) e

def outcome (s : Session) : Outcome := ⟨s.finish, s.warnings⟩

/-- A session for the function `main` over all operators of the library. -/
def standard (options : Options) : Session := .new "main" .builtin options

end Session

/-- Imports models. -/
def importModels (models : List Model) (options : Options) : Outcome :=
  (models.foldl Session.convertModel (.standard options)).outcome

/-- Imports sources. -/
def importSources (sources : List Source) (options : Options) : Outcome :=
  (sources.foldl Session.take (.standard options)).outcome

/-- Imports serialized models, each named by its place. -/
def importBuffers (buffers : List Bytes) (options : Options) : Outcome :=
  importSources (buffers.mapIdx fun i bytes => .ofBytes s!"buffer {i}" bytes) options

/-- Imports a message, named by its graph. -/
def importMessage (message : ModelMessage) (options : Options) : Outcome :=
  importSources [.ofMessage ((message.graph.map GraphMessageOf.name).getD "") message] options

/-- Imports files, each named by its path. What a path holds, or why it cannot be read, is for `contents` to say. -/
def importFiles (contents : String → Except String Bytes) (paths : List String) (options : Options) : Outcome :=
  let source (path : String) : Source :=
    match contents path with
    | .ok bytes => .ofBytes path bytes
    | .error reason => ⟨path, .error (.io path reason), []⟩
  importSources (paths.map source) options

end ModelImport
