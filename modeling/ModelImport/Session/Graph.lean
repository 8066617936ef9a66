import ModelImport.Session.Loop
/-!
# Graphs and models

A graph is taken into the root scope: inputs, initializers, nodes and outputs, in that order. Several graphs may be
taken in one after another; they share their names, and their outputs are joined.
-/

namespace ModelImport

namespace Session

/-- Collects the outputs of a graph, if all of them are bound. -/
def collectOutputs (s : Session) (scope : ScopeId) (outputs : List DeclaredValue) : Session :=
  let s := s.checkOutputs scope outputs
  { s with outputs := s.outputs ++ (s.resolveOutputs scope outputs).getD [] }

/-- Takes in a graph. -/
def convertGraph (s : Session) (graph : Graph) (opset : Int) : Session :=
  let s := { s with phase := .inGraph, path := s.path ++ [graph.name] }
  let s := s.bindInputs .root graph
  let s := s.bindInitializers .root graph.initializers
  let s := s.convertNodes .root opset graph.nodes
  let s := if s.cancelled then s else s.collectOutputs .root graph.outputs
  { s with path := s.path.dropLast, phase := if s.diagnostics.isEmpty then .success else .failed }

/-- Takes in the graph of a model, if its operator set is recent enough. -/
def convertModel (s : Session) (model : Model) : Session :=
  if model.opset < s.options.minOpset then
    s.report (.model model.graph.name) (.unsupportedOpset model.opset s.options.minOpset)
  else s.convertGraph model.graph model.opset

/-- The function that was built, or everything that went wrong. -/
def finish (s : Session) : Except (List Diagnostic) Function :=
  if s.diagnostics.isEmpty then .ok (s.builder.setResults s.outputs).function else .error s.diagnostics

end Session

end ModelImport
