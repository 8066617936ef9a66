import ModelImport.Error
import ModelImport.Text.Csv
/-!
# Diagnostics and warnings

A diagnostic is a failure with the place where it happened. A failed import carries all its diagnostics in the order
in which they were found; `Diagnostic.report` is the same list as a table of comma-separated values. Warnings concern
attributes that had no effect and never make an import fail.
-/

namespace ModelImport

/-- The place of a failure. -/
structure Place where
  /-- The names of the enclosing graphs, outermost first, joined by slashes. -/
  graph : String
  /-- The display name of the node, or the name of a value. -/
  node : String
  /-- The operator; `<input>`, `<initializer>` and `<output>` stand for values that are not nodes. -/
  opType : String
deriving DecidableEq, Repr, Inhabited

namespace Place

/-- The place of a failure that belongs to no node. -/
def model (source : String) : Place := ⟨source, "", ""⟩

def text (p : Place) : String :=
  if p.node = "" then s!"graph `{p.graph}`"
  else if p.opType = "" then s!"value `{p.node}` in graph `{p.graph}`"
  else s!"node `{p.node}` ({p.opType}) in graph `{p.graph}`"

/-- The graph path joined with the node name. -/
def column (p : Place) : String :=
  if p.node = "" then p.graph else if p.graph = "" then p.node else s!"{p.graph}/{p.node}"

end Place

structure Diagnostic where
  place : Place
  error : ImportError
deriving DecidableEq, Repr, Inhabited

namespace Diagnostic

def kind (d : Diagnostic) : ErrorKind := d.error.kind

def message (d : Diagnostic) : String := d.error.message

def text (d : Diagnostic) : String := s!"{d.place.text}: [{d.kind.name}] {d.message}"

/-- The row of a diagnostic in a report. -/
def row (d : Diagnostic) : List String := [d.place.column, d.place.opType, d.kind.name, d.message]

/-- The header row of a report. -/
def header : List String := ["node", "op_type", "kind", "message"]

/-- The diagnostics as comma-separated values, under a header row. -/
def report (ds : List Diagnostic) : String := Csv.write (header :: ds.map row)

/-- The one-line account of a failed import. -/
def summary (ds : List Diagnostic) : String := s!"conversion failed with {ds.length} error(s)"

end Diagnostic

/-- An attribute that has no effect on the result. -/
inductive Warning where
  /-- Left out while decoding, for its unsupported type code. -/
  | droppedAttribute (node opType key : String) (code : Int)
  /-- Never read by the converter of its node. -/
  | ignoredAttribute (node opType key : String)
deriving DecidableEq, Repr, Inhabited

namespace Warning

def message : Warning → String
  | droppedAttribute node opType key code =>
    s!"node `{node}` ({opType}): dropping attribute `{key}` of unsupported type {code}"
  | ignoredAttribute node opType key => s!"{node} ({opType}): attribute `{key}` was ignored"

end Warning

end ModelImport
