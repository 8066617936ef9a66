import ModelImport.Diagnostic
/-!
# Reading comma-separated values

The format of comma-separated values, as a grammar (`TableText`), and a reader that goes through a text one character
at a time. The reader accepts exactly the texts of the grammar (`read_eq_some_iff`), so that a text has at most one
reading. Each character keeps what the reader holds in agreement with what it has read (`Stands.step`), which gives one
direction; the other follows the grammar, one run for each kind of part.

`report_read_back`: a report of diagnostics is such a text, and it is read as the header and one row for each
diagnostic, with every field as it was, whatever characters there are in it.
-/

namespace ModelImport

namespace Csv

/-! ## The format -/

/-- A character that may stand outside quotes. -/
def IsPlain (c : Char) : Prop := c ≠ ',' ∧ c ≠ quote ∧ c ≠ '\r' ∧ c ≠ '\n'

instance (c : Char) : Decidable (IsPlain c) := inferInstanceAs (Decidable (_ ∧ _))

/-- What stands between the quotes of a field, and its value: a quote is written twice, anything else once. -/
inductive Escapes : List Char → List Char → Prop
  | nil : Escapes [] []
  | char {c : Char} {text value : List Char} (hc : c ≠ quote) (h : Escapes text value) :
    Escapes (c :: text) (c :: value)
  | twice {text value : List Char} (h : Escapes text value) : Escapes (quote :: quote :: text) (quote :: value)

/-- A field, without quotes or in quotes. -/
inductive FieldText : List Char → String → Prop
  | plain {text : List Char} (h : ∀ c ∈ text, IsPlain c) : FieldText text (String.ofList text)
  | quoted {text value : List Char} (h : Escapes text value) :
    FieldText (quote :: text ++ [quote]) (String.ofList value)

/-- A record: one or more fields with commas between them. -/
inductive RecordText : List Char → List String → Prop
  | single {text : List Char} {value : String} (h : FieldText text value) : RecordText text [value]
  | cons {text rest : List Char} {value : String} {values : List String} (h : FieldText text value)
    (hrest : RecordText rest values) : RecordText (text ++ ',' :: rest) (value :: values)

/-- A table: records with a line end after each. The last line end may be missing, after a record that is not empty. -/
inductive TableText : List Char → List (List String) → Prop
  | nil : TableText [] []
  | last {text : List Char} {values : List String} (h : RecordText text values) (hne : text ≠ []) :
    TableText text [values]
  | line {text rest : List Char} {values : List String} {rows : List (List String)} (h : RecordText text values)
    (hrest : TableText rest rows) : TableText (text ++ '\r' :: '\n' :: rest) (values :: rows)

/-! ## The reader -/

/-- Where in a table a reader is. -/
inductive Spot where
  /-- Before a record. -/
  | line
  /-- Before a field, after a comma. -/
  | field
  /-- In a field without quotes. -/
  | plain
  /-- Between the quotes of a field. -/
  | quoted
  /-- After a quote between quotes, which ends the field unless another follows. -/
  | closed
  /-- In a line end. -/
  | ending
deriving DecidableEq, Repr

/-- Whether a field may end here. -/
def Spot.endsField : Spot → Bool
  | line | field | plain | closed => true
  | quoted | ending => false

/-- A reader: the value of the field at hand as far as it is read, the fields before it in its record, and the records
before that. -/
structure Reader where
  spot : Spot
  text : List Char
  fields : List String
  rows : List (List String)
deriving DecidableEq, Repr

namespace Reader

def start : Reader := ⟨.line, [], [], []⟩

/-- One more character of the field at hand. -/
def push (r : Reader) (spot : Spot) (c : Char) : Reader := { r with spot, text := r.text ++ [c] }

/-- The end of the field at hand. -/
def endField (r : Reader) (spot : Spot) : Reader := ⟨spot, [], r.fields ++ [String.ofList r.text], r.rows⟩

/-- What follows a field: a comma, or a line end. -/
def delimit (r : Reader) (c : Char) : Option Reader :=
  if c = ',' then some (r.endField .field) else if c = '\r' then some (r.endField .ending) else none

def step (r : Reader) (c : Char) : Option Reader :=
  match r.spot with
  | .line | .field =>
    if c = quote then some { r with spot := .quoted }
    else if IsPlain c then some (r.push .plain c) else r.delimit c
  | .plain => if IsPlain c then some (r.push .plain c) else r.delimit c
  | .quoted => some (if c = quote then { r with spot := .closed } else r.push .quoted c)
  | .closed => if c = quote then some (r.push .quoted c) else r.delimit c
  | .ending => if c = '\n' then some ⟨.line, [], [], r.rows ++ [r.fields]⟩ else none

def run (r : Reader) (text : List Char) : Option Reader := text.foldlM step r

/-- The records, where a table may end. -/
def finish (r : Reader) : Option (List (List String)) :=
  match r.spot with
  | .line => some r.rows
  | .field | .plain | .closed => some (r.rows ++ [r.fields ++ [String.ofList r.text]])
  | .quoted | .ending => none

theorem run_append (r : Reader) (text more : List Char) :
    r.run (text ++ more) = (r.run text).bind (·.run more) := List.foldlM_append

theorem run_cons (r : Reader) (c : Char) (text : List Char) : r.run (c :: text) = (r.step c).bind (·.run text) :=
  List.foldlM_cons

theorem run_cons_of_step {r next : Reader} {c : Char} (h : r.step c = some next) (text : List Char) :
    r.run (c :: text) = next.run text := by
  rw [run_cons, h, Option.bind_some]

end Reader

/-- The records of a text, if it is a table. -/
def read (text : String) : Option (List (List String)) := (Reader.start.run text.toList).bind Reader.finish

/-! ## Tables are read -/

namespace Reader
variable {fields : List String} {rows : List (List String)} {acc : List Char}

theorem run_plain {text : List Char} (h : ∀ c ∈ text, IsPlain c) :
    run ⟨.plain, acc, fields, rows⟩ text = some ⟨.plain, acc ++ text, fields, rows⟩ := by
  induction text generalizing acc with
  | nil => rw [List.append_nil]; rfl
  | cons c text ih =>
    rw [List.forall_mem_cons] at h
    have hstep : step ⟨.plain, acc, fields, rows⟩ c = some ⟨.plain, acc ++ [c], fields, rows⟩ := if_pos h.1
    rw [run_cons_of_step hstep, ih h.2, List.append_assoc, List.singleton_append]

theorem run_escapes {text value : List Char} (h : Escapes text value) :
    run ⟨.quoted, acc, fields, rows⟩ text = some ⟨.quoted, acc ++ value, fields, rows⟩ := by
  induction h generalizing acc with
  | nil => rw [List.append_nil]; rfl
  | @char c text value hc _ ih =>
    have hstep : step ⟨.quoted, acc, fields, rows⟩ c = some ⟨.quoted, acc ++ [c], fields, rows⟩ :=
      congrArg some (if_neg hc)
    rw [run_cons_of_step hstep, ih, List.append_assoc, List.singleton_append]
  | @twice text value _ ih =>
    have hfirst : step ⟨.quoted, acc, fields, rows⟩ quote = some ⟨.closed, acc, fields, rows⟩ := rfl
    have hsecond : step ⟨.closed, acc, fields, rows⟩ quote = some ⟨.quoted, acc ++ [quote], fields, rows⟩ := rfl
    rw [run_cons_of_step hfirst, run_cons_of_step hsecond, ih, List.append_assoc, List.singleton_append]

/-- The reader has a whole field, and nothing after it. -/
structure Holds (r : Reader) (value : String) (fields : List String) (rows : List (List String)) : Prop where
  spot : r.spot.endsField = true
  text : String.ofList r.text = value
  fields : r.fields = fields
  rows : r.rows = rows

section Holds
variable {r : Reader} {value : String} (h : r.Holds value fields rows)
include h

/-- A comma or a line end after a field ends it. -/
theorem Holds.delimited :
    r.step ',' = some ⟨.field, [], fields ++ [value], rows⟩ ∧
      r.step '\r' = some ⟨.ending, [], fields ++ [value], rows⟩ := by
  obtain ⟨spot, text, _, _⟩ := r
  obtain ⟨hspot, rfl, rfl, rfl⟩ := h
  cases spot with
  | quoted | ending => cases hspot
  | _ => exact ⟨rfl, rfl⟩

/-- The end of the text after a field ends its record, unless the record has not begun. -/
theorem Holds.finish (hline : r.spot ≠ .line) : r.finish = some (rows ++ [fields ++ [value]]) := by
  obtain ⟨spot, text, _, _⟩ := r
  obtain ⟨hspot, rfl, rfl, rfl⟩ := h
  cases spot with
  | quoted | ending => cases hspot
  | line => exact absurd rfl hline
  | _ => rfl

end Holds

/-- A field is read from its first character to its last. -/
theorem run_field (fields : List String) (rows : List (List String)) {spot : Spot}
    (hspot : spot = .line ∨ spot = .field) {text : List Char} {value : String} (h : FieldText text value) :
    ∃ r, run ⟨spot, [], fields, rows⟩ text = some r ∧ r.Holds value fields rows ∧
      (r.spot = .line → spot = .line ∧ text = []) := by
  cases h with
  | @plain text hplain =>
    cases text with
    | nil =>
      refine ⟨_, rfl, ⟨?_, rfl, rfl, rfl⟩, fun hline => ⟨hline, rfl⟩⟩
      rcases hspot with rfl | rfl <;> rfl
    | cons c text =>
      rw [List.forall_mem_cons] at hplain
      have hstep : step ⟨spot, [], fields, rows⟩ c = some ⟨.plain, [c], fields, rows⟩ := by
        rcases hspot with rfl | rfl <;> simp [step, push, hplain.1, hplain.1.2.1]
      refine ⟨_, (run_cons_of_step hstep text).trans (run_plain hplain.2), ⟨rfl, rfl, rfl, rfl⟩, fun hline => ?_⟩
      cases hline
  | @quoted text value hescapes =>
    have hopen : step ⟨spot, [], fields, rows⟩ quote = some ⟨.quoted, [], fields, rows⟩ := by
      rcases hspot with rfl | rfl <;> rfl
    have hclose : run ⟨.quoted, value, fields, rows⟩ [quote] = some ⟨.closed, value, fields, rows⟩ := rfl
    refine ⟨⟨.closed, value, fields, rows⟩, ?_, ⟨rfl, rfl, rfl, rfl⟩, fun hline => ?_⟩
    · rw [List.cons_append, run_cons_of_step hopen, run_append, run_escapes hescapes, List.nil_append,
        Option.bind_some, hclose]
    · cases hline

/-- A record is read up to its last field, which the reader then holds. -/
theorem run_record (fields : List String) (rows : List (List String)) {spot : Spot}
    (hspot : spot = .line ∨ spot = .field) {text : List Char} {values : List String} (h : RecordText text values) :
    ∃ r before value, run ⟨spot, [], fields, rows⟩ text = some r ∧ values = before ++ [value] ∧
      r.Holds value (fields ++ before) rows ∧ (r.spot = .line → spot = .line ∧ text = []) := by
  induction h generalizing spot fields with
  | @single text value hfield =>
    obtain ⟨r, hrun, hholds, hline⟩ := run_field fields rows hspot hfield
    exact ⟨r, [], value, hrun, rfl, by rwa [List.append_nil], hline⟩
  | @cons text rest value values hfield _ ih =>
    obtain ⟨r, hrun, hholds, -⟩ := run_field fields rows hspot hfield
    obtain ⟨r', before, last, hrun', rfl, hholds', hline⟩ := ih (fields ++ [value]) (.inr rfl)
    refine ⟨r', value :: before, last, ?_, rfl, ?_, fun hr => ?_⟩
    · rw [run_append, hrun, Option.bind_some, run_cons_of_step hholds.delimited.1, hrun']
    · rwa [List.append_assoc, List.singleton_append] at hholds'
    · cases (hline hr).1

/-- A table is read to its end. -/
theorem run_table {text : List Char} {more : List (List String)} (h : TableText text more) :
    (run ⟨.line, [], [], rows⟩ text).bind finish = some (rows ++ more) := by
  induction h generalizing rows with
  | nil => rw [List.append_nil]; rfl
  | @last text values hrecord hne =>
    obtain ⟨r, before, value, hrun, rfl, hholds, hline⟩ := run_record [] rows (.inl rfl) hrecord
    rw [hrun, Option.bind_some, hholds.finish fun hr => hne (hline hr).2, List.nil_append]
  | @line text rest values more hrecord _ ih =>
    obtain ⟨r, before, value, hrun, rfl, hholds, -⟩ := run_record [] rows (.inl rfl) hrecord
    have hend : step ⟨.ending, [], [] ++ before ++ [value], rows⟩ '\n' =
        some ⟨.line, [], [], rows ++ [before ++ [value]]⟩ := rfl
    rw [run_append, hrun, Option.bind_some, run_cons_of_step hholds.delimited.2, run_cons_of_step hend, ih,
      List.append_assoc, List.singleton_append]

end Reader

/-! ## Only tables are read -/

theorem Escapes.append {text value more moreValue : List Char} (h : Escapes text value)
    (hmore : Escapes more moreValue) : Escapes (text ++ more) (value ++ moreValue) := by
  induction h with
  | nil => exact hmore
  | char hc _ ih => exact .char hc ih
  | twice _ ih => exact .twice ih

/-- Whole lines: with any table after them they are a table. -/
def Lines (text : List Char) (rows : List (List String)) : Prop :=
  ∀ {rest more}, TableText rest more → TableText (text ++ rest) (rows ++ more)

/-- The front of a record, up to a comma: with any record after it, it is a record. -/
def Front (text : List Char) (fields : List String) : Prop :=
  ∀ {rest values}, RecordText rest values → RecordText (text ++ rest) (fields ++ values)

/-- What has been read of a field at a spot, and its value as far as it goes. -/
inductive Part : Spot → List Char → List Char → Prop
  | field : Part .field [] []
  | plain {text : List Char} (h : ∀ c ∈ text, IsPlain c) : Part .plain text text
  | quoted {text value : List Char} (h : Escapes text value) : Part .quoted (quote :: text) value
  | closed {text value : List Char} (h : Escapes text value) : Part .closed (quote :: text ++ [quote]) value

theorem Part.fieldText {spot : Spot} {part value : List Char} (h : Part spot part value)
    (hspot : spot.endsField = true) : FieldText part (String.ofList value) := by
  cases h with
  | field => exact .plain (List.forall_mem_nil _)
  | plain h => exact .plain h
  | quoted => cases hspot
  | closed h => exact .quoted h

section Parts
variable {lines record front part : List Char} {rows : List (List String)} {fields : List String}

theorem Lines.snoc (h : Lines lines rows) (hrecord : RecordText record fields) :
    Lines (lines ++ (record ++ ['\r']) ++ ['\n']) (rows ++ [fields]) := by
  intro rest more hrest
  have htable := h (.line hrecord hrest)
  simpa using htable

theorem Front.snoc {value : String} (h : Front front fields) (hfield : FieldText part value) :
    Front (front ++ part ++ [',']) (fields ++ [value]) := by
  intro rest values hrest
  have hrecord := h (.cons hfield hrest)
  simpa using hrecord

namespace Reader

/-- What the reader holds agrees with what it has read. -/
inductive Stands : Reader → List Char → Prop
  | line {lines : List Char} {rows : List (List String)} (h : Lines lines rows) :
    Stands ⟨.line, [], [], rows⟩ lines
  | field {lines front part value : List Char} {spot : Spot} {fields : List String} {rows : List (List String)}
    (h : Lines lines rows) (hfront : Front front fields) (hpart : Part spot part value) (hne : front ++ part ≠ []) :
    Stands ⟨spot, value, fields, rows⟩ (lines ++ (front ++ part))
  | ending {lines record : List Char} {fields : List String} {rows : List (List String)} (h : Lines lines rows)
    (hrecord : RecordText record fields) : Stands ⟨.ending, [], fields, rows⟩ (lines ++ (record ++ ['\r']))

/-- A field that ends agrees with the comma or line end that ends it. -/
theorem stands_delimit {spot : Spot} {value : List Char} {c : Char} {next : Reader} (h : Lines lines rows)
    (hfront : Front front fields) (hfield : FieldText part (String.ofList value))
    (hnext : delimit ⟨spot, value, fields, rows⟩ c = some next) : next.Stands (lines ++ (front ++ part) ++ [c]) := by
  unfold delimit at hnext
  split at hnext
  · next hc =>
    cases hnext
    subst hc
    have hstands := Stands.field h (hfront.snoc hfield) .field (by simp)
    simpa [endField] using hstands
  · split at hnext
    · next hc =>
      cases hnext
      subst hc
      have hstands := Stands.ending h (hfront (.single hfield))
      simpa [endField] using hstands
    · cases hnext

/-- A character more of a field, or one that ends it, keeps the agreement. -/
theorem stands_step_field {spot : Spot} {value : List Char} {c : Char} {next : Reader} (h : Lines lines rows)
    (hfront : Front front fields) (hpart : Part spot part value)
    (hnext : step ⟨spot, value, fields, rows⟩ c = some next) : next.Stands (lines ++ (front ++ part) ++ [c]) := by
  -- the part of the field grows by the character
  have hgrows : ∀ {spot value}, Part spot (part ++ [c]) value →
      Stands ⟨spot, value, fields, rows⟩ (lines ++ (front ++ part) ++ [c]) := by
    intro spot value hpart
    have hstands := Stands.field h hfront hpart (by simp)
    simpa using hstands
  cases hpart with
  | field =>
    simp only [step] at hnext
    split at hnext
    · next hc =>
      cases hnext
      exact hgrows (hc ▸ .quoted .nil)
    · split at hnext
      · next hc =>
        cases hnext
        exact hgrows (.plain (by simpa using hc))
      · exact stands_delimit h hfront (Part.field.fieldText rfl) hnext
  | plain hplain =>
    simp only [step] at hnext
    split at hnext
    · next hc =>
      cases hnext
      refine hgrows (.plain fun d hd => ?_)
      rcases List.mem_append.1 hd with hd | hd
      · exact hplain d hd
      · exact List.mem_singleton.1 hd ▸ hc
    · exact stands_delimit h hfront ((Part.plain hplain).fieldText rfl) hnext
  | quoted hescapes =>
    simp only [step, Option.some.injEq] at hnext
    subst hnext
    split
    · next hc => exact hgrows (hc ▸ .closed hescapes)
    · next hc => exact hgrows (.quoted (hescapes.append (.char hc .nil)))
  | @closed text _ hescapes =>
    simp only [step] at hnext
    split at hnext
    · next hc =>
      cases hnext
      subst hc
      have hpart := Part.quoted (hescapes.append (.twice .nil))
      exact hgrows (by simpa using hpart)
    · exact stands_delimit h hfront ((Part.closed hescapes).fieldText rfl) hnext

theorem Stands.step {r next : Reader} {text : List Char} {c : Char} (h : r.Stands text) (hnext : r.step c = some next) :
    next.Stands (text ++ [c]) := by
  cases h with
  | line h =>
    -- before a record is before a field, with nothing in front of it
    have hfront : Front [] [] := id
    have hstands := stands_step_field h hfront .field hnext
    simpa using hstands
  | field h hfront hpart _ => exact stands_step_field h hfront hpart hnext
  | ending h hrecord =>
    simp only [Reader.step] at hnext
    split at hnext
    · next hc =>
      cases hnext
      subst hc
      exact .line (h.snoc hrecord)
    · cases hnext

theorem Stands.run {r last : Reader} {text more : List Char} (h : r.Stands text) (hlast : r.run more = some last) :
    last.Stands (text ++ more) := by
  induction more generalizing r text with
  | nil =>
    cases hlast
    rwa [List.append_nil]
  | cons c more ih =>
    rw [run_cons, Option.bind_eq_some_iff] at hlast
    obtain ⟨next, hnext, hlast⟩ := hlast
    have hstands := ih (h.step hnext) hlast
    rwa [List.append_assoc, List.singleton_append] at hstands

theorem Stands.finish {r : Reader} {text : List Char} {table : List (List String)} (h : r.Stands text)
    (htable : r.finish = some table) : TableText text table := by
  cases h with
  | line h =>
    cases htable
    simpa using h .nil
  | field h hfront hpart hne =>
    have hspot := hpart.fieldText
    cases hpart with
    | quoted => cases htable
    | _ =>
      cases htable
      exact h (.last (hfront (.single (hspot rfl))) hne)
  | ending => cases htable

end Reader

end Parts

/-- Exactly the tables are read. -/
theorem read_eq_some_iff {text : String} {table : List (List String)} :
    read text = some table ↔ TableText text.toList table := by
  constructor
  · intro h
    obtain ⟨last, hlast, htable⟩ := Option.bind_eq_some_iff.1 h
    have hstart : Reader.start.Stands [] := .line id
    exact (hstart.run hlast).finish htable
  · intro h
    exact Reader.run_table h

/-- A quote, a comma and a line end between quotes; a quote outside them is refused. -/
example : read "a,\"b\"\",\r\n\"\r\n,\r\n" = some [["a", "b\",\r\n"], ["", ""]] ∧ read "a\"\r\n" = none := by
  decide +kernel

/-! ## What is written is a table -/

theorem escapes_doubleQuotes (text : List Char) : Escapes (doubleQuotes text) text := by
  induction text with
  | nil => exact .nil
  | cons c text ih =>
    unfold doubleQuotes
    split
    · next hc => exact hc ▸ .twice ih
    · next hc => exact .char hc ih

theorem fieldText_field (text : String) : FieldText (field text) text := by
  unfold field
  split
  · have hfield := FieldText.quoted (escapes_doubleQuotes text.toList)
    rwa [String.ofList_toList] at hfield
  · next hplain =>
    have hfield : FieldText text.toList (String.ofList text.toList) := by
      refine .plain fun c hc => ?_
      have hc : isSpecial c = false := by simpa using fun hspecial => hplain (List.any_eq_true.2 ⟨c, hc, hspecial⟩)
      simpa [isSpecial, IsPlain, and_assoc] using hc
    rwa [String.ofList_toList] at hfield

theorem recordText_intercalate {fields : List String} (h : fields ≠ []) :
    RecordText ([','].intercalate (fields.map field)) fields := by
  induction fields with
  | nil => exact absurd rfl h
  | cons value fields ih =>
    cases fields with
    | nil => exact .single (by simpa using fieldText_field value)
    | cons next fields =>
      have hrecord := RecordText.cons (fieldText_field value) (ih (List.cons_ne_nil next fields))
      simpa [List.intercalate_cons_cons] using hrecord

/-- Rows of at least one field are written as a table of themselves. -/
theorem tableText_write {rows : List (List String)} (h : ∀ fields ∈ rows, fields ≠ []) :
    TableText (write rows).toList rows := by
  rw [write, String.toList_ofList]
  induction rows with
  | nil => exact .nil
  | cons fields rows ih =>
    rw [List.forall_mem_cons] at h
    have htable := TableText.line (recordText_intercalate h.1) (ih h.2)
    simpa [row] using htable

end Csv

/-- The graph path and the node name have a slash between them if neither is empty. -/
theorem Place.column_eq (p : Place) :
    p.column = if p.graph ≠ "" ∧ p.node ≠ "" then p.graph ++ "/" ++ p.node else p.graph ++ p.node := by
  unfold column
  by_cases hnode : p.node = ""
  · simp [hnode]
  · by_cases hgraph : p.graph = ""
    · simp [hnode, hgraph]
    · simp [hnode, hgraph]
      rfl

/-- A report is read as its header and one row of four fields for each diagnostic, in order, with the fields as they
are, and it has no other reading. -/
theorem report_read_back (ds : List Diagnostic) :
    let table := ["node", "op_type", "kind", "message"] :: ds.map fun d =>
      [if d.place.graph ≠ "" ∧ d.place.node ≠ "" then d.place.graph ++ "/" ++ d.place.node
        else d.place.graph ++ d.place.node, d.place.opType, d.kind.name, d.message]
    Csv.read (Diagnostic.report ds) = some table ∧
      ∀ other, Csv.TableText (Diagnostic.report ds).toList other ↔ other = table := by
  intro table
  have hrows : Diagnostic.header :: ds.map Diagnostic.row = table := by
    refine congrArg (List.cons _) (List.map_congr_left fun d _ => ?_)
    rw [Diagnostic.row, Place.column_eq]
  have htable : Csv.TableText (Diagnostic.report ds).toList table := by
    rw [Diagnostic.report, hrows]
    apply Csv.tableText_write
    simp [table]
  have hread := Csv.read_eq_some_iff.2 htable
  refine ⟨hread, fun other => ?_⟩
  rw [← Csv.read_eq_some_iff, hread, Option.some.injEq, eq_comm]

end ModelImport
