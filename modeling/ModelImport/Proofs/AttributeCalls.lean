import ModelImport.Attribute.View
/-!
# Calls on a view of attributes

A view answers calls in any order and number. It remembers reads, and nothing else in it changes: so a read is answered
as on a fresh view, by what is stored under its key alone, and the keys that are left unread are those that no read has
named, whatever its answer was (`attribute_calls_exact`). What a call does to the view is said once, in `perform_eq`,
and for any sequence of calls in `bag_after` and `mem_reads_after`.
-/

namespace ModelImport

/-! ## Values of a kind -/

namespace AttributeValue

/-- The attribute value that stores a value of the given kind. -/
def of : (k : AttributeKind) → k.Carrier → AttributeValue
  | .int, v => int v
  | .float, v => float v
  | .string, v => string v
  | .tensor, v => tensor v
  | .graph, v => graph v
  | .ints, v => ints v
  | .floats, v => floats v
  | .strings, v => strings v
  | .tensors, v => tensors v
  | .graphs, v => graphs v

/-- Every value is stored under its own kind. -/
theorem exists_eq_of (stored : AttributeValue) : ∃ value, stored = of stored.kind value := by
  cases stored <;> exact ⟨_, rfl⟩

theorem as?_of (k : AttributeKind) (value : k.Carrier) : (of k value).as? k = some value := by
  cases k <;> rfl

/-- A value is not read as one of another kind. -/
theorem as?_of_kind_ne {stored : AttributeValue} {k : AttributeKind} (h : stored.kind ≠ k) : stored.as? k = none := by
  unfold as?
  split
  case h_11 => rfl
  all_goals exact absurd rfl h

end AttributeValue

/-! ## Keys of a bag -/

theorem nodup_eraseDups (names : List String) : names.eraseDups.Nodup := by
  cases names with
  | nil => exact .nil
  | cons name rest =>
    rw [List.eraseDups_cons, List.nodup_cons, List.mem_eraseDups]
    exact ⟨by simp, nodup_eraseDups _⟩
termination_by names.length
decreasing_by exact Nat.lt_succ_of_le (List.length_filter_le _ _)

namespace AttributeBag

theorem nodup_keys (bag : AttributeBag) : (keys bag).Nodup := nodup_eraseDups _

theorem mem_keys_iff {bag : AttributeBag} {key : String} : key ∈ keys bag ↔ find? bag key ≠ none := by
  unfold keys find?
  rw [List.mem_eraseDups, ne_eq, Option.map_eq_none_iff, List.find?_eq_none]
  simp

theorem contains_iff {bag : AttributeBag} {key : String} : contains bag key = true ↔ find? bag key ≠ none := by
  rw [contains, Option.isSome_iff_ne_none]

end AttributeBag

/-! ## Calls -/

/-- Something asked of a view. -/
inductive AttributeCall where
  | get (k : AttributeKind) (key : String)
  | getOr (k : AttributeKind) (key : String) (default : k.Carrier)
  | required (k : AttributeKind) (key : String)
  | contains (key : String)
  | unread

/-- The key that a call reads. -/
def AttributeCall.reads? : AttributeCall → Option String
  | get _ key | getOr _ key _ | required _ key => some key
  | contains _ | unread => none

namespace AttributeView

/-- The view after a call. -/
def perform (v : AttributeView) : AttributeCall → AttributeView
  | .get k key => (v.get k key).2
  | .getOr k key default => (v.getOr k key default).2
  | .required k key => (v.required k key).2
  | .contains _ | .unread => v

/-- The view after calls made one after another. -/
def after (v : AttributeView) (calls : List AttributeCall) : AttributeView := calls.foldl perform v

/-- Whatever it answers, a call that reads is noted, and no other call is. -/
theorem perform_eq (v : AttributeView) (call : AttributeCall) : v.perform call = (call.reads?.map v.note).getD v := by
  cases call <;> rfl

@[simp] theorem bag_note (v : AttributeView) (key : String) : (v.note key).bag = v.bag := by
  unfold note
  split <;> rfl

/-- A read is noted if its key is stored. -/
theorem mem_reads_note {v : AttributeView} {key other : String} :
    other ∈ (v.note key).reads ↔ other ∈ v.reads ∨ key = other ∧ v.contains other = true := by
  unfold note
  split
  · next h =>
    rw [List.mem_cons]
    constructor
    · rintro (rfl | hold)
      · exact .inr ⟨rfl, h⟩
      · exact .inl hold
    · rintro (hold | ⟨rfl, -⟩)
      · exact .inr hold
      · exact .inl rfl
  · next h =>
    constructor
    · exact .inl
    · rintro (hold | ⟨rfl, hstored⟩)
      · exact hold
      · exact absurd hstored h

theorem bag_perform (v : AttributeView) (call : AttributeCall) : (v.perform call).bag = v.bag := by
  rw [perform_eq]
  cases call.reads? <;> simp

theorem mem_reads_perform {v : AttributeView} {call : AttributeCall} {key : String} :
    key ∈ (v.perform call).reads ↔ key ∈ v.reads ∨ call.reads? = some key ∧ v.contains key = true := by
  rw [perform_eq]
  cases call.reads? with
  | none => simp
  | some read =>
    rw [Option.map_some, Option.getD_some, mem_reads_note, Option.some.injEq]

theorem bag_after (v : AttributeView) (calls : List AttributeCall) : (v.after calls).bag = v.bag := by
  induction calls generalizing v with
  | nil => rfl
  | cons call calls ih => exact (ih _).trans (bag_perform v call)

/-- The reads that a view remembers are those of stored keys that some call has named. -/
theorem mem_reads_after {v : AttributeView} {calls : List AttributeCall} {key : String} :
    key ∈ (v.after calls).reads ↔
      key ∈ v.reads ∨ (∃ call ∈ calls, call.reads? = some key) ∧ v.contains key = true := by
  induction calls generalizing v with
  | nil => simp [after]
  | cons call calls ih =>
    have hcontains : (v.perform call).contains key = v.contains key := by
      rw [contains, bag_perform, contains]
    have hstep : key ∈ (v.after (call :: calls)).reads ↔ key ∈ ((v.perform call).after calls).reads := Iff.rfl
    have hnamed : (∃ other ∈ call :: calls, other.reads? = some key) ↔
        call.reads? = some key ∨ ∃ other ∈ calls, other.reads? = some key := by simp
    rw [hstep, ih, mem_reads_perform, hcontains, hnamed, or_assoc, ← or_and_right]

/-! ## Answers -/

section Answers
variable {v : AttributeView} {key : String}

theorem value_congr {w : AttributeView} (h : v.bag = w.bag) (k : AttributeKind) (key : String) :
    v.value k key = w.value k key := by
  rw [value, value, h]

theorem value_absent (h : AttributeBag.find? v.bag key = none) (k : AttributeKind) : v.value k key = .ok none := by
  rw [value, h]

theorem value_stored {k : AttributeKind} {value : k.Carrier}
    (h : AttributeBag.find? v.bag key = some (.of k value)) : v.value k key = .ok (some value) := by
  simp only [AttributeView.value, h, AttributeValue.as?_of]

theorem value_mismatch {k : AttributeKind} {stored : AttributeValue} (h : AttributeBag.find? v.bag key = some stored)
    (hk : stored.kind ≠ k) : v.value k key = .error (.attributeTypeMismatch key k stored.kind) := by
  simp only [value, h, AttributeValue.as?_of_kind_ne hk]

/-- A read fails only for a value of another kind. -/
theorem kind_ne_of_error {k : AttributeKind} {e : ImportError} (h : v.value k key = .error e) :
    ∃ stored, AttributeBag.find? v.bag key = some stored ∧ stored.kind ≠ k := by
  cases hfind : AttributeBag.find? v.bag key with
  | none => cases (value_absent hfind k).symm.trans h
  | some stored =>
    refine ⟨stored, rfl, ?_⟩
    rintro rfl
    obtain ⟨value, hvalue⟩ := AttributeValue.exists_eq_of stored
    cases (value_stored (hfind.trans (congrArg some hvalue))).symm.trans h

/-- The three reads of an attribute that is there or absent. -/
theorem reads_of_ok {k : AttributeKind} {found : Option k.Carrier} (h : v.value k key = .ok found) :
    (v.get k key).1 = .ok found ∧ (∀ default, (v.getOr k key default).1 = .ok (found.getD default)) ∧
      (v.required k key).1 = (found.map .ok).getD (.error (.missingAttribute key)) := by
  refine ⟨h, fun default => ?_, ?_⟩
  · rw [getOr, h]
    rfl
  · rw [required, h]
    cases found <;> rfl

/-- The three reads of an attribute that cannot be read fail alike, whether there is a default or not. -/
theorem reads_of_error {k : AttributeKind} {e : ImportError} (h : v.value k key = .error e) :
    (v.get k key).1 = .error e ∧ (∀ default, (v.getOr k key default).1 = .error e) ∧
      (v.required k key).1 = .error e := by
  refine ⟨h, fun default => ?_, ?_⟩
  · rw [getOr, h]
    rfl
  · rw [required, h]
    rfl

theorem mem_unread_iff :
    key ∈ v.unread ↔ AttributeBag.find? v.bag key ≠ none ∧ key ∉ v.reads := by
  rw [unread, Text.mem_sortNames, List.mem_filter, AttributeBag.mem_keys_iff]
  simp

/-- On a view that starts fresh, the keys left unread are those of the bag that no call has read. -/
theorem mem_unread_after {bag : AttributeBag} {calls : List AttributeCall} :
    key ∈ ((ofBag bag).after calls).unread ↔
      AttributeBag.find? bag key ≠ none ∧ ∀ call ∈ calls, call.reads? ≠ some key := by
  rw [mem_unread_iff, bag_after, mem_reads_after]
  refine and_congr_right fun hstored => ?_
  have hcontains : (ofBag bag).contains key = true := AttributeBag.contains_iff.2 hstored
  have hfresh : key ∉ (ofBag bag).reads := List.not_mem_nil
  rw [hcontains, or_iff_right hfresh, and_iff_left rfl]
  exact ⟨fun h call hcall hread => h ⟨call, hcall, hread⟩, fun h ⟨call, hcall, hread⟩ => h call hcall hread⟩

theorem unread_strict (v : AttributeView) : v.unread.Pairwise (· < ·) :=
  Text.sortNames_strict ((AttributeBag.nodup_keys v.bag).filter _)

end Answers

end AttributeView

/-- After any calls on a view of a bag, a read is answered as if it were the first. An absent key gives nothing, the
default or a failure; a value of the requested kind is returned as it is stored; a value of another kind is a mismatch
that names the key and both kinds. The keys left unread are, in strictly increasing order, those of the bag that no call
has read. -/
theorem attribute_calls_exact (bag : AttributeBag) (earlier : List AttributeCall) :
    let view := (AttributeView.ofBag bag).after earlier
    (∀ k key, (view.get k key).1 = ((AttributeView.ofBag bag).get k key).1 ∧
      (∀ default, (view.getOr k key default).1 = ((AttributeView.ofBag bag).getOr k key default).1) ∧
      (view.required k key).1 = ((AttributeView.ofBag bag).required k key).1) ∧
    (∀ k key, AttributeBag.find? bag key = none →
      (view.get k key).1 = .ok none ∧
      (∀ default, (view.getOr k key default).1 = .ok default) ∧
      (view.required k key).1 = .error (.missingAttribute key)) ∧
    (∀ k key stored, AttributeBag.find? bag key = some stored → stored.kind = k →
      ∃ value, stored = .of k value ∧
        (view.get k key).1 = .ok (some value) ∧
        (∀ default, (view.getOr k key default).1 = .ok value) ∧
        (view.required k key).1 = .ok value) ∧
    (∀ k key stored, AttributeBag.find? bag key = some stored → stored.kind ≠ k →
      (view.get k key).1 = .error (.attributeTypeMismatch key k stored.kind) ∧
      (∀ default, (view.getOr k key default).1 = .error (.attributeTypeMismatch key k stored.kind)) ∧
      (view.required k key).1 = .error (.attributeTypeMismatch key k stored.kind)) ∧
    (∀ key, view.contains key = true ↔ AttributeBag.find? bag key ≠ none) ∧
    view.unread.Pairwise (· < ·) ∧
    ∀ key, key ∈ view.unread ↔
      AttributeBag.find? bag key ≠ none ∧ ∀ call ∈ earlier, call.reads? ≠ some key := by
  intro view
  have hbag : view.bag = bag := AttributeView.bag_after _ earlier
  have hsame : ∀ k key, view.value k key = (AttributeView.ofBag bag).value k key := AttributeView.value_congr hbag
  refine ⟨fun k key => ?_, fun k key h => ?_, ?_, fun k key stored h hk => ?_, fun key => ?_,
    view.unread_strict, fun key => ?_⟩
  · simp only [AttributeView.get, AttributeView.getOr, AttributeView.required, hsame, implies_true, and_self]
  · exact AttributeView.reads_of_ok (AttributeView.value_absent (hbag ▸ h) k)
  · rintro _ key stored h rfl
    obtain ⟨value, hstored⟩ := stored.exists_eq_of
    rw [hstored] at h
    exact ⟨value, hstored, AttributeView.reads_of_ok (AttributeView.value_stored (hbag ▸ h))⟩
  · exact AttributeView.reads_of_error (AttributeView.value_mismatch (hbag ▸ h) hk)
  · rw [AttributeView.contains, hbag, AttributeBag.contains_iff]
  · exact AttributeView.mem_unread_after

/-- A node with three attributes, on which a read fails and a key that is not there is read. -/
def readPartly : AttributeBag × List AttributeCall :=
  ([("mode", .string "constant"), ("axis", .int 1), ("keepdims", .int 0)],
    [.required .ints "axis", .contains "mode", .unread, .getOr .int "missing" 7])

theorem readPartly_answers :
    let view := (AttributeView.ofBag readPartly.1).after readPartly.2
    (view.getOr .ints "axis" [2]).1 = .error (.attributeTypeMismatch "axis" .ints .int) ∧
      (view.get .int "axis").1 = .ok (some 1) ∧ (view.required .int "missing").1 = .error (.missingAttribute "missing") ∧
      "mode" ∈ view.unread ∧ "axis" ∉ view.unread := by
  have haxis : AttributeBag.find? readPartly.1 "axis" = some (.int 1) := by rfl
  have hmissing : AttributeBag.find? readPartly.1 "missing" = none := by rfl
  have hmode : AttributeBag.find? readPartly.1 "mode" = some (.string "constant") := by rfl
  obtain ⟨-, habsent, hstored, hmismatch, -, -, hunread⟩ := attribute_calls_exact readPartly.1 readPartly.2
  obtain ⟨value, hvalue, hget, -, -⟩ := hstored .int "axis" _ haxis rfl
  obtain rfl : (1 : Int) = value := AttributeValue.int.inj hvalue
  refine ⟨(hmismatch .ints "axis" _ haxis (by decide)).2.1 [2], hget, (habsent .int "missing" hmissing).2.2, ?_, ?_⟩
  · refine (hunread "mode").2 ⟨by rw [hmode]; exact Option.some_ne_none _, ?_⟩
    decide
  · intro hmem
    exact ((hunread "axis").1 hmem).2 (.required .ints "axis") (List.mem_cons_self ..) rfl

end ModelImport
