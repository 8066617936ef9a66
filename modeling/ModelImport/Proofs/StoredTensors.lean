import ModelImport.Proofs.RowMajor
import ModelImport.Proofs.TensorEncoding
/-!
# Which stored tensors can be read

A stored tensor is well formed when its code is that of an element type, none of its dimensions is negative, and its
payload holds as many elements of the type as the dimensions call for. `materialize_accepts_well_formed`: reading
succeeds on exactly these, with that type, those dimensions and that many elements; on any other it says what kind of
thing is wrong, and the check at its end, that there are as many elements as the shape calls for, never fails.

What one payload does is said once (`Payload.read_of_holds`, `Payload.read_of_not_holds`), and reading is that of the
payload after the checks of code and dimensions (`materialize_of_natural`).
-/

namespace ModelImport

/-! ## Codes -/

theorem ElementType.ofCode?_eq_some_iff {code : Int} {e : ElementType} :
    ElementType.ofCode? code = some e ↔ code = e.code := by
  constructor
  · intro h
    unfold ElementType.ofCode? at h
    split at h <;> cases h <;> rfl
  · rintro rfl
    exact ElementType.ofCode?_code e

theorem resolveElement_of_forall_ne {code : Int} (h : ∀ e : ElementType, code ≠ e.code) :
    resolveElement code = .error (.unsupportedElementType code) := by
  have hnone : ElementType.ofCode? code = none := by
    rw [Option.eq_none_iff_forall_ne_some]
    exact fun e he => h e (ElementType.ofCode?_eq_some_iff.mp he)
  rw [resolveElement, hnone]

/-! ## Payloads -/

/-- The typed field that the elements of a type are stored in. -/
def ElementType.field : ElementType → String
  | f32 => "float_data"
  | f64 => "double_data"
  | i64 => "int64_data"
  | u32 | u64 => "uint64_data"
  | i32 | i16 | i8 | u16 | u8 | bool | f16 | bf16 => "int32_data"

namespace Payload

variable {p : Payload} {e : ElementType} {count : Nat}

/-- Whether a payload is a typed field of numbers. -/
def isTyped : Payload → Bool
  | floats _ | int32s _ | int64s _ | doubles _ | uint64s _ => true
  | raw _ | strings _ | external _ | empty => false

/-- A payload holds `count` elements of type `e`: as bytes, in the field of the type, or nowhere if there are none. -/
def Holds (p : Payload) (e : ElementType) (count : Nat) : Prop :=
  match p with
  | raw bytes => bytes.length = count * e.size
  | empty => count = 0
  | p => p.isTyped ∧ p.field = e.field ∧ p.entries = count

instance : (p : Payload) → (e : ElementType) → (count : Nat) → Decidable (p.Holds e count)
  | raw bytes, e, count => inferInstanceAs (Decidable (bytes.length = count * e.size))
  | empty, _, count => inferInstanceAs (Decidable (count = 0))
  | floats _, _, _ | int32s _, _, _ | int64s _, _, _ | doubles _, _, _ | uint64s _, _, _ | strings _, _, _
  | external _, _, _ => inferInstanceAs (Decidable (_ ∧ _))

theorem holds_of_isTyped (hp : p.isTyped) : p.Holds e count ↔ p.field = e.field ∧ p.entries = count := by
  cases p with
  | raw _ | empty => cases hp
  | _ => exact and_iff_right hp

theorem read_of_isTyped (name : String) (hp : p.isTyped) :
    p.read name e count =
      if p.entries ≠ count then
        .error (.malformedTensorPayload name s!"{count} elements declared, payload holds {p.entries}")
      else
        match p.elements? e with
        | some values => .ok values
        | none => .error (.malformedTensorPayload name s!"{p.field} field cannot hold {e.name} elements") := by
  cases p with
  | raw _ | strings _ | external _ | empty => cases hp
  | _ => rfl

theorem elements?_isSome_iff : (p.elements? e).isSome ↔ p.field = e.field := by
  cases p <;> cases e <;> simp [elements?, field, ElementType.field]

theorem length_of_elements? {values : List e.Carrier} (h : p.elements? e = some values) :
    values.length = p.entries := by
  unfold elements? at h
  split at h <;> cases h <;> simp [entries]

theorem read_of_holds (name : String) (h : p.Holds e count) :
    ∃ values, p.read name e count = .ok values ∧ values.length = count := by
  by_cases hp : p.isTyped
  · obtain ⟨hfield, hentries⟩ := (holds_of_isTyped hp).mp h
    obtain ⟨values, hvalues⟩ := Option.isSome_iff_exists.mp (elements?_isSome_iff.mpr hfield)
    refine ⟨values, ?_, (length_of_elements? hvalues).trans hentries⟩
    rw [read_of_isTyped name hp, if_neg (not_not.mpr hentries), hvalues]
  · cases p with
    | raw bytes =>
      refine ⟨(byteGroups e.size count bytes).map e.ofBytes, if_neg (not_not.mpr h), ?_⟩
      rw [List.length_map, length_byteGroups]
    | empty =>
      have hzero : count = 0 := h
      exact ⟨[], if_neg (not_not.mpr hzero), hzero.symm⟩
    | _ => exact absurd h.1 hp

theorem head?_toDigits_ne (n : Nat) : (Nat.toDigits 10 n).head? ≠ some 'e' := by
  intro h
  have hdigit := Nat.isDigit_of_mem_toDigits (by decide) (by decide) (List.mem_of_head? h)
  exact absurd hdigit (by decide)

theorem head?_field_of_isTyped (hp : p.isTyped) : ∃ c, p.field.toList.head? = some c ∧ c ≠ 'e' := by
  cases p with
  | raw _ | strings _ | external _ | empty => cases hp
  | _ => simp [field]

/-- Any failure but that of text gives a reason, which starts with a number or with another letter than the reason that
the last check of a tensor would give. -/
theorem read_of_not_holds (name : String) (h : ¬ p.Holds e count) (htext : ∀ texts, p ≠ strings texts) :
    ∃ reason, p.read name e count = .error (.malformedTensorPayload name reason) ∧ reason.toList.head? ≠ some 'e' := by
  by_cases hp : p.isTyped
  · rw [read_of_isTyped name hp]
    rw [holds_of_isTyped hp] at h
    by_cases hentries : p.entries = count
    · have hnone : p.elements? e = none :=
        Option.not_isSome_iff_eq_none.mp fun hsome => h ⟨elements?_isSome_iff.mp hsome, hentries⟩
      obtain ⟨c, hc, hne⟩ := head?_field_of_isTyped hp
      rw [if_neg (not_not.mpr hentries), hnone]
      refine ⟨_, rfl, ?_⟩
      simp [toString, hc, hne]
    · refine ⟨_, if_pos hentries, ?_⟩
      simp [head?_toDigits_ne]
  · cases p with
    | raw bytes =>
      refine ⟨_, if_pos h, ?_⟩
      simp [head?_toDigits_ne]
    | empty =>
      refine ⟨_, if_pos h, ?_⟩
      simp [head?_toDigits_ne]
    | strings texts => exact absurd rfl (htext texts)
    | external location =>
      refine ⟨_, rfl, ?_⟩
      simp [toString]
    | _ => exact absurd rfl hp

theorem holds_of_read {name : String} {values : List e.Carrier} (h : p.read name e count = .ok values) :
    p.Holds e count ∧ values.length = count := by
  by_cases hholds : p.Holds e count
  · obtain ⟨values', hvalues', hlength⟩ := read_of_holds name hholds
    cases h.symm.trans hvalues'
    exact ⟨hholds, hlength⟩
  · by_cases htext : ∃ texts, p = strings texts
    · obtain ⟨texts, rfl⟩ := htext
      cases h
    · obtain ⟨reason, hreason, -⟩ := read_of_not_holds name hholds (not_exists.mp htext)
      cases h.symm.trans hreason

end Payload

/-! ## Tensors -/

namespace StoredTensor

variable {t : StoredTensor} {e : ElementType}

/-- The shape that the dimensions give when none of them is negative. -/
def shape (t : StoredTensor) : Shape := ⟨t.dims.map Int.toNat⟩

/-- The code is that of an element type, no dimension is negative, and the payload holds the elements. -/
def WellFormed (t : StoredTensor) : Prop :=
  ∃ e : ElementType, t.code = e.code ∧ (∀ d ∈ t.dims, 0 ≤ d) ∧ t.payload.Holds e t.shape.volume

/-- The elements are of no element type: by the code, or, where code and dimensions are in order, because they are
text. -/
def Unsupported (t : StoredTensor) : Prop :=
  (∀ e : ElementType, t.code ≠ e.code) ∨ (∀ d ∈ t.dims, 0 ≤ d) ∧ ∃ texts, t.payload = .strings texts

theorem materialize_of_code_ne (h : ∀ e : ElementType, t.code ≠ e.code) :
    t.materialize = .error (.unsupportedElementType t.code) := by
  rw [materialize, resolveElement_of_forall_ne h]
  rfl

theorem materialize_of_negative (hcode : t.code = e.code) (h : ¬ ∀ d ∈ t.dims, 0 ≤ d) :
    ∃ reason, t.materialize = .error (.malformedTensorPayload t.name reason) ∧ reason.toList.head? ≠ some 'e' := by
  obtain ⟨d, hd⟩ : ∃ d, t.dims.find? (· < 0) = some d := by
    rw [← Option.isSome_iff_exists, List.find?_isSome]
    push Not at h
    simpa using h
  rw [materialize, hcode, resolveElement_code, hd]
  refine ⟨_, rfl, ?_⟩
  simp [toString]

/-- After the checks of code and dimensions, a tensor is read as its payload is. -/
theorem materialize_of_natural (hcode : t.code = e.code) (hdims : ∀ d ∈ t.dims, 0 ≤ d) :
    t.materialize = (t.payload.read t.name e t.shape.volume).map fun values => ⟨e, ⟨values, t.shape⟩⟩ := by
  have hnone : t.dims.find? (· < 0) = none := by simpa using hdims
  have hshape : Shape.mk (t.dims.map Int.toNat) = t.shape := rfl
  simp only [materialize, hcode, resolveElement_code, hnone, hshape, bind, Except.bind]
  cases hvalues : t.payload.read t.name e t.shape.volume with
  | error err => rfl
  | ok values =>
    have hfull : Tensor.ofList? values t.shape = some ⟨values, t.shape⟩ := if_pos (Payload.holds_of_read hvalues).2
    simp only [hfull, Except.map]

theorem materialize_of_wellFormed (hcode : t.code = e.code) (hdims : ∀ d ∈ t.dims, 0 ≤ d)
    (hholds : t.payload.Holds e t.shape.volume) :
    ∃ values : List e.Carrier, t.materialize = .ok ⟨e, ⟨values, t.shape⟩⟩ ∧ values.length = t.shape.volume := by
  obtain ⟨values, hread, hlength⟩ := Payload.read_of_holds t.name hholds
  refine ⟨values, ?_, hlength⟩
  rw [materialize_of_natural hcode hdims, hread]
  rfl

/-- A tensor that is not well formed fails, as one of no element type or with a reason of its own. -/
theorem materialize_of_not_wellFormed (h : ¬ t.WellFormed) :
    (t.Unsupported ∧ ∃ code, t.materialize = .error (.unsupportedElementType code)) ∨
      (¬ t.Unsupported ∧ ∃ reason, t.materialize = .error (.malformedTensorPayload t.name reason) ∧
        reason.toList.head? ≠ some 'e') := by
  by_cases hcode : ∀ e : ElementType, t.code ≠ e.code
  · exact .inl ⟨.inl hcode, t.code, materialize_of_code_ne hcode⟩
  · obtain ⟨e, he⟩ : ∃ e : ElementType, t.code = e.code := by simpa using hcode
    by_cases hdims : ∀ d ∈ t.dims, 0 ≤ d
    · have hholds : ¬ t.payload.Holds e t.shape.volume := fun hholds => h ⟨e, he, hdims, hholds⟩
      by_cases htext : ∃ texts, t.payload = .strings texts
      · refine .inl ⟨.inr ⟨hdims, htext⟩, ElementType.textCode, ?_⟩
        obtain ⟨texts, htexts⟩ := htext
        rw [materialize_of_natural he hdims, htexts]
        rfl
      · obtain ⟨reason, hread, hreason⟩ := Payload.read_of_not_holds t.name hholds (not_exists.mp htext)
        refine .inr ⟨?_, reason, ?_, hreason⟩
        · rintro (hne | ⟨-, htext'⟩)
          · exact hcode hne
          · exact htext htext'
        · rw [materialize_of_natural he hdims, hread]
          rfl
    · refine .inr ⟨?_, materialize_of_negative he hdims⟩
      rintro (hne | ⟨hdims', -⟩)
      · exact hcode hne
      · exact hdims hdims'

theorem wellFormed_of_materialize {data : TensorData} (h : t.materialize = .ok data) : t.WellFormed := by
  by_contra hformed
  rcases materialize_of_not_wellFormed hformed with ⟨-, code, herror⟩ | ⟨-, reason, herror, -⟩
  · cases h.symm.trans herror
  · cases h.symm.trans herror

theorem map_ofNat_dims_shape (h : ∀ d ∈ t.dims, 0 ≤ d) : t.shape.dims.map Int.ofNat = t.dims := by
  have hround : ∀ d ∈ t.dims, Int.ofNat d.toNat = d := fun d hd => Int.toNat_of_nonneg (h d hd)
  rw [shape, List.map_map]
  exact (List.map_congr_left hround).trans (List.map_id' _)

end StoredTensor

theorem ElementType.size_pos (e : ElementType) : 0 < e.size := by cases e <;> decide

/-- The number of bytes in 64-bit words, wherever it fits one. -/
theorem toNat_wordVolume_mul_size {sizes : List UInt64} {e : ElementType}
    (hfits : (Shape.mk (sizes.map UInt64.toNat)).volume * e.size < Word.count) :
    (Shape.wordVolume sizes).toNat = (Shape.mk (sizes.map UInt64.toNat)).volume ∧
      (Shape.wordVolume sizes * UInt64.ofNat e.size).toNat = (Shape.mk (sizes.map UInt64.toNat)).volume * e.size := by
  constructor
  · exact Shape.toNat_wordVolume (Nat.lt_of_le_of_lt (Nat.le_mul_of_pos_right _ e.size_pos) hfits)
  · rw [Shape.wordVolume_eq, ← UInt64.ofNat_mul, UInt64.toNat_ofNat']
    exact Nat.mod_eq_of_lt hfits

/-- A stored tensor whose number of bytes fits a 64-bit word can be read exactly if it is well formed; then it has the
element type of its code, its dimensions, and as many elements as they multiply to. Otherwise it is refused, as of an
unsupported element type if its code is none or its elements are text, and as malformed in all other cases. The last
check, of the number of elements, is never the one that fails. Numbers of elements and bytes are the same in words. -/
theorem materialize_accepts_well_formed (t : StoredTensor)
    (hfits : ∀ e : ElementType, t.code = e.code → t.shape.volume * e.size < Word.count) :
    ((∃ data, t.materialize = .ok data) ↔ t.WellFormed) ∧
    (∀ data, t.materialize = .ok data →
      t.code = data.element.code ∧ data.shape.dims.map Int.ofNat = t.dims ∧
        data.tensor.values.length = data.shape.volume) ∧
    (∀ err, t.materialize = .error err →
      (err.kind = .unsupportedElementType ↔ t.Unsupported) ∧ (err.kind = .malformedTensorPayload ↔ ¬ t.Unsupported) ∧
        ∀ name, err ≠ .malformedTensorPayload name "element count mismatch") ∧
    ∀ (e : ElementType) (sizes : List UInt64), t.code = e.code → sizes.map UInt64.toNat = t.shape.dims →
      (Shape.wordVolume sizes).toNat = t.shape.volume ∧
        (Shape.wordVolume sizes * UInt64.ofNat e.size).toNat = t.shape.volume * e.size := by
  refine ⟨⟨?_, ?_⟩, ?_, ?_, ?_⟩
  · rintro ⟨data, hdata⟩
    exact StoredTensor.wellFormed_of_materialize hdata
  · rintro ⟨e, hcode, hdims, hholds⟩
    obtain ⟨values, hvalues, -⟩ := StoredTensor.materialize_of_wellFormed hcode hdims hholds
    exact ⟨_, hvalues⟩
  · intro data hdata
    obtain ⟨e, hcode, hdims, hholds⟩ := StoredTensor.wellFormed_of_materialize hdata
    obtain ⟨values, hvalues, hlength⟩ := StoredTensor.materialize_of_wellFormed hcode hdims hholds
    cases hdata.symm.trans hvalues
    exact ⟨hcode, StoredTensor.map_ofNat_dims_shape hdims, hlength⟩
  · intro err herr
    have hformed : ¬ t.WellFormed := by
      rintro ⟨e, hcode, hdims, hholds⟩
      obtain ⟨values, hvalues, -⟩ := StoredTensor.materialize_of_wellFormed hcode hdims hholds
      cases herr.symm.trans hvalues
    rcases StoredTensor.materialize_of_not_wellFormed hformed with
      ⟨hunsupported, code, herror⟩ | ⟨hsupported, reason, herror, hreason⟩
    · cases herr.symm.trans herror
      simp [ImportError.kind, hunsupported]
    · cases herr.symm.trans herror
      have hother : reason ≠ "element count mismatch" := by
        rintro rfl
        exact hreason rfl
      simp [ImportError.kind, hsupported, hother]
  · intro e sizes hcode hsizes
    have hshape : t.shape = ⟨sizes.map UInt64.toNat⟩ := by rw [hsizes]
    rw [hshape]
    exact toNat_wordVolume_mul_size (hshape ▸ hfits e hcode)

/-- A scalar is one element; no elements in the field of another type are refused, and so is text under the code of a
number. -/
theorem materialize_accepts_scalar_only :
    (∃ data, StoredTensor.materialize ⟨"w", 9, [], .int32s [2]⟩ = .ok data) ∧
      (¬ ∃ data, StoredTensor.materialize ⟨"w", 7, [0, 3], .floats []⟩ = .ok data) ∧
      ∀ err, StoredTensor.materialize ⟨"w", 1, [2], .strings [[], []]⟩ = .error err →
        err.kind = .unsupportedElementType := by
  refine ⟨?_, ?_, fun err herr => ?_⟩
  · exact (materialize_accepts_well_formed ⟨"w", 9, [], .int32s [2]⟩ fun e _ => by cases e <;> decide).1.mpr
      ⟨.bool, rfl, by decide, by decide⟩
  · rw [(materialize_accepts_well_formed ⟨"w", 7, [0, 3], .floats []⟩ fun e _ => by cases e <;> decide).1]
    rintro ⟨e, hcode, -, hholds⟩
    obtain rfl : e = .i64 := Option.some.inj ((ElementType.ofCode?_eq_some_iff.mpr hcode).symm.trans rfl)
    exact absurd hholds (by decide)
  · exact ((materialize_accepts_well_formed ⟨"w", 1, [2], .strings [[], []]⟩ fun e _ => by cases e <;> decide).2.2.1
      err herr).1.mpr (.inr ⟨by decide, _, rfl⟩)

end ModelImport
