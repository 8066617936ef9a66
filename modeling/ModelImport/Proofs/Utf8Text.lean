import ModelImport.Text.Utf8
/-!
# Writing UTF-8

What is written as UTF-8 is read back: the bytes of a character, whatever follows them, are read as that character and
nothing more (`pieces_encodeChar`), so that no text is changed by writing and reading it (`decodeLossy_encode`).
-/

namespace ModelImport.Utf8

/-- The bytes of a text. -/
def encode (text : String) : List UInt8 := text.toList.flatMap String.utf8EncodeChar

/-! ## The bytes of one character -/

section Character
variable {bits more least greatest : Nat} (rest : List UInt8)

theorem trail_zero : trail bits 0 least greatest rest = (some (Char.ofNat bits), rest) := by
  cases rest <;> simp [trail]

/-- A byte in range adds six bits to a character. -/
theorem trail_succ {payload : Nat} (hpayload : payload < 64) (hleast : least ≤ payload + 0x80)
    (hgreatest : payload + 0x80 ≤ greatest) :
    trail bits (more + 1) least greatest (UInt8.ofNat (payload + 0x80) :: rest) =
      trail (bits * 64 + payload) more 0x80 0xbf rest := by
  have hbyte : (UInt8.ofNat (payload + 0x80)).toNat = payload + 0x80 := by
    rw [UInt8.toNat_ofNat']
    omega
  rw [trail, if_neg (Nat.succ_ne_zero more), hbyte, Nat.add_sub_cancel, Nat.add_sub_cancel, if_pos]
  simp [hleast, hgreatest]

/-- The bytes that begin a character of three bytes; the first and the fourteenth of them restrict the byte to come. -/
theorem lead_three (high next : Nat) (hhigh : high < 16) (hnext : next < 64) (hfirst : high = 0 → 32 ≤ next)
    (hsurrogate : high = 13 → next < 32) :
    ∃ least greatest, lead (high + 0xe0) = some ⟨high, 2, least, greatest⟩ ∧
      least ≤ next + 0x80 ∧ next + 0x80 ≤ greatest := by
  by_cases h0 : high = 0
  · subst h0
    exact ⟨0xa0, 0xbf, rfl, by have := hfirst rfl; omega, by omega⟩
  by_cases h13 : high = 13
  · subst h13
    exact ⟨0x80, 0x9f, rfl, by omega, by have := hsurrogate rfl; omega⟩
  · refine ⟨0x80, 0xbf, ?_, by omega, by omega⟩
    unfold lead
    simp only [Bool.and_eq_true, decide_eq_true_eq]
    iterate 4 rw [if_neg (by omega)]
    rw [if_pos (by omega), Nat.add_sub_cancel]

/-- The bytes that begin a character of four bytes; the first and the last of them restrict the byte to come. -/
theorem lead_four (high next : Nat) (hhigh : high < 5) (hnext : next < 64) (hfirst : high = 0 → 16 ≤ next)
    (hlast : high = 4 → next < 16) :
    ∃ least greatest, lead (high + 0xf0) = some ⟨high, 3, least, greatest⟩ ∧
      least ≤ next + 0x80 ∧ next + 0x80 ≤ greatest := by
  by_cases h0 : high = 0
  · subst h0
    exact ⟨0x90, 0xbf, rfl, by have := hfirst rfl; omega, by omega⟩
  by_cases h4 : high = 4
  · subst h4
    exact ⟨0x80, 0x8f, rfl, by omega, by have := hlast rfl; omega⟩
  · refine ⟨0x80, 0xbf, ?_, by omega, by omega⟩
    unfold lead
    simp only [Bool.and_eq_true, decide_eq_true_eq]
    iterate 6 rw [if_neg (by omega)]
    rw [if_pos (by omega), Nat.add_sub_cancel]

theorem pieces_cons_of_lead {byte : Nat} (hbyte : byte < 256) (hlead : lead byte = some ⟨bits, more, least, greatest⟩) :
    pieces (UInt8.ofNat byte :: rest) =
      (trail bits more least greatest rest).1 :: pieces (trail bits more least greatest rest).2 := by
  have hnat : (UInt8.ofNat byte).toNat = byte := by
    rw [UInt8.toNat_ofNat']
    omega
  rw [pieces, step, hnat, hlead]

/-- The bytes of a character are read as that character, and what follows them is read as it would be alone. -/
theorem pieces_encodeChar (c : Char) : pieces (String.utf8EncodeChar c ++ rest) = some c :: pieces rest := by
  have hvalid : c.val.toNat < 0xd800 ∨ 0xdfff < c.val.toNat ∧ c.val.toNat < 0x110000 := c.valid
  have hc : Char.ofNat c.val.toNat = c := Char.ofNat_toNat c
  simp only [String.utf8EncodeChar]
  generalize c.val.toNat = n at hvalid hc ⊢
  split
  · have hlead : lead n = some ⟨n, 0, 0x80, 0xbf⟩ := if_pos (by assumption)
    rw [List.singleton_append, pieces_cons_of_lead rest (by omega) hlead, trail_zero, hc]
  split
  · have hlead : lead (n / 64 % 32 + 0xc0) = some ⟨n / 64 % 32, 1, 0x80, 0xbf⟩ := by
      unfold lead
      simp only [Bool.and_eq_true, decide_eq_true_eq]
      rw [if_neg (by omega), if_pos (by omega), Nat.add_sub_cancel]
    have hn : n / 64 % 32 * 64 + n % 64 = n := by omega
    rw [List.cons_append, pieces_cons_of_lead _ (by omega) hlead, List.singleton_append,
      trail_succ rest (by omega) (by omega) (by omega), trail_zero, hn, hc]
  split
  · obtain ⟨least, greatest, hlead, hleast, hgreatest⟩ :=
      lead_three (n / 4096 % 16) (n / 64 % 64) (by omega) (by omega) (by omega) (by omega)
    have hn : (n / 4096 % 16 * 64 + n / 64 % 64) * 64 + n % 64 = n := by omega
    rw [List.cons_append, pieces_cons_of_lead _ (by omega) hlead, List.cons_append,
      trail_succ _ (by omega) hleast hgreatest, List.singleton_append,
      trail_succ rest (by omega) (by omega) (by omega), trail_zero, hn, hc]
  · obtain ⟨least, greatest, hlead, hleast, hgreatest⟩ :=
      lead_four (n / 262144 % 8) (n / 4096 % 64) (by omega) (by omega) (by omega) (by omega)
    have hn : ((n / 262144 % 8 * 64 + n / 4096 % 64) * 64 + n / 64 % 64) * 64 + n % 64 = n := by omega
    rw [List.cons_append, pieces_cons_of_lead _ (by omega) hlead, List.cons_append,
      trail_succ _ (by omega) hleast hgreatest, List.cons_append, trail_succ _ (by omega) (by omega) (by omega),
      List.singleton_append, trail_succ rest (by omega) (by omega) (by omega), trail_zero, hn, hc]

end Character

/-! ## Texts -/

theorem pieces_flatMap (chars : List Char) : pieces (chars.flatMap String.utf8EncodeChar) = chars.map some := by
  induction chars with
  | nil => rw [List.flatMap_nil, pieces, List.map_nil]
  | cons c chars ih => rw [List.flatMap_cons, pieces_encodeChar, ih, List.map_cons]

/-- What is written is read back, without a replacement character that was not there. -/
@[simp] theorem decodeLossy_encode (text : String) : decodeLossy (encode text) = text := by
  rw [decodeLossy, encode, pieces_flatMap, List.map_map]
  simp [Function.comp_def]

/-- Only the empty text has no bytes. -/
theorem encode_eq_nil_iff {text : String} : encode text = [] ↔ text = "" := by
  rw [encode, List.flatMap_eq_nil_iff]
  constructor
  · intro h
    cases hchars : text.toList with
    | nil => exact String.toList_eq_nil_iff.1 hchars
    | cons c chars => exact absurd (h c (hchars ▸ List.mem_cons_self)) String.utf8EncodeChar_ne_nil
  · rintro rfl c hc
    cases hc

end ModelImport.Utf8
