import ModelImport.Einsum.Equation
/-!
# The grammar of einsum equations

An equation, its white space left out, is a list of terms with commas between them and, if it names its result, an
arrow and one more term; a term is a run of letters with at most one ellipsis in it. `parse_accepts_grammar`: reading
accepts exactly these texts and loses nothing, since what was read prints back to the text it was read from; and a
result that is left out is the ellipsis, if some term has one, before the letters that occur once.

Everything rests on `parse_eq_ok_iff`, which says what is read from a text by saying how it prints.
-/

namespace ModelImport.Einsum

/-! ## Texts -/

/-- What stands between the terms and the term of the result. -/
def arrow : List Char := ['-', '>']

/-- Letters with at most one ellipsis among them. -/
def IsTermText (text : List Char) : Prop :=
  (∀ c ∈ text, c.isAlpha) ∨
    ∃ before after, text = before ++ ['.', '.', '.'] ++ after ∧ ∀ c ∈ before ++ after, c.isAlpha

/-- One or more terms with commas between them, and perhaps an arrow and the term of the result. -/
def IsEquationText (text : List Char) : Prop :=
  ∃ terms, terms ≠ [] ∧ (∀ term ∈ terms, IsTermText term) ∧
    (text = [','].intercalate terms ∨
      ∃ result, IsTermText result ∧ text = [','].intercalate terms ++ arrow ++ result)

/-! ## Printing -/

def Label.text : Label → List Char
  | ellipsis => ['.', '.', '.']
  | letter c => [c]

def termText (term : Term) : List Char := term.flatMap Label.text

/-- The terms of the operands. -/
def termsText (terms : List Term) : List Char := [','].intercalate (terms.map termText)

/-- An equation that names its result. -/
def Equation.text (e : Equation) : List Char := termsText e.inputs ++ arrow ++ termText e.output

/-! ## Terms -/

theorem alphabet_eq : alphabet = (List.range' 65 26 ++ List.range' 97 26).map Char.ofNat := by
  rfl

theorem isAlpha_iff {c : Char} :
    c.isAlpha = true ↔ (65 ≤ c.toNat ∧ c.toNat ≤ 90) ∨ (97 ≤ c.toNat ∧ c.toNat ≤ 122) := by
  have hranges : c.isAlpha = (decide (c.val ≥ 'A'.val ∧ c.val ≤ 'Z'.val) ||
      (decide (c.val ≥ 'a'.val) && decide (c.val ≤ 'z'.val))) := rfl
  simp [hranges, UInt32.le_iff_toNat_le]

theorem mem_alphabet_iff {c : Char} : c ∈ alphabet ↔ c.isAlpha = true := by
  simp only [alphabet_eq, isAlpha_iff, List.mem_map, List.mem_append, List.mem_range'_1]
  constructor
  · rintro ⟨n, hn, rfl⟩
    have hvalid : n.isValidChar := .inl (by omega)
    have hcode : (Char.ofNat n).toNat = n := by
      rw [Char.ofNat, dif_pos hvalid]
      rfl
    omega
  · intro hc
    exact ⟨c.toNat, by omega, Char.ofNat_toNat c⟩

theorem alphabet_increasing : alphabet.Pairwise (· < ·) := by
  rw [alphabet_eq, List.pairwise_map]
  decide

/-- A term whose labels are letters of the alphabet and at most `ellipses` ellipses. -/
def IsTerm (ellipses : Nat) (term : Term) : Prop :=
  (∀ c, .letter c ∈ term → c ∈ alphabet) ∧ term.count .ellipsis ≤ ellipses

theorem isTerm_nil (ellipses : Nat) : IsTerm ellipses [] := by
  simp [IsTerm]

theorem isTerm_letter_cons {ellipses : Nat} {c : Char} {term : Term} :
    IsTerm ellipses (.letter c :: term) ↔ c ∈ alphabet ∧ IsTerm ellipses term := by
  simp only [IsTerm, List.mem_cons, Label.letter.injEq, forall_eq_or_imp, and_assoc]
  rw [List.count_cons_of_ne (by simp)]

theorem isTerm_ellipsis_cons {ellipses : Nat} {term : Term} :
    IsTerm ellipses (.ellipsis :: term) ↔ 0 < ellipses ∧ IsTerm (ellipses - 1) term := by
  simp only [IsTerm, List.mem_cons, reduceCtorEq, false_or, List.count_cons_self]
  constructor
  · rintro ⟨hletters, hcount⟩
    exact ⟨by omega, hletters, by omega⟩
  · rintro ⟨hpos, hletters, hcount⟩
    exact ⟨hletters, by omega⟩

@[simp] theorem letters_ellipsis_cons (term : Term) : letters (.ellipsis :: term) = letters term := rfl

@[simp] theorem letters_letter_cons (c : Char) (term : Term) : letters (.letter c :: term) = c :: letters term := rfl

theorem length_letters_add_count (term : Term) : (letters term).length + term.count .ellipsis = term.length := by
  induction term with
  | nil => rfl
  | cons label term ih =>
    cases label with
    | ellipsis =>
      rw [letters_ellipsis_cons, List.count_cons_self, List.length_cons]
      omega
    | letter c =>
      rw [letters_letter_cons, List.count_cons_of_ne (by simp), List.length_cons, List.length_cons]
      omega

/-- A letter is not a mark of punctuation. -/
theorem ne_of_mem_alphabet {c mark : Char} (h : c ∈ alphabet) (hmark : mark.isAlpha = false) : c ≠ mark := by
  rintro rfl
  simp [mem_alphabet_iff.mp h] at hmark

theorem parseLabels_termText (whole : List Char) {seen : Bool} {term : Term}
    (h : IsTerm (if seen then 0 else 1) term) : parseLabels whole seen (termText term) = .ok term := by
  induction term generalizing seen with
  | nil => rfl
  | cons label term ih =>
    cases label with
    | ellipsis =>
      obtain ⟨hpos, hterm⟩ := isTerm_ellipsis_cons.mp h
      cases seen with
      | true => simp at hpos
      | false =>
        have hrest : parseLabels whole true (termText term) = .ok term := ih hterm
        change parseLabels whole false ('.' :: '.' :: '.' :: termText term) = _
        rw [parseLabels, if_neg (by simp), hrest]
        rfl
    | letter c =>
      obtain ⟨hc, hterm⟩ := isTerm_letter_cons.mp h
      change parseLabels whole seen (c :: termText term) = _
      rw [parseLabels.eq_3 _ _ _ _ fun _ hdot _ => ne_of_mem_alphabet hc (by decide) hdot, if_pos hc, ih hterm]
      rfl

theorem eq_termText_of_parseLabels {whole text : List Char} {seen : Bool} {term : Term}
    (h : parseLabels whole seen text = .ok term) :
    text = termText term ∧ IsTerm (if seen then 0 else 1) term := by
  induction seen, text using parseLabels.induct generalizing term with
  | case1 seen =>
    cases h
    exact ⟨rfl, isTerm_nil _⟩
  | case2 rest =>
    rw [parseLabels, if_pos rfl] at h
    cases h
  | case3 seen rest hseen ih =>
    rw [parseLabels, if_neg hseen] at h
    obtain ⟨labels, hrest, hterm⟩ := bind_eq_ok_iff.mp h
    cases hterm
    obtain ⟨rfl, hlabels⟩ := ih hrest
    rw [if_neg hseen]
    exact ⟨rfl, isTerm_ellipsis_cons.mpr ⟨by decide, hlabels⟩⟩
  | case4 seen c rest hdots hletter ih =>
    rw [parseLabels.eq_3 _ _ _ _ hdots, if_pos hletter] at h
    obtain ⟨labels, hrest, hterm⟩ := bind_eq_ok_iff.mp h
    cases hterm
    obtain ⟨rfl, hlabels⟩ := ih hrest
    exact ⟨rfl, isTerm_letter_cons.mpr ⟨hletter, hlabels⟩⟩
  | case5 seen c rest hdots hletter =>
    rw [parseLabels.eq_3 _ _ _ _ hdots, if_neg hletter] at h
    cases h

/-- A term is read from its text and from no other. -/
theorem parseTerm_eq_ok_iff {text : List Char} {term : Term} :
    parseTerm text = .ok term ↔ text = termText term ∧ IsTerm 1 term := by
  constructor
  · exact eq_termText_of_parseLabels
  · rintro ⟨rfl, h⟩
    exact parseLabels_termText _ h

theorem mapM_parseTerm_eq_ok_iff {texts : List (List Char)} {terms : List Term} :
    texts.mapM parseTerm = .ok terms ↔ texts = terms.map termText ∧ ∀ term ∈ terms, IsTerm 1 term := by
  induction texts generalizing terms with
  | nil => cases terms <;> simp [pure, Except.pure]
  | cons text texts ih =>
    rw [List.mapM_cons]
    constructor
    · intro h
      obtain ⟨term, hterm, h⟩ := bind_eq_ok_iff.mp h
      obtain ⟨rest, hrest, h⟩ := bind_eq_ok_iff.mp h
      cases h
      obtain ⟨rfl, hproper⟩ := parseTerm_eq_ok_iff.mp hterm
      obtain ⟨rfl, hall⟩ := ih.mp hrest
      exact ⟨rfl, List.forall_mem_cons.mpr ⟨hproper, hall⟩⟩
    · rintro ⟨htexts, hall⟩
      cases terms with
      | nil => cases htexts
      | cons term terms =>
        obtain ⟨rfl, hrest⟩ := List.cons.inj htexts
        obtain ⟨hproper, hall⟩ := List.forall_mem_cons.mp hall
        rw [parseTerm_eq_ok_iff.mpr ⟨rfl, hproper⟩, ih.mpr ⟨hrest, hall⟩]
        rfl

theorem termText_map_letter (cs : List Char) : termText (cs.map .letter) = cs := by
  induction cs with
  | nil => rfl
  | cons c cs ih => exact congrArg (c :: ·) ih

theorem count_map_letter (cs : List Char) : (cs.map Label.letter).count .ellipsis = 0 := by
  simp [List.count_eq_zero]

theorem exists_eq_map_letter {term : Term} (h : .ellipsis ∉ term) : ∃ cs : List Char, term = cs.map .letter := by
  induction term with
  | nil => exact ⟨[], rfl⟩
  | cons label term ih =>
    obtain ⟨hlabel, hterm⟩ : ¬.ellipsis = label ∧ .ellipsis ∉ term := by simpa using h
    obtain ⟨cs, rfl⟩ := ih hterm
    cases label with
    | ellipsis => exact absurd rfl hlabel
    | letter c => exact ⟨c :: cs, rfl⟩

/-- A term is letters, or letters on both sides of an ellipsis. -/
theorem IsTerm.eq_letters_or {term : Term} (h : IsTerm 1 term) :
    (∃ cs : List Char, term = cs.map .letter) ∨
      ∃ cs ds : List Char, term = cs.map .letter ++ .ellipsis :: ds.map .letter := by
  by_cases hellipsis : .ellipsis ∈ term
  · obtain ⟨before, after, rfl⟩ := List.append_of_mem hellipsis
    have hcount := h.2
    simp only [List.count_append, List.count_cons_self] at hcount
    have hbefore : before.count .ellipsis = 0 := by omega
    have hafter : after.count .ellipsis = 0 := by omega
    obtain ⟨cs, rfl⟩ := exists_eq_map_letter (List.count_eq_zero.mp hbefore)
    obtain ⟨ds, rfl⟩ := exists_eq_map_letter (List.count_eq_zero.mp hafter)
    exact .inr ⟨cs, ds, rfl⟩
  · exact .inl (exists_eq_map_letter hellipsis)

theorem termText_around (cs ds : List Char) :
    termText (cs.map .letter ++ .ellipsis :: ds.map .letter) = cs ++ ['.', '.', '.'] ++ ds := by
  have happend : termText (cs.map .letter ++ .ellipsis :: ds.map .letter)
      = termText (cs.map .letter) ++ (['.', '.', '.'] ++ termText (ds.map .letter)) := by
    simp [termText, Label.text]
  rw [happend, termText_map_letter, termText_map_letter, List.append_assoc]

/-- The texts that terms print to are those of the grammar. -/
theorem isTermText_iff {text : List Char} : IsTermText text ↔ ∃ term, text = termText term ∧ IsTerm 1 term := by
  constructor
  · rintro (hletters | ⟨before, after, rfl, hletters⟩)
    · refine ⟨text.map .letter, (termText_map_letter text).symm, by simpa [mem_alphabet_iff] using hletters, ?_⟩
      simp [count_map_letter]
    · refine ⟨before.map .letter ++ .ellipsis :: after.map .letter, (termText_around before after).symm, ?_,
        by simp [count_map_letter]⟩
      intro c hc
      exact mem_alphabet_iff.mpr (hletters c (by simpa using hc))
  · rintro ⟨term, rfl, hterm⟩
    rcases hterm.eq_letters_or with ⟨cs, rfl⟩ | ⟨cs, ds, rfl⟩
    · rw [termText_map_letter]
      exact .inl fun c hc => mem_alphabet_iff.mp (hterm.1 c (by simpa using hc))
    · refine .inr ⟨cs, ds, termText_around cs ds, ?_⟩
      intro c hc
      exact mem_alphabet_iff.mp (hterm.1 c (by simpa using hc))

/-! ## Splitting -/

theorem splitCommas_eq_splitOn (text : List Char) : splitCommas text = text.splitOn ',' := by
  induction text with
  | nil => rfl
  | cons c text ih =>
    rw [splitCommas, List.splitOn_cons_eq_if_modifyHead, ih]
    by_cases hc : c = ','
    · simp [hc]
    · obtain ⟨piece, pieces, hpieces⟩ := List.exists_cons_of_ne_nil (List.splitOn_ne_nil ',' text)
      simp [hc, hpieces]

/-- Nothing is lost at the arrow. -/
theorem eq_of_splitArrow (text : List Char) :
    text = (splitArrow text).1 ++ ((splitArrow text).2.map (arrow ++ ·)).getD [] := by
  induction text using splitArrow.induct with
  | case1 => rfl
  | case2 rest => rfl
  | case3 c rest harrow ih =>
    rw [splitArrow.eq_3 _ _ harrow]
    exact congrArg (c :: ·) ih

theorem splitArrow_of_notMem {text : List Char} (h : '-' ∉ text) : splitArrow text = (text, none) := by
  induction text with
  | nil => rfl
  | cons c text ih =>
    obtain ⟨hc, htext⟩ : '-' ≠ c ∧ '-' ∉ text := by simpa using h
    rw [splitArrow.eq_3 _ _ fun _ hdash _ => hc hdash.symm, ih htext]

theorem splitArrow_append {left : List Char} (h : '-' ∉ left) (right : List Char) :
    splitArrow (left ++ arrow ++ right) = (left, some right) := by
  induction left with
  | nil => rfl
  | cons c left ih =>
    obtain ⟨hc, hleft⟩ : '-' ≠ c ∧ '-' ∉ left := by simpa using h
    rw [List.cons_append, List.cons_append, splitArrow.eq_3 _ _ fun _ hdash _ => hc hdash.symm, ih hleft]

/-! ## Equations -/

theorem mem_intercalate {c : Char} {texts : List (List Char)} (h : c ∈ [','].intercalate texts) :
    c = ',' ∨ ∃ text ∈ texts, c ∈ text := by
  induction texts with
  | nil => simp at h
  | cons text texts ih =>
    cases texts with
    | nil => exact .inr ⟨text, by simp, by simpa using h⟩
    | cons next texts =>
      simp only [List.intercalate_cons_cons, List.mem_append, List.mem_singleton] at h
      rcases h with (h | h) | h
      · exact .inr ⟨text, by simp, h⟩
      · exact .inl h
      · rcases ih h with h | ⟨other, hmem, h⟩
        · exact .inl h
        · exact .inr ⟨other, List.mem_cons_of_mem _ hmem, h⟩

theorem mem_termText {ellipses : Nat} {term : Term} (h : IsTerm ellipses term) {c : Char} (hc : c ∈ termText term) :
    c ∈ alphabet ∨ c = '.' := by
  obtain ⟨label, hlabel, hc⟩ := List.mem_flatMap.mp hc
  cases label with
  | ellipsis => exact .inr (by simpa [Label.text] using hc)
  | letter d =>
    have hsame : c = d := by simpa [Label.text] using hc
    exact .inl (hsame ▸ h.1 d hlabel)

theorem mem_termsText {terms : List Term} (h : ∀ term ∈ terms, IsTerm 1 term) {c : Char} (hc : c ∈ termsText terms) :
    c ∈ alphabet ∨ c = '.' ∨ c = ',' := by
  rcases mem_intercalate hc with hcomma | ⟨text, htext, hc⟩
  · exact .inr (.inr hcomma)
  · obtain ⟨term, hterm, rfl⟩ := List.mem_map.mp htext
    rcases mem_termText (h term hterm) hc with hletter | hdot
    · exact .inl hletter
    · exact .inr (.inl hdot)

theorem dash_notMem_termsText {terms : List Term} (h : ∀ term ∈ terms, IsTerm 1 term) : '-' ∉ termsText terms := by
  intro hdash
  rcases mem_termsText h hdash with hletter | hdot | hcomma
  · exact ne_of_mem_alphabet hletter (by decide) rfl
  · exact absurd hdot (by decide)
  · exact absurd hcomma (by decide)

/-- The terms before the arrow are read from their text and from no other. -/
theorem mapM_splitCommas_eq_ok_iff {text : List Char} {terms : List Term} :
    (splitCommas text).mapM parseTerm = .ok terms ↔
      text = termsText terms ∧ terms ≠ [] ∧ ∀ term ∈ terms, IsTerm 1 term := by
  rw [splitCommas_eq_splitOn, mapM_parseTerm_eq_ok_iff]
  constructor
  · rintro ⟨hpieces, hall⟩
    refine ⟨?_, ?_, hall⟩
    · rw [termsText, ← hpieces, List.intercalate_splitOn]
    · rintro rfl
      exact List.splitOn_ne_nil ',' text hpieces
  · rintro ⟨rfl, hne, hall⟩
    refine ⟨List.splitOn_intercalate _ ?_ (by simpa using hne), hall⟩
    intro piece hpiece hcomma
    obtain ⟨term, hterm, rfl⟩ := List.mem_map.mp hpiece
    rcases mem_termText (hall term hterm) hcomma with hletter | hdot
    · exact ne_of_mem_alphabet hletter (by decide) rfl
    · exact absurd hdot (by decide)

/-- What is read from a text without white space. -/
inductive Reads : List Char → Equation → Prop
  | named {e : Equation} : e.inputs ≠ [] → (∀ term ∈ e.inputs, IsTerm 1 term) → IsTerm 1 e.output → Reads e.text e
  | implied {inputs : List Term} : inputs ≠ [] → (∀ term ∈ inputs, IsTerm 1 term) →
      Reads (termsText inputs) ⟨inputs, implicitOutput inputs⟩

/-- An equation is read from the texts that it prints to and from no other. -/
theorem parse_eq_ok_iff {text : String} {e : Equation} : parse text = .ok e ↔ Reads (squeeze text) e := by
  constructor
  · intro h
    have hsplit := eq_of_splitArrow (squeeze text)
    obtain ⟨inputs, hinputs, h⟩ := bind_eq_ok_iff.mp h
    obtain ⟨hleft, hne, hall⟩ := mapM_splitCommas_eq_ok_iff.mp hinputs
    cases hright : (splitArrow (squeeze text)).2 with
    | none =>
      rw [hright] at h hsplit
      cases h
      rw [hsplit, hleft, Option.map_none, Option.getD_none, List.append_nil]
      exact .implied hne hall
    | some right =>
      rw [hright] at h hsplit
      obtain ⟨output, houtput, h⟩ := bind_eq_ok_iff.mp h
      cases h
      obtain ⟨rfl, hproper⟩ := parseTerm_eq_ok_iff.mp houtput
      rw [hsplit, hleft, Option.map_some, Option.getD_some, ← List.append_assoc]
      exact .named (e := ⟨inputs, output⟩) hne hall hproper
  · intro h
    unfold parse
    generalize squeeze text = squeezed at h
    cases h with
    | named hne hall hproper =>
      rw [Equation.text, splitArrow_append (dash_notMem_termsText hall)]
      have hinputs := mapM_splitCommas_eq_ok_iff.mpr ⟨rfl, hne, hall⟩
      have houtput := parseTerm_eq_ok_iff.mpr ⟨rfl, hproper⟩
      exact bind_eq_ok_iff.mpr ⟨_, hinputs, bind_eq_ok_iff.mpr ⟨_, houtput, rfl⟩⟩
    | implied hne hall =>
      rw [splitArrow_of_notMem (dash_notMem_termsText hall)]
      have hinputs := mapM_splitCommas_eq_ok_iff.mpr ⟨rfl, hne, hall⟩
      exact bind_eq_ok_iff.mpr ⟨_, hinputs, rfl⟩

theorem exists_terms {texts : List (List Char)} (h : ∀ text ∈ texts, IsTermText text) :
    ∃ terms : List Term, texts = terms.map termText ∧ ∀ term ∈ terms, IsTerm 1 term := by
  induction texts with
  | nil => exact ⟨[], rfl, by simp⟩
  | cons text texts ih =>
    obtain ⟨htext, htexts⟩ := List.forall_mem_cons.mp h
    obtain ⟨term, rfl, hterm⟩ := isTermText_iff.mp htext
    obtain ⟨terms, rfl, hterms⟩ := ih htexts
    exact ⟨term :: terms, rfl, List.forall_mem_cons.mpr ⟨hterm, hterms⟩⟩

theorem isTermText_of_mem {terms : List Term} (h : ∀ term ∈ terms, IsTerm 1 term) {text : List Char}
    (htext : text ∈ terms.map termText) : IsTermText text := by
  obtain ⟨term, hterm, rfl⟩ := List.mem_map.mp htext
  exact isTermText_iff.mpr ⟨term, rfl, h term hterm⟩

/-- Something is read from exactly the texts of the grammar. -/
theorem exists_reads_iff {text : List Char} : (∃ e, Reads text e) ↔ IsEquationText text := by
  constructor
  · rintro ⟨e, h⟩
    cases h with
    | named hne hall hproper =>
      refine ⟨e.inputs.map termText, by simpa using hne, fun _ => isTermText_of_mem hall, .inr ?_⟩
      exact ⟨termText e.output, isTermText_iff.mpr ⟨_, rfl, hproper⟩, rfl⟩
    | @implied inputs hne hall =>
      exact ⟨inputs.map termText, by simpa using hne, fun _ => isTermText_of_mem hall, .inl rfl⟩
  · rintro ⟨texts, hne, hall, htext⟩
    obtain ⟨terms, rfl, hterms⟩ := exists_terms hall
    have hne : terms ≠ [] := by simpa using hne
    rcases htext with rfl | ⟨result, hresult, rfl⟩
    · exact ⟨_, .implied hne hterms⟩
    · obtain ⟨output, rfl, houtput⟩ := isTermText_iff.mp hresult
      exact ⟨⟨terms, output⟩, .named (e := ⟨terms, output⟩) hne hterms houtput⟩

/-- Only a text that names its result has an arrow. -/
theorem Reads.eq_text {text : List Char} {e : Equation} (h : Reads text e) (harrow : arrow <:+: text) :
    text = e.text := by
  cases h with
  | named => rfl
  | implied _ hall =>
    have hdash := harrow.mem (show '-' ∈ arrow by simp [arrow])
    exact absurd hdash (dash_notMem_termsText hall)

/-! ## The result that is left out -/

/-- The result that the terms of the operands imply: the ellipsis, if one of them has it, and then the letters that
occur once in all of them, in increasing order. -/
def Implied (inputs : List Term) (output : Term) : Prop :=
  ∃ cs : List Char, output = (if ∃ term ∈ inputs, .ellipsis ∈ term then [.ellipsis] else []) ++ cs.map .letter ∧
    cs.Pairwise (· < ·) ∧ ∀ c, c ∈ cs ↔ inputs.flatten.count (.letter c) = 1

theorem count_letters (term : Term) (c : Char) : (letters term).count c = term.count (.letter c) := by
  induction term with
  | nil => rfl
  | cons label term ih =>
    cases label with
    | ellipsis => simp [ih]
    | letter d => simp [List.count_cons, ih]

theorem flatMap_letters (inputs : List Term) : inputs.flatMap letters = letters inputs.flatten := by
  rw [letters, List.filterMap_flatten, List.flatMap_def]
  rfl

theorem implied_implicitOutput {inputs : List Term} (h : ∀ term ∈ inputs, IsTerm 1 term) :
    Implied inputs (implicitOutput inputs) := by
  refine ⟨alphabet.filter fun c => (inputs.flatMap letters).count c == 1, ?_, alphabet_increasing.filter _, ?_⟩
  · simp [implicitOutput]
  · intro c
    rw [List.mem_filter, flatMap_letters, count_letters, beq_iff_eq]
    constructor
    · exact fun hc => hc.2
    · intro honce
      have hmem : .letter c ∈ inputs.flatten := List.count_pos_iff.mp (by omega)
      obtain ⟨term, hterm, hletter⟩ := List.mem_flatten.mp hmem
      exact ⟨(h term hterm).1 c hletter, honce⟩

theorem isTerm_implicitOutput (inputs : List Term) : IsTerm 1 (implicitOutput inputs) := by
  constructor
  · intro c hc
    rcases List.mem_append.mp hc with hellipsis | hletter
    · split at hellipsis <;> simp at hellipsis
    · have honce : c ∈ alphabet ∧ (inputs.flatMap letters).count c = 1 := by simpa using hletter
      exact honce.1
  · rw [implicitOutput, List.count_append, count_map_letter]
    split <;> simp

theorem Reads.eq_implied {text : List Char} {e : Equation} (h : Reads text e) (harrow : ¬arrow <:+: text) :
    text = termsText e.inputs ∧ Implied e.inputs e.output := by
  cases h with
  | named => exact absurd (List.infix_append _ _ _) harrow
  | implied _ hall => exact ⟨rfl, implied_implicitOutput hall⟩

/-- The terms of what was read. -/
theorem Reads.proper {text : List Char} {e : Equation} (h : Reads text e) :
    e.inputs ≠ [] ∧ (∀ term ∈ e.inputs, IsTerm 1 term) ∧ IsTerm 1 e.output := by
  cases h with
  | named hne hall hproper => exact ⟨hne, hall, hproper⟩
  | implied hne hall => exact ⟨hne, hall, isTerm_implicitOutput _⟩

/-! ## Reading back -/

theorem squeeze_ofList {text : List Char} (h : ∀ c ∈ text, Text.isBlank c = false) :
    squeeze (String.ofList text) = text := by
  rw [squeeze, String.toList_ofList, List.filter_eq_self]
  intro c hc
  simp [h c hc]

theorem isBlank_squeeze {text : String} {c : Char} (h : c ∈ squeeze text) : Text.isBlank c = false := by
  simpa using (List.mem_filter.mp h).2

theorem isBlank_letter {c : Char} (h : c ∈ alphabet) : Text.isBlank c = false := by
  have hcode := isAlpha_iff.mp (mem_alphabet_iff.mp h)
  simp only [Text.isBlank, Bool.or_eq_false_iff, Bool.and_eq_false_iff, decide_eq_false_iff_not, beq_eq_false_iff_ne]
  omega

theorem isBlank_text {e : Equation} (hall : ∀ term ∈ e.inputs, IsTerm 1 term) (hproper : IsTerm 1 e.output) {c : Char}
    (h : c ∈ e.text) : Text.isBlank c = false := by
  simp only [Equation.text, List.mem_append] at h
  rcases h with (h | h) | h
  · rcases mem_termsText hall h with hletter | rfl | rfl
    · exact isBlank_letter hletter
    · rfl
    · rfl
  · simp only [arrow, List.mem_cons, List.not_mem_nil, or_false] at h
    rcases h with rfl | rfl <;> rfl
  · rcases mem_termText hproper h with hletter | rfl
    · exact isBlank_letter hletter
    · rfl

/-- What was read is read again from the text that names its result, whether the text it was read from did or not. -/
theorem Reads.parse_text {text : List Char} {e : Equation} (h : Reads text e) :
    parse (String.ofList e.text) = .ok e := by
  obtain ⟨hne, hall, hproper⟩ := h.proper
  rw [parse_eq_ok_iff, squeeze_ofList fun c => isBlank_text hall hproper]
  exact .named hne hall hproper

/-- An equation is read exactly if its text, without white space, is one of the grammar. What is read prints back to
that text, with the result if it has an arrow and without it otherwise, and is read again from what it prints; so two
texts with an arrow from which the same is read are the same but for their white space. A result that is left out is
the one that the terms of the operands imply. -/
theorem parse_accepts_grammar (text : String) :
    ((∃ e, parse text = .ok e) ↔ IsEquationText (squeeze text)) ∧
    ∀ e, parse text = .ok e →
      (arrow <:+: squeeze text → squeeze text = e.text) ∧
      (¬arrow <:+: squeeze text → squeeze text = termsText e.inputs ∧ Implied e.inputs e.output) ∧
      parse (String.ofList (squeeze text)) = .ok e ∧ parse (String.ofList e.text) = .ok e ∧
      ∀ other, parse other = .ok e → arrow <:+: squeeze text → arrow <:+: squeeze other →
        squeeze other = squeeze text := by
  constructor
  · simp only [parse_eq_ok_iff, exists_reads_iff]
  · intro e h
    have hreads := parse_eq_ok_iff.mp h
    refine ⟨hreads.eq_text, hreads.eq_implied, ?_, hreads.parse_text, ?_⟩
    · rw [parse_eq_ok_iff, squeeze_ofList fun c => isBlank_squeeze]
      exact hreads
    · intro other hother harrow harrow'
      rw [hreads.eq_text harrow, (parse_eq_ok_iff.mp hother).eq_text harrow']

/-- An ellipsis in one of two terms, white space and a letter that both have. -/
theorem parse_accepts_grammar_implied :
    let e : Equation := ⟨[[.letter 'b', .ellipsis, .letter 'a'], [.letter 'a', .letter 'c']],
      [.ellipsis, .letter 'b', .letter 'c']⟩
    parse "b...a, a c" = .ok e ∧ IsEquationText (squeeze "b...a, a c") ∧
      parse (String.ofList e.text) = .ok e := by
  have h : parse "b...a, a c" = .ok ⟨[[.letter 'b', .ellipsis, .letter 'a'], [.letter 'a', .letter 'c']],
      [.ellipsis, .letter 'b', .letter 'c']⟩ := by rfl
  exact ⟨h, (parse_accepts_grammar _).1.mp ⟨_, h⟩, ((parse_accepts_grammar _).2 _ h).2.2.2.1⟩

end ModelImport.Einsum
