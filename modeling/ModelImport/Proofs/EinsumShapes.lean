import Mathlib.Data.List.TakeWhile
import ModelImport.Einsum.Inference
import ModelImport.Proofs.Broadcasting
import ModelImport.Proofs.EinsumGrammar
/-!
# What einsum infers

The shape of an einsum: each letter stands for one size wherever it occurs, the ellipses for axes that broadcast, and the
result puts them together in the order of its term. `einsum_sound`: where operands have shapes that their types admit and
that fit the equation, the shape of the result is one that the inferred type admits; and for operands of known ranks the
inference fails exactly if the equation has another number of terms, a rank does not fit its term, or the result has a
letter that no operand has.

Which axis a letter stands for is said by its place: those before the ellipsis take the first axes, those after it the
last ones, and the ellipsis what is left between them (`letterAxes`, `coveredAxes`). The inference moves along the axes
label by label instead; `noteLabels_eq` says that it comes to the same.
-/

namespace ModelImport.Einsum

open Infer

/-! ## The axes of an operand -/

section Axes

variable {α β : Type}

/-- The letters before the ellipsis of a term, all of them if it has none. -/
def leading (term : Term) : List Char := letters (term.takeWhile (· ≠ .ellipsis))

/-- The letters after the ellipsis of a term. -/
def trailing (term : Term) : List Char := letters (term.dropWhile (· ≠ .ellipsis))

/-- The axes that the letters of a term stand for. -/
def letterAxes (term : Term) (shape : List α) : List (Char × α) :=
  (leading term).zip shape ++ (trailing term).zip (shape.drop (shape.length - (trailing term).length))

/-- The axes that the ellipsis of a term covers. -/
def coveredAxes (term : Term) (shape : List α) : List α :=
  (shape.drop (leading term).length).take (shape.length - (letters term).length)

/-- Whether a rank fits a term: an axis for each letter, and more only where there is an ellipsis. -/
def Fits (term : Term) (rank : Nat) : Prop :=
  if .ellipsis ∈ term then (letters term).length ≤ rank else rank = (letters term).length

instance (term : Term) (rank : Nat) : Decidable (Fits term rank) :=
  inferInstanceAs (Decidable (if .ellipsis ∈ term then (letters term).length ≤ rank else rank = (letters term).length))

/-- The axes that letters stand for, over all operands. -/
def occurrences (terms : List Term) (shapes : List (List α)) : List (Char × α) :=
  (terms.zip shapes).flatMap fun entry => letterAxes entry.1 entry.2

/-- The axes that each ellipsis covers. -/
def coveredShapes (terms : List Term) (shapes : List (List α)) : List (List α) :=
  ((terms.zip shapes).filter fun entry => entry.1.contains .ellipsis).map fun entry => coveredAxes entry.1 entry.2

/-- The axes that the labels of a term stand for, one after the other. -/
def layout (axis : Char → List α) (covered : List α) : Term → List α
  | [] => []
  | .letter c :: term => axis c ++ layout axis covered term
  | .ellipsis :: term => covered ++ layout axis covered term

end Axes

/-! ## Shapes -/

/-- Shapes of operands that an equation can be applied to: the ranks fit the terms, each letter has one size wherever it
occurs, and what the ellipses cover broadcasts. -/
def Conforms (terms : List Term) (shapes : List (List Nat)) : Prop :=
  (∀ entry ∈ terms.zip shapes, Fits entry.1 entry.2.length) ∧
    (∀ first ∈ occurrences terms shapes, ∀ second ∈ occurrences terms shapes,
      first.1 = second.1 → first.2 = second.2) ∧
    Broadcastable (coveredShapes terms shapes)

instance (terms : List Term) (shapes : List (List Nat)) : Decidable (Conforms terms shapes) :=
  inferInstanceAs (Decidable (_ ∧ _ ∧ _))

/-- The shape of the result: the size of each letter and what the ellipses broadcast to, in the order of its term. -/
def outputShape (e : Equation) (shapes : List (List Nat)) : List Nat :=
  layout (fun c => ((occurrences e.inputs shapes).lookup c).toList) (broadcastShape (coveredShapes e.inputs shapes))
    e.output

/-! ## Places of letters -/

section Places

variable {α β : Type}

theorem letters_map_letter (cs : List Char) : letters (cs.map .letter) = cs := by
  induction cs with
  | nil => rfl
  | cons c cs ih => rw [List.map_cons, letters_letter_cons, ih]

theorem letters_append (before after : Term) : letters (before ++ after) = letters before ++ letters after := by
  simp [letters]

theorem leading_letters (cs : List Char) : leading (cs.map .letter) = cs := by
  rw [leading, List.takeWhile_eq_self_iff.mpr (by simp), letters_map_letter]

theorem trailing_letters (cs : List Char) : trailing (cs.map .letter) = [] := by
  rw [trailing, List.dropWhile_eq_nil_iff.mpr (by simp)]
  rfl

theorem leading_around (cs ds : List Char) : leading (cs.map .letter ++ .ellipsis :: ds.map .letter) = cs := by
  rw [leading, List.takeWhile_append_of_pos (by simp)]
  simp [letters_map_letter]

theorem trailing_around (cs ds : List Char) : trailing (cs.map .letter ++ .ellipsis :: ds.map .letter) = ds := by
  rw [trailing, List.dropWhile_append_of_pos (by simp)]
  simp [letters_map_letter]

theorem letters_around (cs ds : List Char) :
    letters (cs.map .letter ++ .ellipsis :: ds.map .letter) = cs ++ ds := by
  rw [letters_append, letters_ellipsis_cons, letters_map_letter, letters_map_letter]

/-- In a term with a place for each axis, every letter stands for one. -/
theorem map_fst_letterAxes {term : Term} (hterm : IsTerm 1 term) {shape : List α} (h : Fits term shape.length) :
    (letterAxes term shape).map Prod.fst = letters term := by
  rcases hterm.eq_letters_or with ⟨cs, rfl⟩ | ⟨cs, ds, rfl⟩
  · have hrank : shape.length = cs.length := by simpa [Fits, letters_map_letter] using h
    rw [letterAxes, leading_letters, trailing_letters, letters_map_letter, List.zip_nil_left, List.append_nil,
      List.map_fst_zip (by omega)]
  · have hrank : cs.length + ds.length ≤ shape.length := by simpa [Fits, letters_around] using h
    rw [letterAxes, leading_around, trailing_around, letters_around, List.map_append, List.map_fst_zip (by omega),
      List.map_fst_zip (by simp; omega)]

theorem forall₂_zip {R : α → β → Prop} (cs : List Char) {xs : List α} {ys : List β} (h : List.Forall₂ R xs ys) :
    List.Forall₂ (fun p q => p.1 = q.1 ∧ R p.2 q.2) (cs.zip xs) (cs.zip ys) := by
  induction h generalizing cs with
  | nil => simp
  | cons hxy _ ih =>
    cases cs with
    | nil => exact .nil
    | cons c cs => exact .cons ⟨rfl, hxy⟩ (ih cs)

/-- Related axes are related letter by letter. -/
theorem forall₂_letterAxes {R : α → β → Prop} (term : Term) {xs : List α} {ys : List β} (h : List.Forall₂ R xs ys) :
    List.Forall₂ (fun p q => p.1 = q.1 ∧ R p.2 q.2) (letterAxes term xs) (letterAxes term ys) := by
  rw [letterAxes, letterAxes, h.length_eq]
  exact List.rel_append (forall₂_zip _ h) (forall₂_zip _ (List.forall₂_drop _ h))

theorem forall₂_coveredAxes {R : α → β → Prop} (term : Term) {xs : List α} {ys : List β} (h : List.Forall₂ R xs ys) :
    List.Forall₂ R (coveredAxes term xs) (coveredAxes term ys) := by
  rw [coveredAxes, coveredAxes, h.length_eq]
  exact List.forall₂_take _ (List.forall₂_drop _ h)

theorem occurrences_cons (term : Term) (terms : List Term) (shape : List α) (shapes : List (List α)) :
    occurrences (term :: terms) (shape :: shapes) = letterAxes term shape ++ occurrences terms shapes := by
  simp [occurrences]

theorem coveredShapes_cons (term : Term) (terms : List Term) (shape : List α) (shapes : List (List α)) :
    coveredShapes (term :: terms) (shape :: shapes)
      = (if .ellipsis ∈ term then [coveredAxes term shape] else []) ++ coveredShapes terms shapes := by
  by_cases h : .ellipsis ∈ term <;> simp [coveredShapes, h]

theorem forall₂_occurrences {R : α → β → Prop} {xss : List (List α)} {yss : List (List β)}
    (h : List.Forall₂ (List.Forall₂ R) xss yss) (terms : List Term) :
    List.Forall₂ (fun p q => p.1 = q.1 ∧ R p.2 q.2) (occurrences terms xss) (occurrences terms yss) := by
  induction h generalizing terms with
  | nil => simp [occurrences]
  | cons hxs _ ih =>
    cases terms with
    | nil => simp [occurrences]
    | cons term terms =>
      rw [occurrences_cons, occurrences_cons]
      exact List.rel_append (forall₂_letterAxes term hxs) (ih terms)

theorem forall₂_coveredShapes {R : α → β → Prop} {xss : List (List α)} {yss : List (List β)}
    (h : List.Forall₂ (List.Forall₂ R) xss yss) (terms : List Term) :
    List.Forall₂ (List.Forall₂ R) (coveredShapes terms xss) (coveredShapes terms yss) := by
  induction h generalizing terms with
  | nil => simp [coveredShapes]
  | cons hxs _ ih =>
    cases terms with
    | nil => simp [coveredShapes]
    | cons term terms =>
      rw [coveredShapes_cons, coveredShapes_cons]
      refine List.rel_append ?_ (ih terms)
      split
      · exact .cons (forall₂_coveredAxes term hxs) .nil
      · exact .nil

/-- Where the ranks fit, the letters that occur are those of the terms. -/
theorem mem_map_fst_occurrences {terms : List Term} (hterms : ∀ term ∈ terms, IsTerm 1 term) {shapes : List (List α)}
    (hlength : terms.length = shapes.length) (hfits : ∀ entry ∈ terms.zip shapes, Fits entry.1 entry.2.length)
    {c : Char} : c ∈ (occurrences terms shapes).map Prod.fst ↔ ∃ term ∈ terms, .letter c ∈ term := by
  induction terms generalizing shapes with
  | nil => simp [occurrences]
  | cons term terms ih =>
    cases shapes with
    | nil => simp at hlength
    | cons shape shapes =>
      obtain ⟨hterm, hterms⟩ := List.forall_mem_cons.mp hterms
      obtain ⟨hfit, hfits⟩ := List.forall_mem_cons.mp hfits
      have hletter : c ∈ letters term ↔ .letter c ∈ term := by
        rw [← List.count_pos_iff, count_letters, List.count_pos_iff]
      rw [occurrences_cons, List.map_append, List.mem_append, map_fst_letterAxes hterm hfit, hletter,
        ih hterms (by simpa using hlength) hfits, List.exists_mem_cons_iff]

end Places

/-! ## What the inference notes -/

namespace Axes

/-- Noting an axis either puts it before what is known, or the letter is known already. -/
theorem note_cases (a : Axes) (c : Char) (dim : Dim) :
    a.note c dim = { a with named := (c, dim) :: a.named } ∨ (a.note c dim = a ∧ a.find? c ≠ none) := by
  rw [note]
  cases h : a.find? c with
  | none => exact .inl rfl
  | some known =>
    dsimp only
    split
    · exact .inl rfl
    · exact .inr ⟨rfl, by simp⟩

theorem find?_named_cons (a : Axes) (c d : Char) (dim : Dim) :
    find? { a with named := (c, dim) :: a.named } d = if c = d then some dim else a.find? d := by
  by_cases h : c = d <;> simp [find?, h]

theorem find?_note_eq_some {a : Axes} {c d : Char} {dim found : Dim} (h : (a.note c dim).find? d = some found) :
    a.find? d = some found ∨ (d, found) = (c, dim) := by
  rcases a.note_cases c dim with hnote | ⟨hnote, -⟩
  · rw [hnote, find?_named_cons] at h
    split at h
    · next hsame =>
      cases h
      exact .inr (by rw [hsame])
    · exact .inl h
  · exact .inl (hnote ▸ h)

theorem find?_note_eq_none_iff {a : Axes} {c d : Char} {dim : Dim} :
    (a.note c dim).find? d = none ↔ a.find? d = none ∧ c ≠ d := by
  rcases a.note_cases c dim with hnote | ⟨hnote, hknown⟩
  · rw [hnote, find?_named_cons]
    by_cases h : c = d <;> simp [h]
  · rw [hnote]
    constructor
    · intro hnone
      exact ⟨hnone, fun hsame => hknown (hsame ▸ hnone)⟩
    · exact fun h => h.1

theorem note_covered (a : Axes) (covered : List (List Dim)) (c : Char) (dim : Dim) :
    note { a with covered := covered } c dim = { a.note c dim with covered := covered } := by
  have hfind : find? { a with covered := covered } c = a.find? c := rfl
  rw [note, note, hfind]
  cases a.find? c with
  | none => rfl
  | some known =>
    dsimp only
    split <;> rfl

/-- Notes axes of letters one after the other. -/
def noteAll (a : Axes) (axes : List (Char × Dim)) : Axes := axes.foldl (fun a entry => a.note entry.1 entry.2) a

theorem noteAll_append (a : Axes) (axes axes' : List (Char × Dim)) :
    a.noteAll (axes ++ axes') = (a.noteAll axes).noteAll axes' := by
  simp [noteAll]

theorem noteAll_covered (a : Axes) (covered : List (List Dim)) (axes : List (Char × Dim)) :
    noteAll { a with covered := covered } axes = { a.noteAll axes with covered := covered } := by
  induction axes generalizing a with
  | nil => rfl
  | cons entry axes ih =>
    rw [noteAll, List.foldl_cons, note_covered]
    exact ih (a.note entry.1 entry.2)

theorem covered_noteAll (a : Axes) (axes : List (Char × Dim)) : (a.noteAll axes).covered = a.covered := by
  rw [show a.noteAll axes = { a.noteAll axes with covered := a.covered } from noteAll_covered a a.covered axes]

/-- What is known of a letter in the end was known before or is one of its axes. -/
theorem find?_noteAll_eq_some {a : Axes} {axes : List (Char × Dim)} {c : Char} {dim : Dim}
    (h : (a.noteAll axes).find? c = some dim) : a.find? c = some dim ∨ (c, dim) ∈ axes := by
  induction axes generalizing a with
  | nil => exact .inl h
  | cons entry axes ih =>
    rcases ih h with hnote | hmem
    · rcases find?_note_eq_some hnote with hbefore | hentry
      · exact .inl hbefore
      · exact .inr (List.mem_cons.mpr (.inl hentry))
    · exact .inr (List.mem_cons_of_mem _ hmem)

theorem find?_noteAll_eq_none_iff {a : Axes} {axes : List (Char × Dim)} {c : Char} :
    (a.noteAll axes).find? c = none ↔ a.find? c = none ∧ c ∉ axes.map Prod.fst := by
  induction axes generalizing a with
  | nil => simp [noteAll]
  | cons entry axes ih =>
    have hstep := ih (a := a.note entry.1 entry.2)
    rw [find?_note_eq_none_iff] at hstep
    refine hstep.trans ?_
    simp only [List.map_cons, List.mem_cons, not_or, and_assoc, ne_eq, eq_comm]

/-- Along the letters of a term, each takes the next axis. -/
theorem noteLabels_letters_append (width : Nat) (cs : List Char) (rest : Term) {dims : List Dim}
    (h : cs.length ≤ dims.length) (a : Axes) :
    a.noteLabels width (cs.map .letter ++ rest) dims
      = (a.noteAll (cs.zip dims)).noteLabels width rest (dims.drop cs.length) := by
  induction cs generalizing dims a with
  | nil => rfl
  | cons c cs ih =>
    cases dims with
    | nil => simp at h
    | cons dim dims => exact ih (by simpa using h) (a.note c dim)

theorem noteLabels_letters (width : Nat) (cs : List Char) {dims : List Dim} (h : cs.length ≤ dims.length) (a : Axes) :
    a.noteLabels width (cs.map .letter) dims = a.noteAll (cs.zip dims) := by
  have hwalk := noteLabels_letters_append width cs [] h a
  rwa [List.append_nil] at hwalk

/-- Where the rank fits, the labels of a term note the axes that its letters stand for and those that its ellipsis
covers. -/
theorem noteLabels_eq {term : Term} (hterm : IsTerm 1 term) {dims : List Dim} (h : Fits term dims.length) (a : Axes) :
    a.noteLabels (dims.length - (letters term).length) term dims
      = { a.noteAll (letterAxes term dims) with
          covered := a.covered ++ if .ellipsis ∈ term then [coveredAxes term dims] else [] } := by
  rcases hterm.eq_letters_or with ⟨cs, rfl⟩ | ⟨cs, ds, rfl⟩
  · have hrank : dims.length = cs.length := by simpa [Fits, letters_map_letter] using h
    rw [noteLabels_letters _ cs (by omega), letterAxes, leading_letters, trailing_letters, List.zip_nil_left,
      List.append_nil, if_neg (by simp), List.append_nil, ← covered_noteAll a (cs.zip dims)]
  · have hrank : cs.length + ds.length ≤ dims.length := by simpa [Fits, letters_around] using h
    have hlast : cs.length + (dims.length - (cs.length + ds.length)) = dims.length - ds.length := by omega
    rw [noteLabels_letters_append _ cs _ (by omega), noteLabels, letterAxes, coveredAxes, leading_around, trailing_around,
      letters_around, List.length_append, if_pos (by simp), List.drop_drop, hlast, noteLabels_letters _ ds (by simp; omega),
      noteAll_covered, covered_noteAll, noteAll_append]

end Axes

theorem fits_iff {term : Term} {rank : Nat} : fits term rank = true ↔ Fits term rank := by
  have hlength := length_letters_add_count term
  have hellipsis : (letters term).length < term.length ↔ .ellipsis ∈ term := by
    rw [← List.count_pos_iff]
    omega
  by_cases h : .ellipsis ∈ term <;> simp [fits, Fits, hellipsis, h]

/-- Operands of known ranks that fit their terms. -/
theorem gather_eq {types : List TensorType} {dims : List (List Dim)}
    (htypes : List.Forall₂ (fun t axes => t.shape = some axes) types dims) {terms : List Term}
    (hterms : ∀ term ∈ terms, IsTerm 1 term) (hfits : ∀ entry ∈ terms.zip dims, Fits entry.1 entry.2.length)
    (a : Axes) :
    gather (terms.zip types) a
      = .ok (some { a.noteAll (occurrences terms dims) with covered := a.covered ++ coveredShapes terms dims }) := by
  induction htypes generalizing terms a with
  | nil => simp [gather, occurrences, coveredShapes, Axes.noteAll]
  | @cons type axes types dims htype _ ih =>
    cases terms with
    | nil => simp [gather, occurrences, coveredShapes, Axes.noteAll]
    | cons term terms =>
      obtain ⟨hterm, hterms⟩ := List.forall_mem_cons.mp hterms
      obtain ⟨hfit, hfits⟩ := List.forall_mem_cons.mp hfits
      rw [List.zip_cons_cons, gather, htype]
      dsimp only
      rw [if_pos (fits_iff.mpr hfit), a.noteLabels_eq hterm hfit, ih hterms hfits, occurrences_cons, coveredShapes_cons,
        Axes.noteAll_covered, Axes.noteAll_append, List.append_assoc]

theorem gather_misfit {types : List TensorType} {dims : List (List Dim)}
    (htypes : List.Forall₂ (fun t axes => t.shape = some axes) types dims) {terms : List Term}
    (hmisfit : ∃ entry ∈ terms.zip dims, ¬Fits entry.1 entry.2.length) (a : Axes) :
    ∃ error, gather (terms.zip types) a = .error error := by
  induction htypes generalizing terms a with
  | nil => simp at hmisfit
  | @cons type axes types dims htype _ ih =>
    cases terms with
    | nil => simp at hmisfit
    | cons term terms =>
      rw [List.zip_cons_cons, gather, htype]
      dsimp only
      split
      · next hfit =>
        rw [List.zip_cons_cons, List.exists_mem_cons_iff] at hmisfit
        rcases hmisfit with hhere | hrest
        · exact absurd (fits_iff.mp hfit) hhere
        · exact ih hrest _
      · exact ⟨_, rfl⟩

/-- An operand of unknown rank leaves everything unknown. -/
theorem gather_eq_ok {entries : List (Term × TensorType)} {a : Axes} {axes? : Option Axes}
    (h : gather entries a = .ok axes?) : axes? = none ↔ ∃ entry ∈ entries, entry.2.shape = none := by
  induction entries generalizing a with
  | nil =>
    cases h
    simp
  | cons entry entries ih =>
    obtain ⟨term, type⟩ := entry
    rw [gather] at h
    cases hshape : type.shape with
    | none =>
      rw [hshape] at h
      cases h
      simp [hshape]
    | some dims =>
      rw [hshape] at h
      dsimp only at h
      split at h
      · simp [ih h, hshape]
      · cases h

/-! ## The axes of the result -/

theorem outputDims_eq {a : Axes} {term : Term} (h : ∀ c, .letter c ∈ term → a.find? c ≠ none) :
    outputDims a term = .ok (layout (fun c => (a.find? c).toList) (broadcastDims a.covered) term) := by
  induction term with
  | nil => rfl
  | cons label term ih =>
    have hrest := ih fun c hc => h c (List.mem_cons_of_mem _ hc)
    cases label with
    | ellipsis =>
      rw [outputDims, hrest]
      rfl
    | letter c =>
      obtain ⟨dim, hdim⟩ := Option.ne_none_iff_exists'.mp (h c (by simp))
      rw [outputDims, layout, hrest, hdim]
      rfl

theorem outputDims_unknown {a : Axes} {term : Term} {c : Char} (hc : .letter c ∈ term) (h : a.find? c = none) :
    ∃ error, outputDims a term = .error error := by
  induction term with
  | nil => simp at hc
  | cons label term ih =>
    cases label with
    | ellipsis =>
      obtain ⟨error, herror⟩ := ih (by simpa using hc)
      exact ⟨error, by rw [outputDims, herror]; rfl⟩
    | letter d =>
      rw [outputDims]
      cases hd : a.find? d with
      | none => exact ⟨_, rfl⟩
      | some dim =>
        have hmem : .letter c ∈ term := by
          rcases List.mem_cons.mp hc with hsame | hmem
          · cases hsame
            simp [h] at hd
          · exact hmem
        obtain ⟨error, herror⟩ := ih hmem
        exact ⟨error, by rw [herror]; rfl⟩

theorem forall₂_layout {α β : Type} {R : α → β → Prop} {axis : Char → List α} {axis' : Char → List β}
    (haxis : ∀ c, List.Forall₂ R (axis c) (axis' c)) {covered : List α} {covered' : List β}
    (hcovered : List.Forall₂ R covered covered') (term : Term) :
    List.Forall₂ R (layout axis covered term) (layout axis' covered' term) := by
  induction term with
  | nil => exact .nil
  | cons label term ih =>
    cases label with
    | ellipsis => exact List.rel_append hcovered ih
    | letter c => exact List.rel_append (haxis c) ih

/-- What operands of known ranks that fit their terms leave noted. -/
def notes (terms : List Term) (dims : List (List Dim)) : Axes :=
  { Axes.noteAll ⟨[], []⟩ (occurrences terms dims) with covered := coveredShapes terms dims }

theorem find?_notes_eq_none_iff {terms : List Term} {dims : List (List Dim)} {c : Char} :
    (notes terms dims).find? c = none ↔ c ∉ (occurrences terms dims).map Prod.fst := by
  have h : (Axes.noteAll ⟨[], []⟩ (occurrences terms dims)).find? c = none ↔ _ := Axes.find?_noteAll_eq_none_iff
  simpa [Axes.find?, notes] using h

theorem mem_of_find?_notes {terms : List Term} {dims : List (List Dim)} {c : Char} {dim : Dim}
    (h : (notes terms dims).find? c = some dim) : (c, dim) ∈ occurrences terms dims := by
  rcases Axes.find?_noteAll_eq_some (a := ⟨[], []⟩) h with hnone | hmem
  · cases hnone
  · exact hmem

section Sound

variable {R : Dim → Nat → Prop}

theorem exists_related_of_mem {α β : Type} {S : α → β → Prop} {xs : List α} {ys : List β} (h : List.Forall₂ S xs ys)
    {x : α} (hx : x ∈ xs) : ∃ y ∈ ys, S x y := by
  induction h with
  | nil => simp at hx
  | cons hxy _ ih =>
    rcases List.mem_cons.mp hx with rfl | hx
    · exact ⟨_, List.mem_cons_self, hxy⟩
    · obtain ⟨y, hy, hrelated⟩ := ih hx
      exact ⟨y, List.mem_cons_of_mem _ hy, hrelated⟩

theorem map_fst_occurrences_eq {terms : List Term} {dims : List (List Dim)} {shapes : List (List Nat)}
    (h : List.Forall₂ (List.Forall₂ R) dims shapes) :
    (occurrences terms dims).map Prod.fst = (occurrences terms shapes).map Prod.fst := by
  rw [← List.forall₂_eq_eq_eq, List.forall₂_map_left_iff, List.forall₂_map_right_iff]
  exact (forall₂_occurrences h terms).imp fun _ _ hrelated => hrelated.1

/-- What is noted of a letter follows its size. -/
theorem notes_related {terms : List Term} {dims : List (List Dim)} {shapes : List (List Nat)}
    (h : List.Forall₂ (List.Forall₂ R) dims shapes) (hconforms : Conforms terms shapes) (c : Char) :
    List.Forall₂ R ((notes terms dims).find? c).toList ((occurrences terms shapes).lookup c).toList := by
  cases hfind : (notes terms dims).find? c with
  | none =>
    have hnone : (occurrences terms shapes).lookup c = none := by
      rw [find?_notes_eq_none_iff, map_fst_occurrences_eq h] at hfind
      rw [List.lookup_eq_none_iff]
      intro entry hentry
      have hne : c ≠ entry.1 := fun hsame => hfind (List.mem_map.mpr ⟨entry, hentry, hsame.symm⟩)
      simpa using hne
    rw [hnone]
    exact .nil
  | some dim =>
    obtain ⟨⟨c', n⟩, hentry, rfl, hdim⟩ := exists_related_of_mem (forall₂_occurrences h terms) (mem_of_find?_notes hfind)
    cases hlookup : (occurrences terms shapes).lookup c with
    | none =>
      have hne := List.lookup_eq_none_iff.mp hlookup _ hentry
      simp at hne
    | some m =>
      obtain ⟨before, after, hsplit, -⟩ := List.lookup_eq_some_iff.mp hlookup
      -- the size that is looked up and the one that was noted belong to the same letter
      have hsame : n = m := hconforms.2.1 _ hentry (c, m) (by rw [hsplit]; simp) rfl
      exact .cons (hsame ▸ hdim) .nil

/-- Ranked operands: the inferred axes follow the shape of the result. -/
theorem notes_layout (hR : Tracks R) (e : Equation) {dims : List (List Dim)} {shapes : List (List Nat)}
    (h : List.Forall₂ (List.Forall₂ R) dims shapes) (hconforms : Conforms e.inputs shapes) :
    List.Forall₂ R (layout (fun c => ((notes e.inputs dims).find? c).toList) (broadcastDims (notes e.inputs dims).covered)
      e.output) (outputShape e shapes) := by
  apply forall₂_layout
  · exact notes_related h hconforms
  · exact hR.broadcast (forall₂_coveredShapes h e.inputs) hconforms.2.2

end Sound

/-! ## The whole inference -/

theorem outputType_eq_ok_iff {e : Equation} {element : ElementType} {operands : List TensorType} {t : TensorType} :
    outputType e element operands = .ok t ↔
      e.inputs.length = operands.length ∧ ∃ axes?, gather (e.inputs.zip operands) ⟨[], []⟩ = .ok axes? ∧
        ((axes? = none ∧ t = .unranked element) ∨
          ∃ axes dims, axes? = some axes ∧ outputDims axes e.output = .ok dims ∧ t = .ranked element dims) := by
  rw [outputType]
  by_cases hlength : e.inputs.length = operands.length
  · rw [if_neg (not_not.mpr hlength)]
    dsimp only
    rw [bind_eq_ok_iff]
    simp only [hlength, true_and]
    refine exists_congr fun axes? => and_congr_right fun _ => ?_
    cases axes? with
    | none => simp [pure, Except.pure, eq_comm]
    | some axes =>
      dsimp only
      rw [bind_eq_ok_iff]
      simp [pure, Except.pure, eq_comm]
  · rw [if_pos hlength]
    simp [hlength, invalid, bind, Except.bind]

theorem exists_dims {types : List TensorType} (h : ∀ t ∈ types, t.shape ≠ none) :
    ∃ dims, List.Forall₂ (fun t axes => t.shape = some axes) types dims := by
  induction types with
  | nil => exact ⟨[], .nil⟩
  | cons t types ih =>
    obtain ⟨ht, htypes⟩ := List.forall_mem_cons.mp h
    obtain ⟨axes, haxes⟩ := Option.ne_none_iff_exists'.mp ht
    obtain ⟨dims, hdims⟩ := ih htypes
    exact ⟨axes :: dims, .cons haxes hdims⟩

/-- Where the ranks fit, something is known of the letters of the terms. -/
theorem find?_notes_ne_none_iff {terms : List Term} (hterms : ∀ term ∈ terms, IsTerm 1 term) {dims : List (List Dim)}
    (hlength : terms.length = dims.length) (hfits : ∀ entry ∈ terms.zip dims, Fits entry.1 entry.2.length) {c : Char} :
    (notes terms dims).find? c ≠ none ↔ ∃ term ∈ terms, .letter c ∈ term := by
  rw [ne_eq, find?_notes_eq_none_iff, not_not, mem_map_fst_occurrences hterms hlength hfits]

/-- Over operands of known ranks the inference succeeds where nothing is wrong, and then gives the axes noted. -/
theorem outputType_ranked {operands : List TensorType} {dims : List (List Dim)}
    (htypes : List.Forall₂ (fun t axes => t.shape = some axes) operands dims) {e : Equation}
    (hterms : ∀ term ∈ e.inputs, IsTerm 1 term) {element : ElementType} {t : TensorType} :
    outputType e element operands = .ok t ↔
      e.inputs.length = operands.length ∧ (∀ entry ∈ e.inputs.zip dims, Fits entry.1 entry.2.length) ∧
        (∀ c, .letter c ∈ e.output → ∃ term ∈ e.inputs, .letter c ∈ term) ∧
        t = .ranked element (layout (fun c => ((notes e.inputs dims).find? c).toList)
          (broadcastDims (notes e.inputs dims).covered) e.output) := by
  rw [outputType_eq_ok_iff]
  refine and_congr_right fun hlength => ?_
  have hdims : e.inputs.length = dims.length := hlength.trans htypes.length_eq
  constructor
  · rintro ⟨axes?, hgather, hcases⟩
    have hfits : ∀ entry ∈ e.inputs.zip dims, Fits entry.1 entry.2.length := by
      intro entry hentry
      by_contra hmisfit
      obtain ⟨error, herror⟩ := gather_misfit htypes ⟨entry, hentry, hmisfit⟩ ⟨[], []⟩
      cases hgather.symm.trans herror
    have hnotes : axes? = some (notes e.inputs dims) := by
      cases hgather.symm.trans (gather_eq htypes hterms hfits ⟨[], []⟩)
      rfl
    rcases hcases with ⟨hnone, -⟩ | ⟨axes, out, hsome, hout, rfl⟩
    · cases hnotes.symm.trans hnone
    · cases hnotes.symm.trans hsome
      have hknown : ∀ c, .letter c ∈ e.output → (notes e.inputs dims).find? c ≠ none := by
        intro c hc hnone
        obtain ⟨error, herror⟩ := outputDims_unknown hc hnone
        cases hout.symm.trans herror
      cases hout.symm.trans (outputDims_eq hknown)
      exact ⟨hfits, fun c hc => (find?_notes_ne_none_iff hterms hdims hfits).mp (hknown c hc), rfl⟩
  · rintro ⟨hfits, hletters, rfl⟩
    have hknown : ∀ c, .letter c ∈ e.output → (notes e.inputs dims).find? c ≠ none :=
      fun c hc => (find?_notes_ne_none_iff hterms hdims hfits).mpr (hletters c hc)
    exact ⟨_, gather_eq htypes hterms hfits ⟨[], []⟩, .inr ⟨_, _, rfl, outputDims_eq hknown, rfl⟩⟩

theorem exists_misfit_iff {operands : List TensorType} {dims : List (List Dim)}
    (htypes : List.Forall₂ (fun t axes => t.shape = some axes) operands dims) (terms : List Term) :
    (∃ entry ∈ terms.zip operands, ∃ rank, entry.2.rank? = some rank ∧ ¬Fits entry.1 rank) ↔
      ∃ entry ∈ terms.zip dims, ¬Fits entry.1 entry.2.length := by
  induction htypes generalizing terms with
  | nil => simp
  | cons htype _ ih =>
    cases terms with
    | nil => simp
    | cons term terms =>
      simp only [List.zip_cons_cons, List.exists_mem_cons_iff, ih]
      simp [TensorType.rank?, htype]

/-- What holds of operands of known ranks and their shapes holds of their axes. -/
theorem forall₂_dims {operands : List TensorType} {dims : List (List Dim)}
    (htypes : List.Forall₂ (fun t axes => t.shape = some axes) operands dims) {S : TensorType → List Nat → Prop}
    {T : List Dim → List Nat → Prop} (himp : ∀ t axes shape, t.shape = some axes → S t shape → T axes shape)
    {shapes : List (List Nat)} (h : List.Forall₂ S operands shapes) : List.Forall₂ T dims shapes := by
  induction htypes generalizing shapes with
  | nil =>
    cases h
    exact .nil
  | cons htype _ ih =>
    cases h with
    | cons hshape hshapes => exact .cons (himp _ _ _ htype hshape) (ih hshapes)

section Result

variable {e : Equation} {element : ElementType} {operands : List TensorType} {t : TensorType}

theorem shape_outputType_eq_none_iff (hterms : ∀ term ∈ e.inputs, IsTerm 1 term)
    (h : outputType e element operands = .ok t) : t.shape = none ↔ ∃ operand ∈ operands, operand.shape = none := by
  by_cases hunranked : ∃ operand ∈ operands, operand.shape = none
  · obtain ⟨hlength, axes?, hgather, hcases⟩ := outputType_eq_ok_iff.mp h
    have hnone : axes? = none := by
      obtain ⟨operand, hoperand, hshape⟩ := hunranked
      rw [← List.map_snd_zip (Nat.le_of_eq hlength.symm)] at hoperand
      obtain ⟨entry, hentry, rfl⟩ := List.mem_map.mp hoperand
      exact (gather_eq_ok hgather).mpr ⟨entry, hentry, hshape⟩
    rcases hcases with ⟨-, rfl⟩ | ⟨axes, dims, hsome, -, -⟩
    · exact iff_of_true rfl hunranked
    · cases hnone.symm.trans hsome
  · obtain ⟨dims, htypes⟩ := exists_dims fun operand hoperand hnone => hunranked ⟨operand, hoperand, hnone⟩
    obtain ⟨-, -, -, rfl⟩ := (outputType_ranked htypes hterms).mp h
    exact iff_of_false (by simp [TensorType.ranked]) hunranked

/-- Whatever relation of axes and sizes broadcasting keeps, operands of known ranks pass on to the result. -/
theorem outputType_related {R : Dim → Nat → Prop} (hR : Tracks R) (hterms : ∀ term ∈ e.inputs, IsTerm 1 term)
    (h : outputType e element operands = .ok t) {dims : List (List Dim)}
    (htypes : List.Forall₂ (fun t axes => t.shape = some axes) operands dims) {shapes : List (List Nat)}
    (hrelated : List.Forall₂ (List.Forall₂ R) dims shapes) (hconforms : Conforms e.inputs shapes) :
    ∃ out, t.shape = some out ∧ List.Forall₂ R out (outputShape e shapes) := by
  obtain ⟨-, -, -, rfl⟩ := (outputType_ranked htypes hterms).mp h
  exact ⟨_, rfl, notes_layout hR e hrelated hconforms⟩

theorem admits_outputType (hterms : ∀ term ∈ e.inputs, IsTerm 1 term) (h : outputType e element operands = .ok t)
    {sizes : String → Nat} {shapes : List (List Nat)} (hadmits : List.Forall₂ (TensorType.Admits sizes) operands shapes)
    (hconforms : Conforms e.inputs shapes) : t.Admits sizes (outputShape e shapes) := by
  intro out hout
  have hranked : ∀ operand ∈ operands, operand.shape ≠ none := by
    intro operand hoperand hnone
    have hunranked := (shape_outputType_eq_none_iff hterms h).mpr ⟨operand, hoperand, hnone⟩
    cases hunranked.symm.trans hout
  obtain ⟨dims, htypes⟩ := exists_dims hranked
  have hrelated := forall₂_dims htypes (fun t axes shape htype hadmits => hadmits axes htype) hadmits
  obtain ⟨out', hout', hresult⟩ := outputType_related (tracks_admits sizes) hterms h htypes hrelated hconforms
  cases hout.symm.trans hout'
  exact hresult

theorem sizes?_outputType (hterms : ∀ term ∈ e.inputs, IsTerm 1 term) (h : outputType e element operands = .ok t)
    {shapes : List (List Nat)} (hfixed : List.Forall₂ (fun operand shape => operand.sizes? = some shape) operands shapes)
    (hconforms : Conforms e.inputs shapes) : t.sizes? = some (outputShape e shapes) := by
  have hranked : ∀ operand ∈ operands, operand.shape ≠ none := by
    intro operand hoperand hnone
    obtain ⟨shape, -, hsizes⟩ := exists_related_of_mem hfixed hoperand
    simp [TensorType.sizes?, hnone] at hsizes
  obtain ⟨dims, htypes⟩ := exists_dims hranked
  have hrelated := forall₂_dims htypes
    (T := List.Forall₂ fun dim n => dim = .static n) (fun t axes shape htype hsizes => ?_) hfixed
  · exact sizes?_eq_some_iff.mpr (outputType_related tracks_static hterms h htypes hrelated hconforms)
  · obtain ⟨axes', haxes', hstatic⟩ := sizes?_eq_some_iff.mp hsizes
    cases htype.symm.trans haxes'
    exact hstatic

/-- Over operands of known ranks the inference fails only for a reason. -/
theorem outputType_error_iff (hterms : ∀ term ∈ e.inputs, IsTerm 1 term)
    (hranked : ∀ operand ∈ operands, operand.shape ≠ none) :
    (∃ error, outputType e element operands = .error error) ↔
      e.inputs.length ≠ operands.length ∨
      (∃ entry ∈ e.inputs.zip operands, ∃ rank, entry.2.rank? = some rank ∧ ¬Fits entry.1 rank) ∨
      ∃ c, .letter c ∈ e.output ∧ ∀ term ∈ e.inputs, .letter c ∉ term := by
  obtain ⟨dims, htypes⟩ := exists_dims hranked
  rw [exists_misfit_iff htypes]
  constructor
  · rintro ⟨error, herror⟩
    by_contra hreason
    simp only [not_or, not_exists, not_and, not_forall, not_not] at hreason
    obtain ⟨hlength, hfits, hletters⟩ := hreason
    have hfound : ∀ c, .letter c ∈ e.output → ∃ term ∈ e.inputs, .letter c ∈ term := by
      intro c hc
      obtain ⟨term, hterm, hletter⟩ := hletters c hc
      exact ⟨term, hterm, hletter⟩
    cases herror.symm.trans ((outputType_ranked htypes hterms).mpr ⟨hlength, hfits, hfound, rfl⟩)
  · intro hreason
    cases hresult : outputType e element operands with
    | error error => exact ⟨error, rfl⟩
    | ok t =>
      obtain ⟨hlength, hfits, hletters, -⟩ := (outputType_ranked htypes hterms).mp hresult
      rcases hreason with hdiffer | ⟨entry, hentry, hmisfit⟩ | ⟨c, hc, hnowhere⟩
      · exact absurd hlength hdiffer
      · exact absurd (hfits entry hentry) hmisfit
      · obtain ⟨term, hterm, hletter⟩ := hletters c hc
        exact absurd hletter (hnowhere term hterm)

end Result

/-- An equation that was read, over operands of which the first is `first`.

Whenever its type is inferred, and the operands have shapes that their types admit and that conform to the equation, the
shape of the result is one that the inferred type admits, for the same sizes of the named axes. The rank of the result is
known if those of the operands are, and its sizes are fixed if theirs are.

Over operands of known ranks the inference fails exactly if there are not as many terms as operands, a rank does not fit
its term, or a letter of the result is in no term. -/
theorem einsum_sound (text : String) (e : Equation) (hparse : parse text = .ok e) (first : TensorType)
    (rest : List TensorType) :
    (∀ (t : TensorType) (sizes : String → Nat) (shapes : List (List Nat)),
      outputType e first.element (first :: rest) = .ok t →
      List.Forall₂ (TensorType.Admits sizes) (first :: rest) shapes → Conforms e.inputs shapes →
      t.Admits sizes (outputShape e shapes) ∧
        (t.shape = none ↔ ∃ operand ∈ first :: rest, operand.shape = none) ∧
        (List.Forall₂ (fun operand shape => operand.sizes? = some shape) (first :: rest) shapes →
          t.sizes? = some (outputShape e shapes))) ∧
    ((∀ operand ∈ first :: rest, operand.shape ≠ none) →
      ((∃ error, outputType e first.element (first :: rest) = .error error) ↔
        e.inputs.length ≠ (first :: rest).length ∨
        (∃ entry ∈ e.inputs.zip (first :: rest), ∃ rank, entry.2.rank? = some rank ∧ ¬Fits entry.1 rank) ∨
        ∃ c, .letter c ∈ e.output ∧ ∀ term ∈ e.inputs, .letter c ∉ term)) := by
  obtain ⟨-, hterms, -⟩ := (parse_eq_ok_iff.mp hparse).proper
  constructor
  · intro t sizes shapes ht hadmits hconforms
    exact ⟨admits_outputType hterms ht hadmits hconforms, shape_outputType_eq_none_iff hterms ht,
      fun hfixed => sizes?_outputType hterms ht hfixed hconforms⟩
  · exact outputType_error_iff hterms

/-- A product of matrices, transposed. -/
def transposedProduct : Equation :=
  ⟨[[.ellipsis, .letter 'i', .letter 'j'], [.ellipsis, .letter 'j', .letter 'k']],
    [.ellipsis, .letter 'k', .letter 'i']⟩

/-- A batch of matrices by a matrix: the ellipses cover one axis on the left and none on the right. -/
theorem einsum_sound_batch :
    let left : TensorType := .ranked .f32 [.dynamic (some "batch"), .static 2, .dynamic none]
    let right : TensorType := .ranked .f32 [.static 3, .dynamic (some "width")]
    let sizes : String → Nat := fun name => if name = "batch" then 7 else 4
    let result : TensorType := .ranked .f32 [.dynamic (some "batch"), .dynamic (some "width"), .static 2]
    parse "...ij, ...jk -> ...ki" = .ok transposedProduct ∧
      outputType transposedProduct .f32 [left, right] = .ok result ∧
      Conforms transposedProduct.inputs [[7, 2, 3], [3, 4]] ∧
      outputShape transposedProduct [[7, 2, 3], [3, 4]] = [7, 4, 2] ∧
      result.Admits sizes (outputShape transposedProduct [[7, 2, 3], [3, 4]]) := by
  intro left right sizes result
  have hparse : parse "...ij, ...jk -> ...ki" = .ok transposedProduct := by rfl
  have hresult : outputType transposedProduct .f32 [left, right] = .ok result := by rfl
  have hconforms : Conforms transposedProduct.inputs [[7, 2, 3], [3, 4]] := by decide
  have hsound := (einsum_sound _ _ hparse left [right]).1 result sizes _ hresult (by decide) hconforms
  exact ⟨hparse, hresult, hconforms, by decide, hsound.1⟩

end ModelImport.Einsum
