import Mathlib.Data.List.Nodup
import ModelImport.Proofs.AxisPlaces
import ModelImport.Proofs.ConverterRuns
/-!
# Axes of size 1

Axes of size 1 are put in at places of the result and taken out at places of the operand. `WithUnits` says what both
have to do with each other: one list of axes is another one with axes of size 1 at the given places, and the others in
order at the places that are left (`unlisted`).

`squeeze_undoes_unsqueeze`: axes can be put in exactly if they are valid for the rank of the result, and taking them out
again, by their places or as they were written, gives back the type of the operand.
-/

namespace ModelImport

open LookM ConverterM Operator Infer

namespace Infer

/-! ## Listed and unlisted places -/

/-- The places among `rank` ones that are not listed, in order. -/
def unlisted (rank : Nat) (places : List Nat) : List Nat := (List.range rank).filter (· ∉ places)

variable {rank : Nat} {places : List Nat} {dims out : List Dim}

theorem mem_unlisted {i : Nat} : i ∈ unlisted rank places ↔ i < rank ∧ i ∉ places := by simp [unlisted]

theorem length_unlisted (h : ValidPlaces rank places) : (unlisted rank places).length + places.length = rank := by
  have hlisted : ((List.range rank).filter (· ∈ places)).Perm places := by
    refine (List.perm_ext_iff_of_nodup (List.nodup_range.filter _) h.distinct).2 ?_
    intro place
    simp only [List.mem_filter, List.mem_range, decide_eq_true_eq]
    exact ⟨fun hplace => hplace.2, fun hplace => ⟨h.inRange place hplace, hplace⟩⟩
  have hboth := List.length_eq_length_filter_add (l := List.range rank) (· ∈ places)
  simp only [List.length_range, hlisted.length_eq, ← decide_not] at hboth
  unfold unlisted
  omega

/-- Dropping axes leaves those at the unlisted places. -/
theorem map_some_dropAxes (dims : List Dim) (places : List Nat) :
    (dropAxes dims places).map some = (unlisted dims.length places).map (dims[·]?) := by
  have hrange : List.range dims.length = dims.zipIdx.map (·.2) := by
    rw [List.zipIdx_map_snd, List.range_eq_range']
  unfold dropAxes unlisted
  rw [hrange, List.filter_map, List.map_map, List.map_map]
  simp only [List.contains_eq_mem, Function.comp_def, decide_not]
  apply List.map_congr_left
  rintro ⟨dim, place⟩ hentry
  exact (List.mem_zipIdx_iff_getElem?.1 (List.mem_filter.1 hentry).1).symm

/-! ## Axes with others of size 1 among them -/

/-- The axes `out` are `dims` with axes of size 1 at the places. -/
structure WithUnits (places : List Nat) (dims out : List Dim) : Prop where
  valid : ValidPlaces out.length places
  listed : ∀ place ∈ places, out[place]? = some (.static 1)
  unlisted : (unlisted out.length places).map (out[·]?) = dims.map some

namespace WithUnits

theorem length_eq (h : WithUnits places dims out) : out.length = dims.length + places.length := by
  have hlength := congrArg List.length h.unlisted
  simp only [List.length_map] at hlength
  rw [← length_unlisted h.valid, hlength]

/-- An axis has size 1 if it is listed, or if it is an axis of size 1 at an unlisted place, and only then. -/
theorem static_one_iff (h : WithUnits places dims out) {i : Nat} (hi : i < out.length) :
    out[i]? = some (.static 1) ↔
      i ∈ places ∨ ∃ k : Nat, (Infer.unlisted out.length places)[k]? = some i ∧ dims[k]? = some (.static 1) := by
  have hcarried : ∀ k : Nat, (Infer.unlisted out.length places)[k]? = some i → dims[k]? = out[i]? := by
    intro k hk
    have hentry := congrArg (·[k]?) h.unlisted
    simp only [List.getElem?_map, hk, Option.map_some] at hentry
    cases hdim : dims[k]? with
    | none => simp [hdim] at hentry
    | some dim =>
      rw [hdim] at hentry
      exact (Option.some.inj hentry).symm
  constructor
  · intro hunit
    by_cases hplace : i ∈ places
    · exact .inl hplace
    · obtain ⟨k, hk⟩ := List.mem_iff_getElem?.1 (mem_unlisted.2 ⟨hi, hplace⟩)
      exact .inr ⟨k, hk, (hcarried k hk).trans hunit⟩
  · rintro (hplace | ⟨k, hk, hunit⟩)
    · exact h.listed i hplace
    · rw [← hcarried k hk]
      exact hunit

theorem dropAxes_eq (h : WithUnits places dims out) : dropAxes out places = dims := by
  have hsome := (map_some_dropAxes out places).trans h.unlisted
  exact List.map_injective_iff.2 (fun _ _ heq => Option.some.inj heq) hsome

end WithUnits

theorem checkUnitAxes_eq_ok (h : ∀ place ∈ places, dims[place]? = some (.static 1)) :
    checkUnitAxes dims places = .ok () := by
  induction places with
  | nil => rfl
  | cons place rest ih =>
    obtain ⟨hunit, hrest⟩ := List.forall_mem_cons.1 h
    simp [checkUnitAxes, hunit, Dim.size?, ih hrest]

/-- Whatever axes have these places take the axes of size 1 out again. -/
theorem WithUnits.squeezeDims_eq (h : WithUnits places dims out) {axes : List Int}
    (haxes : normalizeAxes "axes" axes out.length = .ok places) : squeezeDims out axes = .ok (places, dims) := by
  refine bind_eq_ok_iff.2 ⟨places, haxes, bind_eq_ok_iff.2 ⟨(), checkUnitAxes_eq_ok h.listed, ?_⟩⟩
  rw [h.dropAxes_eq]
  rfl

/-! ## Putting axes in -/

theorem length_insertUnits (places : List Nat) (index count : Nat) (dims : List Dim) :
    (insertUnits places index count dims).length = count := by
  induction count generalizing index dims with
  | zero => rfl
  | succ count ih =>
    rw [insertUnits]
    split
    · simp [ih]
    · simp [ih]

theorem getElem?_insertUnits_listed {index count i : Nat} (hi : i < count) (hplace : index + i ∈ places) :
    (insertUnits places index count dims)[i]? = some (.static 1) := by
  induction count generalizing index i dims with
  | zero => omega
  | succ count ih =>
    rw [insertUnits]
    cases i with
    | zero => simp [show index ∈ places from hplace]
    | succ i =>
      have hnext : index + 1 + i ∈ places := by rwa [Nat.add_right_comm]
      split
      · exact ih (Nat.lt_of_succ_lt_succ hi) hnext
      · exact ih (Nat.lt_of_succ_lt_succ hi) hnext

/-- If there is an axis for each unlisted place, none is missing on the way and none is left over. -/
theorem dropAxes_insertUnits_from {index count : Nat}
    (hcount : ((List.range' index count).filter (· ∉ places)).length = dims.length) :
    (((insertUnits places index count dims).zipIdx index).filter fun (_, i) => !places.contains i).map (·.1) =
      dims := by
  induction count generalizing index dims with
  | zero => simpa [insertUnits, eq_comm] using hcount
  | succ count ih =>
    rw [List.range'_succ] at hcount
    rw [insertUnits]
    by_cases hplace : index ∈ places
    · simp only [List.filter_cons, hplace, not_true_eq_false, decide_false, Bool.false_eq_true, if_false] at hcount
      simpa [hplace] using ih hcount
    · simp only [List.filter_cons, hplace, not_false_eq_true, decide_true, if_true, List.length_cons] at hcount
      cases dims with
      | nil => simp at hcount
      | cons dim rest =>
        have hrest := ih (Nat.succ.inj hcount)
        simpa [hplace] using hrest

/-- Axes are put in at valid places, in front of, between and after those that are there. -/
theorem withUnits_insertUnits (h : ValidPlaces (dims.length + places.length) places) :
    WithUnits places dims (insertUnits places 0 (dims.length + places.length) dims) := by
  have hlength := length_insertUnits places 0 (dims.length + places.length) dims
  have hdrop : dropAxes (insertUnits places 0 (dims.length + places.length) dims) places = dims := by
    apply dropAxes_insertUnits_from
    have hfree := length_unlisted h
    rw [unlisted, List.range_eq_range'] at hfree
    omega
  refine ⟨by rwa [hlength], ?_, ?_⟩
  · intro place hplace
    exact getElem?_insertUnits_listed (h.inRange place hplace) (by rwa [Nat.zero_add])
  · rw [← map_some_dropAxes, hdrop]

theorem unsqueezeDims_eq_ok_iff {axes : List Int} :
    unsqueezeDims dims axes = .ok (places, out) ↔
      normalizeAxes "axes" axes (dims.length + axes.length) = .ok places ∧
        out = insertUnits places 0 (dims.length + axes.length) dims := by
  unfold unsqueezeDims
  rw [bind_eq_ok_iff]
  constructor
  · rintro ⟨found, hfound, hresult⟩
    cases hresult
    exact ⟨hfound, rfl⟩
  · rintro ⟨hplaces, rfl⟩
    exact ⟨places, hplaces, rfl⟩

end Infer

/-! ## The nodes -/

/-- A node with one result that lists axes of its operand, or of its result: as an attribute before operator set 13, and
as a constant input from then on. -/
structure Site.ListsAxes (site : Site) (x : TensorType) (axes : List Int) : Prop where
  typed : site.Typed 0 x
  inputs : site.operands.length = if site.opset < 13 then 1 else 2
  outputs : site.node.outputs.length = 1
  listed : site.Gives "axes" 1 13 (some axes)

namespace Operator
variable {site : Site} {x : TensorType} {element : ElementType} {dims out : List Dim} {axes : List Int}
  {places : List Nat}

theorem lowers_unsqueeze (g : site.ListsAxes (.ranked element dims) axes)
    (h : unsqueezeDims dims axes = .ok (places, out)) :
    Lowers site unsqueeze
      ⟨[], some (.instruction (site.instruction [("axes", axesParam places)] [.ranked element out]))⟩ := by
  refine .bind (.checkOutputs_exact g.outputs) (.bind (.requiredInts g.inputs g.listed) ?_)
  exact .bind (.inputType g.typed) (.bind (.lift h) .emit)

/-- A node that puts axes in converts only if the axes can be put in. -/
theorem refuses_unsqueeze (g : site.ListsAxes (.ranked element dims) axes) {e : ImportError}
    (h : unsqueezeDims dims axes = .error e) : Refuses site unsqueeze e := by
  refine .bind (.checkOutputs_exact g.outputs) (.bind (.requiredInts g.inputs g.listed) ?_)
  exact .bind (.inputType g.typed) (.of_fails (.lift h))

theorem lowers_squeeze (g : site.ListsAxes (.ranked element dims) axes) (h : squeezeDims dims axes = .ok (places, out)) :
    Lowers site squeeze
      ⟨[], some (.instruction (site.instruction [("axes", axesParam places)] [.ranked element out]))⟩ := by
  refine .bind .opset (.bind (.checkInputs_upTo g.typed (Nat.le_of_eq g.inputs)) ?_)
  refine .bind (.checkOutputs_exact g.outputs) (.bind .opset (.bind .hasAttr ?_))
  exact .bind .input? (.bind (.intsByOpset g.listed) (.bind (.inputType g.typed) (.bind (.lift h) .emit)))

end Operator

/-- Axes of size 1 are put into a type of known rank exactly if the listed axes are valid for the rank of the result;
else the node is refused. The result then has an axis more for each of them: an axis has size 1 if it is listed, or if it
is an axis of size 1 of the operand, and the unlisted ones are those of the operand in order. Taking the axes out again,
by their places or as they were listed, gives back the type of the operand. -/
theorem squeeze_undoes_unsqueeze {unsqueezer squeezer : Converter}
    (hunsqueezer : Registry.builtin.find? "Unsqueeze" = some unsqueezer)
    (hsqueezer : Registry.builtin.find? "Squeeze" = some squeezer) {site : Site} {element : ElementType}
    {dims : List Dim} {axes : List Int} (g : site.ListsAxes (.ranked element dims) axes) :
    (¬ValidAxes (dims.length + axes.length) axes → ∃ e, unsqueezer.Refuses site e) ∧
    (ValidAxes (dims.length + axes.length) axes → ∃ places out,
      unsqueezer.Emits site (site.instruction [("axes", axesParam places)] [.ranked element out]) ∧
      places.map Int.ofNat = axes.map (fromBack (dims.length + axes.length : Nat)) ∧
      out.length = dims.length + axes.length ∧
      (∀ i, i < out.length → (out[i]? = some (.static 1) ↔
        i ∈ places ∨ ∃ k : Nat, (unlisted out.length places)[k]? = some i ∧ dims[k]? = some (.static 1))) ∧
      (unlisted out.length places).map (out[·]?) = dims.map some ∧
      ∀ (site' : Site) (axes' : List Int), axes' = places.map Int.ofNat ∨ axes' = axes →
        site'.ListsAxes (.ranked element out) axes' →
        squeezer.Emits site' (site'.instruction [("axes", axesParam places)] [.ranked element dims])) := by
  obtain rfl : Converter.of unsqueeze = unsqueezer := Option.some.inj hunsqueezer
  obtain rfl : Converter.of squeeze = squeezer := Option.some.inj hsqueezer
  rw [← normalizeAxes_succeeds_iff "axes"]
  constructor
  · intro hnone
    cases hdims : unsqueezeDims dims axes with
    | error e => exact ⟨e, (refuses_unsqueeze g hdims).converter⟩
    | ok r => exact absurd ⟨r.1, (unsqueezeDims_eq_ok_iff.1 hdims).1⟩ hnone
  · rintro ⟨places, hplaces⟩
    have hemits := (lowers_unsqueeze g (unsqueezeDims_eq_ok_iff.2 ⟨hplaces, rfl⟩)).converter
    have hcount := length_normalizeAxes hplaces
    rw [← hcount] at hplaces hemits
    obtain ⟨hmap, hvalid⟩ := normalizeAxes_eq_ok_iff.1 hplaces
    have hunits : WithUnits places dims (insertUnits places 0 (dims.length + places.length) dims) :=
      withUnits_insertUnits hvalid
    rw [← hcount]
    refine ⟨places, _, hemits, hmap, hunits.length_eq, fun i => hunits.static_one_iff, hunits.unlisted, ?_⟩
    intro site' axes' haxes' g'
    have hsame : normalizeAxes "axes" axes' (insertUnits places 0 (dims.length + places.length) dims).length =
        .ok places := by
      rcases haxes' with rfl | rfl
      · exact normalizeAxes_places "axes" hunits.valid
      · rw [hunits.length_eq]
        exact hplaces
    exact (lowers_squeeze g' (hunits.squeezeDims_eq hsame)).converter

/-- A node that lists axes as a constant input. -/
def suppliedAxesSite (opType : String) (type : TensorType) (axes : List Int) : Site where
  node := { name := "sample", opType, domain := "", inputs := ["x", "axes"], outputs := ["y"], attributes := [] }
  operands := [some ⟨0⟩, some ⟨1⟩]
  function := (((Builder.new "main").createPlaceholder "x" type).2.createConstant "axes" (.vectorInts axes)).2.function
  opset := 13

/-- A node of an older operator set, which lists axes as an attribute. -/
def storedAxesSite (opType : String) (type : TensorType) (axes : List Int) : Site :=
  { sampleSite opType ["y"] [type] [("axes", .ints axes)] with opset := 11 }

theorem storedAxesSite_listsAxes (opType : String) (type : TensorType) (axes : List Int) :
    (storedAxesSite opType type axes).ListsAxes type axes where
  typed := ⟨⟨0⟩, rfl, rfl⟩
  inputs := rfl
  outputs := rfl
  listed := ⟨fun _ => rfl, fun hnew => absurd hnew (by decide : ¬(13 : Int) ≤ 11)⟩

/-- A vector of unknown length gets an axis before it and one after it, one of them counted from the back, and loses
them again. -/
theorem unsqueezed_vector_restored :
    let x := TensorType.ranked .f32 [.dynamic (some "n")]
    let y := TensorType.ranked .f32 [.static 1, .dynamic (some "n"), .static 1]
    let site := suppliedAxesSite "Unsqueeze" x [-1, 0]
    site.ListsAxes x [-1, 0] ∧
      (Converter.of unsqueeze).Emits site (site.instruction [("axes", .ints [2, 0])] [y]) ∧
      ∀ axes ∈ [[2, 0], [-1, 0]], (Converter.of squeeze).Emits (storedAxesSite "Squeeze" y axes)
        ((storedAxesSite "Squeeze" y axes).instruction [("axes", .ints [2, 0])] [x]) := by
  intro x y site
  have g : site.ListsAxes x [-1, 0] :=
    { typed := ⟨⟨0⟩, rfl, rfl⟩
      inputs := rfl
      outputs := rfl
      listed := ⟨fun hold => absurd hold (by decide), fun _ => ⟨⟨1⟩, _, rfl, rfl, rfl⟩⟩ }
  obtain ⟨places, out, hemits, hplaces, hlength, hunits, hrest, hback⟩ :=
    (squeeze_undoes_unsqueeze rfl rfl g).2 ((normalizeAxes_succeeds_iff "axes").1 ⟨[2, 0], rfl⟩)
  obtain rfl : places = [2, 0] := List.map_injective_iff.2 (fun _ _ heq => Int.ofNat.inj heq) hplaces
  obtain rfl : out = [.static 1, .dynamic (some "n"), .static 1] := by
    obtain ⟨first, middle, last, rfl⟩ := List.length_eq_three.1 hlength
    have hfirst := (hunits 0 (Nat.zero_lt_succ 2)).2 (.inl (by decide))
    have hlast := (hunits 2 (Nat.lt_succ_self 2)).2 (.inl (by decide))
    have hmiddle : some middle = some (.dynamic (some "n")) := (List.cons.inj hrest).1
    cases hfirst
    cases hlast
    cases hmiddle
    rfl
  refine ⟨g, hemits, ?_⟩
  intro axes haxes
  refine hback _ axes ?_ (storedAxesSite_listsAxes ..)
  simpa using haxes

end ModelImport
