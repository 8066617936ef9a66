import Mathlib.Data.List.Nodup
import Mathlib.Data.List.Perm.Basic
import ModelImport.Proofs.AxisPlaces
import ModelImport.Proofs.ConverterRuns
/-!
# Axes in another order

A transposed value has the axes of its operand in the order that a list of places gives. The list is only checked for
its length, for axes out of range and for repeats, and that is enough: as many distinct places as there are axes leave
out none (`ValidPlaces.perm_range`). An order can therefore be undone: `Inverts` says of two lists of places that each
says where the other one puts an axis, and every order has such a partner (`inverts_inverseOrder`).

`transpose_undone_by_inverse`: a value is transposed exactly by the lists that are an order of its axes, by the reversal
if none is given, and the inverse order, however its axes are counted, gives back the type of the operand.
-/

namespace ModelImport

open LookM ConverterM Operator Infer

namespace Infer

variable {rank : Nat} {order back : List Nat} {dims : List Dim}

/-! ## Orders -/

theorem ValidPlaces.subperm_range (h : ValidPlaces rank order) : order.Subperm (List.range rank) := by
  have hsubset : order ⊆ List.range rank := fun place hplace => List.mem_range.2 (h.inRange place hplace)
  exact List.subperm_of_subset h.distinct hsubset

/-- Among `rank` places there are no more than `rank` distinct ones, so a list of so many has all of them. -/
theorem ValidPlaces.perm_range (h : ValidPlaces rank order) (hlength : order.length = rank) :
    order.Perm (List.range rank) := by
  apply h.subperm_range.perm_of_length_le
  exact Nat.le_of_eq (List.length_range.trans hlength.symm)

theorem mem_order_iff (h : order.Perm (List.range rank)) {place : Nat} : place ∈ order ↔ place < rank := by
  rw [h.mem_iff, List.mem_range]

theorem length_order (h : order.Perm (List.range rank)) : order.length = rank := by
  rw [h.length_eq, List.length_range]

theorem permutation_some_eq_ok_iff {axes : List Int} :
    permutation (some axes) rank = .ok order ↔ axes.length = rank ∧ normalizeAxes "perm" axes rank = .ok order := by
  rw [permutation]
  split
  · next hne => simp [hne]
  · next heq => simp [Decidable.not_not.1 heq]

/-- Whatever the axes are put in, it is an order of all of them. -/
theorem perm_range_of_permutation {perm : Option (List Int)} (h : permutation perm rank = .ok order) :
    order.Perm (List.range rank) := by
  cases perm with
  | none =>
    cases h
    exact List.reverse_perm _
  | some axes =>
    obtain ⟨hlength, hplaces⟩ := permutation_some_eq_ok_iff.1 h
    exact (normalizeAxes_eq_ok_iff.1 hplaces).2.perm_range ((length_normalizeAxes hplaces).trans hlength)

theorem permutation_succeeds_iff {perm : Option (List Int)} :
    (∃ order, permutation perm rank = .ok order) ↔ ∀ axes ∈ perm, axes.length = rank ∧ ValidAxes rank axes := by
  cases perm with
  | none => simp [permutation]
  | some axes =>
    simp only [permutation_some_eq_ok_iff, exists_and_left, normalizeAxes_succeeds_iff, Option.mem_some_iff,
      forall_eq']

/-! ## Axes in an order -/

theorem map_some_permute (h : ∀ place ∈ order, place < dims.length) :
    (permute dims order).map some = order.map (dims[·]?) := by
  induction order with
  | nil => rfl
  | cons place rest ih =>
    obtain ⟨hplace, hrest⟩ := List.forall_mem_cons.1 h
    have hdim : dims[place]? = some dims[place] := List.getElem?_eq_getElem hplace
    have ih := ih hrest
    unfold permute at ih ⊢
    rw [List.filterMap_cons_some hdim, List.map_cons, List.map_cons, ih, hdim]

theorem length_permute (h : ∀ place ∈ order, place < dims.length) : (permute dims order).length = order.length := by
  simpa using congrArg List.length (map_some_permute h)

/-- Each axis of the result is the axis of the operand at the place that the order has there. -/
theorem getElem?_permute (h : ∀ place ∈ order, place < dims.length) (i : Nat) :
    (permute dims order)[i]? = (order[i]?).bind (dims[·]?) := by
  have hentry := congrArg (·[i]?) (map_some_permute h)
  simp only [List.getElem?_map] at hentry
  cases hplace : order[i]? with
  | none => simpa [hplace] using hentry
  | some place =>
    have hdim := List.getElem?_eq_getElem (h place (List.mem_of_getElem? hplace))
    simpa [hplace, hdim] using hentry

/-! ## Inverse orders -/

/-- Where one list has a place, the other one has at that place where it is. -/
def Inverts (order back : List Nat) : Prop := ∀ i j : Nat, back[j]? = some i ↔ order[i]? = some j

/-- For each place, where an order has it. -/
def inverseOrder (order : List Nat) : List Nat := (List.range order.length).map (order.idxOf ·)

theorem inverts_inverseOrder (h : order.Perm (List.range rank)) : Inverts order (inverseOrder order) := by
  have hdistinct : order.Nodup := h.nodup_iff.2 List.nodup_range
  have hlength := length_order h
  intro i j
  unfold inverseOrder
  rw [List.getElem?_map, Option.map_eq_some_iff]
  constructor
  · rintro ⟨place, hplace, rfl⟩
    obtain ⟨hlt, hj⟩ := List.getElem?_eq_some_iff.1 hplace
    rw [List.getElem_range] at hj
    subst hj
    rw [List.length_range, hlength] at hlt
    have hmem : j ∈ order := (mem_order_iff h).2 hlt
    exact List.getElem?_eq_some_iff.2 ⟨List.idxOf_lt_length_iff.2 hmem, List.getElem_idxOf _⟩
  · intro hi
    have hmem : j < rank := (mem_order_iff h).1 (List.mem_of_getElem? hi)
    obtain ⟨hlt, rfl⟩ := List.getElem?_eq_some_iff.1 hi
    refine ⟨order[i], ?_, hdistinct.idxOf_getElem i hlt⟩
    rw [List.getElem?_range (hlength ▸ hmem)]

namespace Inverts

theorem lt_length (h : Inverts order back) {place : Nat} (hplace : place ∈ back) : place < order.length := by
  obtain ⟨j, hj⟩ := List.mem_iff_getElem?.1 hplace
  exact (List.getElem?_eq_some_iff.1 ((h place j).1 hj)).1

theorem lt_length_iff (h : Inverts order back) (hperm : order.Perm (List.range rank)) (j : Nat) :
    j < back.length ↔ j < rank := by
  rw [← mem_order_iff hperm, List.mem_iff_getElem?]
  constructor
  · intro hj
    exact ⟨back[j], (h _ _).1 (List.getElem?_eq_getElem hj)⟩
  · rintro ⟨i, hi⟩
    exact (List.getElem?_eq_some_iff.1 ((h i j).2 hi)).1

theorem length_eq (h : Inverts order back) (hperm : order.Perm (List.range rank)) : back.length = rank := by
  have hless := (h.lt_length_iff hperm rank).not
  have hmore := (h.lt_length_iff hperm back.length).not
  omega

theorem validPlaces (h : Inverts order back) (hperm : order.Perm (List.range rank)) : ValidPlaces rank back where
  inRange place hplace := length_order hperm ▸ h.lt_length hplace
  distinct := by
    refine List.nodup_iff_getElem?_ne_getElem?.2 ?_
    intro j k hlt hk heq
    have hplace := List.getElem?_eq_getElem hk
    -- one place of the order would hold both
    have hj := (h _ _).1 (heq.trans hplace)
    have hk := (h _ _).1 hplace
    rw [hj] at hk
    exact absurd (Option.some.inj hk) (Nat.ne_of_lt hlt)

/-- Axes put in an order and then in the inverse one are where they were. -/
theorem permute_permute (h : Inverts order back) (hperm : order.Perm (List.range dims.length)) :
    permute (permute dims order) back = dims := by
  have hwithin : ∀ place ∈ order, place < dims.length := fun place hplace => (mem_order_iff hperm).1 hplace
  have hback : ∀ place ∈ back, place < (permute dims order).length := by
    intro place hplace
    rw [length_permute hwithin]
    exact h.lt_length hplace
  apply List.ext_getElem?
  intro j
  rw [getElem?_permute hback]
  cases hj : back[j]? with
  | none =>
    have hout : dims.length ≤ j := by
      rw [← h.length_eq hperm]
      exact List.getElem?_eq_none_iff.1 hj
    exact (List.getElem?_eq_none hout).symm
  | some i =>
    have hi : order[i]? = some j := (h i j).1 hj
    rw [Option.bind_some, getElem?_permute hwithin, hi, Option.bind_some]

end Inverts

end Infer

/-! ## The nodes -/

/-- A node that puts the axes of its operand in the given order, if any is given. -/
structure Site.Reorders (site : Site) (x : TensorType) (perm : Option (List Int)) : Prop where
  typed : site.Typed 0 x
  inputs : site.operands.length = 1
  outputs : site.node.outputs.length = 1
  ordered : site.Stores .ints "perm" perm

/-- What a node that puts the axes in an order is lowered to. -/
def Site.reordered (site : Site) (element : ElementType) (dims : List Dim) (order : List Nat) : Lowering :=
  ⟨[], some (.instruction (site.instruction [("perm", axesParam order)] [.ranked element (permute dims order)]))⟩

namespace Operator
variable {site : Site} {element : ElementType} {dims : List Dim} {perm : Option (List Int)} {order : List Nat}

theorem lowers_transpose (g : site.Reorders (.ranked element dims) perm)
    (h : permutation perm dims.length = .ok order) : Lowers site transpose (site.reordered element dims order) := by
  refine .bind (.bind (.checkInputs_exact g.inputs) (.checkOutputs_exact g.outputs)) (.bind (.attr? g.ordered) ?_)
  exact .bind (.inputType g.typed) (.bind (.lift h) .emit)

/-- A node that transposes its operand converts only if there is an order. -/
theorem refuses_transpose (g : site.Reorders (.ranked element dims) perm) {e : ImportError}
    (h : permutation perm dims.length = .error e) : Refuses site transpose e := by
  refine .bind (.bind (.checkInputs_exact g.inputs) (.checkOutputs_exact g.outputs)) (.bind (.attr? g.ordered) ?_)
  exact .bind (.inputType g.typed) (.of_fails (.lift h))

end Operator

/-- A value of known rank can be transposed exactly if no order is given, or if one is given that has an entry for each
axis, with all of them valid; else the node is refused. The emitted order has every axis once, it is the reversal if none
is given and else the given one counted from the front, and each axis of the result is the one that the order has at its
place. There is an inverse order, and it gives back the type of the operand, however its axes are counted. -/
theorem transpose_undone_by_inverse {converter : Converter}
    (hfind : Registry.builtin.find? "Transpose" = some converter) {site : Site} {element : ElementType}
    {dims : List Dim} {perm : Option (List Int)} (g : site.Reorders (.ranked element dims) perm) :
    ((¬∀ axes ∈ perm, axes.length = dims.length ∧ ValidAxes dims.length axes) → ∃ e, converter.Refuses site e) ∧
    ((∀ axes ∈ perm, axes.length = dims.length ∧ ValidAxes dims.length axes) → ∃ order out,
      converter.Emits site (site.instruction [("perm", axesParam order)] [.ranked element out]) ∧
      order.Perm (List.range dims.length) ∧
      (perm = none → order = (List.range dims.length).reverse) ∧
      (∀ axes ∈ perm, order.map Int.ofNat = axes.map (fromBack dims.length)) ∧
      out.length = dims.length ∧ (∀ i : Nat, out[i]? = (order[i]?).bind (dims[·]?)) ∧
      (∃ back, Inverts order back) ∧ ∀ back, Inverts order back → ∀ (site' : Site) (axes' : List Int),
        back.map Int.ofNat = axes'.map (fromBack dims.length) →
        site'.Reorders (.ranked element out) (some axes') →
        converter.Emits site' (site'.instruction [("perm", axesParam back)] [.ranked element dims])) := by
  obtain rfl : Converter.of transpose = converter := Option.some.inj hfind
  rw [← permutation_succeeds_iff]
  constructor
  · intro hnone
    cases hperm : permutation perm dims.length with
    | error e => exact ⟨e, (refuses_transpose g hperm).converter⟩
    | ok order => exact absurd ⟨order, hperm⟩ hnone
  · rintro ⟨order, horder⟩
    have hperm := perm_range_of_permutation horder
    have hwithin : ∀ place ∈ order, place < dims.length := fun place hplace => (mem_order_iff hperm).1 hplace
    have hlength : (permute dims order).length = dims.length := (length_permute hwithin).trans (length_order hperm)
    refine ⟨order, permute dims order, (lowers_transpose g horder).converter, hperm, ?_, ?_, hlength,
      getElem?_permute hwithin, ⟨_, inverts_inverseOrder hperm⟩, ?_⟩
    · rintro rfl
      exact (Except.ok.inj horder).symm
    · intro axes haxes
      obtain rfl : perm = some axes := haxes
      exact (normalizeAxes_eq_ok_iff.1 (permutation_some_eq_ok_iff.1 horder).2).1
    · intro back hinverts site' axes' haxes' g'
      have hcount : axes'.length = dims.length := by
        rw [← hinverts.length_eq hperm]
        simpa using (congrArg List.length haxes').symm
      have hplaces : normalizeAxes "perm" axes' dims.length = .ok back :=
        normalizeAxes_eq_ok_iff.2 ⟨haxes', hinverts.validPlaces hperm⟩
      have hback : permutation (some axes') (permute dims order).length = .ok back := by
        rw [hlength]
        exact permutation_some_eq_ok_iff.2 ⟨hcount, hplaces⟩
      have hlowers := (lowers_transpose g' hback).converter
      rwa [Site.reordered, hinverts.permute_permute hperm] at hlowers

/-- Three axes turned by one place, with one of them counted from the back, and turned back by the inverse order, which
is another one. -/
theorem turned_axes_restored :
    let x := TensorType.ranked .f32 [.dynamic (some "n"), .static 0, .static 3]
    let y := TensorType.ranked .f32 [.static 0, .static 3, .dynamic (some "n")]
    let site := sampleSite "Transpose" ["y"] [x] [("perm", .ints [1, -1, 0])]
    let site' := sampleSite "Transpose" ["z"] [y] [("perm", .ints [-1, 0, 1])]
    site.Reorders x (some [1, -1, 0]) ∧ site'.Reorders y (some [-1, 0, 1]) ∧
      (Converter.of transpose).Emits site (site.instruction [("perm", .ints [1, 2, 0])] [y]) ∧
      (Converter.of transpose).Emits site' (site'.instruction [("perm", .ints [2, 0, 1])] [x]) := by
  intro x y site site'
  have g : site.Reorders x (some [1, -1, 0]) := ⟨⟨⟨0⟩, rfl, rfl⟩, rfl, rfl, rfl⟩
  have g' : site'.Reorders y (some [-1, 0, 1]) := ⟨⟨⟨0⟩, rfl, rfl⟩, rfl, rfl, rfl⟩
  obtain ⟨order, out, hemits, hperm, -, horder, -, hout, -, hback⟩ :=
    (transpose_undone_by_inverse rfl g).2 (permutation_succeeds_iff.1 ⟨[1, 2, 0], rfl⟩)
  obtain rfl : order = [1, 2, 0] :=
    List.map_injective_iff.2 (fun _ _ heq => Int.ofNat.inj heq) (horder _ rfl)
  obtain rfl : out = [.static 0, .static 3, .dynamic (some "n")] := by
    refine List.ext_getElem? fun i => (hout i).trans ?_
    rcases i with _ | _ | _ | i <;> rfl
  exact ⟨g, g', hemits, hback [2, 0, 1] (inverts_inverseOrder hperm) site' [-1, 0, 1] rfl g'⟩

end ModelImport
