import Mathlib.Algebra.BigOperators.Ring.Finset
import ModelImport.Proofs.AxisPlaces
import ModelImport.Proofs.Broadcasting
import ModelImport.Proofs.ConverterRuns
import ModelImport.Proofs.SlidingWindows
/-!
# Pieces of an axis

An axis of known size is cut into pieces of listed sizes, or into even chunks. The first chunks are as large as the
quotient rounded up, so the axis may be used up before the last of them: those after it are empty. Up to any chunk, what
has been cut off is what the full chunks amount to or the whole axis, whichever is less (`sum_chunks`), and at the last
one it is the whole axis (`sum_evenChunks`).

`concat_undoes_split`: joining the pieces along the axis they were cut along gives back the type that was cut.
-/

namespace ModelImport

open LookM ConverterM Operator Infer

namespace Infer

/-! ## Even chunks -/

theorem length_evenChunks (length count : Nat) : (evenChunks length count).length = count := by simp [evenChunks]

theorem sum_chunks (length chunk count : Nat) :
    ((List.range count).map fun i => min (length - chunk * i) chunk).sum = min length (chunk * count) := by
  induction count with
  | zero => simp
  | succ count ih =>
    rw [List.range_succ, List.map_append, List.sum_append, ih, Nat.mul_succ]
    simp only [List.map_cons, List.map_nil, List.sum_cons, List.sum_nil]
    omega

theorem sum_evenChunks (length : Nat) {count : Nat} (h : 0 < count) : (evenChunks length count).sum = length := by
  have hcover : length ≤ Word.ceilDiv length count * count := by
    rw [Nat.mul_comm, Word.ceilDiv_eq, ← ceilDiv_le_iff_le_mul h]
  rw [evenChunks, sum_chunks, Nat.min_eq_left hcover]

theorem evenChunks_nonincreasing (length count : Nat) : (evenChunks length count).Pairwise (· ≥ ·) := by
  rw [evenChunks, List.pairwise_map]
  refine List.pairwise_lt_range.imp ?_
  intro i j hlt
  have hstart := Nat.mul_le_mul_left (Word.ceilDiv length count) (Nat.le_of_lt hlt)
  omega

-- The axis is used up by the first two of the chunks.
example : evenChunks 4 3 = [2, 2, 0] := by decide

theorem le_of_mem_evenChunks {length count piece : Nat} (h : piece ∈ evenChunks length count) :
    piece ≤ length ⌈/⌉ count := by
  obtain ⟨i, -, rfl⟩ := List.mem_map.1 h
  exact Nat.min_le_right ..

/-! ## Cutting and joining -/

/-- What the pieces of an axis have to do with its size and with the sizes that are listed, if any are. -/
structure Cuts (size count : Nat) (sizes : Option (List Int)) (pieces : List Nat) : Prop where
  length_eq : pieces.length = count
  sum_eq : pieces.sum = size
  even : sizes = none → pieces.Pairwise (· ≥ ·) ∧ ∀ piece ∈ pieces, piece ≤ size ⌈/⌉ count
  listed : ∀ list, sizes = some list → pieces.map Int.ofNat = list

theorem cuts_evenChunks (size : Nat) {count : Nat} (h : 0 < count) : Cuts size count none (evenChunks size count) where
  length_eq := length_evenChunks size count
  sum_eq := sum_evenChunks size h
  even _ := ⟨evenChunks_nonincreasing size count, fun _ => le_of_mem_evenChunks⟩
  listed := by simp

/-- Listed sizes are pieces if none of them is negative and they add up to the size. -/
theorem exists_cuts_of_listed {size : Nat} {list : List Int} (hsign : ∀ s ∈ list, 0 ≤ s) (hsum : list.sum = size) :
    ∃ pieces, Cuts size list.length (some list) pieces := by
  lift list to List Nat using hsign
  rw [← Nat.cast_list_sum, Nat.cast_inj] at hsum
  refine ⟨list, by simp, hsum, by simp, ?_⟩
  rintro _ ⟨⟩
  rfl

variable {size count place : Nat} {sizes : Option (List Int)} {pieces : List Nat} {dims : List Dim} {axis : Int}

theorem chunkDims_listed (pieces : List Nat) (dim : Option Dim) (count : Nat) :
    chunkDims (some (pieces.map Int.ofNat)) dim count = pieces.map .static := by
  simp [chunkDims, Word.size?, Dim.ofSize?]

/-- Every axis has its pieces: as listed, or even chunks. -/
theorem exists_cuts (hcount : 0 < count)
    (hsizes : ∀ list, sizes = some list → list.length = count ∧ (∀ s ∈ list, 0 ≤ s) ∧ list.sum = size) :
    ∃ pieces, Cuts size count sizes pieces ∧ chunkDims sizes (some (.static size)) count = pieces.map .static := by
  cases sizes with
  | none => exact ⟨evenChunks size count, cuts_evenChunks size hcount, rfl⟩
  | some list =>
    obtain ⟨rfl, hsign, hsum⟩ := hsizes list rfl
    obtain ⟨pieces, hpieces⟩ := exists_cuts_of_listed hsign hsum
    refine ⟨pieces, hpieces, ?_⟩
    rw [← hpieces.listed list rfl, chunkDims_listed]

theorem sum?_static (pieces : List Nat) : sum? (pieces.map .static) = some (Word.wrap pieces.sum) := by
  rw [sum?, mapM_size?_static]
  rfl

/-- Shapes that differ in the sizes along the axis only are joined to one with the sum of the sizes there. -/
theorem concatDims_pieces (hplace : normalizeAxis "axis" axis dims.length = .ok place) (hpieces : pieces ≠ [])
    (hsmall : pieces.sum < Word.count) (hsize : dims[place]? = some (.static pieces.sum)) :
    concatDims (pieces.map fun piece => dims.set place (.static piece)) axis = .ok (place, dims) := by
  have hbound := lt_of_normalizeAxis hplace
  have halong : (pieces.map fun piece => dims.set place (.static piece)).filterMap (·[place]?) =
      pieces.map .static := by
    simp [List.filterMap_map, List.getElem?_set_self hbound]
  have hsame : dims.set place (.static pieces.sum) = dims := by
    obtain ⟨_, hdim⟩ := List.getElem?_eq_some_iff.1 hsize
    rw [← hdim, List.set_getElem_self]
  obtain ⟨piece, rest, rfl⟩ := List.exists_cons_of_ne_nil hpieces
  rw [concatDims, if_neg (by simp)]
  refine bind_eq_ok_iff.2 ⟨place, by simpa using hplace, ?_⟩
  rw [halong, sum?_static, Word.wrap, Nat.mod_eq_of_lt hsmall]
  rw [List.map_cons, List.headD_cons, List.set_set, Dim.ofSize?, hsame]
  rfl

end Infer

/-! ## The nodes -/

/-- A node that cuts its operand along an axis, the first one if none is stored: into as many pieces as it has outputs,
whether it says their number or not, and of the sizes that are listed, if any are. -/
structure Site.Splits (site : Site) (x : TensorType) (axis : Int) (sizes : Option (List Int)) : Prop where
  typed : site.Typed 0 x
  inputs : site.operands.length ≤ if site.opset < 13 then 1 else 2
  outputs : 1 ≤ site.node.outputs.length
  along : ∃ stored : Option Int, site.Stores .int "axis" stored ∧ stored.getD 0 = axis
  declared : ∃ stored : Option Int, site.Stores .int "num_outputs" stored ∧
    ∀ n, stored = some n → Word.ofSigned n = site.node.outputs.length
  listed : site.Gives "split" 1 13 sizes
  length_eq : ∀ list, sizes = some list → list.length = site.node.outputs.length

/-- A node that joins operands of the given types along an axis. -/
structure Site.Joins (site : Site) (types : List TensorType) (axis : Int) : Prop where
  inputs : site.operands.length = types.length
  typed : ∀ index type, types[index]? = some type → site.Typed index type
  outputs : site.node.outputs.length = 1
  along : site.Stores .int "axis" (some axis)

/-- The type of a piece along the axis at a place. -/
def pieceType (element : ElementType) (dims : List Dim) (place piece : Nat) : TensorType :=
  .ranked element (dims.set place (.static piece))

namespace Operator
variable {site : Site} {element : ElementType} {dims : List Dim} {axis : Int} {place : Nat} {sizes : Option (List Int)}
  {pieces : List Nat}

theorem lowers_split (g : site.Splits (.ranked element dims) axis sizes)
    (hplace : normalizeAxis "axis" axis dims.length = .ok place)
    (hchunks : chunkDims sizes dims[place]? site.node.outputs.length = pieces.map .static) :
    Lowers site split ⟨[], some (.instruction (site.instruction
      (Params.insert? "split" (sizes.map .ints) [("axis", .int place)])
      (pieces.map (pieceType element dims place))))⟩ := by
  obtain ⟨stored, hstored, rfl⟩ := g.along
  obtain ⟨declared, hdeclared, hcount⟩ := g.declared
  have houtputs : Runs site (checkOutputs 1 none) () := .checkOutputs g.outputs (by simp)
  refine .bind .opset (.bind (.checkInputs_upTo g.typed g.inputs) (.bind houtputs (.bind (.attrOr hstored) ?_)))
  refine .bind (.attr? hdeclared) (.bind (.intsByOpset g.listed) (.bind .read ?_))
  -- Neither check finds a fault, whether there is anything to check or not.
  cases declared
  case' some n => refine Lowers.otherwise (not_not.2 (hcount n rfl)) ?_
  all_goals
    cases sizes
    case' some list => refine Lowers.otherwise (not_not.2 (g.length_eq list rfl)) ?_
    all_goals
      refine .bind (.inputType g.typed) (.bind (.lift hplace) ?_)
      rw [hchunks, List.map_map]
      exact .emit

theorem mapM_shape_ranked (element : ElementType) (shapes : List (List Dim)) :
    (shapes.map (TensorType.ranked element)).mapM TensorType.shape = some shapes := by
  induction shapes with
  | nil => rfl
  | cons shape rest ih => simp [List.mapM_cons, ih, TensorType.ranked]

theorem lowers_concat {shapes : List (List Dim)} {out : List Dim} (hshapes : shapes ≠ [])
    (g : site.Joins (shapes.map (.ranked element)) axis) (h : concatDims shapes axis = .ok (place, out)) :
    Lowers site concat
      ⟨[], some (.instruction (site.instruction [("axis", .int place)] [.ranked element out]))⟩ := by
  obtain ⟨first, rest, rfl⟩ := List.exists_cons_of_ne_nil hshapes
  have hinputs : Runs site (checkInputs 1 none) () := .checkInputs (by simp [g.inputs]) (by simp)
  refine .bind hinputs (.bind (.checkOutputs_exact g.outputs) (.bind (.attr g.along) ?_))
  refine .bind (.inputType (g.typed 0 _ rfl)) (.bind (.inputTypes g.inputs g.typed) ?_)
  rw [mapM_shape_ranked]
  exact .bind (.lift h) .emit

end Operator

/-- A type of known rank is cut along an axis of known size: into pieces of the listed sizes, which add up to the size
of the axis, or into even chunks. Joining the pieces along the axis, given by its place or as the node that cut them
gave it, gives back the type. -/
theorem concat_undoes_split {splitter joiner : Converter}
    (hsplitter : Registry.builtin.find? "Split" = some splitter)
    (hjoiner : Registry.builtin.find? "Concat" = some joiner) {site : Site} {element : ElementType} {dims : List Dim}
    {axis : Int} {place size : Nat} {sizes : Option (List Int)} (g : site.Splits (.ranked element dims) axis sizes)
    (hplace : (place : Int) = fromBack dims.length axis) (hsize : dims[place]? = some (.static size))
    (hsmall : size < 2 ^ 63) (hsizes : ∀ list, sizes = some list → (∀ s ∈ list, 0 ≤ s) ∧ list.sum = size) :
    ∃ pieces, Cuts size site.node.outputs.length sizes pieces ∧
      splitter.Emits site (site.instruction (Params.insert? "split" (sizes.map .ints) [("axis", .int place)])
        (pieces.map (pieceType element dims place))) ∧
      ∀ (site' : Site) (axis' : Int), axis' = place ∨ axis' = axis →
        site'.Joins (pieces.map (pieceType element dims place)) axis' →
        joiner.Emits site' (site'.instruction [("axis", .int place)] [.ranked element dims]) := by
  obtain rfl : Converter.of split = splitter := Option.some.inj hsplitter
  obtain rfl : Converter.of concat = joiner := Option.some.inj hjoiner
  have hbound : place < dims.length := (List.getElem?_eq_some_iff.1 hsize).1
  obtain ⟨pieces, hcuts, hchunks⟩ :=
    exists_cuts g.outputs fun list hlist => ⟨g.length_eq list hlist, hsizes list hlist⟩
  rw [← hsize] at hchunks
  refine ⟨pieces, hcuts, (lowers_split g (normalizeAxis_eq_ok_iff.2 ⟨hplace, hbound⟩) hchunks).converter, ?_⟩
  intro site' axis' haxis' g'
  have hsame : normalizeAxis "axis" axis' dims.length = .ok place := by
    refine normalizeAxis_eq_ok_iff.2 ⟨?_, hbound⟩
    rcases haxis' with rfl | rfl
    · exact (fromBack_natCast _ _).symm
    · exact hplace
  have hpieces : pieces ≠ [] := by
    rw [← List.length_pos_iff, hcuts.length_eq]
    exact g.outputs
  have hsum : pieces.sum < Word.count := by
    rw [hcuts.sum_eq]
    exact Nat.lt_trans hsmall (by decide)
  rw [← hcuts.sum_eq] at hsize
  have htypes : pieces.map (pieceType element dims place) =
      (pieces.map fun piece => dims.set place (.static piece)).map (.ranked element) := by
    rw [List.map_map]
    rfl
  rw [htypes] at g'
  exact (lowers_concat (by simpa using hpieces) g' (concatDims_pieces hsame hpieces hsum hsize)).converter

/-- An axis of size 2 is cut into three pieces, of listed sizes and into even chunks, and the pieces are joined again. -/
theorem cut_axis_restored :
    let piece := fun size => TensorType.ranked .f32 [.dynamic (some "n"), .static size]
    let listed := { sampleSite "Split" ["a", "b", "c"] [piece 2] [("axis", .int (-1)), ("split", .ints [1, 0, 1])] with
      opset := 11 }
    let even := sampleSite "Split" ["a", "b", "c"] [piece 2] [("axis", .int (-1))]
    let joined := fun sizes axis => sampleSite "Concat" ["y"] (sizes.map piece) [("axis", .int axis)]
    listed.Splits (piece 2) (-1) (some [1, 0, 1]) ∧ even.Splits (piece 2) (-1) none ∧
      (Converter.of split).Emits listed
        (listed.instruction [("axis", .int 1), ("split", .ints [1, 0, 1])] ([1, 0, 1].map piece)) ∧
      (Converter.of split).Emits even (even.instruction [("axis", .int 1)] ([1, 1, 0].map piece)) ∧
      ∀ sizes ∈ [[1, 0, 1], [1, 1, 0]], ∀ axis ∈ [1, -1],
        (Converter.of concat).Emits (joined sizes axis)
          ((joined sizes axis).instruction [("axis", .int 1)] [piece 2]) := by
  intro piece listed even joined
  have glisted : listed.Splits (piece 2) (-1) (some [1, 0, 1]) :=
    { typed := ⟨⟨0⟩, rfl, rfl⟩
      inputs := Nat.le_refl 1
      outputs := by decide
      along := ⟨some (-1), rfl, rfl⟩
      declared := ⟨none, rfl, by simp⟩
      listed := ⟨fun _ => rfl, fun hnew => absurd hnew (by decide : ¬(13 : Int) ≤ 11)⟩
      length_eq := by
        rintro _ ⟨⟩
        rfl }
  have geven : even.Splits (piece 2) (-1) none :=
    { typed := ⟨⟨0⟩, rfl, rfl⟩
      inputs := by decide
      outputs := by decide
      along := ⟨some (-1), rfl, rfl⟩
      declared := ⟨none, rfl, by simp⟩
      listed := ⟨fun hold => absurd hold (by decide : ¬(13 : Int) < 13), fun _ => rfl⟩
      length_eq := by simp }
  have hplace : ((1 : Nat) : Int) = fromBack 2 (-1) := rfl
  have hsizes : ∀ list, some [1, 0, 1] = some list → (∀ s ∈ list, 0 ≤ s) ∧ list.sum = ((2 : Nat) : Int) := by
    rintro _ ⟨⟩
    decide
  have hjoins : ∀ a b c axis, (joined [a, b, c] axis).Joins ([a, b, c].map piece) axis := by
    refine fun a b c axis => ⟨rfl, ?_, rfl, rfl⟩
    intro index type htype
    rcases index with _ | _ | _ | index
    · cases htype
      exact ⟨⟨0⟩, rfl, rfl⟩
    · cases htype
      exact ⟨⟨1⟩, rfl, rfl⟩
    · cases htype
      exact ⟨⟨2⟩, rfl, rfl⟩
    · simp at htype
  obtain ⟨pieces, hcuts, hlisted, hback⟩ := concat_undoes_split rfl rfl glisted hplace rfl (by decide) hsizes
  obtain rfl : pieces = [1, 0, 1] :=
    List.map_injective_iff.2 (fun _ _ heq => Int.ofNat.inj heq) (hcuts.listed _ rfl)
  obtain ⟨pieces, hcuts, heven, hback'⟩ := concat_undoes_split rfl rfl geven hplace rfl (by decide) (by simp)
  obtain rfl : pieces = [1, 1, 0] := by
    -- no piece has more than a third of the size, rounded up, so there is no choice
    obtain ⟨a, b, c, rfl⟩ := List.length_eq_three.1 hcuts.length_eq
    have hsum := hcuts.sum_eq
    obtain ⟨horder, hmost⟩ := hcuts.even rfl
    have hthird : 2 ⌈/⌉ even.node.outputs.length = 1 := Nat.ceilDiv_eq_add_pred_div 2 3
    simp [hthird] at hsum horder hmost
    obtain ⟨rfl, rfl, rfl⟩ : a = 1 ∧ b = 1 ∧ c = 0 := by omega
    rfl
  refine ⟨glisted, geven, hlisted, heven, ?_⟩
  intro sizes hsizes axis haxis
  simp only [List.mem_cons, List.not_mem_nil, or_false] at hsizes haxis
  rcases hsizes with rfl | rfl
  · exact hback _ axis haxis (hjoins 1 0 1 axis)
  · exact hback' _ axis haxis (hjoins 1 1 0 axis)

end ModelImport
