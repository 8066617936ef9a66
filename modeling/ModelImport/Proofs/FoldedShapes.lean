import Mathlib.Algebra.Ring.Nat
import ModelImport.Proofs.AxisPlaces
import ModelImport.Proofs.IntegerConstants
import ModelImport.Proofs.ReshapeShapes
/-!
# Folded shapes

The shape of a value of fixed sizes is known, so asking for it adds no instruction but a constant of the sizes between
two bounds (`between`). The bounds are moved into the range of the axes before they are used, which gives the axes that
lie between them as they were written (`take_drop_axisBound`).

`folded_shape_feeds_back`: the constant holds just these sizes, and the shape of a value, given back to the operators
that take a shape, is the shape of what they make: of the value itself reshaped or expanded, and of a value filled
anew.
-/

namespace ModelImport

open LookM ConverterM Operator Infer

namespace Infer

/-! ## Entries between two bounds -/

/-- The place `i` of `length` ones is at a bound or past it; a negative bound is counted from the back. -/
def AtOrPast (length : Nat) (bound : Int) (i : Nat) : Prop :=
  if bound < 0 then bound ≤ (i : Int) - length else bound ≤ i

instance (length : Nat) (bound : Int) (i : Nat) : Decidable (AtOrPast length bound i) :=
  inferInstanceAs (Decidable (if bound < 0 then bound ≤ (i : Int) - length else bound ≤ i))

/-- The entries from `start` on and before `stop`, if there is one. -/
def between {α : Type} (start : Int) (stop : Option Int) (xs : List α) : List α :=
  (xs.zipIdx.filter fun entry => AtOrPast xs.length start entry.2 ∧
    ∀ bound ∈ stop, ¬AtOrPast xs.length bound entry.2).map Prod.fst

example : between (-3) (some 9) [2, 3, 5, 7] = [3, 5, 7] ∧ between 3 (some (-3)) [2, 3, 5, 7] = [] := by decide

section Between
variable {α : Type}

theorem filter_zipIdx_lt (xs : List α) (k count : Nat) :
    ((xs.zipIdx k).filter fun entry => entry.2 < k + count) = (xs.take count).zipIdx k := by
  induction xs generalizing k count with
  | nil => simp
  | cons x xs ih =>
    cases count with
    | zero =>
      rw [List.take_zero, List.zipIdx_nil, List.filter_eq_nil_iff]
      rintro ⟨_, i⟩ hentry
      have hlow := (List.mem_zipIdx hentry).1
      simpa using hlow
    | succ count =>
      have hshift : k + (count + 1) = k + 1 + count := by omega
      have hkept : k < k + 1 + count := by omega
      rw [hshift, List.zipIdx_cons, List.filter_cons_of_pos (by simpa using hkept), ih, List.take_succ_cons,
        List.zipIdx_cons]

theorem filter_zipIdx_le (xs : List α) (k count : Nat) :
    ((xs.zipIdx k).filter fun entry => k + count ≤ entry.2) = (xs.drop count).zipIdx (k + count) := by
  induction xs generalizing k count with
  | nil => simp
  | cons x xs ih =>
    cases count with
    | zero =>
      rw [Nat.add_zero, List.drop_zero, List.filter_eq_self]
      rintro ⟨_, i⟩ hentry
      simpa using (List.mem_zipIdx hentry).1
    | succ count =>
      have hshift : k + (count + 1) = k + 1 + count := by omega
      have hdropped : ¬k + 1 + count ≤ k := by omega
      rw [hshift, List.zipIdx_cons, List.filter_cons_of_neg (by simpa using hdropped), ih,
        List.drop_succ_cons]

theorem fromBack_le_iff {length i : Nat} {bound : Int} : fromBack length bound ≤ i ↔ AtOrPast length bound i := by
  unfold fromBack AtOrPast
  split
  · omega
  · rfl

/-- Moving the bounds into the range of the places does not change what lies between them. -/
theorem take_drop_axisBound (start : Int) (stop : Option Int) (xs : List α) :
    (xs.take (axisBound xs.length (stop.getD xs.length))).drop (axisBound xs.length start) = between start stop xs := by
  have hstop : ∀ i < xs.length, (∀ bound ∈ stop, ¬AtOrPast xs.length bound i) ↔
      i < axisBound xs.length (stop.getD xs.length) := by
    intro i hi
    rw [← Nat.not_le, axisBound_le_iff hi]
    cases stop with
    | none => simpa [fromBack_natCast] using hi
    | some bound => simp [fromBack_le_iff]
  have hselect : between start stop xs =
      ((xs.zipIdx.filter fun entry => entry.2 < 0 + axisBound xs.length (stop.getD xs.length)).filter
        fun entry => 0 + axisBound xs.length start ≤ entry.2).map Prod.fst := by
    rw [List.filter_filter, between]
    refine congrArg (List.map Prod.fst) (List.filter_congr ?_)
    rintro ⟨x, i⟩ hentry
    have hi : i < xs.length := by simpa using List.snd_lt_of_mem_zipIdx hentry
    rw [Nat.zero_add, Nat.zero_add, ← Bool.decide_and, decide_eq_decide, hstop i hi, axisBound_le_iff hi,
      fromBack_le_iff]
  rw [hselect, filter_zipIdx_lt, filter_zipIdx_le, List.zipIdx_map_fst]

/-- A last bound before the first one leaves nothing, whether it is moved up to it or not. -/
theorem drop_take_max (first last : Nat) (xs : List α) :
    (xs.take (max last first)).drop first = (xs.take last).drop first := by
  have hcount : max last first - first = last - first := by omega
  rw [List.drop_take, List.drop_take, hcount]

theorem between_map {β : Type} (f : α → β) (start : Int) (stop : Option Int) (xs : List α) :
    between start stop (xs.map f) = (between start stop xs).map f := by
  rw [← take_drop_axisBound, ← take_drop_axisBound, List.map_drop, List.map_take, List.length_map]

theorem mem_of_mem_between {start : Int} {stop : Option Int} {xs : List α} {x : α} (h : x ∈ between start stop xs) :
    x ∈ xs := by
  rw [← take_drop_axisBound] at h
  exact List.mem_of_mem_take (List.mem_of_mem_drop h)

theorem between_all (xs : List α) : between 0 none xs = xs := by
  have hfirst : axisBound xs.length 0 = 0 := by simp [axisBound, fromBack, clamp]
  have hlast : axisBound xs.length xs.length = xs.length := by simp [axisBound, fromBack_natCast, clamp]
  rw [← take_drop_axisBound, hfirst, Option.getD_none, hlast, List.take_length, List.drop_zero]

end Between

/-! ## Taking a shape as it is -/

theorem reshapeDims_same (sizes : List Nat) (allowZero : Bool) :
    reshapeDims (some (sizes.map .static)) (sizes.map Int.ofNat) allowZero = .ok (sizes.map .static) := by
  have hnatural : ∀ size ∈ sizes.map Int.ofNat, 0 ≤ size := by simp
  have hopen : -1 ∉ sizes.map Int.ofNat := fun hmem => absurd (hnatural _ hmem) (by decide)
  have hvalid : ValidTarget (sizes.map Int.ofNat) := by
    refine ⟨Nat.le_trans (Nat.le_of_eq (List.count_eq_zero.2 hopen)) (Nat.zero_le 1), ?_⟩
    intro size hsize
    exact Int.le_trans (by decide) (hnatural size hsize)
  have hmeets : List.Forall₂ (MeetsEntry allowZero sizes) (sizes.map Int.ofNat).zipIdx sizes := by
    refine List.forall₂_iff_get.2 ⟨by simp, ?_⟩
    intro i hi hi'
    -- a size of 0 is the size itself, whether it stands for 0 or for the axis that is there
    have hzero : sizes[i] = 0 → if allowZero then sizes[i] = 0 else sizes[i]? = some sizes[i] := by
      intro hzero
      split
      · exact hzero
      · exact List.getElem?_eq_getElem hi'
    simpa [MeetsEntry] using hzero
  refine reshapeDims_eq_ok_iff.2 ⟨hvalid, ?_⟩
  have hfind : (sizes.map Int.ofNat).findIdx? (· == -1) = none := by
    rw [List.findIdx?_eq_none_iff]
    intro size hsize
    exact beq_eq_false_iff_ne.2 fun heq => hopen (heq ▸ hsize)
  rw [filledDims, hfind, Option.elim_none]
  apply List.ext_getElem?
  intro i
  exact (getElem?_plannedDims_static hmeets hvalid fun hi => hopen (List.mem_of_getElem? hi)).symm

theorem broadcastDims_same (sizes : List Nat) :
    broadcastDims [sizes.map .static, sizes.map .static] = sizes.map .static := by
  apply ext_axis?
  intro i
  have hrank : commonRank [sizes.map Dim.static, sizes.map .static] = (sizes.map Dim.static).length := by
    simp [commonRank]
  rw [axis?_broadcastDims, hrank]
  cases haxis : axis? i (sizes.map Dim.static) with
  | none => rw [if_neg (Nat.not_lt.2 (axis?_eq_none_iff.1 haxis))]
  | some dim =>
    have hi : i < (sizes.map Dim.static).length := by
      rw [← Nat.not_le, ← axis?_eq_none_iff, haxis]
      exact Option.some_ne_none dim
    obtain ⟨n, -, rfl⟩ : ∃ n ∈ sizes, Dim.static n = dim := by
      have hmem := List.mem_of_getElem? haxis
      rwa [List.mem_reverse, List.mem_map] at hmem
    have hsame : broadcastDim (.static n) (.static n) = .static n := by
      unfold broadcastDim
      split <;> simp_all
    rw [if_pos hi, axesAt, List.filterMap_cons_some haxis, List.filterMap_cons_some haxis]
    simp [hsame]

theorem map_ofSize?_ofNat (sizes : List Nat) :
    ((sizes.map Int.ofNat).map fun size => Dim.ofSize? (Word.size? size)) = sizes.map .static := by
  rw [List.map_map]
  exact List.map_congr_left fun n _ => rfl

theorem fillSizes_ofNat (sizes : List Nat) : fillSizes (sizes.map Int.ofNat) = .ok sizes := by
  have hsizes : (sizes.map Int.ofNat).mapM Word.size? = some sizes := by
    induction sizes with
    | nil => rfl
    | cons n rest ih =>
      have hn : Word.size? (n : Int) = some n := rfl
      simp [hn, ih]
  rw [fillSizes, hsizes]

end Infer

/-! ## The nodes -/

/-- A node that asks for the axes of its operand between two bounds. -/
structure Site.Measures (site : Site) (x : TensorType) (start stop : Option Int) : Prop where
  typed : site.Typed 0 x
  inputs : site.operands.length = 1
  outputs : site.node.outputs.length = 1
  starts : site.Stores .int "start" start
  stops : site.Stores .int "end" stop

/-- A node that reshapes its operand to the sizes in a constant, which before operator set 5 is an attribute. -/
structure Site.Reshapes (site : Site) (x : TensorType) (shape : TensorData) : Prop where
  typed : site.Typed 0 x
  inputs : site.operands.length = if site.opset < 5 then 1 else 2
  outputs : site.node.outputs.length = 1
  stored : site.opset < 5 → site.Stores .ints "shape" shape.ints?
  held : 5 ≤ site.opset → site.Holds 1 shape
  zeros : ∃ flag : Option Int, site.Stores .int "allowzero" flag

/-- A node that expands its operand to the sizes in a constant. -/
structure Site.Expands (site : Site) (x : TensorType) (shape : TensorData) : Prop where
  typed : site.Typed 0 x
  inputs : site.operands.length = 2
  outputs : site.node.outputs.length = 1
  held : site.Holds 1 shape

/-- A node that makes a value of the sizes in a constant, filled with a single element. -/
structure Site.Fills (site : Site) (shape fill : TensorData) : Prop where
  inputs : site.operands.length = 1
  outputs : site.node.outputs.length = 1
  held : site.Holds 0 shape
  stored : ∃ value, site.Stores .tensor "value" value ∧
    value.elim (fill = .scalarSingle ⟨0⟩) fun tensor => tensor.materialize = .ok fill
  single : fill.length = 1

namespace Operator
variable {site : Site} {element : ElementType} {sizes : List Nat} {shape : TensorData}

theorem lowers_shapeOf {start stop : Option Int} (g : site.Measures (.ofSizes element sizes) start stop) :
    Lowers site shapeOf ⟨[], some (.constant (site.node.outputs.head?.getD "")
      (.vectorInts ((between (start.getD 0) stop sizes).map Word.toSigned)))⟩ := by
  refine .bind (.bind (.checkInputs_exact g.inputs) (.checkOutputs_exact g.outputs)) (.bind (.attrOr g.starts) ?_)
  refine .bind (.attr? g.stops) (.bind (.inputType g.typed) ?_)
  simp only [TensorType.ofSizes, TensorType.ranked, drop_take_max, take_drop_axisBound, between_map, mapM_size?_static]
  exact .fold

theorem lowers_reshape (g : site.Reshapes (.ofSizes element sizes) shape)
    (hshape : shape.ints? = some (sizes.map Int.ofNat)) :
    ∃ params, Lowers site reshape ⟨[], some (.instruction (site.instruction params [(.ofSizes element sizes)]))⟩ := by
  obtain ⟨flag, hflag⟩ := g.zeros
  have hgiven : site.Gives "shape" 1 5 (some (sizes.map Int.ofNat)) :=
    ⟨fun hold => hshape ▸ g.stored hold, fun hnew => (g.held hnew).supplies hshape⟩
  refine ⟨Params.insert "shape" (.ints (sizes.map Int.ofNat))
    [("allowzero", .int (if flag.getD 0 != 0 then 1 else 0))], ?_⟩
  refine .bind (.checkOutputs_exact g.outputs) (.bind (.flag hflag) (.bind (.requiredInts g.inputs hgiven) ?_))
  exact .bind (.inputType g.typed) (.bind (.lift (reshapeDims_same sizes _)) .emit)

theorem lowers_expand (g : site.Expands (.ofSizes element sizes) shape)
    (hshape : shape.ints? = some (sizes.map Int.ofNat)) :
    ∃ params, Lowers site expand ⟨[], some (.instruction (site.instruction params [(.ofSizes element sizes)]))⟩ := by
  have htype : broadcastType element [.ofSizes element sizes, .ranked element
      ((sizes.map Int.ofNat).map fun size => .ofSize? (Word.size? size))] = .ofSizes element sizes := by
    rw [map_ofSize?_ofNat, broadcastType, broadcast?]
    simp [TensorType.ofSizes, TensorType.ranked, TensorType.ofDims?, broadcastDims_same]
  refine ⟨[("shape", .ints (sizes.map Int.ofNat))], ?_⟩
  refine .bind (.bind (.checkInputs_exact g.inputs) (.checkOutputs_exact g.outputs)) (.bind (.inputType g.typed) ?_)
  have hemit : Lowers site (emit [("shape", .ints (sizes.map Int.ofNat))] [broadcastType element
      [.ofSizes element sizes, .ranked element ((sizes.map Int.ofNat).map fun size => .ofSize? (Word.size? size))]])
      ⟨[], some (.instruction
        (site.instruction [("shape", .ints (sizes.map Int.ofNat))] [.ofSizes element sizes]))⟩ := by
    rw [htype]
    exact .emit
  exact .bind (.constantInts? (g.held.supplies hshape)) hemit

theorem lowers_constantOfShape {fill : TensorData} (g : site.Fills shape fill)
    (hshape : shape.ints? = some (sizes.map Int.ofNat)) :
    ∃ params, Lowers site constantOfShape
      ⟨[], some (.instruction (site.instruction params [(.ofSizes fill.element sizes)]))⟩ := by
  obtain ⟨value, hvalue, hfill⟩ := g.stored
  refine ⟨Params.insert "shape" (.ints (sizes.map Int.ofNat)) [("value", fillParam fill)], ?_⟩
  refine .bind (.bind (.checkInputs_exact g.inputs) (.checkOutputs_exact g.outputs)) (.bind (.attr? hvalue) ?_)
  cases value
  case' none =>
    obtain rfl : fill = .scalarSingle ⟨0⟩ := hfill
    refine .bind .pure ?_
  case' some tensor => refine .bind (.lift hfill) ?_
  all_goals
    refine .otherwise (Decidable.not_not.2 g.single) (.bind (.constantInts? (g.held.supplies hshape)) ?_)
    exact .bind (.lift (fillSizes_ofNat sizes)) .emit

end Operator

/-- The shape of a value of fixed sizes below `2 ^ 63` is folded to a constant of the sizes between the bounds, without
an instruction. If no bounds are given, the constant can stand for the shape wherever one is taken: the value itself,
reshaped or expanded to it, keeps its type, whether sizes of 0 are allowed or not, and a value filled anew has the same
sizes. -/
theorem folded_shape_feeds_back {measure reshaping expansion filling : Converter}
    (hmeasure : Registry.builtin.find? "Shape" = some measure)
    (hreshaping : Registry.builtin.find? "Reshape" = some reshaping)
    (hexpansion : Registry.builtin.find? "Expand" = some expansion)
    (hfilling : Registry.builtin.find? "ConstantOfShape" = some filling) {site : Site} {element : ElementType}
    {sizes : List Nat} (hsizes : ∀ n ∈ sizes, n < 2 ^ 63) {start stop : Option Int}
    (g : site.Measures (.ofSizes element sizes) start stop) :
    ∃ name shape, measure.Lowers site ⟨[], some (.constant name shape)⟩ ∧
      shape.element = .i64 ∧ shape.shape = .vector (between (start.getD 0) stop sizes).length ∧
      shape.ints? = some ((between (start.getD 0) stop sizes).map Int.ofNat) ∧
      (∀ b : Builder, ∃ v b', Lowering.apply ⟨[], some (.constant name shape)⟩ b = ([v], b') ∧
        b'.function.constant? v = some shape ∧ b'.function.blocks = b.function.blocks) ∧
      (start = none → stop = none →
        (∀ site' : Site, site'.Reshapes (.ofSizes element sizes) shape → ∃ params,
          reshaping.Emits site' (site'.instruction params [.ofSizes element sizes])) ∧
        (∀ site' : Site, site'.Expands (.ofSizes element sizes) shape → ∃ params,
          expansion.Emits site' (site'.instruction params [.ofSizes element sizes])) ∧
        ∀ (site' : Site) (fill : TensorData), site'.Fills shape fill → ∃ params,
          filling.Emits site' (site'.instruction params [.ofSizes fill.element sizes])) := by
  obtain rfl : Converter.of shapeOf = measure := Option.some.inj hmeasure
  obtain rfl : Converter.of reshape = reshaping := Option.some.inj hreshaping
  obtain rfl : Converter.of expand = expansion := Option.some.inj hexpansion
  obtain rfl : Converter.of constantOfShape = filling := Option.some.inj hfilling
  have hfits : ∀ n ∈ between (start.getD 0) stop sizes, Word.FitsSigned n := by
    intro n hn
    have hlt := hsizes n (mem_of_mem_between hn)
    rw [Word.fitsSigned_iff]
    omega
  have hsigned : (between (start.getD 0) stop sizes).map Word.toSigned =
      (between (start.getD 0) stop sizes).map Int.ofNat :=
    List.map_congr_left fun n hn => Word.toSigned_of_fits (hfits n hn)
  have hints : (TensorData.vectorInts ((between (start.getD 0) stop sizes).map Int.ofNat)).ints? =
      some ((between (start.getD 0) stop sizes).map Int.ofNat) := by
    apply TensorData.ints?_vectorInts
    intro i hi
    obtain ⟨n, hn, rfl⟩ := List.mem_map.1 hi
    exact hfits n hn
  have hlowers := (lowers_shapeOf g).converter
  rw [hsigned] at hlowers
  refine ⟨_, _, hlowers, rfl, ?_, hints, ?_, ?_⟩
  · simp [TensorData.shape, TensorData.vectorInts, Tensor.vector]
  · intro b
    exact ⟨_, _, rfl, DataTable.find?_insert_self .., rfl⟩
  · rintro rfl rfl
    rw [Option.getD_none, between_all] at hints ⊢
    refine ⟨?_, ?_, ?_⟩
    · intro site' g'
      obtain ⟨params, hlowers'⟩ := lowers_reshape g' hints
      exact ⟨params, hlowers'.converter⟩
    · intro site' g'
      obtain ⟨params, hlowers'⟩ := lowers_expand g' hints
      exact ⟨params, hlowers'.converter⟩
    · intro site' fill g'
      obtain ⟨params, hlowers'⟩ := lowers_constantOfShape g' hints
      exact ⟨params, hlowers'.converter⟩

/-- The shape of a value with an empty axis, an axis of size 1 and another one, folded and given back to it, with sizes
of 0 allowed and not, and to a value filled anew. -/
theorem empty_axis_fed_back :
    let x := TensorType.ofSizes .f32 [0, 1, 3]
    let shape := TensorData.vectorInts [0, 1, 3]
    let site := sampleSite "Shape" ["s"] [x] []
    let keeping := constantSite "Reshape" x shape []
    let allowing := constantSite "Reshape" x shape [("allowzero", .int 1)]
    let expanding := constantSite "Expand" x shape []
    let filling := { constantSite "ConstantOfShape" x shape [] with operands := [some ⟨1⟩] }
    (Converter.of shapeOf).Lowers site ⟨[], some (.constant "s" shape)⟩ ∧
      (∃ params, (Converter.of reshape).Emits keeping (keeping.instruction params [x])) ∧
      (∃ params, (Converter.of reshape).Emits allowing (allowing.instruction params [x])) ∧
      (∃ params, (Converter.of expand).Emits expanding (expanding.instruction params [x])) ∧
      ∃ params, (Converter.of constantOfShape).Emits filling (filling.instruction params [x]) := by
  intro x shape site keeping allowing expanding filling
  have g : site.Measures x none none := ⟨⟨⟨0⟩, rfl, rfl⟩, rfl, rfl, rfl, rfl⟩
  have hknown : (Converter.of shapeOf).Lowers site ⟨[], some (.constant "s" shape)⟩ := ⟨_, fun _ => rfl⟩
  obtain ⟨name, found, hlowers, -, -, -, -, hfed⟩ :=
    folded_shape_feeds_back rfl rfl rfl rfl (by decide : ∀ n ∈ [0, 1, 3], n < 2 ^ 63) g
  obtain rfl : shape = found := Converter.Lowers.data_eq hknown hlowers
  obtain ⟨hreshaped, hexpanded, hfilled⟩ := hfed rfl rfl
  have hnew : ¬(13 : Int) < 5 := by decide
  refine ⟨hknown, hreshaped keeping ?_, hreshaped allowing ?_, hexpanded expanding ?_,
    hfilled filling (.scalarSingle ⟨0⟩) ?_⟩
  · exact ⟨⟨⟨0⟩, rfl, rfl⟩, rfl, rfl, fun hold => absurd hold hnew, fun _ => ⟨⟨1⟩, rfl, rfl⟩, none, rfl⟩
  · exact ⟨⟨⟨0⟩, rfl, rfl⟩, rfl, rfl, fun hold => absurd hold hnew, fun _ => ⟨⟨1⟩, rfl, rfl⟩, some 1, rfl⟩
  · exact ⟨⟨⟨0⟩, rfl, rfl⟩, rfl, rfl, ⟨1⟩, rfl, rfl⟩
  · exact ⟨rfl, rfl, ⟨⟨1⟩, rfl, rfl⟩, ⟨none, rfl, rfl⟩, rfl⟩

end ModelImport
