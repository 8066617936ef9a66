import ModelImport.Proofs.SlidingWindows
import ModelImport.Proofs.WindowSettings
/-!
# Nodes that slide a window

What convolutions, transposed convolutions and pools make of the axes of their input.

`window_rank_kept_iff`: the first axis stays the first one, and the rank stays as it is, but for a transposed
convolution with an attribute that fixes its sizes: nothing compares their number with that of the spatial axes, so one
size for two axes loses an axis (`short_sizes_lower_rank`).

`convolution_undoes_transposed`: a window has as many positions in the result of a transposed convolution with the same
settings as that had elements in its input.

`pool_rounding_agrees_iff`: where a pool is padded to keep its positions, it does not matter whether their number is
rounded down or up as long as the last position reaches the end of the input. If the stride is so large that it does
not, rounding up adds a position beyond the input (`sparse_pool_rounds_apart`).
-/

namespace ModelImport

open LookM ConverterM Operator Infer

/-! ## The rank of the results -/

/-- The node becomes one instruction, and `P` holds of the types of its results. -/
def Lowering.Results (P : List TensorType → Prop) (l : Lowering) : Prop :=
  ∃ op, l = ⟨[], some (.instruction op)⟩ ∧ P op.resultTypes

/-- There is a type at least, and each has the first axis of the input, an axis of channels and so many others. -/
def WindowTypes (dims : List Dim) (count : Nat) (types : List TensorType) : Prop :=
  3 ≤ dims.length ∧ types ≠ [] ∧ ∀ type ∈ types, ∃ channels spatial,
    type.shape = some (dims.take 1 ++ [channels] ++ spatial) ∧ spatial.length = count

theorem WindowTypes.first {dims : List Dim} {count : Nat} {types : List TensorType} (h : WindowTypes dims count types) :
    ∃ batch rest, dims = batch :: rest ∧ ∀ type ∈ types, ∃ out, type.shape = some (batch :: out) := by
  obtain ⟨hrank, -, htypes⟩ := h
  cases dims with
  | nil => simp at hrank
  | cons batch rest =>
    refine ⟨batch, rest, rfl, ?_⟩
    intro type htype
    obtain ⟨channels, spatial, hshape, -⟩ := htypes type htype
    exact ⟨channels :: spatial, hshape⟩

/-- The axes are those of another element type as well. -/
theorem WindowTypes.withElement {dims : List Dim} {count : Nat} {type : TensorType} (h : WindowTypes dims count [type])
    (element : ElementType) : WindowTypes dims count [type, type.withElement element] := by
  obtain ⟨hrank, -, htypes⟩ := h
  have hshape := htypes type (List.mem_singleton_self type)
  refine ⟨hrank, List.cons_ne_nil _ _, ?_⟩
  intro other hother
  rcases List.mem_pair.1 hother with rfl | rfl
  · exact hshape
  · exact hshape

theorem WindowTypes.rank_iff {dims : List Dim} {count : Nat} {types : List TensorType}
    (h : WindowTypes dims count types) : (∀ type ∈ types, type.rank? = some dims.length) ↔ count + 2 = dims.length := by
  obtain ⟨hrank, hsome, htypes⟩ := h
  have hlength : ∀ type ∈ types, type.rank? = some (count + 2) := by
    intro type htype
    obtain ⟨channels, spatial, hshape, hspatial⟩ := htypes type htype
    simp [TensorType.rank?, hshape, hspatial]
    omega
  constructor
  · intro h
    obtain ⟨type, htype⟩ := List.exists_mem_of_ne_nil types hsome
    have heq := (hlength type htype).symm.trans (h type htype)
    exact Option.some.inj heq
  · intro h type htype
    rw [hlength type htype, h]

namespace Operator
variable {site : Site} {x : TensorType} {dims : List Dim}

theorem ends_results {P : List TensorType → Prop} {params : Params} {types : List TensorType} (h : P types) :
    Ends site (emit params types) (Lowering.Results P) := .emit ⟨_, rfl, h⟩

theorem windowTypes_convolvedType (hshape : x.shape = some dims) (hrank : 3 ≤ dims.length) (channels : Dim)
    {spatial : List Dim → List Dim} {count : Nat} (hcount : (spatial (dims.drop 2)).length = count) :
    WindowTypes dims count [convolvedType x channels spatial] := by
  refine ⟨hrank, List.cons_ne_nil _ _, ?_⟩
  intro type htype
  obtain rfl := List.mem_singleton.1 htype
  exact ⟨channels, spatial (dims.drop 2), by simp [convolvedType, hshape], hcount⟩

theorem ends_conv (hx : site.Typed 0 x) (hshape : x.shape = some dims) :
    Ends site conv (Lowering.Results (WindowTypes dims (dims.length - 2))) := by
  refine .bind .checkInputs fun _ _ => .bind .checkOutputs fun _ _ => .runs (.inputType hx) ?_
  refine .bind .inputType fun w _ => .bind yields_readGroup fun group _ => ?_
  refine .bind (yields_spatialAxes hshape) fun spatial hspatial => .bind yields_readWindow fun window _ => ?_
  apply ends_results
  apply windowTypes_convolvedType hshape hspatial.1
  simp [Window.outputDims]

/-- The attribute that fixes the sizes also fixes their number. -/
theorem ends_convTranspose (hx : site.Typed 0 x) (hshape : x.shape = some dims) :
    Ends site convTranspose (Lowering.Results fun types => ∃ fixed, site.Stores .ints "output_shape" fixed ∧
      WindowTypes dims (fixed.elim (dims.length - 2) List.length) types) := by
  refine .bind .checkInputs fun _ _ => .bind .checkOutputs fun _ _ => .runs (.inputType hx) ?_
  refine .bind .inputType fun w _ => .bind yields_readGroup fun group _ => ?_
  refine .bind (yields_spatialAxes hshape) fun spatial hspatial => .bind yields_readWindow fun window _ => ?_
  refine .bind yields_perAxis fun outputPadding _ => .bind .attr? fun fixed hfixed => ?_
  simp only [hshape]
  cases fixed with
  | none =>
    refine .runs .pure (ends_results ⟨none, hfixed, ?_⟩)
    apply windowTypes_convolvedType hshape hspatial.1
    simp [Window.transposedDims]
  | some shape =>
    refine .bind (P := fun sizes => ∃ listed, sizes = some listed ∧ listed.length = shape.length) ?_ ?_
    · refine .map (.imp .lift fun listed hlisted => ⟨listed, rfl, ?_⟩)
      rw [nonNegative_eq_ok_iff.1 hlisted, List.length_map]
    · rintro _ ⟨listed, rfl, hlisted⟩
      refine ends_results ⟨some shape, hfixed, ?_⟩
      apply windowTypes_convolvedType hshape hspatial.1
      simpa using hlisted

theorem yields_readPool (hx : site.Typed 0 x) (hshape : x.shape = some dims) :
    Yields site readPool fun pool => WindowTypes dims (dims.length - 2) [pool.1] := by
  refine .runs (.inputType hx) (.bind (yields_spatialAxes hshape) fun spatial hspatial => ?_)
  refine .bind yields_readWindow fun window _ => .bind .flag fun ceilMode _ => ?_
  obtain ⟨hrank, -⟩ := hspatial
  refine .pure ⟨hrank, List.cons_ne_nil _ _, ?_⟩
  intro type htype
  obtain rfl := List.mem_singleton.1 htype
  rcases dims with _ | ⟨batch, _ | ⟨channels, axes⟩⟩
  · simp at hrank
  · simp at hrank
  · exact ⟨channels, window.outputDims axes ceilMode, by simp [pooledType, hshape], by simp [Window.outputDims]⟩

theorem ends_maxPool (hx : site.Typed 0 x) (hshape : x.shape = some dims) :
    Ends site maxPool (Lowering.Results (WindowTypes dims (dims.length - 2))) := by
  refine .bind .checkInputs fun _ _ => .bind .checkOutputs fun _ _ => .bind (yields_readPool hx hshape) ?_
  rintro ⟨type, params⟩ htype
  refine .bind .attrOr fun order _ => .runs .read (ends_results ?_)
  split
  · exact htype.withElement .i64
  · exact htype

theorem ends_averagePool (hx : site.Typed 0 x) (hshape : x.shape = some dims) :
    Ends site averagePool (Lowering.Results (WindowTypes dims (dims.length - 2))) := by
  refine .bind (.bind .checkInputs fun _ _ => .checkOutputs) fun _ _ => .bind (yields_readPool hx hshape) ?_
  rintro ⟨type, params⟩ htype
  exact .bind .attrOr fun includePad _ => ends_results htype

end Operator

/-- The sizes that an attribute fixes. Only a transposed convolution looks for it. -/
def Site.Fixes (site : Site) (kind : String) (fixed : Option (List Int)) : Prop :=
  if kind = "ConvTranspose" then site.Stores .ints "output_shape" fixed else fixed = none

/-- What the four operators have in common. -/
theorem ends_windowed {kind : String} (hkind : kind ∈ ["Conv", "ConvTranspose", "MaxPool", "AveragePool"])
    {converter : Converter} (hfind : Registry.builtin.find? kind = some converter) {site : Site} {x : TensorType}
    {dims : List Dim} (hx : site.Typed 0 x) (hshape : x.shape = some dims) :
    Ends site converter.lower (Lowering.Results fun types => ∃ fixed, site.Fixes kind fixed ∧
      WindowTypes dims (fixed.elim (dims.length - 2) List.length) types) := by
  have hplain : ∀ {lower : ConverterM (List ValueId)}, kind ≠ "ConvTranspose" →
      Ends site lower (Lowering.Results (WindowTypes dims (dims.length - 2))) →
      Ends site lower (Lowering.Results fun types => ∃ fixed, site.Fixes kind fixed ∧
        WindowTypes dims (fixed.elim (dims.length - 2) List.length) types) := by
    intro lower hother hends
    refine .imp hends ?_
    rintro l ⟨op, rfl, htypes⟩
    refine ⟨op, rfl, none, ?_, htypes⟩
    rw [Site.Fixes, if_neg hother]
  simp only [List.mem_cons, List.not_mem_nil, or_false] at hkind
  rcases hkind with rfl | rfl | rfl | rfl
  · obtain rfl : Converter.of conv = converter := Option.some.inj hfind
    exact hplain (by decide) (ends_conv hx hshape)
  · obtain rfl : Converter.of convTranspose = converter := Option.some.inj hfind
    exact ends_convTranspose hx hshape
  · obtain rfl : Converter.of maxPool = converter := Option.some.inj hfind
    exact hplain (by decide) (ends_maxPool hx hshape)
  · obtain rfl : Converter.of averagePool = converter := Option.some.inj hfind
    exact hplain (by decide) (ends_averagePool hx hshape)

/-- A node over an input of known rank fails, or it has results whose first axis is that of the input. Their rank is that
of the input as well, but for a transposed convolution whose sizes are fixed by an attribute: then it is if there is one
of them for each spatial axis, and only then. -/
theorem window_rank_kept_iff {kind : String} (hkind : kind ∈ ["Conv", "ConvTranspose", "MaxPool", "AveragePool"])
    {converter : Converter} (hfind : Registry.builtin.find? kind = some converter) {site : Site} {x : TensorType}
    {dims : List Dim} (hx : site.Typed 0 x) (hshape : x.shape = some dims) :
    (∃ e, converter.Refuses site e) ∨ ∃ op, converter.Emits site op ∧ op.resultTypes ≠ [] ∧
      (∃ batch rest, dims = batch :: rest ∧ ∀ type ∈ op.resultTypes, ∃ out, type.shape = some (batch :: out)) ∧
      ((∀ type ∈ op.resultTypes, type.rank? = some dims.length) ↔
        (kind = "ConvTranspose" → ∀ shape, site.Stores .ints "output_shape" (some shape) →
          shape.length + 2 = dims.length)) := by
  rcases (ends_windowed hkind hfind hx hshape).cases converter with
    ⟨e, hrefuses⟩ | ⟨_, ⟨op, rfl, fixed, hfixed, htypes⟩, hlowers⟩
  · exact .inl ⟨e, hrefuses⟩
  refine .inr ⟨op, hlowers, htypes.2.1, htypes.first, ?_⟩
  rw [htypes.rank_iff]
  have hrank := htypes.1
  cases fixed with
  | none =>
    simp only [Option.elim_none]
    refine iff_of_true (by omega) ?_
    intro htransposed shape hstored
    rw [Site.Fixes, if_pos htransposed] at hfixed
    cases Except.ok.inj (hfixed.symm.trans hstored)
  | some sizes =>
    simp only [Option.elim_some]
    have htransposed : kind = "ConvTranspose" := by
      by_contra hother
      rw [Site.Fixes, if_neg hother] at hfixed
      cases hfixed
    rw [Site.Fixes, if_pos htransposed] at hfixed
    constructor
    · intro hlength _ shape hstored
      cases Except.ok.inj (hfixed.symm.trans hstored)
      exact hlength
    · intro h
      exact h htransposed sizes hfixed

/-- An image of two spatial axes that is made larger, with the sizes of the result fixed. -/
def enlargedSite (sizes : List Int) : Site :=
  sampleSite "ConvTranspose" ["y"] [.ofSizes .f32 [1, 3, 5, 5], .ofSizes .f32 [3, 2, 3, 3]]
    [("output_shape", .ints sizes)]

/-- The instruction that it becomes. -/
def enlargedInstruction (sizes : List Int) (type : TensorType) : OpSpec :=
  (enlargedSite sizes).instruction
    [("auto_pad", .string "NOTSET"), ("dilations", .ints [1, 1]), ("group", .int 1), ("kernel_shape", .ints [3, 3]),
      ("output_padding", .ints [0, 0]), ("output_shape", .ints sizes), ("pads", .ints [0, 0, 0, 0]),
      ("strides", .ints [1, 1])] [type]

/-- Two sizes for the two axes. -/
theorem matching_sizes_keep_rank :
    (enlargedSite [7, 9]).Typed 0 (.ofSizes .f32 [1, 3, 5, 5]) ∧
      ∃ op, (Converter.of convTranspose).Emits (enlargedSite [7, 9]) op ∧
        op.resultTypes = [.ofSizes .f32 [1, 2, 7, 9]] ∧ ∀ type ∈ op.resultTypes, type.rank? = some 4 := by
  have hkind : "ConvTranspose" ∈ ["Conv", "ConvTranspose", "MaxPool", "AveragePool"] := by decide
  have hfind : Registry.builtin.find? "ConvTranspose" = some (.of convTranspose) := rfl
  have hx : (enlargedSite [7, 9]).Typed 0 (.ofSizes .f32 [1, 3, 5, 5]) := ⟨⟨0⟩, rfl, rfl⟩
  have hknown : (Converter.of convTranspose).Emits (enlargedSite [7, 9])
    (enlargedInstruction [7, 9] (.ofSizes .f32 [1, 2, 7, 9])) := ⟨_, fun _ => rfl⟩
  refine ⟨hx, ?_⟩
  rcases window_rank_kept_iff hkind hfind hx rfl with ⟨e, hrefuses⟩ | ⟨op, hemits, -, -, hrank⟩
  · exact (hrefuses.not_lowers hknown).elim
  · refine ⟨op, hemits, hemits.resultTypes_eq hknown, hrank.2 ?_⟩
    intro _ shape hstored
    cases hstored
    rfl

/-- One size for the two axes. -/
theorem short_sizes_lower_rank :
    (enlargedSite [7]).Typed 0 (.ofSizes .f32 [1, 3, 5, 5]) ∧
      (TensorType.ofSizes .f32 [1, 3, 5, 5]).rank? = some 4 ∧ (TensorType.ofSizes .f32 [1, 2, 7]).rank? = some 3 ∧
      ∃ op, (Converter.of convTranspose).Emits (enlargedSite [7]) op ∧
        op.resultTypes = [.ofSizes .f32 [1, 2, 7]] :=
  ⟨⟨⟨0⟩, rfl, rfl⟩, rfl, rfl, enlargedInstruction [7] (.ofSizes .f32 [1, 2, 7]), ⟨_, fun _ => rfl⟩, rfl⟩

/-! ## Transposed convolutions -/

/-- The site has a transposed convolution over an input with the given axes, with a window and an output padding for the
spatial ones, and no attribute that fixes their sizes. -/
structure Site.Transposes (site : Site) (dims : List Dim) (window : Window) (outputPadding : List Nat) : Prop where
  inputs : 2 ≤ site.operands.length ∧ site.operands.length ≤ 3
  outputs : site.node.outputs.length = 1
  input : ∃ element, site.Typed 0 (.ranked element dims)
  rank : 3 ≤ dims.length
  group : ∃ group, site.Stores .int "group" group ∧ 1 ≤ group.getD 1
  window : ∃ weights, site.Typed 1 weights ∧ site.Configures (dims.length - 2) (some weights) window
  outputPadding : site.Lists "output_padding" (dims.length - 2) 0 outputPadding
  unfixed : site.Stores .ints "output_shape" none

theorem lowers_convTranspose {site : Site} {dims : List Dim} {window : Window} {outputPadding : List Nat}
    (g : site.Transposes dims window outputPadding) : ∃ params type channels,
      Lowers site convTranspose ⟨[], some (.instruction (site.instruction params [type]))⟩ ∧
        type.shape = some (dims.take 1 ++ [channels] ++ window.transposedDims outputPadding (dims.drop 2)) := by
  obtain ⟨element, hx⟩ := g.input
  obtain ⟨group, hgroup, hpositive⟩ := g.group
  obtain ⟨weights, hweights, hwindow⟩ := g.window
  have hinputs : Runs site (checkInputs 2 (some 3)) () := by
    refine .checkInputs g.inputs.1 ?_
    rintro n ⟨⟩
    exact g.inputs.2
  exact ⟨_, _, _, .bind hinputs (.bind (.checkOutputs_exact g.outputs) (.bind (.inputType hx) (.bind (.inputType hweights)
    (.bind (runs_readGroup hgroup hpositive) (.bind (runs_spatialAxes rfl g.rank) (.bind (runs_readWindow hwindow)
      (.bind (runs_perAxis g.outputPadding) (.bind (.attr? g.unfixed) (.bind .pure .emit))))))))), rfl⟩

theorem getElem?_take_one_append {dims : List Dim} (hrank : 3 ≤ dims.length) (channels : Dim) (spatial : List Dim)
    (axis : Nat) : (dims.take 1 ++ [channels] ++ spatial)[axis + 2]? = spatial[axis]? := by
  have hlength : (dims.take 1 ++ [channels]).length = 2 := by
    simp only [List.length_append, List.length_take, List.length_singleton]
    omega
  rw [List.getElem?_append_right (by omega), hlength, Nat.add_sub_cancel]

/-- The size that a transposed convolution gives to an axis is fixed, and a window with the same settings has as many
positions there as the input had elements, whatever the output padding below the stride. -/
theorem convolution_undoes_transposed (a : WindowAxis) (input padding : Nat) (hinput : 1 ≤ input)
    (hpadding : padding < a.stride)
    (hfits : a.stride * (input - 1) + padding + a.dilation * (max a.kernel 1 - 1) + 1 < Word.count)
    (hpads : a.pads.1 + a.pads.2 ≤ a.stride * (input - 1) + padding + a.dilation * (max a.kernel 1 - 1) + 1) :
    ∃ size, transposedOutput .notSet input a.kernel a.stride a.dilation padding a.pads = .static size ∧
      windowOutput (.static size) a.kernel a.stride a.pads a.dilation false = .static input ∧
      ∀ (converter : Converter) (site : Site) (dims : List Dim) (window : Window) (outputPadding : List Nat)
        (axis : Nat), Registry.builtin.find? "ConvTranspose" = some converter →
        site.Transposes dims window outputPadding → window.autoPad = .notSet → window.axis? axis = some a →
        dims[axis + 2]? = some (.static input) → outputPadding[axis]? = some padding →
        ∃ op type out, converter.Emits site op ∧ op.resultTypes = [type] ∧ type.shape = some out ∧
          out[axis + 2]? = some (.static size) := by
  obtain ⟨size, hsize, hpositions⟩ := windowOutput_transposedOutput hinput hpadding hfits hpads
  refine ⟨size, hsize, hpositions, ?_⟩
  intro converter site dims window outputPadding axis hfind g hautoPad ha hdim houtput
  obtain rfl : Converter.of convTranspose = converter := Option.some.inj hfind
  obtain ⟨params, type, channels, hlowers, hshape⟩ := lowers_convTranspose g
  refine ⟨_, type, _, hlowers.converter, rfl, hshape, ?_⟩
  have hspatial : (dims.drop 2)[axis]? = some (.static input) := by
    rw [List.getElem?_drop, Nat.add_comm]
    exact hdim
  rw [getElem?_take_one_append g.rank, getElem?_transposedDims ha hspatial houtput, hautoPad, hsize]

/-- A signal that is made longer, with a dilated kernel and padding beyond it. -/
def upsampledSite : Site :=
  sampleSite "ConvTranspose" ["y"] [.ofSizes .f32 [1, 8, 4], .ofSizes .f32 [8, 2, 3]]
    [("strides", .ints [2]), ("dilations", .ints [2]), ("pads", .ints [5, 4]), ("output_padding", .ints [1])]

theorem upsampledSite_transposes :
    upsampledSite.Transposes [.static 1, .static 8, .static 4] ⟨[3], [2], [2], [5, 4], .notSet⟩ [1] where
  inputs := by decide
  outputs := rfl
  input := ⟨.f32, ⟨0⟩, rfl, rfl⟩
  rank := by decide
  group := ⟨none, rfl, by decide⟩
  window := ⟨.ofSizes .f32 [8, 2, 3], ⟨⟨1⟩, rfl, rfl⟩, {
    kernel := .inr ⟨rfl, _, rfl, rfl⟩
    known := fun _ => rfl
    autoPad := ⟨none, rfl, rfl⟩
    strides := .inl ⟨rfl, rfl⟩
    dilations := .inl ⟨rfl, rfl⟩
    pads := .inl ⟨rfl, rfl⟩ }⟩
  outputPadding := .inl ⟨rfl, rfl⟩
  unfixed := rfl

theorem upsampled_signal_recovered :
    upsampledSite.Transposes [.static 1, .static 8, .static 4] ⟨[3], [2], [2], [5, 4], .notSet⟩ [1] ∧
      (∃ op type out, (Converter.of convTranspose).Emits upsampledSite op ∧ op.resultTypes = [type] ∧
        type.shape = some out ∧ out[2]? = some (.static 3)) ∧
      windowOutput (.static 3) 3 2 (5, 4) 2 false = .static 4 := by
  obtain ⟨size, hsize, hpositions, hnodes⟩ :=
    convolution_undoes_transposed ⟨3, 2, 2, (5, 4)⟩ 4 1 (by decide) (by decide) (by decide) (by decide)
  cases hsize
  exact ⟨upsampledSite_transposes, hnodes _ _ _ _ _ 0 rfl upsampledSite_transposes rfl rfl rfl rfl, hpositions⟩

/-! ## Pools rounded down and up -/

namespace Site.DiffersOnlyIn
variable {key : String} {site site' : Site}

theorem lists (h : site.DiffersOnlyIn key site') {other : String} (hother : other ≠ key) {count default : Nat}
    {sizes : List Nat} (hlists : site.Lists other count default sizes) : site'.Lists other count default sizes := by
  rcases hlists with ⟨hstored, hcount⟩ | ⟨hnone, hsizes⟩
  · exact .inl ⟨h.stores hother hstored, hcount⟩
  · exact .inr ⟨h.stores hother hnone, hsizes⟩

/-- An attribute that has nothing to do with the window leaves it as it is. -/
theorem configures (h : site.DiffersOnlyIn "ceil_mode" site') {spatial : Nat} {w : Window}
    (hw : site.Configures spatial none w) : site'.Configures spatial none w where
  kernel := by
    rcases hw.kernel with hstored | ⟨-, weights, hweights, -⟩
    · exact .inl (h.stores (by decide) hstored)
    · cases hweights
  known := hw.known
  autoPad := by
    obtain ⟨name, hname, hpad⟩ := hw.autoPad
    exact ⟨name, h.stores (by decide) hname, hpad⟩
  strides := h.lists (by decide) hw.strides
  dilations := h.lists (by decide) hw.dilations
  pads := h.lists (by decide) hw.pads

end Site.DiffersOnlyIn

/-- The two sites have one node, with the number of positions rounded down, as it is by default, and rounded up. -/
structure Site.Roundings (site site' : Site) : Prop extends site.DiffersOnlyIn "ceil_mode" site' where
  down : ∃ value, site.Stores .int "ceil_mode" value ∧ value.getD 0 = 0
  up : site'.Stores .int "ceil_mode" (some 1)

/-- One instruction each, with the same result types if the two given types are the same, and only then. -/
def Lowering.DifferAs (type type' : TensorType) (l l' : Lowering) : Prop :=
  ∃ op op', l = ⟨[], some (.instruction op)⟩ ∧ l' = ⟨[], some (.instruction op')⟩ ∧
    (op'.resultTypes = op.resultTypes ↔ type' = type)

namespace Operator

section Roundings
variable {site site' : Site} {x : TensorType} {dims : List Dim} {w : Window}

theorem match_spatialAxes (t : Site.Twins x site site') (hshape : x.shape = some dims) {weights : Option TensorType} :
    Match site site' (fun n n' => n = dims.length - 2 ∧ n' = dims.length - 2) (spatialAxes x weights)
      (spatialAxes x weights) := by
  unfold spatialAxes TensorType.rank?
  rw [hshape, Option.map_some]
  dsimp only
  split
  · refine .runs .opType .opType ?_
    rw [t.opType]
    exact .throw
  · exact .pure ⟨rfl, rfl⟩

theorem match_readPool (h : site.Roundings site') (hx : site.Typed 0 x) (hshape : x.shape = some dims)
    (hw : site.Configures (dims.length - 2) none w) :
    Match site site' (fun pool pool' => pool.1 = pooledType x w false ∧ pool'.1 = pooledType x w true) readPool
      readPool := by
  have t := h.twins hx
  refine .inputType t (.bind (match_spatialAxes t hshape) ?_)
  rintro _ _ ⟨rfl, rfl⟩
  refine .runs (runs_readWindow hw) (runs_readWindow (h.configures hw)) ?_
  have hdown : Runs site (flag "ceil_mode" 0) false := by
    obtain ⟨value, hstored, hzero⟩ := h.down
    have hflag : Runs site (flag "ceil_mode" 0) (value.getD 0 != 0) := .flag hstored
    rw [hzero] at hflag
    exact hflag
  exact .runs hdown (.flag h.up) (.pure ⟨rfl, rfl⟩)

theorem meets_emit {type type' : TensorType} {params params' : Params} {types types' : List TensorType}
    (h : types' = types ↔ type' = type) :
    Meets site site' (Lowering.DifferAs type type') (emit params types) (emit params' types') :=
  .of_lowers .emit .emit ⟨_, _, rfl, rfl, h⟩

/-- The places of the maxima have the axes of the maxima. -/
theorem meets_maxPool (h : site.Roundings site') (hx : site.Typed 0 x) (hshape : x.shape = some dims)
    (hw : site.Configures (dims.length - 2) none w) :
    Meets site site' (Lowering.DifferAs (pooledType x w false) (pooledType x w true)) maxPool maxPool := by
  have t := h.twins hx
  refine .step (.checkInputs t (congrArg List.length h.operands)) fun _ => .step (.checkOutputs t) fun _ => ?_
  refine .bind (match_readPool h hx hshape hw) ?_
  rintro ⟨type, params⟩ ⟨type', params'⟩ ⟨rfl, rfl⟩
  refine .step (.attrOr (h.value_eq (by decide))) fun order => .runs .read .read (meets_emit ?_)
  rw [t.outputs]
  constructor
  · intro htypes
    split at htypes
    · exact (List.cons.inj htypes).1
    · exact (List.cons.inj htypes).1
  · intro htype
    rw [htype]

theorem meets_averagePool (h : site.Roundings site') (hx : site.Typed 0 x) (hshape : x.shape = some dims)
    (hw : site.Configures (dims.length - 2) none w) :
    Meets site site' (Lowering.DifferAs (pooledType x w false) (pooledType x w true)) averagePool
      averagePool := by
  have t := h.twins hx
  refine .step (.step (.checkInputs t (congrArg List.length h.operands)) fun _ => .checkOutputs t) fun _ => ?_
  refine .bind (match_readPool h hx hshape hw) ?_
  rintro ⟨type, params⟩ ⟨type', params'⟩ ⟨rfl, rfl⟩
  refine .step (.attrOr (h.value_eq (by decide))) fun includePad => meets_emit ?_
  simp

theorem meets_pool {kind : String} (hkind : kind = "MaxPool" ∨ kind = "AveragePool") {converter : Converter}
    (hfind : Registry.builtin.find? kind = some converter) (h : site.Roundings site') (hx : site.Typed 0 x)
    (hshape : x.shape = some dims) (hw : site.Configures (dims.length - 2) none w) :
    Meets site site' (Lowering.DifferAs (pooledType x w false) (pooledType x w true)) converter.lower
      converter.lower := by
  rcases hkind with rfl | rfl
  · obtain rfl : Converter.of maxPool = converter := Option.some.inj hfind
    exact meets_maxPool h hx hshape hw
  · obtain rfl : Converter.of averagePool = converter := Option.some.inj hfind
    exact meets_averagePool h hx hshape hw

/-- With the padding that keeps the positions, the rounding does not show in the type if the last position reaches the
end of the input on each axis, and only then. -/
theorem pooledType_modes_iff {element : ElementType} {batch channels : Dim} {sizes : List Nat}
    (hsame : w.autoPad = .sameUpper ∨ w.autoPad = .sameLower)
    (haxes : ∀ axis a input, w.axis? axis = some a → sizes[axis]? = some input →
      0 < input ∧ input < Word.count ∧ 1 ≤ a.stride ∧ a.reach input < Word.count) :
    pooledType (.ranked element (batch :: channels :: sizes.map .static)) w true =
        pooledType (.ranked element (batch :: channels :: sizes.map .static)) w false ↔
      ∀ axis a input, w.axis? axis = some a → sizes[axis]? = some input → input ≤ a.reach input := by
  have htypes : pooledType (.ranked element (batch :: channels :: sizes.map .static)) w true =
      pooledType (.ranked element (batch :: channels :: sizes.map .static)) w false ↔
        w.outputDims (sizes.map .static) true = w.outputDims (sizes.map .static) false := by
    simp [pooledType, TensorType.ranked]
  rw [htypes, outputDims_modes_iff]
  refine forall_congr' fun axis => forall_congr' fun a => forall_congr' fun input => ?_
  refine forall_congr' fun ha => forall_congr' fun hinput => ?_
  obtain ⟨hpositive, hsize, hstride, hfits⟩ := haxes axis a input ha hinput
  exact outputDim_modes_iff hsame ha hpositive hsize hstride hfits

end Roundings

end Operator

/-- A pool that is to keep its positions converts whether their number is rounded down or up. Its result types are the
same in both modes if the kernel at the last of `ceil (input / stride)` positions reaches the end of the input on each
axis, and only then. -/
theorem pool_rounding_agrees_iff {kind : String} (hkind : kind = "MaxPool" ∨ kind = "AveragePool")
    {converter : Converter} (hfind : Registry.builtin.find? kind = some converter) {site site' : Site}
    (h : site.Roundings site') {element : ElementType} {batch channels : Dim} {sizes : List Nat}
    (hx : site.Typed 0 (.ranked element (batch :: channels :: sizes.map .static))) {w : Window}
    (hw : site.Configures sizes.length none w) (hsame : w.autoPad = .sameUpper ∨ w.autoPad = .sameLower)
    (haxes : ∀ axis a input, w.axis? axis = some a → sizes[axis]? = some input →
      0 < input ∧ input < Word.count ∧ 1 ≤ a.stride ∧ a.reach input < Word.count) :
    (∃ e, converter.Refuses site e ∧ converter.Refuses site' e) ∨
      ∃ op op', converter.Emits site op ∧ converter.Emits site' op' ∧
        (op'.resultTypes = op.resultTypes ↔
          ∀ axis a input, w.axis? axis = some a → sizes[axis]? = some input → input ≤ a.reach input) := by
  have hspatial : site.Configures ((batch :: channels :: sizes.map Dim.static).length - 2) none w := by
    simpa using hw
  rcases Meets.cases converter converter (meets_pool hkind hfind h hx rfl hspatial) with
    hrefuses | ⟨_, _, hlowers, hlowers', op, op', rfl, rfl, htypes⟩
  · exact .inl hrefuses
  · refine .inr ⟨op, op', hlowers, hlowers', ?_⟩
    rw [htypes]
    exact pooledType_modes_iff hsame haxes

/-- A pool that also gives the places of the maxima, over an input with the given spatial sizes. -/
def pooledSite (sizes : List Nat) (kernel strides : List Nat) (ceilMode : Int) : Site :=
  sampleSite "MaxPool" ["y", "places"] [.ranked .f32 (.dynamic (some "n") :: .static 3 :: sizes.map .static)]
    [("kernel_shape", .ints (kernel.map Int.ofNat)), ("strides", .ints (strides.map Int.ofNat)),
      ("auto_pad", .string "SAME_UPPER"), ("ceil_mode", .int ceilMode)]

theorem pooledSite_roundings (sizes kernel strides : List Nat) :
    (pooledSite sizes kernel strides 0).Roundings (pooledSite sizes kernel strides 1) where
  rest := rfl
  others := by
    intro other hother
    have hkey : ("ceil_mode" == other) = false := beq_eq_false_iff_ne.2 fun he => hother he.symm
    simp [pooledSite, sampleSite, AttributeBag.find?, List.find?_cons, hkey]
  down := ⟨some 0, rfl, rfl⟩
  up := rfl

theorem pooledSite_configures (sizes kernel strides : List Nat) (hkernel : kernel.length = sizes.length)
    (hstrides : strides.length = sizes.length) (ceilMode : Int) :
    (pooledSite sizes kernel strides ceilMode).Configures sizes.length none
      ⟨kernel, strides, List.replicate sizes.length 1, List.replicate (sizes.length * 2) 0, .sameUpper⟩ where
  kernel := .inl rfl
  known := fun _ => hkernel
  autoPad := ⟨some "SAME_UPPER", rfl, rfl⟩
  strides := .inl ⟨rfl, hstrides⟩
  dilations := .inr ⟨rfl, rfl⟩
  pads := .inr ⟨rfl, rfl⟩

theorem pooledSite_emits {sizes kernel strides : List Nat} (hsizes : 1 ≤ sizes.length)
    (hkernel : kernel.length = sizes.length) (hstrides : strides.length = sizes.length) (ceilMode : Int) :
    let type := pooledType (.ranked .f32 (.dynamic (some "n") :: .static 3 :: sizes.map .static))
      ⟨kernel, strides, List.replicate sizes.length 1, List.replicate (sizes.length * 2) 0, .sameUpper⟩ (ceilMode != 0)
    ∃ params, (Converter.of maxPool).Emits (pooledSite sizes kernel strides ceilMode)
      ((pooledSite sizes kernel strides ceilMode).instruction params [type, type.withElement .i64]) := by
  intro type
  have hrank : 3 ≤ (Dim.dynamic (some "n") :: .static 3 :: sizes.map Dim.static).length := by simpa using hsizes
  have haxes : Runs (pooledSite sizes kernel strides ceilMode) (spatialAxes
      (.ranked .f32 (.dynamic (some "n") :: .static 3 :: sizes.map .static)) none) sizes.length := by
    simpa using runs_spatialAxes rfl hrank
  have hwindow := runs_readWindow (pooledSite_configures sizes kernel strides hkernel hstrides ceilMode)
  have hoperand : (pooledSite sizes kernel strides ceilMode).Typed 0
    (.ranked .f32 (.dynamic (some "n") :: .static 3 :: sizes.map .static)) := ⟨⟨0⟩, rfl, rfl⟩
  have hceil : (pooledSite sizes kernel strides ceilMode).Stores .int "ceil_mode" (some ceilMode) := rfl
  have hpool : ∃ params, Runs (pooledSite sizes kernel strides ceilMode) readPool (type, params) :=
    ⟨_, .bind (.inputType hoperand) (.bind haxes (.bind hwindow (.bind (.flag hceil) .pure)))⟩
  have horder : (pooledSite sizes kernel strides ceilMode).Stores .int "storage_order" none := rfl
  have houtputs : Runs (pooledSite sizes kernel strides ceilMode) (checkOutputs 1 (some 2)) () := by
    refine .checkOutputs (Nat.le_add_left 1 1) ?_
    rintro n ⟨⟩
    exact Nat.le_refl 2
  obtain ⟨params, hpool⟩ := hpool
  refine ⟨params.insert "storage_order" (.int 0), Lowers.converter (.bind (.checkInputs_exact rfl) ?_)⟩
  exact .bind houtputs (.bind hpool (.bind (.attrOr horder) (.bind .read .emit)))

/-- A kernel of three in steps of two reaches the end of both axes. -/
theorem overlapping_pool_rounds_alike :
    (pooledSite [5, 8] [3, 3] [2, 2] 0).Roundings (pooledSite [5, 8] [3, 3] [2, 2] 1) ∧
      ∃ op op', (Converter.of maxPool).Emits (pooledSite [5, 8] [3, 3] [2, 2] 0) op ∧
        (Converter.of maxPool).Emits (pooledSite [5, 8] [3, 3] [2, 2] 1) op' ∧ op'.resultTypes = op.resultTypes := by
  have h := pooledSite_roundings [5, 8] [3, 3] [2, 2]
  have hkernel : [3, 3].length = [5, 8].length := rfl
  have hstrides : [2, 2].length = [5, 8].length := rfl
  have hw := pooledSite_configures [5, 8] [3, 3] [2, 2] hkernel hstrides 0
  have hx : (pooledSite [5, 8] [3, 3] [2, 2] 0).Typed 0
      (.ranked .f32 (.dynamic (some "n") :: .static 3 :: [5, 8].map .static)) := ⟨⟨0⟩, rfl, rfl⟩
  have haxes : ∀ (axis : Nat) (a : WindowAxis) (input : Nat),
      Window.axis? ⟨[3, 3], [2, 2], [1, 1], [0, 0, 0, 0], .sameUpper⟩ axis = some a → [5, 8][axis]? = some input →
        (0 < input ∧ input < Word.count ∧ 1 ≤ a.stride ∧ a.reach input < Word.count) ∧ input ≤ a.reach input := by
    intro axis a input ha hinput
    rcases axis with _ | _ | axis
    · cases ha
      cases hinput
      decide
    · cases ha
      cases hinput
      decide
    · simp at hinput
  rcases pool_rounding_agrees_iff (.inl rfl) rfl h hx hw (.inl rfl)
    (fun axis a input ha hinput => (haxes axis a input ha hinput).1) with
    ⟨e, hrefuses, -⟩ | ⟨op, op', hemits, hemits', htypes⟩
  · obtain ⟨params, hemits⟩ := pooledSite_emits (by decide) hkernel hstrides 0
    exact (hrefuses.not_lowers hemits).elim
  · exact ⟨h, op, op', hemits, hemits', htypes.2 fun axis a input ha hinput => (haxes axis a input ha hinput).2⟩

/-- A kernel of one in steps of two leaves out the last element, and rounding up adds a position beyond it. -/
theorem sparse_pool_rounds_apart :
    (pooledSite [4] [1] [2] 0).Roundings (pooledSite [4] [1] [2] 1) ∧
      (pooledSite [4] [1] [2] 0).Configures 1 none ⟨[1], [2], [1], [0, 0], .sameUpper⟩ ∧
      ∃ op op', (Converter.of maxPool).Emits (pooledSite [4] [1] [2] 0) op ∧
        (Converter.of maxPool).Emits (pooledSite [4] [1] [2] 1) op' ∧
        op.resultTypes.map TensorType.shape = List.replicate 2 (some [.dynamic (some "n"), .static 3, .static 2]) ∧
        op'.resultTypes.map TensorType.shape = List.replicate 2 (some [.dynamic (some "n"), .static 3, .static 3]) := by
  have hkernel : [1].length = [4].length := rfl
  have hstrides : [2].length = [4].length := rfl
  obtain ⟨params, hdown⟩ := pooledSite_emits (by decide) hkernel hstrides 0
  obtain ⟨params', hup⟩ := pooledSite_emits (by decide) hkernel hstrides 1
  exact ⟨pooledSite_roundings _ _ _, pooledSite_configures [4] [1] [2] rfl rfl 0, _, _, hdown, hup, rfl, rfl⟩

end ModelImport
