import ModelImport.Proofs.UnitAxes
/-!
# Reduced axes, kept and dropped

A reduction either drops the axes it goes over or keeps them with size 1. `dropping_is_keeping_then_squeezing`: whatever
the axes and wherever they are read from, two nodes that differ in nothing else fail with the same error, or both become
one instruction over the same axes; and taking these axes out of the type that keeps them gives the type that drops
them.
-/

namespace ModelImport

open LookM ConverterM Operator Infer

/-! ## The axes of the results -/

namespace Operator

variable {dims : List Dim} {places : List Nat}

theorem length_reducedDims_keep : (reducedDims dims places true).length = dims.length := by simp [reducedDims]

theorem getElem?_reducedDims_keep (i : Nat) :
    (reducedDims dims places true)[i]? = dims[i]?.map fun dim => if i ∈ places then .static 1 else dim := by
  simp [reducedDims]

/-- The axes that are kept are those that are dropped, put in again with size 1. -/
theorem withUnits_reducedDims (h : ValidPlaces dims.length places) :
    WithUnits places (reducedDims dims places false) (reducedDims dims places true) where
  valid := by rwa [length_reducedDims_keep]
  listed := by
    intro place hplace
    rw [getElem?_reducedDims_keep, List.getElem?_eq_getElem (h.inRange place hplace)]
    simp [hplace]
  unlisted := by
    have hdropped : reducedDims dims places false = dropAxes dims places := rfl
    rw [hdropped, map_some_dropAxes, length_reducedDims_keep]
    apply List.map_congr_left
    intro i hi
    rw [getElem?_reducedDims_keep]
    simp [(mem_unlisted.1 hi).2]

/-- A reduction without axes is one that lists all of them. -/
theorem reductionPlaces_eq (axes : Option (List Int)) (rank : Nat) :
    reductionPlaces axes rank = normalizeAxes "axes" (axes.getD ((List.range rank).map Int.ofNat)) rank := by
  cases axes with
  | some axes => rfl
  | none =>
    have hall : ValidPlaces rank (List.range rank) :=
      ⟨fun place hplace => List.mem_range.1 hplace, List.nodup_range⟩
    exact (normalizeAxes_places "axes" hall).symm

/-- One axis is a list of axes, whatever is to blame if it is out of range. -/
theorem normalizeAxes_singleton {key : String} {axis : Int} {rank place : Nat}
    (h : normalizeAxis key axis rank = .ok place) (listKey : String) :
    normalizeAxes listKey [axis] rank = .ok [place] := by
  obtain ⟨hplace, hlt⟩ := normalizeAxis_eq_ok_iff.1 h
  refine normalizeAxes_eq_ok_iff.2 ⟨?_, by simpa using hlt, List.nodup_singleton place⟩
  simpa using hplace

end Operator

/-! ## Two nodes -/

/-- The two sites have one node that reduces, which drops the axes at one of them and keeps them, as it does by default,
at the other. -/
structure Site.DropsOrKeeps (site site' : Site) : Prop extends site.DiffersOnlyIn "keepdims" site' where
  drops : site.Stores .int "keepdims" (some 0)
  keeps : ∃ value, site'.Stores .int "keepdims" value ∧ value.getD 1 = 1

/-- The axes that a node is told to go over. For the place of an extreme element it is one axis, the first by default.
Any other reduction lists its axes, by attribute or by input, and goes over all of them if it lists none. -/
def Site.GoesOver (site : Site) (kind : String) (rank : Nat) (axes : List Int) : Prop :=
  if kind ∈ reductionNames then
    ∃ listed, site.Gives "axes" 1 (axesInputSince site.node.opType) listed ∧
      axes = if listed.getD [] = [] then (List.range rank).map Int.ofNat else listed.getD []
  else ∃ value, site.Stores .int "axis" value ∧ axes = [value.getD 0]

/-- The axes of a reduction are known, that is, an input that lists them is a constant; and a reduction without axes is
one over all of them. -/
structure Site.ReducesKnownAxes (site : Site) : Prop where
  known : axesInputSince site.node.opType ≤ site.opset → ∀ v, (site.operands[1]?).join = some v →
    ∃ list, site.Supplies 1 (some list)
  reduces : ∀ value, site.Stores .int "noop_with_empty_axes" value → value.getD 0 = 0

/-- The instruction names the axes it goes over: the place of an extreme element is along one axis, and any other
reduction is over a list of them. -/
def OpSpec.Reduces (kind : String) (op : OpSpec) (places : List Nat) : Prop :=
  if kind ∈ reductionNames then op.params.find? "axes" = some (axesParam places)
  else ∃ place : Nat, places = [place] ∧ op.params.find? "axis" = some (.int place)

/-- One instruction each, over the axes that the node is told to go over, which the first drops and the second keeps. -/
def Lowering.DropsOrKeeps (site : Site) (kind : String) (dims : List Dim) (l l' : Lowering) : Prop :=
  ∃ op op' element axes places, l = ⟨[], some (.instruction op)⟩ ∧ l' = ⟨[], some (.instruction op')⟩ ∧
    site.GoesOver kind dims.length axes ∧ normalizeAxes "axes" axes dims.length = .ok places ∧
    op.Reduces kind places ∧ op'.Reduces kind places ∧
    op.resultTypes = [.ranked element (reducedDims dims places false)] ∧
    op'.resultTypes = [.ranked element (reducedDims dims places true)]

namespace Operator

section DropsOrKeeps
variable {site site' : Site} {x : TensorType} {element : ElementType} {dims : List Dim} {kind : String}

theorem runs_drops (h : site.DropsOrKeeps site') : Runs site (flag "keepdims" 1) false := .flag h.drops

theorem runs_keeps (h : site.DropsOrKeeps site') : Runs site' (flag "keepdims" 1) true := by
  obtain ⟨value, hstored, hone⟩ := h.keeps
  have hflag : Runs site' (flag "keepdims" 1) (value.getD 1 != 0) := .flag hstored
  rwa [hone] at hflag

theorem drops_or_keeps_emit {params params' : Params} {axes : List Int} {places : List Nat}
    (haxes : site.GoesOver kind dims.length axes) (hplaces : normalizeAxes "axes" axes dims.length = .ok places)
    (hparams : (site.instruction params [.ranked element (reducedDims dims places false)]).Reduces kind places)
    (hparams' : (site'.instruction params' [.ranked element (reducedDims dims places true)]).Reduces kind places) :
    Meets site site' (Lowering.DropsOrKeeps site kind dims)
      (emit params [.ranked element (reducedDims dims places false)])
      (emit params' [.ranked element (reducedDims dims places true)]) :=
  .of_lowers .emit .emit ⟨_, _, element, axes, places, rfl, rfl, haxes, hplaces, hparams, hparams', rfl, rfl⟩

/-- The axes are read from the same place, and are the same. -/
theorem match_readReductionAxes (h : site.DiffersOnlyIn "keepdims" site') (hx : site.Typed 0 x) :
    Match site site' Eq readReductionAxes readReductionAxes := by
  have t := h.twins hx
  have hcount := congrArg List.length h.operands
  refine .runs .opset .opset (.runs .opType .opType ?_)
  rw [h.opset, t.opType]
  refine .ite ?_ ?_
  · exact .step (.checkInputs t hcount) fun _ => .step (.attr? (h.value_eq (by decide))) fun _ => .pure rfl
  · refine .step (.checkInputs t hcount) fun _ => .runs .input? .input? ?_
    rw [h.operands]
    cases (site'.operands[1]?).join with
    | none => exact .pure rfl
    | some v =>
      refine .step (.constantInts? h.operands h.function) fun list => ?_
      cases list with
      | none => exact .pure rfl
      | some axes => exact .pure rfl

theorem yields_readReductionAxes (h : site.ReducesKnownAxes) :
    Yields site readReductionAxes fun axes =>
      ∃ listed, site.Gives "axes" 1 (axesInputSince site.node.opType) listed ∧ axes = .ofList? listed := by
  refine .runs .opset (.runs .opType ?_)
  split
  · next hold =>
    refine .bind .checkInputs fun _ _ => .bind .attr? fun listed hlisted => .pure ⟨listed, ⟨?_, ?_⟩, rfl⟩
    · exact fun _ => hlisted
    · exact fun hnew => absurd hold (Int.not_lt.2 hnew)
  · next hnew =>
    refine .bind .checkInputs fun _ _ => .runs .input? ?_
    cases hv : (site.operands[1]?).join with
    | none => exact .pure ⟨none, ⟨fun hold => absurd hold hnew, fun _ => hv⟩, rfl⟩
    | some v =>
      obtain ⟨list, hlist⟩ := h.known (Int.not_lt.1 hnew) v hv
      exact .runs (.constantInts? hlist) (.pure ⟨some list, ⟨fun hold => absurd hold hnew, fun _ => hlist⟩, rfl⟩)

theorem drops_or_keeps_reduceOver (hkind : kind ∈ reductionNames) (axes : Option (List Int))
    (haxes : site.GoesOver kind dims.length (axes.getD ((List.range dims.length).map Int.ofNat))) :
    Meets site site' (Lowering.DropsOrKeeps site kind dims) (reduceOver (.ranked element dims) axes false)
      (reduceOver (.ranked element dims) axes true) := by
  refine .bind (.yields .lift .lift) ?_
  rintro places _ ⟨rfl, hplaces⟩
  rw [reductionPlaces_eq] at hplaces
  refine drops_or_keeps_emit haxes hplaces ?_ ?_
  · rw [OpSpec.Reduces, if_pos hkind]
    exact Params.find?_insert_self ..
  · rw [OpSpec.Reduces, if_pos hkind]
    exact Params.find?_insert_self ..

theorem drops_or_keeps_reduce (hkind : kind ∈ reductionNames) (h : site.DropsOrKeeps site')
    (hx : site.Typed 0 (.ranked element dims)) (hknown : site.ReducesKnownAxes) :
    Meets site site' (Lowering.DropsOrKeeps site kind dims) reduce reduce := by
  have t := h.twins hx
  refine .step (.checkOutputs t) fun _ => .runs (runs_drops h) (runs_keeps h) ?_
  refine .bind (.yields (.flag (h.value_eq (by decide))) .flag) ?_
  rintro noop _ ⟨rfl, value, hstored, hnoop⟩
  rw [hknown.reduces value hstored] at hnoop
  subst hnoop
  refine .bind (.yields (match_readReductionAxes h.toDiffersOnlyIn hx) (yields_readReductionAxes hknown)) ?_
  rintro _ _ ⟨rfl, listed, hlisted, rfl⟩
  refine .inputType t ?_
  have hover : site.GoesOver kind dims.length
      (if listed.getD [] = [] then (List.range dims.length).map Int.ofNat else listed.getD []) := by
    rw [Site.GoesOver, if_pos hkind]
    exact ⟨listed, hlisted, rfl⟩
  rcases listed with _ | _ | ⟨axis, rest⟩
  · exact drops_or_keeps_reduceOver hkind none hover
  · exact drops_or_keeps_reduceOver hkind none hover
  · exact drops_or_keeps_reduceOver hkind (some (axis :: rest)) hover

theorem drops_or_keeps_argReduce (hkind : kind ∉ reductionNames) (h : site.DropsOrKeeps site')
    (hx : site.Typed 0 (.ranked element dims)) :
    Meets site site' (Lowering.DropsOrKeeps site kind dims) argReduce argReduce := by
  have t := h.twins hx
  refine .step (.step (.checkInputs t (congrArg List.length h.operands)) fun _ => .checkOutputs t) fun _ => ?_
  refine .bind (.yields (.attrOr (h.value_eq (by decide))) .attrOr) ?_
  rintro axis _ ⟨rfl, value, hstored, rfl⟩
  refine .runs (runs_drops h) (runs_keeps h) (.step (.attrOr (h.value_eq (by decide))) fun selectLast => ?_)
  refine .inputType t (.bind (.yields .lift .lift) ?_)
  rintro place _ ⟨rfl, hplace⟩
  have hover : site.GoesOver kind dims.length [value.getD 0] := by
    rw [Site.GoesOver, if_neg hkind]
    exact ⟨value, hstored, rfl⟩
  refine .runs .pure .pure ?_
  refine drops_or_keeps_emit hover (normalizeAxes_singleton hplace _) ?_ ?_
  · rw [OpSpec.Reduces, if_neg hkind]
    exact ⟨place, rfl, by simp [Params.ofList, Params.find?_insert]⟩
  · rw [OpSpec.Reduces, if_neg hkind]
    exact ⟨place, rfl, by simp [Params.ofList, Params.find?_insert]⟩

end DropsOrKeeps

end Operator

/-- A reduction that drops its axes and the one that keeps them, over an operand of known rank, both fail with the same
error, or become one instruction each over the same axes: those that the node is told to go over, counted from the
front. The type with the axes kept has the rank of the operand, and taking the axes out of it gives the type with the
axes dropped. -/
theorem dropping_is_keeping_then_squeezing {kind : String} (hkind : kind ∈ reductionNames ++ ["ArgMax", "ArgMin"])
    {converter squeezer : Converter} (hfind : Registry.builtin.find? kind = some converter)
    (hsqueezer : Registry.builtin.find? "Squeeze" = some squeezer) {site site' : Site} (h : site.DropsOrKeeps site')
    {element : ElementType} {dims : List Dim} (hx : site.Typed 0 (.ranked element dims))
    (hknown : kind ∈ reductionNames → site.ReducesKnownAxes) :
    (∃ e, converter.Refuses site e ∧ converter.Refuses site' e) ∨
    ∃ op op' axes places result dropped kept, converter.Emits site op ∧ converter.Emits site' op' ∧
      site.GoesOver kind dims.length axes ∧ places.map Int.ofNat = axes.map (fromBack dims.length) ∧
      op.Reduces kind places ∧ op'.Reduces kind places ∧
      op.resultTypes = [.ranked result dropped] ∧ op'.resultTypes = [.ranked result kept] ∧
      kept.length = dims.length ∧
      ∀ site'' : Site, site''.ListsAxes (.ranked result kept) (places.map Int.ofNat) →
        squeezer.Emits site'' (site''.instruction [("axes", axesParam places)] [.ranked result dropped]) := by
  obtain rfl : Converter.of squeeze = squeezer := Option.some.inj hsqueezer
  have hmeets : Meets site site' (Lowering.DropsOrKeeps site kind dims) converter.lower converter.lower := by
    rcases List.mem_append.1 hkind with hreduction | hextreme
    · obtain rfl : Converter.of reduce = converter :=
        Option.some.inj ((Registry.find?_of_reduction hreduction).symm.trans hfind)
      exact drops_or_keeps_reduce hreduction h hx (hknown hreduction)
    · simp only [List.mem_cons, List.not_mem_nil, or_false] at hextreme
      rcases hextreme with rfl | rfl
      · obtain rfl : Converter.of argReduce = converter := Option.some.inj hfind
        exact drops_or_keeps_argReduce (by decide) h hx
      · obtain rfl : Converter.of argReduce = converter := Option.some.inj hfind
        exact drops_or_keeps_argReduce (by decide) h hx
  rcases Meets.cases _ _ hmeets with ⟨e, hrefuses, hrefuses'⟩ | ⟨l, l', hlowers, hlowers', hresult⟩
  · exact .inl ⟨e, hrefuses, hrefuses'⟩
  · obtain ⟨op, op', result, axes, places, rfl, rfl, hover, hplaces, hop, hop', htypes, htypes'⟩ := hresult
    obtain ⟨hmap, hvalid⟩ := normalizeAxes_eq_ok_iff.1 hplaces
    have hunits := withUnits_reducedDims hvalid
    refine .inr ⟨op, op', axes, places, result, _, _, hlowers, hlowers', hover, hmap, hop, hop', htypes, htypes',
      length_reducedDims_keep, ?_⟩
    intro site'' g
    exact (lowers_squeeze g (hunits.squeezeDims_eq (normalizeAxes_places "axes" hunits.valid))).converter

/-- A mean over the last axis and the first one. -/
def averagedSite (keepdims : Int) : Site :=
  sampleSite "ReduceMean" ["y"] [.ranked .f32 [.dynamic (some "n"), .static 3, .static 4]]
    [("axes", .ints [-1, 0]), ("keepdims", .int keepdims)]

theorem averagedSite_dropsOrKeeps : (averagedSite 0).DropsOrKeeps (averagedSite 1) where
  rest := rfl
  others := by
    intro other hother
    have hkey : ("keepdims" == other) = false := beq_eq_false_iff_ne.2 fun he => hother he.symm
    simp [averagedSite, sampleSite, AttributeBag.find?, List.find?_cons, hkey]
  drops := rfl
  keeps := ⟨some 1, rfl, rfl⟩

theorem averagedSite_reducesKnownAxes (keepdims : Int) : (averagedSite keepdims).ReducesKnownAxes where
  known := fun hnew => absurd hnew (by decide : ¬(18 : Int) ≤ 13)
  reduces := by
    intro value hstored
    cases hstored
    rfl

/-- The mean with its axes dropped is a vector, and so is the one with its axes kept once they are taken out. -/
theorem dropped_mean_is_squeezed :
    (averagedSite 0).DropsOrKeeps (averagedSite 1) ∧ (averagedSite 0).ReducesKnownAxes ∧
      ∃ op op', (Converter.of reduce).Emits (averagedSite 0) op ∧ (Converter.of reduce).Emits (averagedSite 1) op' ∧
        op.resultTypes = [.ofSizes .f32 [3]] ∧ op'.resultTypes = [.ofSizes .f32 [1, 3, 1]] ∧
        (Converter.of squeeze).Emits (storedAxesSite "Squeeze" (.ofSizes .f32 [1, 3, 1]) [2, 0])
          ((storedAxesSite "Squeeze" (.ofSizes .f32 [1, 3, 1]) [2, 0]).instruction
            [("axes", .ints [2, 0])] [.ofSizes .f32 [3]]) := by
  have h := averagedSite_dropsOrKeeps
  have hknown := averagedSite_reducesKnownAxes 0
  have hx : (averagedSite 0).Typed 0 (.ranked .f32 [.dynamic (some "n"), .static 3, .static 4]) := ⟨⟨0⟩, rfl, rfl⟩
  have hdrops : (Converter.of reduce).Emits (averagedSite 0) ((averagedSite 0).instruction
      [("axes", .ints [2, 0]), ("keepdims", .int 0)] [.ofSizes .f32 [3]]) := ⟨_, fun _ => rfl⟩
  have hkeeps : (Converter.of reduce).Emits (averagedSite 1) ((averagedSite 1).instruction
      [("axes", .ints [2, 0]), ("keepdims", .int 1)] [.ofSizes .f32 [1, 3, 1]]) := ⟨_, fun _ => rfl⟩
  have hkind : "ReduceMean" ∈ reductionNames ++ ["ArgMax", "ArgMin"] := by decide
  rcases dropping_is_keeping_then_squeezing hkind rfl rfl h hx fun _ => hknown with ⟨e, hrefuses, -⟩ | hconverts
  · exact (hrefuses.not_lowers hdrops).elim
  · obtain ⟨op, op', axes, places, _, _, _, hop, hop', -, -, hplaces, -, hdropped, hkept, -, hback⟩ := hconverts
    have htypes := hop.resultTypes_eq hdrops
    have htypes' := hop'.resultTypes_eq hkeeps
    cases htypes.symm.trans hdropped
    cases htypes'.symm.trans hkept
    have hplaces : op.params.find? "axes" = some (axesParam places) := hplaces
    rw [hop.params_eq rfl hdrops] at hplaces
    have hparam : Param.ints [2, 0] = axesParam places := Option.some.inj hplaces
    rw [← hparam, ← Param.ints.inj hparam] at hback
    exact ⟨h, hknown, op, op', hop, hop', htypes, htypes',
      hback _ (storedAxesSite_listsAxes "Squeeze" (.ofSizes .f32 [1, 3, 1]) [2, 0])⟩

end ModelImport
