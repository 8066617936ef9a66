import ModelImport.Proofs.AxisPlaces
import ModelImport.Proofs.ConverterRuns
/-!
# What is kept of a configuration

A lowering of the imported function sees instructions only, so what a node was told by its attributes has to be among
the parameters of its instruction. For a squeeze, a slice, a padding and a shape this is so exactly when the rank of the
operand is known (`configuration_kept_iff_ranked`). Then the axes stand there counted from the front, and two nodes with
the same parameters do the same to each axis. Without the rank the configuration is dropped: squeezing the first axis and
squeezing the second become the same instruction (`unranked_squeezes_coincide`).
-/

namespace ModelImport

open LookM ConverterM Operator Infer

/-! ## Settings -/

/-- What a node is told by its attributes about the axes of its operand. -/
inductive Setting where
  | squeeze (axes : List Int)
  | slice (starts ends : List Int) (axes : Option (List Int))
  | pad (amounts : List Int)
  | shape (start : Option Int) (stop : Int)

/-- What becomes of one axis. -/
inductive AxisEffect where
  | kept
  | removed
  | sliced (start stop : Int)
  | padded (before after : Int)
deriving DecidableEq

namespace Setting

def opType : Setting → String
  | squeeze _ => "Squeeze"
  | slice .. => "Slice"
  | pad _ => "Pad"
  | shape .. => "Shape"

/-- The operator set from which on there are no such attributes. -/
def before : Setting → Option Int
  | squeeze _ => some 13
  | slice .. => some 10
  | pad _ => some 11
  | shape .. => none

/-- The attributes: what is stored under each key, `none` for one that is left out. -/
def attributes (opset : Int) : Setting → List (String × Option AttributeValue)
  | squeeze axes => [("axes", some (.ints axes))]
  | slice starts ends axes => [("starts", some (.ints starts)), ("ends", some (.ints ends)), ("axes", axes.map .ints)]
  | pad amounts => [(if opset < 2 then "paddings" else "pads", some (.ints amounts))]
  | shape start stop => [("start", start.map .int), ("end", some (.int stop))]

/-- The site has a node with the setting, over an operand of type `x` in a function that has its entry block. -/
structure Given (s : Setting) (x : TensorType) (site : Site) : Prop where
  entry : (site.function.block? .entry).isSome
  version : ∀ opset ∈ s.before, site.opset < opset
  typed : site.Typed 0 x
  stored : ∀ entry ∈ s.attributes site.opset, AttributeBag.find? site.node.attributes entry.1 = entry.2

/-- An axis as a parameter: counted from the front, once the rank is known. -/
def place (rank : Option Nat) (axis : Int) : Int := rank.elim axis (fromBack · axis)

/-- A bound on the axes as a parameter: within them, once the rank is known. -/
def bound (rank : Option Nat) (axis : Int) : Int := rank.elim axis fun n => clamp 0 n (fromBack n axis)

/-- The parameters that tell an instruction what the node was told. -/
def params (rank : Option Nat) : Setting → List (String × Param)
  | squeeze axes => [("axes", .ints (axes.map (place rank)))]
  | slice starts ends axes =>
    [("starts", .ints starts), ("ends", .ints ends)] ++
      (axes.map fun axes => ("axes", Param.ints (axes.map (place rank)))).toList
  | pad amounts => [("pads", .ints amounts)]
  | shape _ stop => [("end", .int (bound rank stop))]

/-- They are among the given ones. -/
def KeptIn (s : Setting) (rank : Option Nat) (ps : Params) : Prop :=
  ∀ entry ∈ s.params rank, ps.find? entry.1 = some entry.2

/-- The axes of a slice, counted from the front: the given ones, or the first ones. -/
def slicePlaces (rank bounds : Nat) (axes : Option (List Int)) : List Int :=
  axes.elim ((List.range bounds).map Int.ofNat) (List.map (fromBack rank))

/-- The bounds of a slice for one axis. -/
def sliceEffect (places starts ends : List Int) (i : Nat) : AxisEffect :=
  match (places.zip (starts.zip ends)).find? (·.1 == (i : Int)) with
  | some (_, start, stop) => .sliced start stop
  | none => .kept

/-- What the node does to the axis at place `i` of an operand of the given rank. A shape keeps the axes it lists. -/
def effect (rank : Nat) (s : Setting) (i : Nat) : AxisEffect :=
  match s with
  | squeeze axes => if (i : Int) ∈ axes.map (fromBack rank) then .removed else .kept
  | slice starts ends axes => sliceEffect (slicePlaces rank starts.length axes) starts ends i
  | pad amounts => .padded (amounts[i]?.getD 0) (amounts[i + rank]?.getD 0)
  | shape start stop => if fromBack rank (start.getD 0) ≤ i ∧ (i : Int) < fromBack rank stop then .kept else .removed

end Setting

/-! ## Normalized axes -/

theorem ite_error_eq_ok {α : Type} {c : Prop} [Decidable c] {e : ImportError} {y : Except ImportError α} {a : α} :
    (if c then .error e else y) = .ok a ↔ ¬c ∧ y = .ok a := by
  by_cases hc : c <;> simp [hc]

theorem axesParam_eq {key : String} {rank : Nat} {places : List Nat} {axes : List Int}
    (h : normalizeAxes key axes rank = .ok places) : axesParam places = .ints (axes.map (fromBack rank)) :=
  congrArg Param.ints (normalizeAxes_eq_ok_iff.1 h).1

/-! ## The parameters of an instruction -/

/-- The parameters of a slice with steps of one. -/
def sliceParams (rank : Nat) (starts ends : List Int) (axes : Option (List Int)) : Params :=
  .ofList [("starts", .ints starts), ("ends", .ints ends),
    ("axes", .ints (Setting.slicePlaces rank starts.length axes)),
    ("steps", .ints (List.replicate starts.length 1))]

/-- The parameters of a padding that do not depend on the amounts. -/
def padBase (mode : String) (value : Single) : Params := Params.insert "value" (.float value) [("mode", .string mode)]

def padParams (base : Params) (rank : Nat) (amounts : List Int) : Params :=
  (base.insert "pads" (.ints amounts)).insert "axes" (axesParam (List.range rank))

def shapeParams (rank : Nat) (start stop : Int) : Params :=
  .ofList [("start", .int (axisBound rank start)), ("end", .int (axisBound rank stop))]

/-- What the parameters are, by what is known of the rank. -/
def Setting.Becomes (rank : Option Nat) (ps : Params) : Setting → Prop
  | squeeze axes => ps = rank.elim [] fun n => [("axes", .ints (axes.map (fromBack n)))]
  | slice starts ends axes => ps = rank.elim [] fun n => sliceParams n starts ends axes
  | pad amounts => ∃ mode value, ps = rank.elim (padBase mode value) fun n => padParams (padBase mode value) n amounts
  | shape start stop => ps = rank.elim [("start", .int (start.getD 0))] fun n => shapeParams n (start.getD 0) stop

/-- One instruction with parameters that satisfy `P`, or a constant in place of the node. -/
inductive Lowering.Keeps (P : Params → Prop) : Lowering → Prop where
  | instruction {op : OpSpec} (h : P op.params) : Keeps P ⟨[], some (.instruction op)⟩
  | constant (name : String) (data : TensorData) : Keeps P ⟨[], some (.constant name data)⟩

namespace Operator
variable {x : TensorType} {site : Site}

theorem ends_emit {P : Params → Prop} {ps : Params} {types : List TensorType} (h : P ps) :
    Ends site (emit ps types) (Lowering.Keeps P) := .emit (.instruction h)

theorem squeezeDims_eq_ok {dims out : List Dim} {axes : List Int} {places : List Nat}
    (h : squeezeDims dims axes = .ok (places, out)) : normalizeAxes "axes" axes dims.length = .ok places := by
  cases hplaces : normalizeAxes "axes" axes dims.length with
  | error e =>
    simp only [squeezeDims, bind, Except.bind, hplaces] at h
    cases h
  | ok places' =>
    simp only [squeezeDims, bind, Except.bind, hplaces] at h
    split at h
    · cases h
    · cases h
      rfl

theorem ends_squeeze {axes : List Int} (g : (Setting.squeeze axes).Given x site) :
    Ends site squeeze (Lowering.Keeps fun ps => (Setting.squeeze axes).Becomes x.rank? ps) := by
  have hread : Runs site (intsByOpset "axes" 1 13) (some axes) :=
    .before (g.version 13 rfl) (.attr? (Site.stores_some (g.stored _ (.head _)) rfl))
  refine .runs .opset (.bind .checkInputs fun _ _ => .bind .checkOutputs fun _ _ => .runs .opset (.runs .hasAttr ?_))
  refine .runs .input? (.runs hread (.runs (.inputType g.typed) ?_))
  rw [TensorType.rank?]
  cases x.shape with
  | none => exact ends_emit rfl
  | some dims =>
    refine .bind .lift fun squeezed hsqueezed => ends_emit ?_
    rw [axesParam_eq (squeezeDims_eq_ok hsqueezed)]
    rfl

theorem sliceAll_params {dims out : List Dim} {starts ends : List Int} {axes : Option (List Int)} {ps : Params}
    (h : sliceAll dims starts ends axes none = .ok (ps, out)) : ps = sliceParams dims.length starts ends axes := by
  cases axes with
  | none =>
    simp only [sliceAll, bind, Except.bind, pure, Except.pure, Option.getD_none, ite_error_eq_ok, Except.ok.injEq,
      Prod.mk.injEq] at h
    obtain ⟨-, -, -, -, rfl, -⟩ := h
    rfl
  | some axes =>
    cases hplaces : normalizeAxes "axes" axes dims.length with
    | error e =>
      simp only [sliceAll, bind, Except.bind, hplaces, ite_error_eq_ok] at h
      cases h.2
    | ok places =>
      simp only [sliceAll, bind, Except.bind, pure, Except.pure, Option.getD_none, hplaces, ite_error_eq_ok,
        Except.ok.injEq, Prod.mk.injEq, axesParam_eq hplaces] at h
      obtain ⟨-, -, -, rfl, -⟩ := h
      rfl

/-- Before operator set 10 there is one input, so nothing about the bounds is left to run time. -/
theorem ends_slice {starts ends : List Int} {axes : Option (List Int)}
    (g : (Setting.slice starts ends axes).Given x site) :
    Ends site slice (Lowering.Keeps fun ps => (Setting.slice starts ends axes).Becomes x.rank? ps) := by
  refine .bind .checkOutputs fun _ _ => .bind (P := fun bounds => bounds = ⟨some starts, some ends, axes, none⟩ ∧
    site.operands.length ≤ 1) ?_ ?_
  · refine .runs .opset ?_
    rw [if_pos (g.version 10 rfl)]
    refine .bind .checkInputs fun _ hcount => ?_
    refine .runs (.attr (Site.stores_some (g.stored _ (.head _)) rfl)) ?_
    refine .runs (.attr (Site.stores_some (g.stored _ (.tail _ (.head _))) rfl)) ?_
    exact .runs (.attr? (Site.stores_ints (g.stored _ (.tail _ (.tail _ (.head _)))))) (.pure ⟨rfl, hcount.2 1 rfl⟩)
  · rintro _ ⟨rfl, hsingle⟩
    refine .runs .input? (.runs .input? (.runs (.inputType g.typed) ?_))
    rw [TensorType.rank?]
    cases x.shape with
    | none => exact ends_emit rfl
    | some dims =>
      rw [List.getElem?_eq_none (by omega), List.getElem?_eq_none (by omega)]
      simp only [Option.join_none, Option.isNone_none, Bool.or_true, Bool.and_true]
      exact .bind .lift fun sliced hsliced => ends_emit (sliceAll_params hsliced)

theorem padAll_axes {dims out : List Dim} {amounts : List Int} {places : List Nat}
    (h : padAll dims amounts none = .ok (places, out)) : places = List.range dims.length := by
  simp only [padAll, bind, Except.bind, ite_error_eq_ok] at h
  obtain ⟨-, h⟩ := h
  split at h
  · cases h
  · cases h
    rfl

theorem ends_pad {amounts : List Int} (g : (Setting.pad amounts).Given x site) :
    Ends site pad (Lowering.Keeps fun ps => (Setting.pad amounts).Becomes x.rank? ps) := by
  refine .bind .checkOutputs fun _ _ => .bind .attrOr fun mode _ => .guard fun _ => ?_
  refine .bind (P := fun read => (∃ value, read = (some amounts, none, padBase mode value)) ∧
    site.operands.length ≤ 1) ?_ ?_
  · refine .runs .opset ?_
    rw [if_pos (g.version 11 rfl)]
    refine .bind .checkInputs fun _ hcount => .runs .opset ?_
    refine .runs (.attr (Site.stores_some (g.stored _ (.head _)) rfl)) (.bind .attrOr fun value _ => ?_)
    exact .pure ⟨⟨value, rfl⟩, hcount.2 1 rfl⟩
  · rintro _ ⟨⟨value, rfl⟩, hsingle⟩
    refine .runs .input? (.runs (.inputType g.typed) ?_)
    rw [TensorType.rank?]
    cases x.shape with
    | none => exact ends_emit ⟨mode, value, rfl⟩
    | some dims =>
      rw [List.getElem?_eq_none (by omega)]
      simp only [Option.join_none, Option.isNone_none, Bool.or_true]
      refine .bind .lift fun padded hpadded => ends_emit ⟨mode, value, ?_⟩
      rw [padAll_axes hpadded]
      rfl

theorem ends_shape {start : Option Int} {stop : Int} (g : (Setting.shape start stop).Given x site) :
    Ends site shapeOf (Lowering.Keeps fun ps => (Setting.shape start stop).Becomes x.rank? ps) := by
  have hstart : site.Stores .int "start" start := by
    have hstored := g.stored _ (.head _)
    cases start with
    | none => exact Site.stores_none _ hstored
    | some start => exact Site.stores_some hstored rfl
  refine .bind (.bind .checkInputs fun _ _ => .checkOutputs) fun _ _ => .runs (.attrOr hstart) ?_
  refine .runs (.attr? (Site.stores_some (g.stored _ (.tail _ (.head _))) rfl)) (.runs (.inputType g.typed) ?_)
  rw [TensorType.rank?]
  cases x.shape with
  | none => exact ends_emit rfl
  | some dims =>
    dsimp only
    split
    · exact .of_lowers .fold (.constant _ _)
    · exact ends_emit rfl

end Operator

namespace Setting
variable {s s' : Setting} {x : TensorType} {site : Site}

/-- The converter of each operator, and what it makes of a setting. -/
theorem Given.converter (g : s.Given x site) : ∃ lower, Registry.builtin.find? s.opType = some (.of lower) ∧
    Ends site lower (Lowering.Keeps fun ps => s.Becomes x.rank? ps) := by
  cases s with
  | squeeze => exact ⟨_, rfl, ends_squeeze g⟩
  | slice => exact ⟨_, rfl, ends_slice g⟩
  | pad => exact ⟨_, rfl, ends_pad g⟩
  | shape => exact ⟨_, rfl, ends_shape g⟩

theorem Given.becomes (g : s.Given x site) {converter : Converter}
    (hfind : Registry.builtin.find? s.opType = some converter) {op : OpSpec} (hemits : converter.Emits site op) :
    s.Becomes x.rank? op.params := by
  obtain ⟨lower, hlower, hends⟩ := g.converter
  cases hlower.symm.trans hfind
  obtain ⟨blk, hentry⟩ := Option.isSome_iff_exists.1 g.entry
  rcases Ends.cases (.of lower) hends with ⟨e, hrefuses⟩ | ⟨l, hkeeps, hlowers⟩
  · exact (hrefuses.not_lowers hemits).elim
  · cases hkeeps with
    | instruction h => exact hemits.params_eq hentry hlowers ▸ h
    | constant name data => exact (hemits.not_folds hlowers).elim

/-! ## Reading the parameters -/

theorem sliceParams_starts (rank : Nat) (starts ends : List Int) (axes : Option (List Int)) :
    (sliceParams rank starts ends axes).find? "starts" = some (.ints starts) := by
  simp [sliceParams, Params.ofList, Params.find?_insert]

theorem sliceParams_ends (rank : Nat) (starts ends : List Int) (axes : Option (List Int)) :
    (sliceParams rank starts ends axes).find? "ends" = some (.ints ends) := by
  simp [sliceParams, Params.ofList, Params.find?_insert]

theorem sliceParams_axes (rank : Nat) (starts ends : List Int) (axes : Option (List Int)) :
    (sliceParams rank starts ends axes).find? "axes" = some (.ints (slicePlaces rank starts.length axes)) := by
  simp [sliceParams, Params.ofList, Params.find?_insert]

theorem padParams_pads (base : Params) (rank : Nat) (amounts : List Int) :
    (padParams base rank amounts).find? "pads" = some (.ints amounts) := by
  simp [padParams, Params.find?_insert]

theorem shapeParams_start (rank : Nat) (start stop : Int) :
    (shapeParams rank start stop).find? "start" = some (.int (axisBound rank start)) := by
  simp [shapeParams, Params.ofList, Params.find?_insert]

theorem shapeParams_end (rank : Nat) (start stop : Int) :
    (shapeParams rank start stop).find? "end" = some (.int (axisBound rank stop)) := by
  simp [shapeParams, Params.ofList, Params.find?_insert]

theorem axisBound_eq (rank : Nat) (axis : Int) : (axisBound rank axis : Int) = bound (some rank) axis :=
  Int.toNat_of_nonneg (Int.le_max_left _ _)

/-- Without the rank, nothing of the setting is there. -/
theorem not_keptIn_none {ps : Params} (h : s.Becomes none ps) : ¬s.KeptIn none ps := by
  intro hkept
  cases s with
  | squeeze axes =>
    have hfind := hkept _ (.head _)
    rw [show ps = [] from h] at hfind
    cases hfind
  | slice starts ends axes =>
    have hfind := hkept ("starts", .ints starts) (.head _)
    rw [show ps = [] from h] at hfind
    cases hfind
  | pad amounts =>
    obtain ⟨mode, value, hps⟩ := h
    have hfind : ps.find? "pads" = _ := hkept _ (.head _)
    rw [show ps = padBase mode value from hps, padBase, Params.find?_insert_of_ne (by decide)] at hfind
    simp [Params.find?] at hfind
  | shape start stop =>
    have hfind := hkept _ (.head _)
    rw [show ps = [("start", .int (start.getD 0))] from h] at hfind
    simp [Params.find?] at hfind

theorem keptIn_some {rank : Nat} {ps : Params} (h : s.Becomes (some rank) ps) : s.KeptIn (some rank) ps := by
  unfold KeptIn
  cases s with
  | squeeze axes =>
    rw [show ps = _ from h]
    simp [params, Params.find?, place]
  | slice starts ends axes =>
    rw [show ps = sliceParams rank starts ends axes from h]
    cases axes with
    | none => simp [params, sliceParams_starts, sliceParams_ends]
    | some axes =>
      simp [params, sliceParams_starts, sliceParams_ends, sliceParams_axes, slicePlaces, place]
  | pad amounts =>
    obtain ⟨mode, value, hps⟩ := h
    rw [show ps = padParams (padBase mode value) rank amounts from hps]
    simp [params, padParams_pads]
  | shape start stop =>
    rw [show ps = shapeParams rank (start.getD 0) stop from h]
    simp [params, shapeParams_end, axisBound_eq]

/-- The parameters tell what is done to each axis. -/
theorem effect_eq {rank : Nat} {ps : Params} (hkind : s.opType = s'.opType) (h : s.Becomes (some rank) ps)
    (h' : s'.Becomes (some rank) ps) {i : Nat} (hi : i < rank) : s.effect rank i = s'.effect rank i := by
  cases s with
  | squeeze axes =>
    cases s' with
    | squeeze axes' =>
      have hplaces : axes.map (fromBack rank) = axes'.map (fromBack rank) := by
        simpa [Becomes] using h.symm.trans h'
      simp only [effect, hplaces]
    | _ => simp [opType] at hkind
  | slice starts ends axes =>
    cases s' with
    | slice starts' ends' axes' =>
      have hps : sliceParams rank starts ends axes = sliceParams rank starts' ends' axes' := h.symm.trans h'
      have hstarts := congrArg (Params.find? · "starts") hps
      have hends := congrArg (Params.find? · "ends") hps
      have hplaces := congrArg (Params.find? · "axes") hps
      simp only [sliceParams_starts, sliceParams_ends, sliceParams_axes, Option.some.injEq, Param.ints.injEq]
        at hstarts hends hplaces
      subst hstarts hends
      simp only [effect, hplaces]
    | _ => simp [opType] at hkind
  | pad amounts =>
    cases s' with
    | pad amounts' =>
      obtain ⟨mode, value, hps⟩ := h
      obtain ⟨mode', value', hps'⟩ := h'
      have hamounts := congrArg (Params.find? · "pads") (hps.symm.trans hps')
      simp only [Option.elim_some, padParams_pads, Option.some.injEq, Param.ints.injEq] at hamounts
      simp only [effect, hamounts]
    | _ => simp [opType] at hkind
  | shape start stop =>
    cases s' with
    | shape start' stop' =>
      have hps : shapeParams rank (start.getD 0) stop = shapeParams rank (start'.getD 0) stop' := h.symm.trans h'
      have hstart := congrArg (Params.find? · "start") hps
      have hstop := congrArg (Params.find? · "end") hps
      simp only [shapeParams_start, shapeParams_end, Option.some.injEq, Param.int.injEq, Int.ofNat_inj] at hstart hstop
      have hlist := axisBound_le_iff hi
      simp only [effect, ← hlist, ← Int.not_le, hstart, hstop]
    | _ => simp [opType] at hkind

end Setting

/-- A node that becomes an instruction keeps its setting in the parameters if the rank of its operand is known, and only
then. With the rank known, two nodes of one kind with the same parameters do the same to each axis. -/
theorem configuration_kept_iff_ranked {s : Setting} {x : TensorType} {site : Site} (g : s.Given x site)
    {converter : Converter} (hfind : Registry.builtin.find? s.opType = some converter) {op : OpSpec}
    (hemits : converter.Emits site op) :
    (s.KeptIn x.rank? op.params ↔ x.rank?.isSome) ∧
      ∀ (s' : Setting) (site' : Site) (op' : OpSpec), s'.opType = s.opType → s'.Given x site' →
        converter.Emits site' op' → op'.params = op.params →
        ∀ rank, x.rank? = some rank → ∀ i, i < rank → s'.effect rank i = s.effect rank i := by
  have hbecomes := g.becomes hfind hemits
  constructor
  · cases hrank : x.rank? with
    | none =>
      rw [hrank] at hbecomes
      exact iff_of_false (Setting.not_keptIn_none hbecomes) (by simp)
    | some rank =>
      rw [hrank] at hbecomes
      exact iff_of_true (Setting.keptIn_some hbecomes) rfl
  · intro s' site' op' hkind g' hemits' hparams rank hrank i hi
    have hbecomes' := g'.becomes (hkind ▸ hfind) hemits'
    rw [hrank, hparams] at hbecomes'
    rw [hrank] at hbecomes
    exact Setting.effect_eq hkind hbecomes' hbecomes hi

/-- A node that removes the axes it lists, over an operand of the given type. -/
def squeezeSite (type : TensorType) (axes : List Int) : Site where
  node :=
    { name := "squeezed"
      opType := "Squeeze"
      domain := ""
      inputs := ["x"]
      outputs := ["y"]
      attributes := [("axes", .ints axes)] }
  operands := [some ⟨0⟩]
  function := ((Builder.new "main").createPlaceholder "x" type).2.function
  opset := 11

theorem squeezeSite_given (type : TensorType) (axes : List Int) :
    (Setting.squeeze axes).Given type (squeezeSite type axes) where
  entry := rfl
  version := by
    rintro _ ⟨⟩
    exact (by decide : (11 : Int) < 13)
  typed := ⟨⟨0⟩, rfl, rfl⟩
  stored := by simp [Setting.attributes, squeezeSite, AttributeBag.find?]

theorem squeezeSite_unranked (axes : List Int) : (Converter.of squeeze).Emits (squeezeSite (.unranked .f32) axes)
    ⟨"Squeeze", "squeezed", [some ⟨0⟩], [], ["y"], [.unranked .f32]⟩ := ⟨_, fun _ => rfl⟩

/-- The last axis is listed as the second one. -/
theorem ranked_squeeze_kept :
    let x := TensorType.ranked .f32 [.dynamic (some "n"), .static 1]
    (Setting.squeeze [-1]).Given x (squeezeSite x [-1]) ∧
      Registry.builtin.find? "Squeeze" = some (.of squeeze) ∧
      ∃ op, (Converter.of squeeze).Emits (squeezeSite x [-1]) op ∧ op.params = [("axes", .ints [1])] ∧
        (Setting.squeeze [-1]).KeptIn (some 2) op.params := by
  intro x
  have hgiven := squeezeSite_given x [-1]
  have hfind : Registry.builtin.find? "Squeeze" = some (.of squeeze) := rfl
  have hemits : (Converter.of squeeze).Emits (squeezeSite x [-1]) ⟨"Squeeze", "squeezed", [some ⟨0⟩],
    [("axes", .ints [1])], ["y"], [.ranked .f32 [.dynamic (some "n")]]⟩ := ⟨_, fun _ => rfl⟩
  exact ⟨hgiven, hfind, _, hemits, rfl, (configuration_kept_iff_ranked hgiven hfind hemits).1.2 rfl⟩

/-- Without the rank, removing the first axis and removing the second are the same instruction. -/
theorem unranked_squeezes_coincide :
    (Setting.squeeze [0]).Given (.unranked .f32) (squeezeSite (.unranked .f32) [0]) ∧
      (Setting.squeeze [1]).Given (.unranked .f32) (squeezeSite (.unranked .f32) [1]) ∧
      (∀ rank, 2 ≤ rank → (Setting.squeeze [0]).effect rank 0 ≠ (Setting.squeeze [1]).effect rank 0) ∧
      ∃ op, (Converter.of squeeze).Emits (squeezeSite (.unranked .f32) [0]) op ∧
        (Converter.of squeeze).Emits (squeezeSite (.unranked .f32) [1]) op := by
  refine ⟨squeezeSite_given _ _, squeezeSite_given _ _, ?_, _, squeezeSite_unranked _, squeezeSite_unranked _⟩
  intro rank _
  simp [Setting.effect, fromBack]

end ModelImport
