import ModelImport.Proofs.ConverterRuns
/-!
# Attributes that became inputs

Several operators take integers that tell them what to do: the target of a reshape, the bounds of a slice, the axes of a
reduction. Older operator sets have them as attributes, newer ones as inputs, which may be constants. For a constant the
two forms come to the same (`attribute_and_input_forms_agree`), whatever is known of the operand: the same failure, or
instructions with the same result types and parameters. There is one exception. Padding has a fill value, and only the
attribute form looks at the attribute for it: if it gets that far and finds something else than a float, it is refused
for that, whatever the input form comes to.

What an operator makes of its configuration does not depend on where it was read, so the proof for an operator has two
parts: both forms read the same, and from there on the text is the same.
-/

namespace ModelImport

open LookM ConverterM Operator

/-- One instruction each, of the same kind and with the same result types and parameters, apart from those of the given
keys. -/
def Lowering.Alike (apart : List String) (l l' : Lowering) : Prop :=
  ∃ op op' : OpSpec, l = ⟨[], some (.instruction op)⟩ ∧ l' = ⟨[], some (.instruction op')⟩ ∧ op.opType = op'.opType ∧
    op.resultTypes = op'.resultTypes ∧ ∀ key, key ∉ apart → op.params.find? key = op'.params.find? key

/-! ## Configurations -/

/-- The integers that an operator is told what to do with; what may be left out is an option. -/
inductive Configuration where
  | reshape (shape : List Int)
  | topK (count : Int)
  | slice (starts ends : List Int) (axes : Option (List Int))
  | pad (amounts : List Int)
  | squeeze (axes : Option (List Int))
  | unsqueeze (axes : List Int)
  | split (sizes : Option (List Int))
  | reduce (kind : String) (known : kind ∈ Operator.reductionNames) (axes : Option (List Int))

namespace Configuration

def opType : Configuration → String
  | reshape _ => "Reshape"
  | topK _ => "TopK"
  | slice .. => "Slice"
  | pad _ => "Pad"
  | squeeze _ => "Squeeze"
  | unsqueeze _ => "Unsqueeze"
  | split _ => "Split"
  | reduce kind _ _ => kind

/-- The first operator set in which the configuration is an input. -/
def inputSince : Configuration → Int
  | reshape _ => 5
  | topK _ | slice .. => 10
  | pad _ => 11
  | squeeze _ | unsqueeze _ | split _ => 13
  | reduce kind _ _ => if kind = "ReduceSum" then 13 else 18

/-- The first operator set in which the attributes have their present names, if they ever had others. -/
def namedSince : Configuration → Option Int
  | pad _ => some 2
  | _ => none

/-- The attributes: what is stored under each key, `none` for one that is left out. -/
def attributes : Configuration → List (String × Option AttributeValue)
  | reshape shape => [("shape", some (.ints shape))]
  | topK count => [("k", some (.int count))]
  | slice starts ends axes => [("starts", some (.ints starts)), ("ends", some (.ints ends)), ("axes", axes.map .ints)]
  | pad amounts => [("pads", some (.ints amounts))]
  | squeeze axes => [("axes", axes.map .ints)]
  | unsqueeze axes => [("axes", some (.ints axes))]
  | split sizes => [("split", sizes.map .ints)]
  | reduce _ _ axes => [("axes", axes.map .ints)]

/-- The inputs, by their place. A slice has no steps and a padding no axes; the fill value of a padding is free. -/
def inputs : Configuration → List (Nat × Option (List Int))
  | reshape shape => [(1, some shape)]
  | topK count => [(1, some [count])]
  | slice starts ends axes => [(1, some starts), (2, some ends), (3, axes), (4, none)]
  | pad amounts => [(1, some amounts), (3, none)]
  | squeeze axes => [(1, axes)]
  | unsqueeze axes => [(1, some axes)]
  | split sizes => [(1, sizes)]
  | reduce _ _ axes => [(1, axes)]

/-- The number of inputs there can be. -/
def mostInputs : Configuration → Nat
  | slice .. => 5
  | pad _ => 4
  | _ => 2

/-- The parameters that are not configuration: the fill value of a padding is an attribute in one form and an input in
the other. -/
def apart : Configuration → List String
  | pad _ => ["value"]
  | _ => []

/-- The site has a node with the configuration as attributes, over an operand of type `x`. -/
structure AttributeForm (c : Configuration) (x : TensorType) (site : Site) : Prop where
  opType : site.node.opType = c.opType
  before : site.opset < c.inputSince
  named : ∀ first ∈ c.namedSince, first ≤ site.opset
  single : site.operands.length = 1
  typed : site.Typed 0 x
  stored : ∀ entry ∈ c.attributes, AttributeBag.find? site.node.attributes entry.1 = entry.2

/-- The site has a node with the configuration as constant inputs, after an operand of type `x`. -/
structure InputForm (c : Configuration) (x : TensorType) (site : Site) : Prop where
  opType : site.node.opType = c.opType
  since : c.inputSince ≤ site.opset
  count : site.operands.length ≤ c.mostInputs
  typed : site.Typed 0 x
  supplied : ∀ entry ∈ c.inputs, site.Supplies entry.1 entry.2

/-- The keys of the attributes. -/
def keys (c : Configuration) : List String := c.attributes.map (·.1)

/-- The two forms of one node: the configuration as attributes and as inputs, with the same outputs and the same other
attributes. -/
structure Forms (c : Configuration) (x : TensorType) (site site' : Site) : Prop where
  old : c.AttributeForm x site
  new : c.InputForm x site'
  outputs : site.node.outputs = site'.node.outputs
  others : ∀ key, key ∉ c.keys →
    AttributeBag.find? site.node.attributes key = AttributeBag.find? site'.node.attributes key

/-- A padding told by attributes gets as far as its fill value, and what is stored there is of another kind than a
float. -/
structure StopsAtFill (c : Configuration) (site : Site) (found : AttributeKind) : Prop where
  padding : c.opType = "Pad"
  outputs : site.node.outputs.length = 1
  mode : ∃ mode, site.Stores .string "mode" mode ∧ padModes.contains (mode.getD "constant") = true
  stored : ∃ value, AttributeBag.find? site.node.attributes "value" = some value ∧ value.kind = found
  illTyped : found ≠ .float

end Configuration

/-- The fill value of the input form: the first element of a constant. -/
def Site.suppliedFill (site : Site) : Option Single :=
  (((site.operands[2]?).join.bind site.function.constant?).bind fun t => t.doubles.head?).map Double.toSingle

/-! ## Rules for twins -/

namespace ConverterM.Meets
variable {x : TensorType} {site site' : Site}

theorem emitOp {apart : List String} {opType : String} {operands operands' : List (Option ValueId)}
    {params params' : Params} {types : List TensorType}
    (h : ∀ key, key ∉ apart → params.find? key = params'.find? key) :
    Meets site site' (Lowering.Alike apart) (emitOp opType operands params types)
      (emitOp opType operands' params' types) :=
  .of_lowers .emitOp .emitOp ⟨_, _, rfl, rfl, rfl, rfl, h⟩

theorem emit (t : Site.Twins x site site') {apart : List String} {params params' : Params} {types : List TensorType}
    (h : ∀ key, key ∉ apart → params.find? key = params'.find? key) :
    Meets site site' (Lowering.Alike apart) (emit params types) (emit params' types) :=
  .of_lowers .emit .emit ⟨_, _, rfl, rfl, t.opType, rfl, h⟩

/-- The same parameters. -/
theorem emit_same (t : Site.Twins x site site') {apart : List String} {params : Params} {types : List TensorType} :
    Meets site site' (Lowering.Alike apart) (ConverterM.emit params types) (ConverterM.emit params types) :=
  .emit t fun _ _ => rfl

end ConverterM.Meets

/-! ## The two forms -/

theorem Configuration.InputForm.of_differs {c : Configuration} {x : TensorType} {site site' : Site} {key : String}
    (f : c.InputForm x site) (h : site.DiffersOnlyIn key site') : c.InputForm x site' where
  opType := (h.twins f.typed).opType ▸ f.opType
  since := h.opset ▸ f.since
  count := h.operands ▸ f.count
  typed := h.typed f.typed
  supplied := by
    rw [h.rest]
    exact f.supplied

namespace Configuration.Forms
variable {c : Configuration} {x : TensorType} {site site' : Site}

theorem twins (f : c.Forms x site site') : Site.Twins x site site' :=
  ⟨f.old.opType.trans f.new.opType.symm, f.outputs, f.old.typed, f.new.typed⟩

/-- Reads of other attributes answer the same. -/
theorem value_eq (f : c.Forms x site site') {key : String} (h : c.keys.contains key = false) {k : AttributeKind} :
    site.value k key = site'.value k key :=
  Site.value_congr (f.others key (by simpa using h)) k

/-- The first input is there. -/
theorem present (f : c.Forms x site site') : 1 ≤ site'.operands.length := by
  obtain ⟨v, hv, _⟩ := f.new.typed
  exact (List.getElem?_eq_some_iff.1 hv).1

/-- No input but the first is there in the attribute form. -/
theorem omitted (f : c.Forms x site site') {index : Nat} (h : 1 ≤ index) : (site.operands[index]?).join = none := by
  rw [List.getElem?_eq_none (by rw [f.old.single]; exact h)]
  rfl

theorem checkInputs_old (f : c.Forms x site site') {most : Nat} (h : 1 ≤ most) :
    Runs site (checkInputs 1 (some most)) () := by
  refine .checkInputs (Nat.le_of_eq f.old.single.symm) ?_
  rintro _ ⟨⟩
  rwa [f.old.single]

theorem checkInputs_new (f : c.Forms x site site') {least : Nat} (h : least ≤ site'.operands.length) :
    Runs site' (checkInputs least (some c.mostInputs)) () := by
  refine .checkInputs h ?_
  rintro _ ⟨⟩
  exact f.new.count

/-- A list of integers in the attribute form. -/
theorem stores_ints (f : c.Forms x site site') {key : String} {list : Option (List Int)}
    (h : (key, list.map .ints) ∈ c.attributes) : site.Stores .ints key list := Site.stores_ints (f.old.stored _ h)

/-- An input of the input form that is there. -/
theorem supplied_some (f : c.Forms x site site') {index : Nat} {list : List Int} (h : (index, some list) ∈ c.inputs) :
    ∃ v, site'.operands[index]? = some (some v) ∧ index < site'.operands.length := by
  obtain ⟨v, _, hv, _⟩ := f.new.supplied _ h
  exact ⟨v, hv, (List.getElem?_eq_some_iff.1 hv).1⟩

/-- A list that may be left out is read from where it is. -/
theorem intsByOpset (f : c.Forms x site site') (key : String) (index : Nat) {list : Option (List Int)}
    (hkey : (key, list.map .ints) ∈ c.attributes) (hindex : (index, list) ∈ c.inputs) :
    Runs site (Operator.intsByOpset key index c.inputSince) list ∧
      Runs site' (Operator.intsByOpset key index c.inputSince) list := by
  constructor
  · exact .before f.old.before (.attr? (f.stores_ints hkey))
  · exact .since f.new.since (.constantInts? (f.new.supplied _ hindex))

/-- So is a list that must be given. -/
theorem requiredInts (f : c.Forms x site site') (key : String) {list : List Int}
    (hkey : (key, some (.ints list)) ∈ c.attributes) (hindex : (1, some list) ∈ c.inputs) (hmost : c.mostInputs = 2) :
    Runs site (Operator.requiredInts key c.inputSince) (some list) ∧
      Runs site' (Operator.requiredInts key c.inputSince) (some list) := by
  constructor
  · refine .before f.old.before (.bind (f.checkInputs_old (Nat.le_refl 1)) ?_)
    exact .bind (.attr (f.stores_ints hkey)) .pure
  · obtain ⟨v, hv, hlength⟩ := f.supplied_some hindex
    refine .since f.new.since (.bind (hmost ▸ f.checkInputs_new hlength) ?_)
    exact .bind (.input hv) (.constantInts? (f.new.supplied _ hindex))

end Configuration.Forms

/-! ## The operators -/

namespace Operator

section Forms
variable {x : TensorType} {site site' : Site}

theorem meets_reshape {shape : List Int} (f : (Configuration.reshape shape).Forms x site site') :
    Meets site site' (Lowering.Alike []) reshape reshape := by
  obtain ⟨hread, hread'⟩ := f.requiredInts "shape" (.head _) (.head _) rfl
  refine .step (.checkOutputs f.twins) fun _ => .step (.flag (f.value_eq rfl)) fun allowZero => ?_
  exact .runs hread hread' (.inputType f.twins (.step .lift fun _ => .emit_same f.twins))

theorem meets_unsqueeze {axes : List Int} (f : (Configuration.unsqueeze axes).Forms x site site') :
    Meets site site' (Lowering.Alike []) unsqueeze unsqueeze := by
  obtain ⟨hread, hread'⟩ := f.requiredInts "axes" (.head _) (.head _) rfl
  refine .step (.checkOutputs f.twins) fun _ => .runs hread hread' (.inputType f.twins ?_)
  cases x.shape with
  | none => exact .emit_same f.twins
  | some dims => exact .step .lift fun _ => .emit_same f.twins

/-- A check for one input before an operator set, and for one more from then on. -/
theorem checkInputs_by_opset {c : Configuration} (f : c.Forms x site site') (h : c.mostInputs = 2) :
    Runs site (checkInputs 1 (some (if site.opset < c.inputSince then 1 else 2))) () ∧
      Runs site' (checkInputs 1 (some (if site'.opset < c.inputSince then 1 else 2))) () := by
  rw [if_pos f.old.before, if_neg (Int.not_lt.2 f.new.since)]
  exact ⟨f.checkInputs_old (Nat.le_refl 1), h ▸ f.checkInputs_new f.present⟩

/-- Whether axes are given is seen from the attribute in one form and from the input in the other. -/
theorem meets_squeeze {axes : Option (List Int)} (f : (Configuration.squeeze axes).Forms x site site') :
    Meets site site' (Lowering.Alike []) squeeze squeeze := by
  obtain ⟨hcheck, hcheck'⟩ := checkInputs_by_opset f rfl
  obtain ⟨hread, hread'⟩ := f.intsByOpset "axes" 1 (.head _) (.head _)
  refine .runs .opset .opset (.runs hcheck hcheck' (.step (.checkOutputs f.twins) fun _ => ?_))
  refine .runs .opset .opset (.runs .hasAttr .hasAttr (.runs .input? .input? (.runs hread hread' (.inputType f.twins ?_))))
  cases x.shape with
  | none => cases axes <;> exact .emit_same f.twins
  | some dims =>
    cases axes with
    | some axes => exact .step .lift fun _ => .emit_same f.twins
    | none =>
      have hgiven : AttributeBag.contains site.node.attributes "axes" = false := by
        rw [AttributeBag.contains, f.old.stored ("axes", none) (.head _)]
        rfl
      have hinput' : (site'.operands[1]?).join = none := f.new.supplied (1, none) (.head _)
      have hopset' : ¬site'.opset < 13 := Int.not_lt.2 f.new.since
      simp only [hgiven, f.omitted (Nat.le_refl 1), hinput', decide_eq_false hopset', Bool.and_false, Bool.false_and,
        Option.isSome_none, Bool.or_false]
      exact .ite (.emit_same f.twins) (.emit_same f.twins)

theorem meets_split {sizes : Option (List Int)} (f : (Configuration.split sizes).Forms x site site') :
    Meets site site' (Lowering.Alike []) split split := by
  obtain ⟨hcheck, hcheck'⟩ := checkInputs_by_opset f rfl
  obtain ⟨hread, hread'⟩ := f.intsByOpset "split" 1 (.head _) (.head _)
  refine .runs .opset .opset (.runs hcheck hcheck' (.step (.checkOutputs f.twins) fun _ => ?_))
  refine .step (.attrOr (f.value_eq rfl)) fun axis => .step (.attr? (f.value_eq rfl)) fun declared => ?_
  refine .runs hread hread' (.runs .read .read ?_)
  rw [f.outputs]
  cases declared
  case' some n => refine .guard fun _ => ?_
  all_goals
    cases sizes
    case' some l => refine .guard fun _ => ?_
    all_goals
      refine .inputType f.twins ?_
      cases x.shape with
      | none => exact .emit_same f.twins
      | some dims => exact .step .lift fun _ => .emit_same f.twins

/-! ### Slices and pads -/

theorem runs_readSliceBounds {starts ends : List Int} {axes : Option (List Int)}
    (f : (Configuration.slice starts ends axes).Forms x site site') :
    Runs site readSliceBounds ⟨some starts, some ends, axes, none⟩ ∧
      Runs site' readSliceBounds ⟨some starts, some ends, axes, none⟩ := by
  constructor
  · refine .before f.old.before (.bind (f.checkInputs_old (Nat.le_refl 1)) ?_)
    refine .bind (.attr (f.stores_ints (.head _))) (.bind (.attr (f.stores_ints (.tail _ (.head _)))) ?_)
    exact .bind (.attr? (f.stores_ints (.tail _ (.tail _ (.head _))))) .pure
  · obtain ⟨v, hv, _⟩ := f.supplied_some (.head _)
    obtain ⟨w, hw, hlength⟩ := f.supplied_some (.tail _ (.head _))
    refine .since f.new.since (.bind (f.checkInputs_new hlength) (.bind (.input hv) (.bind (.input hw) ?_)))
    refine .bind (.constantInts? (f.new.supplied _ (.head _))) ?_
    refine .bind (.constantInts? (f.new.supplied _ (.tail _ (.head _)))) ?_
    refine .bind (.constantInts? (f.new.supplied _ (.tail _ (.tail _ (.head _))))) ?_
    exact .bind (.constantInts? (f.new.supplied _ (.tail _ (.tail _ (.tail _ (.head _)))))) .pure

/-- Axes that are an input are constant, so they are known in both forms. -/
theorem meets_slice {starts ends : List Int} {axes : Option (List Int)}
    (f : (Configuration.slice starts ends axes).Forms x site site') :
    Meets site site' (Lowering.Alike []) slice slice := by
  obtain ⟨hread, hread'⟩ := runs_readSliceBounds f
  refine .step (.checkOutputs f.twins) fun _ => .runs hread hread' (.runs .input? .input? (.runs .input? .input? ?_))
  have haxes : (axes.isSome || (site'.operands[3]?).join.isNone) = true := by
    cases axes with
    | some _ => rfl
    | none =>
      rw [show (site'.operands[3]?).join = none from f.new.supplied (3, none) (.tail _ (.tail _ (.head _)))]
      rfl
  have hsteps : (site'.operands[4]?).join = none := f.new.supplied _ (.tail _ (.tail _ (.tail _ (.head _))))
  refine .inputType f.twins ?_
  cases x.shape with
  | none => exact .emit_same f.twins
  | some dims =>
    simp only [f.omitted (by decide : 1 ≤ 3), f.omitted (by decide : 1 ≤ 4), haxes, hsteps, Option.isNone_none,
      Bool.or_true, Bool.and_true]
    exact .step .lift fun _ => .emit_same f.twins

/-- The attribute form reads the fill value as well. -/
theorem runs_readPads_old {amounts : List Int} (f : (Configuration.pad amounts).Forms x site site') (params : Params)
    {value : Option Single} (h : site.Stores .float "value" value) :
    Runs site (readPads params) (some amounts, none, params.insert "value" (.float (value.getD ⟨0⟩))) := by
  refine .before f.old.before (.bind (f.checkInputs_old (Nat.le_refl 1)) (.bind .opset ?_))
  rw [if_neg (Int.not_lt.2 (f.old.named 2 rfl))]
  exact .bind (.attr (f.stores_ints (.head _))) (.bind (.attrOr h) .pure)

theorem fails_readPads_old {amounts : List Int} (f : (Configuration.pad amounts).Forms x site site') (params : Params)
    {e : ImportError} (h : site.value .float "value" = .error e) : Fails site (readPads params) e := by
  refine .before f.old.before ((f.checkInputs_old (Nat.le_refl 1)).fails (Runs.opset.fails ?_))
  rw [if_neg (Int.not_lt.2 (f.old.named 2 rfl))]
  exact (Runs.attr (f.stores_ints (.head _))).fails (Fails.bind (.attrOr h) _)

theorem runs_readPads_new {amounts : List Int} (f : (Configuration.pad amounts).InputForm x site') (params : Params) :
    Runs site' (readPads params) (some amounts, none, params.insert? "value" (site'.suppliedFill.map .float)) := by
  obtain ⟨v, data, hv, -⟩ := f.supplied (1, some amounts) (.head _)
  have hinputs : Runs site' (checkInputs 2 (some 4)) () := by
    refine .checkInputs (List.getElem?_eq_some_iff.1 hv).1 ?_
    rintro _ ⟨⟩
    exact f.count
  refine .since f.since (.bind hinputs (.bind (.input hv) (.bind .constantDouble? ?_)))
  refine .bind (.constantInts? (f.supplied _ (.head _))) ?_
  refine .bind (.constantInts? (f.supplied _ (.tail _ (.head _)))) ?_
  rw [Site.suppliedFill, Option.map_map]
  exact .pure

/-- Two paddings that read the same, but for some of the parameters. What they read has to be known only if nothing fails
before. -/
theorem meets_pad_of (amounts : List Int) {apart : List String} (t : Site.Twins x site site')
    (hmode : site.value .string "mode" = site'.value .string "mode") (haxes : (site.operands[3]?).join = none)
    (haxes' : (site'.operands[3]?).join = none)
    (hread : ∀ mode, site.node.outputs.length = 1 → site.Stores .string "mode" mode →
      padModes.contains (mode.getD "constant") = true → ∃ params params',
        Runs site (readPads [("mode", .string (mode.getD "constant"))]) (some amounts, none, params) ∧
        Runs site' (readPads [("mode", .string (mode.getD "constant"))]) (some amounts, none, params') ∧
        ∀ key, key ∉ apart → params.find? key = params'.find? key) :
    Meets site site' (Lowering.Alike apart) pad pad := by
  refine .bind (.yields (.checkOutputs t) .checkOutputs) ?_
  rintro _ _ ⟨-, hleast, hmost⟩
  refine .bind (.yields (.attrOr hmode) .attrOr) ?_
  rintro _ _ ⟨rfl, mode, hstored, rfl⟩
  refine .guard fun hknown => ?_
  obtain ⟨params, params', hrun, hrun', hsame⟩ :=
    hread mode (Nat.le_antisymm (hmost 1 rfl) hleast) hstored (by simpa using hknown)
  refine .runs hrun hrun' (.runs .input? .input? (.inputType t ?_))
  cases x.shape with
  | none => exact .emit t hsame
  | some dims =>
    simp only [haxes, haxes', Option.isNone_none, Bool.or_true]
    refine .step .lift fun placed => .emit t ?_
    intro key hkey
    simp only [Params.find?_insert, hsame key hkey]

/-- Unless the attribute form stops at its fill value, the forms differ in the parameter for that only. -/
theorem meets_pad {amounts : List Int} (f : (Configuration.pad amounts).Forms x site site')
    (hfill : ∀ found, ¬(Configuration.pad amounts).StopsAtFill site found) :
    Meets site site' (Lowering.Alike ["value"]) pad pad := by
  have haxes' : (site'.operands[3]?).join = none := f.new.supplied _ (.tail _ (.head _))
  refine meets_pad_of amounts f.twins (f.value_eq rfl) (f.omitted (by decide)) haxes' ?_
  intro mode houtputs hstored hknown
  cases hvalue : site.value .float "value" with
  | error e =>
    obtain ⟨stored, hfind, hkind⟩ := AttributeView.kind_ne_of_error hvalue
    exact absurd ⟨rfl, houtputs, ⟨mode, hstored, hknown⟩, ⟨stored, hfind, rfl⟩, hkind⟩ (hfill stored.kind)
  | ok value =>
    refine ⟨_, _, runs_readPads_old f _ hvalue, runs_readPads_new f.new _, ?_⟩
    intro key hkey
    have hne : key ≠ "value" := by simpa using hkey
    cases site'.suppliedFill with
    | none => exact Params.find?_insert_of_ne hne _ _
    | some _ => exact (Params.find?_insert_of_ne hne _ _).trans (Params.find?_insert_of_ne hne _ _).symm

/-- The attribute form that gets as far as a fill value of another kind is refused for it. -/
theorem refuses_pad {amounts : List Int} (f : (Configuration.pad amounts).Forms x site site') {found : AttributeKind}
    (h : (Configuration.pad amounts).StopsAtFill site found) :
    Refuses site pad (.attributeTypeMismatch "value" .float found) := by
  obtain ⟨mode, hmode, hknown⟩ := h.mode
  obtain ⟨value, hvalue, rfl⟩ := h.stored
  refine .bind (.checkOutputs_exact h.outputs) (.bind (.attrOr hmode) ?_)
  refine .otherwise (by simpa using hknown) (.of_fails (fails_readPads_old f _ ?_))
  exact AttributeView.value_mismatch hvalue h.illTyped

/-- The input form does not look at the attribute for the fill value. -/
theorem meets_pad_new {amounts : List Int} (f : (Configuration.pad amounts).InputForm x site)
    (h : site.DiffersOnlyIn "value" site') : Meets site site' (Lowering.Alike []) pad pad := by
  have haxes : (site.operands[3]?).join = none := f.supplied _ (.tail _ (.head _))
  have haxes' : (site'.operands[3]?).join = none := h.operands ▸ haxes
  refine meets_pad_of amounts (h.twins f.typed) (h.value_eq (by decide)) haxes haxes' fun mode _ _ _ => ?_
  refine ⟨_, _, runs_readPads_new f _, runs_readPads_new (f.of_differs h) _, ?_⟩
  intro key _
  rw [Site.suppliedFill, Site.suppliedFill, h.operands, h.function]

/-! ### Reductions and extreme elements -/

theorem runs_readTopCount {count : Int} (f : (Configuration.topK count).Forms x site site') :
    Runs site readTopCount (some count) ∧ Runs site' readTopCount (some count) := by
  constructor
  · refine .before f.old.before (.bind (f.checkInputs_old (Nat.le_refl 1)) ?_)
    exact .bind (.attr (Site.stores_some (f.old.stored ("k", some (.int count)) (.head _)) rfl)) .pure
  · obtain ⟨v, hv, hlength⟩ := f.supplied_some (.head _)
    refine .since f.new.since (.bind (f.checkInputs_new hlength) (.bind (.input hv) ?_))
    exact .bind (.constantInts? (f.new.supplied _ (.head _))) .pure

theorem meets_topK {count : Int} (f : (Configuration.topK count).Forms x site site') :
    Meets site site' (Lowering.Alike []) topK topK := by
  obtain ⟨hread, hread'⟩ := runs_readTopCount f
  refine .step (.checkOutputs f.twins) fun _ => .runs hread hread' ?_
  refine .step (.attrOr (f.value_eq rfl)) fun axis => .step (.attrOr (f.value_eq rfl)) fun largest => ?_
  refine .step (.attrOr (f.value_eq rfl)) fun sorted => .inputType f.twins ?_
  cases x.shape with
  | none => exact .step (.pure rfl) fun _ => .emit_same f.twins
  | some dims => exact .step .lift fun _ => .step .lift fun _ => .step (.pure rfl) fun _ => .emit_same f.twins

theorem runs_readReductionAxes {kind : String} {known : kind ∈ reductionNames} {axes : Option (List Int)}
    (f : (Configuration.reduce kind known axes).Forms x site site') :
    Runs site readReductionAxes (.ofList? axes) ∧ Runs site' readReductionAxes (.ofList? axes) := by
  have hold : site.opset < axesInputSince kind := f.old.before
  have hnew : axesInputSince kind ≤ site'.opset := f.new.since
  constructor
  · refine .bind .opset (.bind .opType ?_)
    rw [show site.node.opType = kind from f.old.opType, if_pos hold]
    exact .bind (f.checkInputs_old (Nat.le_refl 1)) (.bind (.attr? (f.stores_ints (.head _))) .pure)
  · refine .bind .opset (.bind .opType ?_)
    rw [show site'.node.opType = kind from f.new.opType, if_neg (Int.not_lt.2 hnew)]
    refine .bind (f.checkInputs_new f.present) (.bind .input? ?_)
    cases axes with
    | none =>
      rw [show (site'.operands[1]?).join = none from f.new.supplied _ (.head _)]
      exact .pure
    | some axes =>
      obtain ⟨v, hv, _⟩ := f.supplied_some (.head _)
      rw [hv]
      exact .bind (.constantInts? (f.new.supplied _ (.head _))) .pure

theorem meets_reduceOver (t : Site.Twins x site site') (axes : Option (List Int)) (keep : Bool) :
    Meets site site' (Lowering.Alike []) (reduceOver x axes keep) (reduceOver x axes keep) := by
  unfold reduceOver
  cases x.shape with
  | some dims => exact .step .lift fun _ => .emit_same t
  | none => exact .emit_same t

theorem meets_reduce {kind : String} {known : kind ∈ reductionNames} {axes : Option (List Int)}
    (f : (Configuration.reduce kind known axes).Forms x site site') :
    Meets site site' (Lowering.Alike []) reduce reduce := by
  obtain ⟨hread, hread'⟩ := runs_readReductionAxes f
  refine .step (.checkOutputs f.twins) fun _ => .step (.flag (f.value_eq rfl)) fun keep => ?_
  refine .step (.flag (f.value_eq rfl)) fun noop => .runs hread hread' (.inputType f.twins ?_)
  cases ReductionAxes.ofList? axes with
  | runtime => exact .emit_same f.twins
  | listed axes => exact meets_reduceOver f.twins _ _
  | all =>
    refine .ite ?_ (meets_reduceOver f.twins _ _)
    exact .runs .input? .input? (.emitOp fun _ _ => rfl)

end Forms

end Operator

/-! ## The forms agree -/

namespace Configuration

/-- The converter of each operator, and how its two forms compare. -/
theorem Forms.converter {c : Configuration} {x : TensorType} {site site' : Site} (f : c.Forms x site site') :
    ∃ lower, Registry.builtin.find? c.opType = some (.of lower) ∧
      ((∀ found, ¬c.StopsAtFill site found) → Meets site site' (Lowering.Alike c.apart) lower lower) := by
  cases c with
  | reshape => exact ⟨_, rfl, fun _ => meets_reshape f⟩
  | topK => exact ⟨_, rfl, fun _ => meets_topK f⟩
  | slice => exact ⟨_, rfl, fun _ => meets_slice f⟩
  | pad => exact ⟨_, rfl, meets_pad f⟩
  | squeeze => exact ⟨_, rfl, fun _ => meets_squeeze f⟩
  | unsqueeze => exact ⟨_, rfl, fun _ => meets_unsqueeze f⟩
  | split => exact ⟨_, rfl, fun _ => meets_split f⟩
  | reduce kind known axes => exact ⟨_, Registry.find?_of_reduction known, fun _ => meets_reduce f⟩

/-- Only a padding has a fill value to stop at. -/
theorem eq_pad_of_opType {c : Configuration} (h : c.opType = "Pad") : ∃ amounts, c = .pad amounts := by
  cases c with
  | pad amounts => exact ⟨amounts, rfl⟩
  | reduce kind known axes =>
    simp only [opType] at h
    subst h
    exact absurd known (by decide)
  | _ => simp [opType] at h

end Configuration

/-- Whatever an operator is told to do, whatever is known of its operand and however its other attributes are set, it
comes to the same whether it is told by attributes or by constant inputs: the same failure, or one instruction with the
same result types and parameters, but for the fill value of a padding. The one exception is a padding told by attributes
that gets as far as a fill value of another kind than a float: it is refused for that. The padding told by inputs does
not look there. -/
theorem attribute_and_input_forms_agree {c : Configuration} {x : TensorType} {site site' : Site}
    (f : c.Forms x site site') :
    ∃ converter, Registry.builtin.find? c.opType = some converter ∧
      ((∀ found, ¬c.StopsAtFill site found) →
        (∃ e, converter.Refuses site e ∧ converter.Refuses site' e) ∨
          ∃ l l', converter.Lowers site l ∧ converter.Lowers site' l' ∧ l.Alike c.apart l') ∧
      ∀ found, c.StopsAtFill site found →
        converter.Refuses site (.attributeTypeMismatch "value" .float found) ∧
        ∀ site'', site'.DiffersOnlyIn "value" site'' →
          (∃ e, converter.Refuses site' e ∧ converter.Refuses site'' e) ∨
            ∃ l l'', converter.Lowers site' l ∧ converter.Lowers site'' l'' ∧ l.Alike [] l'' := by
  obtain ⟨lower, hfind, hmeets⟩ := f.converter
  refine ⟨_, hfind, fun hfill => Meets.cases (.of lower) (.of lower) (hmeets hfill), fun found hfound => ?_⟩
  obtain ⟨amounts, rfl⟩ := Configuration.eq_pad_of_opType hfound.padding
  obtain rfl : pad = lower := congrArg Converter.lower (Option.some.inj hfind)
  exact ⟨(refuses_pad f hfound).converter, fun site'' h => Meets.cases (.of pad) (.of pad) (meets_pad_new f.new h)⟩

/-- A function with an input of the given type, followed by constant lists. -/
def operandsThen (type : TensorType) (lists : List (List Int)) : Builder :=
  lists.foldl (fun b list => (b.createConstant "" (.vectorInts list)).2)
    ((Builder.new "main").createPlaceholder "x" type).2

/-- The last elements of the rows of a matrix, asked for by attributes. -/
def sliceByAttributes : Site where
  node :=
    { name := "last"
      opType := "Slice"
      domain := ""
      inputs := ["x"]
      outputs := ["y"]
      attributes := [("starts", .ints [-2]), ("ends", .ints [9]), ("axes", .ints [-1])] }
  operands := [some ⟨0⟩]
  function := (operandsThen (.ranked .f32 [.dynamic (some "n"), .static 4]) []).function
  opset := 9

/-- The same asked for by inputs. -/
def sliceByInputs : Site where
  node :=
    { name := "last"
      opType := "Slice"
      domain := ""
      inputs := ["x", "starts", "ends", "axes"]
      outputs := ["y"]
      attributes := [] }
  operands := [some ⟨0⟩, some ⟨1⟩, some ⟨2⟩, some ⟨3⟩]
  function := (operandsThen (.ranked .f32 [.dynamic (some "n"), .static 4]) [[-2], [9], [-1]]).function
  opset := 13

theorem slice_forms : (Configuration.slice [-2] [9] (some [-1])).Forms (.ranked .f32 [.dynamic (some "n"), .static 4])
    sliceByAttributes sliceByInputs where
  old :=
    { opType := rfl
      before := by decide
      named := by rintro _ ⟨⟩
      single := rfl
      typed := ⟨⟨0⟩, rfl, rfl⟩
      stored := by simp [Configuration.attributes, sliceByAttributes, AttributeBag.find?] }
  new :=
    { opType := rfl
      since := by decide
      count := by decide
      typed := ⟨⟨0⟩, rfl, rfl⟩
      supplied := by
        simp only [Configuration.inputs, List.forall_mem_cons]
        exact ⟨⟨⟨1⟩, _, rfl, rfl, rfl⟩, ⟨⟨2⟩, _, rfl, rfl, rfl⟩, ⟨⟨3⟩, _, rfl, rfl, rfl⟩, rfl, List.forall_mem_nil _⟩ }
  outputs := rfl
  others := by
    simp only [Configuration.keys, Configuration.attributes, List.map_cons, List.mem_cons, not_or]
    rintro key ⟨hstarts, hends, haxes, -⟩
    simp [sliceByAttributes, sliceByInputs, AttributeBag.find?, Ne.symm hstarts, Ne.symm hends, Ne.symm haxes]

/-- Two of the four columns are taken from the back, and the rows keep their unknown number. -/
theorem slice_forms_agree :
    (Configuration.slice [-2] [9] (some [-1])).Forms (.ranked .f32 [.dynamic (some "n"), .static 4]) sliceByAttributes
        sliceByInputs ∧
      ∃ l l', (Converter.of slice).Lowers sliceByAttributes l ∧ (Converter.of slice).Lowers sliceByInputs l' ∧
        l.Alike [] l' := by
  obtain ⟨converter, hfind, hagree, -⟩ := attribute_and_input_forms_agree slice_forms
  obtain rfl : Converter.of slice = converter := Option.some.inj hfind
  have hemits : (Converter.of slice).Emits sliceByAttributes (sliceByAttributes.instruction
      [("axes", .ints [1]), ("ends", .ints [9]), ("starts", .ints [-2]), ("steps", .ints [1])]
      [.ranked .f32 [.dynamic (some "n"), .static 2]]) := ⟨_, fun _ => rfl⟩
  rcases hagree fun found hstops => absurd hstops.padding (by decide) with ⟨e, hrefuses, -⟩ | hlowers
  · exact (hrefuses.not_lowers hemits).elim
  · exact ⟨slice_forms, hlowers⟩

/-- A padding with a fill value that is not a float, with the amounts as attributes. -/
def padByAttributes : Site where
  node :=
    { name := "framed"
      opType := "Pad"
      domain := ""
      inputs := ["x"]
      outputs := ["y"]
      attributes := [("value", .int 1), ("pads", .ints [1, 1])] }
  operands := [some ⟨0⟩]
  function := (operandsThen (.ofSizes .f32 [2]) []).function
  opset := 10

/-- The same with the amounts as an input. -/
def padByInputs : Site where
  node :=
    { name := "framed"
      opType := "Pad"
      domain := ""
      inputs := ["x", "pads"]
      outputs := ["y"]
      attributes := [("value", .int 1)] }
  operands := [some ⟨0⟩, some ⟨1⟩]
  function := (operandsThen (.ofSizes .f32 [2]) [[1, 1]]).function
  opset := 11

theorem pad_forms : (Configuration.pad [1, 1]).Forms (.ofSizes .f32 [2]) padByAttributes padByInputs where
  old :=
    { opType := rfl
      before := by decide
      named := by
        rintro _ ⟨⟩
        decide
      single := rfl
      typed := ⟨⟨0⟩, rfl, rfl⟩
      stored := by simp [Configuration.attributes, padByAttributes, AttributeBag.find?] }
  new :=
    { opType := rfl
      since := by decide
      count := by decide
      typed := ⟨⟨0⟩, rfl, rfl⟩
      supplied := by
        simp only [Configuration.inputs, List.forall_mem_cons]
        exact ⟨⟨⟨1⟩, _, rfl, rfl, rfl⟩, rfl, List.forall_mem_nil _⟩ }
  outputs := rfl
  others := by
    simp only [Configuration.keys, Configuration.attributes, List.map_cons, List.mem_cons, not_or]
    rintro key ⟨hpads, -⟩
    have hpads' : ("pads" == key) = false := beq_eq_false_iff_ne.2 (Ne.symm hpads)
    simp only [padByAttributes, padByInputs, AttributeBag.find?, List.find?_cons, hpads']

/-- One form fails and the other does not. -/
theorem ill_typed_fill_separates_forms :
    (Configuration.pad [1, 1]).Forms (.ofSizes .f32 [2]) padByAttributes padByInputs ∧
      (Converter.of pad).Refuses padByAttributes (.attributeTypeMismatch "value" .float .int) ∧
      ∃ op, (Converter.of pad).Emits padByInputs op ∧ op.resultTypes = [.ofSizes .f32 [4]] :=
  ⟨pad_forms, fun _ => rfl, padByInputs.instruction
    [("axes", .ints [0]), ("mode", .string "constant"), ("pads", .ints [1, 1])] [.ofSizes .f32 [4]],
    ⟨_, fun _ => rfl⟩, rfl⟩

end ModelImport
