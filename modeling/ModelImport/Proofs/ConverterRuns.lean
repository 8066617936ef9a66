import Mathlib.Data.List.Forall2
import ModelImport.Proofs.AttributeCalls
import ModelImport.Proofs.Lowering
/-!
# Running converters

Rules for saying what a converter comes to at a given site. A view of the attributes changes with every read, but what it
answers depends on the stored attributes alone, so all rules are about views that show the attributes of the site's node.
For steps that look, `Runs` says what they return, `Fails` how they fail, `Yields` what holds of whatever they return,
and `Match` compares steps at one site with steps at another: both fail with the same error, or both return, and the
results are related. For a converter the same four are `Lowers`, `Refuses`, `Ends` and `Meets`, with a lowering in place
of the result; each has a rule for a step that looks, by what is known of the step.
-/

namespace ModelImport

/-! ## Parameters -/

namespace Params

theorem find?_insert_self (key : String) (value : Param) (ps : Params) : (ps.insert key value).find? key = some value := by
  induction ps with
  | nil => simp [insert, find?]
  | cons entry rest ih =>
    simp only [insert]
    split
    · simp [find?]
    · split
      · simp [find?]
      · next hne =>
        have hkey : (entry.1 == key) = false := beq_eq_false_iff_ne.2 fun h => hne h.symm
        simpa only [find?, List.find?_cons, hkey] using ih

theorem find?_insert_of_ne {key other : String} (h : other ≠ key) (value : Param) (ps : Params) :
    (ps.insert key value).find? other = ps.find? other := by
  have hkey : (key == other) = false := beq_eq_false_iff_ne.2 fun he => h he.symm
  induction ps with
  | nil => simp [insert, find?, hkey]
  | cons entry rest ih =>
    simp only [insert]
    split
    · simp [find?, hkey]
    · split
      · next he => simp [find?, hkey, ← he]
      · simp only [find?, List.find?_cons] at ih ⊢
        cases entry.1 == other with
        | true => rfl
        | false => exact ih

theorem find?_insert (key other : String) (value : Param) (ps : Params) :
    (ps.insert key value).find? other = if other = key then some value else ps.find? other := by
  split
  · next h => rw [h, find?_insert_self]
  · next h => exact find?_insert_of_ne h value ps

end Params

/-! ## Views -/

/-- The view is one of the attributes of the site's node. -/
def AttributeView.Shows (view : AttributeView) (site : Site) : Prop := view.bag = site.node.attributes

theorem AttributeView.Shows.ofBag (site : Site) : (AttributeView.ofBag site.node.attributes).Shows site := rfl

theorem AttributeView.Shows.note {view : AttributeView} {site : Site} (h : view.Shows site) (key : String) :
    (view.note key).Shows site := (view.bag_note key).trans h

namespace Site

/-- What a read of an attribute answers. -/
def value (site : Site) (k : AttributeKind) (key : String) : Except ImportError (Option k.Carrier) :=
  (AttributeView.ofBag site.node.attributes).value k key

/-- The attribute stored under a key, or its absence, is the given one. -/
def Stores (site : Site) (k : AttributeKind) (key : String) (value : Option k.Carrier) : Prop :=
  site.value k key = .ok value

/-- The input is there, and of the given type. -/
def Typed (site : Site) (index : Nat) (type : TensorType) : Prop :=
  ∃ v, site.operands[index]? = some (some v) ∧ site.function.type? v = some type

/-- The input is a constant of the given integers, or omitted. -/
def Supplies (site : Site) (index : Nat) : Option (List Int) → Prop
  | none => (site.operands[index]?).join = none
  | some list => ∃ v data, site.operands[index]? = some (some v) ∧ site.function.constant? v = some data ∧
      data.ints? = some list

/-- The list is an attribute before operator set `since` and a constant input from then on; `none` if it is left out. -/
def Gives (site : Site) (key : String) (index : Nat) (since : Int) (list : Option (List Int)) : Prop :=
  (site.opset < since → site.Stores .ints key list) ∧ (since ≤ site.opset → site.Supplies index list)

/-- Two sites with nodes of the same kind and the same outputs, over operands of the same type. -/
structure Twins (x : TensorType) (site site' : Site) : Prop where
  opType : site.node.opType = site'.node.opType
  outputs : site.node.outputs = site'.node.outputs
  typed : site.Typed 0 x
  typed' : site'.Typed 0 x

end Site

theorem AttributeView.Shows.value_eq {view : AttributeView} {site : Site} (h : view.Shows site) (k : AttributeKind)
    (key : String) : view.value k key = site.value k key := by
  have hbag : view.bag = (AttributeView.ofBag site.node.attributes).bag := h
  exact AttributeView.value_congr hbag k key

theorem Site.stores_some {site : Site} {k : AttributeKind} {key : String} {stored : AttributeValue} {value : k.Carrier}
    (h : AttributeBag.find? site.node.attributes key = some stored) (hk : stored.as? k = some value) :
    site.Stores k key (some value) := by
  simp [Stores, Site.value, AttributeView.value, AttributeView.ofBag, h, hk]

theorem Site.stores_none {site : Site} (k : AttributeKind) {key : String}
    (h : AttributeBag.find? site.node.attributes key = none) : site.Stores k key none :=
  AttributeView.value_absent h k

theorem Site.stores_ints {site : Site} {key : String} {list : Option (List Int)}
    (h : AttributeBag.find? site.node.attributes key = list.map .ints) : site.Stores .ints key list := by
  cases list with
  | none => exact stores_none _ h
  | some list => exact stores_some h rfl

/-- Reads see nothing of the attributes but what is stored under their key. -/
theorem Site.value_congr {site site' : Site} {key : String}
    (h : AttributeBag.find? site.node.attributes key = AttributeBag.find? site'.node.attributes key)
    (k : AttributeKind) : site.value k key = site'.value k key := by
  simp only [Site.value, AttributeView.value, AttributeView.ofBag, h]

/-- The sites differ in nothing but what their nodes store under one key. -/
structure Site.DiffersOnlyIn (key : String) (site site' : Site) : Prop where
  rest : site' = { site with node := { site.node with attributes := site'.node.attributes } }
  others : ∀ other, other ≠ key →
    AttributeBag.find? site.node.attributes other = AttributeBag.find? site'.node.attributes other

namespace Site.DiffersOnlyIn
variable {key : String} {site site' : Site}

theorem typed (h : site.DiffersOnlyIn key site') {index : Nat} {x : TensorType} (hx : site.Typed index x) :
    site'.Typed index x := by
  rw [h.rest]
  exact hx

theorem operands (h : site.DiffersOnlyIn key site') : site.operands = site'.operands := by
  rw [h.rest]

theorem function (h : site.DiffersOnlyIn key site') : site.function = site'.function := by
  rw [h.rest]

theorem opset (h : site.DiffersOnlyIn key site') : site.opset = site'.opset := by
  rw [h.rest]

theorem twins (h : site.DiffersOnlyIn key site') {x : TensorType} (hx : site.Typed 0 x) : Site.Twins x site site' where
  opType := by rw [h.rest]
  outputs := by rw [h.rest]
  typed := hx
  typed' := h.typed hx

theorem value_eq (h : site.DiffersOnlyIn key site') {other : String} (hother : other ≠ key) {k : AttributeKind} :
    site.value k other = site'.value k other := Site.value_congr (h.others other hother) k

theorem stores (h : site.DiffersOnlyIn key site') {other : String} (hother : other ≠ key) {k : AttributeKind}
    {value : Option k.Carrier} (hstored : site.Stores k other value) : site'.Stores k other value :=
  (h.value_eq hother).symm.trans hstored

end Site.DiffersOnlyIn

/-- A node of the given kind with one output name for each of its outputs, over inputs of the given types. -/
def sampleSite (opType : String) (outputs : List String) (types : List TensorType) (attributes : AttributeBag) :
    Site where
  node := { name := "sample", opType, domain := "", inputs := types.map fun _ => "x", outputs, attributes }
  operands := (List.range types.length).map fun index => some ⟨index⟩
  function := (types.foldl (fun b type => (b.createPlaceholder "x" type).2) (Builder.new "main")).function
  opset := 13

namespace LookM
variable {α β : Type}

/-! ## What a computation returns -/

/-- The computation returns the value. -/
def Runs (site : Site) (m : LookM α) (a : α) : Prop :=
  ∀ view, view.Shows site → ∃ view', view'.Shows site ∧ m site view = .ok (a, view')

section Runs
variable {site : Site}

theorem Runs.pure {a : α} : Runs site (pure a) a := fun view h => ⟨view, h, rfl⟩

/-- What is computed from the site. -/
theorem Runs.read {g : Site → α} : Runs site (do return g (← read)) (g site) := fun view h => ⟨view, h, rfl⟩

theorem Runs.bind {m : LookM α} {f : α → LookM β} {a : α} {b : β} (hm : Runs site m a)
    (hf : Runs site (f a) b) : Runs site (m >>= f) b := by
  intro view hview
  obtain ⟨view', hview', hrun⟩ := hm view hview
  obtain ⟨view'', hview'', hrun'⟩ := hf view' hview'
  refine ⟨view'', hview'', ?_⟩
  simp only [Bind.bind, ReaderT.bind, StateT.bind, Except.bind, hrun, hrun']

theorem Runs.bind_read {f : Site → LookM β} {b : β} (h : Runs site (f site) b) : Runs site (MonadReader.read >>= f) b :=
  h

theorem Runs.opset : Runs site opset site.opset := .read

/-- The way of an older operator set. -/
theorem Runs.before {since : Int} {m m' : LookM α} {a : α} (h : site.opset < since) (hm : Runs site m a) :
    Runs site (do if (← LookM.opset) < since then m else m') a := by
  refine .bind .opset ?_
  rwa [if_pos h]

/-- The way of a newer one. -/
theorem Runs.since {since : Int} {m m' : LookM α} {a : α} (h : since ≤ site.opset) (hm : Runs site m' a) :
    Runs site (do if (← LookM.opset) < since then m else m') a := by
  refine .bind .opset ?_
  rwa [if_neg (Int.not_lt.2 h)]

theorem Runs.opType : Runs site opType site.node.opType := .read

theorem Runs.input? {index : Nat} : Runs site (input? index) (site.operands[index]?).join := .read

theorem Runs.hasAttr {key : String} : Runs site (hasAttr key) (AttributeBag.contains site.node.attributes key) := by
  intro view hview
  refine ⟨view, hview, ?_⟩
  rw [← show view.bag = site.node.attributes from hview]
  rfl

theorem Runs.lift {x : Except ImportError α} {a : α} (h : x = .ok a) : Runs site (liftM x) a := by
  subst h
  exact fun view hview => ⟨view, hview, rfl⟩

theorem Runs.checkCount {what : String} {actual least : Nat} {most : Option Nat} (hleast : least ≤ actual)
    (hmost : ∀ n, most = some n → actual ≤ n) : Runs site (checkCount what actual least most) () := by
  intro view hview
  refine ⟨view, hview, ?_⟩
  have hcheck : (decide (actual < least) || most.any (· < actual)) = false := by
    cases most with
    | none => simpa using hleast
    | some n => simpa using ⟨hleast, hmost n rfl⟩
  rw [LookM.checkCount, hcheck]
  rfl

theorem Runs.checkInputs {least : Nat} {most : Option Nat} (hleast : least ≤ site.operands.length)
    (hmost : ∀ n, most = some n → site.operands.length ≤ n) : Runs site (checkInputs least most) () :=
  .bind .read (.checkCount hleast hmost)

theorem Runs.checkOutputs {least : Nat} {most : Option Nat} (hleast : least ≤ site.node.outputs.length)
    (hmost : ∀ n, most = some n → site.node.outputs.length ≤ n) : Runs site (checkOutputs least most) () :=
  .bind .read (.checkCount hleast hmost)

theorem Runs.checkInputs_exact {count : Nat} (h : site.operands.length = count) :
    Runs site (LookM.checkInputs count (some count)) () := by
  refine .checkInputs (Nat.le_of_eq h.symm) ?_
  rintro _ ⟨⟩
  exact Nat.le_of_eq h

/-- Up to a number of inputs, the first of which is there. -/
theorem Runs.checkInputs_upTo {x : TensorType} {most : Nat} (hx : site.Typed 0 x) (h : site.operands.length ≤ most) :
    Runs site (LookM.checkInputs 1 (some most)) () := by
  obtain ⟨v, hv, -⟩ := hx
  refine .checkInputs (List.getElem?_eq_some_iff.1 hv).1 ?_
  rintro _ ⟨⟩
  exact h

theorem Runs.checkOutputs_exact {count : Nat} (h : site.node.outputs.length = count) :
    Runs site (LookM.checkOutputs count (some count)) () := by
  refine .checkOutputs (Nat.le_of_eq h.symm) ?_
  rintro _ ⟨⟩
  exact Nat.le_of_eq h

theorem Runs.input {index : Nat} {v : ValueId} (h : site.operands[index]? = some (some v)) :
    Runs site (input index) v := by
  refine .bind .input? ?_
  rw [h]
  exact .pure

theorem Runs.inputType {index : Nat} {type : TensorType} (h : site.Typed index type) :
    Runs site (inputType index) type := by
  obtain ⟨v, hv, htype⟩ := h
  refine .bind (.input hv) (.bind_read ?_)
  simp only [htype]
  exact .pure

theorem Runs.mapM {f : α → LookM β} {as : List α} {bs : List β}
    (h : List.Forall₂ (fun a b => Runs site (f a) b) as bs) : Runs site (as.mapM f) bs := by
  induction h with
  | nil => exact .pure
  | cons ha _ ih =>
    rw [List.mapM_cons]
    exact .bind ha (.bind ih .pure)

theorem Runs.inputTypes {types : List TensorType} (hcount : site.operands.length = types.length)
    (h : ∀ index type, types[index]? = some type → site.Typed index type) : Runs site inputTypes types := by
  refine .bind_read (.mapM (List.forall₂_iff_get.2 ⟨by simp [hcount], ?_⟩))
  intro index hindex hindex'
  rw [List.get_eq_getElem, List.getElem_range]
  exact .inputType (h index _ (List.getElem?_eq_getElem hindex'))

theorem Runs.constantInts? {index : Nat} {list : Option (List Int)} (h : site.Supplies index list) :
    Runs site (constantInts? index) list := by
  refine .bind (a := (site.operands[index]?).join.bind site.function.constant?) (.bind .input? .read) ?_
  cases list with
  | none =>
    rw [show (site.operands[index]?).join = none from h]
    exact .pure
  | some list =>
    obtain ⟨v, data, hv, hdata, hints⟩ := h
    rw [hv, show ((some (some v)).join.bind site.function.constant?).bind TensorData.ints? = some list by
      simp [hdata, hints]]
    exact .pure

theorem attr?_eq {k : AttributeKind} {key : String} {view : AttributeView} (h : view.Shows site) :
    attr? k key site view = (site.value k key).map fun value => (value, view.note key) := by
  rw [← h.value_eq]
  change Except.bind (view.value k key) (fun value => .ok (value, view.note key)) = _
  cases view.value k key <;> rfl

theorem attrOr_eq {k : AttributeKind} {key : String} {default : k.Carrier} {view : AttributeView} (h : view.Shows site) :
    attrOr k key default site view = (site.value k key).map fun value => (value.getD default, view.note key) := by
  rw [← h.value_eq]
  change Except.bind ((view.value k key).map _) (fun value => .ok (value, view.note key)) = _
  cases view.value k key <;> rfl

theorem Runs.attr? {k : AttributeKind} {key : String} {value : Option k.Carrier} (h : site.Stores k key value) :
    Runs site (attr? k key) value := by
  intro view hview
  refine ⟨view.note key, hview.note key, ?_⟩
  rw [attr?_eq hview, show site.value k key = _ from h]
  rfl

theorem Runs.attrOr {k : AttributeKind} {key : String} {default : k.Carrier} {value : Option k.Carrier}
    (h : site.Stores k key value) : Runs site (attrOr k key default) (value.getD default) := by
  intro view hview
  refine ⟨view.note key, hview.note key, ?_⟩
  rw [attrOr_eq hview, show site.value k key = _ from h]
  rfl

theorem Runs.flag {key : String} {default : Int} {value : Option Int} (h : site.Stores .int key value) :
    Runs site (flag key default) (value.getD default != 0) :=
  .bind (.attrOr h) .pure

theorem Runs.attr {k : AttributeKind} {key : String} {value : k.Carrier} (h : site.Stores k key (some value)) :
    Runs site (attr k key) value := by
  intro view hview
  refine ⟨view.note key, hview.note key, ?_⟩
  change Except.bind (view.required k key).1 (fun value => .ok (value, view.note key)) = _
  rw [AttributeView.required, hview.value_eq, show site.value k key = _ from h]
  rfl

theorem Runs.intsByOpset {key : String} {index : Nat} {since : Int} {list : Option (List Int)}
    (h : site.Gives key index since list) : Runs site (Operator.intsByOpset key index since) list := by
  rcases Int.lt_or_le site.opset since with hold | hnew
  · exact .before hold (.attr? (h.1 hold))
  · exact .since hnew (.constantInts? (h.2 hnew))

/-- A list that must be given: the only other input, or an attribute in place of it. -/
theorem Runs.requiredInts {key : String} {since : Int} {list : List Int}
    (hinputs : site.operands.length = if site.opset < since then 1 else 2) (h : site.Gives key 1 since (some list)) :
    Runs site (Operator.requiredInts key since) (some list) := by
  rcases Int.lt_or_le site.opset since with hold | hnew
  · rw [if_pos hold] at hinputs
    exact .before hold (.bind (.checkInputs_exact hinputs) (.bind (.attr (h.1 hold)) .pure))
  · rw [if_neg (Int.not_lt.2 hnew)] at hinputs
    obtain ⟨v, data, hv, -⟩ := h.2 hnew
    exact .since hnew (.bind (.checkInputs_exact hinputs) (.bind (.input hv) (.constantInts? (h.2 hnew))))

/-- The first element of a constant input is determined by the operands and the function. -/
theorem Runs.constantDouble? {index : Nat} : Runs site (constantDouble? index)
    (((site.operands[index]?).join.bind site.function.constant?).bind fun t => t.doubles.head?) :=
  .bind (.bind .input? .read) .pure

/-- The computation fails with the error. -/
def Fails (site : Site) (m : LookM α) (e : ImportError) : Prop := ∀ view, view.Shows site → m site view = .error e

theorem Fails.bind {m : LookM α} {e : ImportError} (h : Fails site m e) (f : α → LookM β) :
    Fails site (m >>= f) e := by
  intro view hview
  simp only [Bind.bind, ReaderT.bind, StateT.bind, Except.bind, h view hview]

theorem Runs.fails {m : LookM α} {f : α → LookM β} {a : α} {e : ImportError} (hm : Runs site m a)
    (hf : Fails site (f a) e) : Fails site (m >>= f) e := by
  intro view hview
  obtain ⟨view', hview', hrun⟩ := hm view hview
  simp only [Bind.bind, ReaderT.bind, StateT.bind, Except.bind, hrun, hf view' hview']

theorem Fails.before {since : Int} {m m' : LookM α} {e : ImportError} (h : site.opset < since)
    (hm : Fails site m e) : Fails site (do if (← opset) < since then m else m') e := by
  refine Runs.opset.fails ?_
  rwa [if_pos h]

theorem Fails.lift {x : Except ImportError α} {e : ImportError} (h : x = .error e) :
    Fails site (liftM x : LookM α) e := by
  subst h
  exact fun view hview => rfl

theorem Fails.attrOr {k : AttributeKind} {key : String} {default : k.Carrier} {e : ImportError}
    (h : site.value k key = .error e) : Fails site (attrOr k key default) e := by
  intro view hview
  rw [attrOr_eq hview, h]
  rfl

end Runs

/-- Whatever the computation returns satisfies `P`. It may also fail. -/
def Yields (site : Site) (m : LookM α) (P : α → Prop) : Prop :=
  ∀ view, view.Shows site → ∀ a view', m site view = .ok (a, view') → P a ∧ view'.Shows site

namespace Yields
variable {site : Site} {P : α → Prop} {Q : β → Prop}

theorem bind {m : LookM α} {f : α → LookM β} (hm : Yields site m P) (hf : ∀ a, P a → Yields site (f a) Q) :
    Yields site (m >>= f) Q := by
  intro view hview b last h
  simp only [Bind.bind, ReaderT.bind, StateT.bind, Except.bind] at h
  split at h
  · cases h
  · next r hr =>
    obtain ⟨ha, hview'⟩ := hm view hview r.1 r.2 hr
    exact hf r.1 ha r.2 hview' b last h

theorem imp {m : LookM α} {P' : α → Prop} (hm : Yields site m P) (h : ∀ a, P a → P' a) : Yields site m P' := by
  intro view hview a last ha
  obtain ⟨hp, hlast⟩ := hm view hview a last ha
  exact ⟨h a hp, hlast⟩

/-- What is returned is the value that is known. -/
theorem of_runs {m : LookM α} {a : α} (hm : Runs site m a) : Yields site m (· = a) := by
  intro view hview b last h
  obtain ⟨view', hview', hrun⟩ := hm view hview
  rw [hrun] at h
  cases h
  exact ⟨rfl, hview'⟩

/-- A step whose value is known. -/
theorem runs {m : LookM α} {f : α → LookM β} {a : α} (hm : Runs site m a) (hf : Yields site (f a) Q) :
    Yields site (m >>= f) Q := by
  refine bind (of_runs hm) ?_
  rintro _ rfl
  exact hf

theorem pure {a : α} (h : P a) : Yields site (pure a) P := by
  rintro view hview b last ⟨⟩
  exact ⟨h, hview⟩

theorem throw {e : ImportError} : Yields site (throw e) P := by
  rintro view hview a last ⟨⟩

theorem map {m : LookM α} {f : α → β} (hm : Yields site m fun a => Q (f a)) : Yields site (f <$> m) Q := by
  have hbind : f <$> m = m >>= fun a => Pure.pure (f a) := rfl
  rw [hbind]
  exact bind hm fun a ha => pure ha

theorem lift {x : Except ImportError α} : Yields site (liftM x : LookM α) fun a => x = .ok a := by
  intro view hview a last h
  cases x with
  | error e => cases h
  | ok b =>
    cases h
    exact ⟨rfl, hview⟩

theorem checkCount {what : String} {actual least : Nat} {most : Option Nat} :
    Yields site (checkCount what actual least most) fun _ => least ≤ actual ∧ ∀ n, most = some n → actual ≤ n := by
  intro view hview a last h
  refine ⟨returns_checkCount view a last h, ?_⟩
  unfold LookM.checkCount at h
  split at h
  · cases h
  · cases h
    exact hview

theorem checkInputs {least : Nat} {most : Option Nat} : Yields site (checkInputs least most) fun _ =>
    least ≤ site.operands.length ∧ ∀ n, most = some n → site.operands.length ≤ n :=
  .runs .read .checkCount

theorem checkOutputs {least : Nat} {most : Option Nat} : Yields site (checkOutputs least most) fun _ =>
    least ≤ site.node.outputs.length ∧ ∀ n, most = some n → site.node.outputs.length ≤ n :=
  .runs .read .checkCount

theorem inputType {index : Nat} : Yields site (inputType index) (site.Typed index) := by
  refine bind (P := fun v => site.operands[index]? = some (some v)) ?_ fun v hv => runs .read ?_
  · refine runs .input? ?_
    cases h : (site.operands[index]?).join with
    | none => exact runs .read (runs .opType throw)
    | some v => exact pure (Option.join_eq_some_iff.1 h)
  · cases htype : site.function.type? v with
    | none => exact throw
    | some type => exact pure ⟨v, hv, htype⟩

theorem attr? {k : AttributeKind} {key : String} : Yields site (attr? k key) (site.Stores k key) := by
  intro view hview a last h
  rw [attr?_eq hview] at h
  cases hvalue : site.value k key with
  | error e =>
    rw [hvalue] at h
    cases h
  | ok value =>
    rw [hvalue] at h
    cases h
    exact ⟨hvalue, hview.note key⟩

theorem attrOr {k : AttributeKind} {key : String} {default : k.Carrier} :
    Yields site (attrOr k key default) fun a => ∃ value, site.Stores k key value ∧ a = value.getD default := by
  intro view hview a last h
  rw [attrOr_eq hview] at h
  cases hvalue : site.value k key with
  | error e =>
    rw [hvalue] at h
    cases h
  | ok value =>
    rw [hvalue] at h
    cases h
    exact ⟨⟨value, hvalue, rfl⟩, hview.note key⟩

theorem flag {key : String} {default : Int} :
    Yields site (flag key default) fun b => ∃ value, site.Stores .int key value ∧ b = (value.getD default != 0) := by
  refine bind attrOr ?_
  rintro _ ⟨value, hvalue, rfl⟩
  exact pure ⟨value, hvalue, rfl⟩

theorem guard {c : Prop} [Decidable c] {key reason : String} {f : β → LookM α} {m : LookM α}
    (h : ¬c → Yields site m P) : Yields site (if c then invalid key reason >>= f else m) P := by
  split
  · rintro view hview a last ⟨⟩
  · next hc => exact h hc

end Yields

end LookM

/-! ## Two computations -/

/-- Two outcomes: the same failure, or results that are related. -/
inductive Agree {α β : Type} (R : α → β → Prop) : Except ImportError α → Except ImportError β → Prop where
  | failed (e : ImportError) : Agree R (.error e) (.error e)
  | returned {a : α} {b : β} (h : R a b) : Agree R (.ok a) (.ok b)

namespace LookM

/-- A computation at one site agrees with a computation at another. -/
def Match {α β : Type} (site site' : Site) (R : α → β → Prop) (m : LookM α)
    (m' : LookM β) : Prop :=
  ∀ view view', view.Shows site → view'.Shows site' →
    Agree (fun r r' => R r.1 r'.1 ∧ r.2.Shows site ∧ r'.2.Shows site') (m site view) (m' site' view')

namespace Match
variable {α β γ δ : Type} {site site' : Site} {R : α → β → Prop} {S : γ → δ → Prop}

theorem bind {m : LookM α} {m' : LookM β} {f : α → LookM γ} {f' : β → LookM δ}
    (hm : Match site site' R m m') (hf : ∀ a b, R a b → Match site site' S (f a) (f' b)) :
    Match site site' S (m >>= f) (m' >>= f') := by
  intro view view' hview hview'
  have hstep := hm view view' hview hview'
  simp only [Bind.bind, ReaderT.bind, StateT.bind, Except.bind]
  generalize m site view = x at hstep
  generalize m' site' view' = y at hstep
  cases hstep with
  | failed e => exact .failed e
  | returned h => exact hf _ _ h.1 _ _ h.2.1 h.2.2

/-- What is known of the result at one site is known of a pair of results. -/
theorem yields {m : LookM α} {m' : LookM β} {P : α → Prop} (hm : Match site site' R m m')
    (hp : Yields site m P) : Match site site' (fun a b => R a b ∧ P a) m m' := by
  intro view view' hview hview'
  have hstep := hm view view' hview hview'
  cases hrun : m site view with
  | error e =>
    rw [hrun] at hstep
    generalize m' site' view' = y at hstep ⊢
    cases hstep with
    | failed => exact .failed e
  | ok r =>
    have hr := hp view hview r.1 r.2 hrun
    rw [hrun] at hstep
    generalize m' site' view' = y at hstep ⊢
    cases hstep with
    | returned h => exact .returned ⟨⟨h.1, hr.1⟩, h.2⟩

/-- A step that comes to the same on both sides. -/
theorem step {m m' : LookM α} {f : α → LookM γ} {f' : α → LookM δ}
    (hm : Match site site' Eq m m') (hf : ∀ a, Match site site' S (f a) (f' a)) :
    Match site site' S (m >>= f) (m' >>= f') := by
  refine hm.bind ?_
  rintro a _ rfl
  exact hf a

/-- Values that are known. -/
theorem both {m : LookM α} {m' : LookM β} {a : α} {b : β} (hm : Runs site m a) (hm' : Runs site' m' b) :
    Match site site' (fun x y => x = a ∧ y = b) m m' := by
  intro view view' hview hview'
  obtain ⟨last, hlast, hrun⟩ := hm view hview
  obtain ⟨last', hlast', hrun'⟩ := hm' view' hview'
  rw [hrun, hrun']
  exact .returned ⟨⟨rfl, rfl⟩, hlast, hlast'⟩

/-- A step of which the values are known. -/
theorem runs {m : LookM α} {m' : LookM β} {f : α → LookM γ} {f' : β → LookM δ} {a : α} {b : β}
    (hm : Runs site m a) (hm' : Runs site' m' b) (hf : Match site site' S (f a) (f' b)) :
    Match site site' S (m >>= f) (m' >>= f') := by
  refine bind (both hm hm') ?_
  rintro _ _ ⟨rfl, rfl⟩
  exact hf

theorem pure {a : α} {b : β} (h : R a b) : Match site site' R (pure a) (pure b) :=
  fun _ _ hview hview' => .returned ⟨h, hview, hview'⟩

theorem throw {e : ImportError} : Match site site' R (throw e) (throw e) := fun _ _ _ _ => .failed e

theorem lift {x : Except ImportError α} : Match site site' Eq (liftM x : LookM α) (liftM x) := by
  intro view view' hview hview'
  cases x with
  | error e => exact .failed e
  | ok a => exact .returned ⟨rfl, hview, hview'⟩

theorem ite {c : Prop} [Decidable c] {m n : LookM α} {m' n' : LookM β}
    (hm : Match site site' R m m') (hn : Match site site' R n n') :
    Match site site' R (if c then m else n) (if c then m' else n') := by
  split
  · exact hm
  · exact hn

theorem attr? {k : AttributeKind} {key : String} (h : site.value k key = site'.value k key) :
    Match site site' Eq (attr? k key) (attr? k key) := by
  intro view view' hview hview'
  rw [attr?_eq hview, attr?_eq hview', h]
  cases site'.value k key with
  | error e => exact .failed e
  | ok value => exact .returned ⟨rfl, hview.note key, hview'.note key⟩

theorem attrOr {k : AttributeKind} {key : String} {default : k.Carrier} (h : site.value k key = site'.value k key) :
    Match site site' Eq (attrOr k key default) (attrOr k key default) := by
  intro view view' hview hview'
  rw [attrOr_eq hview, attrOr_eq hview', h]
  cases site'.value k key with
  | error e => exact .failed e
  | ok value => exact .returned ⟨rfl, hview.note key, hview'.note key⟩

theorem flag {key : String} {default : Int} (h : site.value .int key = site'.value .int key) :
    Match site site' Eq (flag key default) (flag key default) :=
  .step (.attrOr h) fun _ => .pure rfl

/-- Constants are seen through the operands and the function. -/
theorem constantInts? (hoperands : site.operands = site'.operands) (hfunction : site.function = site'.function)
    {index : Nat} : Match site site' Eq (constantInts? index) (constantInts? index) := by
  refine .runs (.bind .input? .read) (.bind .input? .read) ?_
  rw [hoperands, hfunction]
  exact .pure rfl

section Twins
variable {x : TensorType}

theorem checkCount (t : Site.Twins x site site') {what : String} {actual least : Nat} {most : Option Nat} :
    Match site site' Eq (checkCount what actual least most) (checkCount what actual least most) := by
  unfold LookM.checkCount
  split
  · refine .runs .opType .opType ?_
    rw [t.opType]
    exact .throw
  · exact .pure rfl

theorem checkInputs (t : Site.Twins x site site') (h : site.operands.length = site'.operands.length) {least : Nat}
    {most : Option Nat} : Match site site' Eq (checkInputs least most) (checkInputs least most) := by
  refine .runs .read .read ?_
  rw [h]
  exact .checkCount t

theorem checkOutputs (t : Site.Twins x site site') {least : Nat} {most : Option Nat} :
    Match site site' Eq (checkOutputs least most) (checkOutputs least most) := by
  refine .runs .read .read ?_
  rw [t.outputs]
  exact .checkCount t

theorem inputType (t : Site.Twins x site site') {f : TensorType → LookM γ} {f' : TensorType → LookM δ}
    (h : Match site site' S (f x) (f' x)) :
    Match site site' S (inputType 0 >>= f) (inputType 0 >>= f') :=
  .runs (.inputType t.typed) (.inputType t.typed') h

end Twins

end Match

end LookM

/-! ## Converters -/

namespace ConverterM

open LookM

/-- The converter comes to the lowering. -/
def Lowers (site : Site) (m : ConverterM (List ValueId)) (l : Lowering) : Prop :=
  ∀ view, view.Shows site → ∃ view', ComesTo site view m (.ok (l, view'))

/-- The converter fails with the error. -/
def Refuses (site : Site) (m : ConverterM (List ValueId)) (e : ImportError) : Prop :=
  ∀ view, view.Shows site → ComesTo site view m (.error e)

/-- The converter fails, or it comes to a lowering that satisfies `P`. -/
def Ends (site : Site) (m : ConverterM (List ValueId)) (P : Lowering → Prop) : Prop :=
  ∀ view, view.Shows site → ∃ ending, ComesTo site view m ending ∧ ∀ l view', ending = .ok (l, view') → P l

/-- A converter at one site agrees with a converter at another. -/
def Meets (site site' : Site) (R : Lowering → Lowering → Prop) (m m' : ConverterM (List ValueId)) : Prop :=
  ∀ view view', view.Shows site → view'.Shows site' → ∃ ending ending',
    ComesTo site view m ending ∧ ComesTo site' view' m' ending' ∧ Agree (fun r r' => R r.1 r'.1) ending ending'

section Lowers
variable {α : Type} {site : Site} {l : Lowering}

theorem Lowers.bind {m : ConverterM α} {look : LookM α} [Looks m look] {f : α → ConverterM (List ValueId)} {a : α}
    (hm : Runs site look a) (hf : Lowers site (f a) l) : Lowers site (m >>= f) l := by
  intro view hview
  obtain ⟨view', hview', hrun⟩ := hm view hview
  obtain ⟨last, hcomes⟩ := hf view' hview'
  exact ⟨last, .bind hrun hcomes⟩

/-- A check that is passed. -/
theorem Lowers.otherwise {c : Prop} [Decidable c] {m m' : ConverterM (List ValueId)} (h : ¬c) (hm : Lowers site m' l) :
    Lowers site (if c then m else m') l := by
  rwa [if_neg h]

theorem Lowers.emitOp {opType : String} {operands : List (Option ValueId)} {params : Params}
    {types : List TensorType} : Lowers site (emitOp opType operands params types)
      ⟨[], some (.instruction (site.instructionAs opType operands params types))⟩ :=
  fun view _ => ⟨view, comesTo_emitOp view⟩

theorem Lowers.emit {params : Params} {types : List TensorType} :
    Lowers site (emit params types) ⟨[], some (.instruction (site.instruction params types))⟩ :=
  fun view _ => ⟨view, comesTo_emit view⟩

theorem Lowers.fold {data : TensorData} :
    Lowers site (fold data) ⟨[], some (.constant (site.node.outputs.head?.getD "") data)⟩ :=
  fun view _ => ⟨view, comesTo_fold view⟩

theorem Lowers.converter {m : ConverterM (List ValueId)} (h : Lowers site m l) : (Converter.of m).Lowers site l :=
  h _ (.ofBag site)

theorem Refuses.converter {m : ConverterM (List ValueId)} {e : ImportError} (h : Refuses site m e) :
    (Converter.of m).Refuses site e := h _ (.ofBag site)

theorem Refuses.of_fails {m : ConverterM α} {look : LookM α} [Looks m look] {f : α → ConverterM (List ValueId)}
    {e : ImportError} (h : Fails site look e) : Refuses site (m >>= f) e :=
  fun view hview => .bind_error (h view hview)

theorem Refuses.bind {m : ConverterM α} {look : LookM α} [Looks m look] {f : α → ConverterM (List ValueId)} {a : α}
    {e : ImportError} (hm : Runs site look a) (hf : Refuses site (f a) e) : Refuses site (m >>= f) e := by
  intro view hview
  obtain ⟨view', hview', hrun⟩ := hm view hview
  exact .bind hrun (hf view' hview')

theorem Refuses.otherwise {c : Prop} [Decidable c] {m m' : ConverterM (List ValueId)} {e : ImportError} (h : ¬c)
    (hm : Refuses site m' e) : Refuses site (if c then m else m') e := by
  rwa [if_neg h]

end Lowers

namespace Ends
variable {α : Type} {site : Site} {P : α → Prop} {Q : Lowering → Prop}

theorem bind {m : ConverterM α} {look : LookM α} [Looks m look] {f : α → ConverterM (List ValueId)}
    (hm : Yields site look P) (hf : ∀ a, P a → Ends site (f a) Q) : Ends site (m >>= f) Q := by
  intro view hview
  cases hlook : look site view with
  | error e => exact ⟨.error e, .bind_error hlook, nofun⟩
  | ok r =>
    obtain ⟨ha, hview'⟩ := hm view hview r.1 r.2 hlook
    obtain ⟨ending, hcomes, hQ⟩ := hf r.1 ha r.2 hview'
    exact ⟨ending, .bind hlook hcomes, hQ⟩

/-- A step whose value is known. -/
theorem runs {m : ConverterM α} {look : LookM α} [Looks m look] {f : α → ConverterM (List ValueId)} {a : α}
    (hm : Runs site look a) (hf : Ends site (f a) Q) : Ends site (m >>= f) Q := by
  refine bind (.of_runs hm) ?_
  rintro _ rfl
  exact hf

theorem imp {m : ConverterM (List ValueId)} {Q' : Lowering → Prop} (hm : Ends site m Q) (h : ∀ l, Q l → Q' l) :
    Ends site m Q' := by
  intro view hview
  obtain ⟨ending, hcomes, hQ⟩ := hm view hview
  exact ⟨ending, hcomes, fun l view' he => h l (hQ l view' he)⟩

theorem of_lowers {m : ConverterM (List ValueId)} {l : Lowering} (hm : Lowers site m l) (h : Q l) :
    Ends site m Q := by
  intro view hview
  obtain ⟨view', hcomes⟩ := hm view hview
  refine ⟨_, hcomes, ?_⟩
  rintro _ _ ⟨⟩
  exact h

/-- How a converter ends on a node of which no attribute has been read. -/
theorem cases (c : Converter) (h : Ends site c.lower Q) :
    (∃ e, c.Refuses site e) ∨ ∃ l, Q l ∧ c.Lowers site l := by
  obtain ⟨_ | ⟨l, view⟩, hcomes, hQ⟩ := h _ (.ofBag site)
  · exact .inl ⟨_, hcomes⟩
  · exact .inr ⟨l, hQ l view rfl, view, hcomes⟩

theorem guard {c : Prop} [Decidable c] {key reason : String} {f : α → ConverterM (List ValueId)}
    {m : ConverterM (List ValueId)} (h : ¬c → Ends site m Q) :
    Ends site (if c then (liftM (invalid key reason : LookM α) >>= f) else m) Q := by
  split
  · exact fun _ _ => ⟨.error _, .bind_error rfl, nofun⟩
  · next hc => exact h hc

theorem emit {params : Params} {types : List TensorType}
    (h : Q ⟨[], some (.instruction (site.instruction params types))⟩) : Ends site (emit params types) Q :=
  .of_lowers .emit h

end Ends

namespace Meets
variable {α β : Type} {site site' : Site} {R : α → β → Prop} {S : Lowering → Lowering → Prop}

theorem bind {m : ConverterM α} {m' : ConverterM β} {look : LookM α} {look' : LookM β} [Looks m look] [Looks m' look']
    {f : α → ConverterM (List ValueId)} {f' : β → ConverterM (List ValueId)} (hm : Match site site' R look look')
    (hf : ∀ a b, R a b → Meets site site' S (f a) (f' b)) : Meets site site' S (m >>= f) (m' >>= f') := by
  intro view view' hview hview'
  have hstep := hm view view' hview hview'
  generalize hlook : look site view = x at hstep
  generalize hlook' : look' site' view' = x' at hstep
  cases hstep with
  | failed e => exact ⟨.error e, .error e, .bind_error hlook, .bind_error hlook', .failed e⟩
  | returned h =>
    obtain ⟨ending, ending', hcomes, hcomes', hagree⟩ := hf _ _ h.1 _ _ h.2.1 h.2.2
    exact ⟨ending, ending', .bind hlook hcomes, .bind hlook' hcomes', hagree⟩

/-- A step that comes to the same on both sides. -/
theorem step {m m' : ConverterM α} {look look' : LookM α} [Looks m look] [Looks m' look']
    {f f' : α → ConverterM (List ValueId)} (hm : Match site site' Eq look look')
    (hf : ∀ a, Meets site site' S (f a) (f' a)) : Meets site site' S (m >>= f) (m' >>= f') := by
  refine bind hm ?_
  rintro a _ rfl
  exact hf a

/-- A step of which the values are known. -/
theorem runs {m : ConverterM α} {m' : ConverterM β} {look : LookM α} {look' : LookM β} [Looks m look] [Looks m' look']
    {f : α → ConverterM (List ValueId)} {f' : β → ConverterM (List ValueId)} {a : α} {b : β} (hm : Runs site look a)
    (hm' : Runs site' look' b) (hf : Meets site site' S (f a) (f' b)) : Meets site site' S (m >>= f) (m' >>= f') := by
  refine bind (.both hm hm') ?_
  rintro _ _ ⟨rfl, rfl⟩
  exact hf

theorem of_lowers {m m' : ConverterM (List ValueId)} {l l' : Lowering} (hm : Lowers site m l) (hm' : Lowers site' m' l')
    (h : S l l') : Meets site site' S m m' := by
  intro view view' hview hview'
  obtain ⟨last, hcomes⟩ := hm view hview
  obtain ⟨last', hcomes'⟩ := hm' view' hview'
  exact ⟨_, _, hcomes, hcomes', .returned h⟩

/-- How converters that agree end on nodes of which no attribute has been read. -/
theorem cases (c c' : Converter) (h : Meets site site' S c.lower c'.lower) :
    (∃ e, c.Refuses site e ∧ c'.Refuses site' e) ∨ ∃ l l', c.Lowers site l ∧ c'.Lowers site' l' ∧ S l l' := by
  obtain ⟨_, _, hcomes, hcomes', e | hS⟩ := h _ _ (.ofBag site) (.ofBag site')
  · exact .inl ⟨e, hcomes, hcomes'⟩
  · exact .inr ⟨_, _, ⟨_, hcomes⟩, ⟨_, hcomes'⟩, hS⟩

theorem ite {c : Prop} [Decidable c] {m n m' n' : ConverterM (List ValueId)} (hm : Meets site site' S m m')
    (hn : Meets site site' S n n') : Meets site site' S (if c then m else n) (if c then m' else n') := by
  split
  · exact hm
  · exact hn

/-- A check that fails or does nothing. -/
theorem guard {c : Prop} [Decidable c] {key reason : String} {f f' : α → ConverterM (List ValueId)}
    {m m' : ConverterM (List ValueId)} (h : ¬c → Meets site site' S m m') :
    Meets site site' S (if c then (liftM (invalid key reason : LookM α) >>= f) else m)
      (if c then (liftM (invalid key reason : LookM α) >>= f') else m') := by
  split
  · exact fun _ _ _ _ => ⟨.error _, .error _, .bind_error rfl, .bind_error rfl, .failed _⟩
  · next hc => exact h hc

theorem inputType {x : TensorType} (t : Site.Twins x site site') {f f' : TensorType → ConverterM (List ValueId)}
    (h : Meets site site' S (f x) (f' x)) :
    Meets site site' S (liftM (inputType 0) >>= f) (liftM (inputType 0) >>= f') :=
  .runs (.inputType t.typed) (.inputType t.typed') h

end Meets

end ConverterM

theorem Registry.find?_of_reduction {kind : String} (h : kind ∈ Operator.reductionNames) :
    Registry.builtin.find? kind = some (.of Operator.reduce) := by
  simp only [Operator.reductionNames, List.mem_cons, List.not_mem_nil, or_false] at h
  rcases h with rfl | rfl | rfl | rfl | rfl | rfl <;> rfl

end ModelImport
