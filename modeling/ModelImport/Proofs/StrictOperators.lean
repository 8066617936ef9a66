import ModelImport.Proofs.StrictBuilder
import ModelImport.Proofs.StrictLayout
/-!
# Strict converters of numeric operators

The converters that compute with their operands, in terms of strict accesses. Each reads the site and the attributes in
the steps of the library, and makes its own accesses between them. What a step returns, once it has not failed, is what
makes the accesses after it safe: a count that was checked, a window with an entry for each axis, an axis within the
rank.
-/

namespace ModelImport

namespace LookM
variable {α β : Type} {site : Site}

/-! ## What steps return -/

theorem returns_checkInputs {least : Nat} {most : Option Nat} : Returns site (checkInputs least most) fun _ =>
    least ≤ site.operands.length ∧ ∀ n, most = some n → site.operands.length ≤ n :=
  returns_bind_read returns_checkCount

theorem returns_checkArity {inputs : Nat} : Returns site (checkArity inputs) fun _ =>
    site.operands.length = inputs ∧ site.node.outputs.length = 1 := by
  refine returns_bind returns_checkInputs fun _ hin => returns_imp returns_checkOutputs fun _ hout => ⟨?_, ?_⟩
  · exact Nat.le_antisymm (hin.2 inputs rfl) hin.1
  · exact Nat.le_antisymm (hout.2 1 rfl) hout.1

theorem returns_lift {x : Except ImportError α} : Returns site (liftM x : LookM α) fun a => x = .ok a := by
  intro view a view' h
  cases x with
  | error e => cases h
  | ok b =>
    cases h
    rfl

theorem returns_outputCount : Returns site outputCount (· = site.node.outputs.length) := returns_read

/-! ## Types of operands -/

/-- A step that notes nothing, so that what it comes to depends on the site alone. -/
def Answers (site : Site) (m : LookM α) (answer : Except ImportError α) : Prop :=
  ∀ view, m site view = answer.map (·, view)

theorem answers_mapM {f : β → LookM α} {g : β → Except ImportError α} (h : ∀ b, Answers site (f b) (g b))
    (bs : List β) : Answers site (bs.mapM f) (bs.mapM g) := by
  induction bs with
  | nil => exact fun _ => rfl
  | cons b bs ih =>
    intro view
    simp only [List.mapM_cons, bind, ReaderT.bind, StateT.bind, Except.bind, h b view]
    cases g b with
    | error e => rfl
    | ok a =>
      simp only [Except.map, ih view]
      cases bs.mapM g <;> rfl

theorem Answers.returns {m : LookM α} {answer : Except ImportError α} (h : Answers site m answer) :
    Returns site m fun a => answer = .ok a := by
  intro view a view' ha
  rw [h view] at ha
  cases answer with
  | error e => cases ha
  | ok b =>
    cases ha
    rfl

/-- Each result of steps taken in a row is that of the step at its place. -/
theorem getElem?_mapM {f : β → Except ImportError α} {bs : List β} {as : List α} (h : bs.mapM f = .ok as) {place : Nat}
    {b : β} (hb : bs[place]? = some b) : ∃ a, as[place]? = some a ∧ f b = .ok a := by
  induction bs generalizing as place with
  | nil => simp at hb
  | cons first bs ih =>
    simp only [List.mapM_cons, bind, Except.bind] at h
    split at h
    · cases h
    · next a ha =>
      split at h
      · cases h
      · next rest hrest =>
        cases h
        cases place with
        | zero =>
          simp only [List.getElem?_cons_zero, Option.some.injEq] at hb
          subst hb
          exact ⟨a, rfl, ha⟩
        | succ place => exact ih hrest hb

/-- The type of an operand, which must be there. -/
def typeAt (site : Site) (place : Nat) : Except ImportError TensorType :=
  match (site.operands[place]?).join with
  | none => .error (.arity site.node.opType "inputs" (place + 1) none (site.operands.countP Option.isSome))
  | some v =>
    match site.function.type? v with
    | some type => .ok type
    | none => .error (.nameNotFound v.text)

theorem answers_inputType (site : Site) (place : Nat) : Answers site (inputType place) (typeAt site place) := by
  intro view
  have hinput : input? place site view = .ok ((site.operands[place]?).join, view) := rfl
  simp only [inputType, input, typeOf, typeAt, bind, ReaderT.bind, StateT.bind, Except.bind, hinput]
  cases (site.operands[place]?).join with
  | none => rfl
  | some v =>
    have hpure : (pure v : LookM ValueId) site view = .ok (v, view) := rfl
    have hread : (read : LookM Site) site view = .ok (site, view) := rfl
    simp only [hpure, hread]
    cases site.function.type? v <;> rfl

theorem answers_inputTypes (site : Site) :
    Answers site inputTypes ((List.range site.operands.length).mapM (typeAt site)) :=
  answers_mapM (answers_inputType site) _

end LookM

namespace StrictM.Agrees
variable {α β : Type} {site : Site}

open LookM

/-- A step of the library whose outcome is known to be a value. -/
theorem looked {m : StrictM β} {n : ConverterM α} {look : LookM α} [hn : ConverterM.Looks n look] {a : α}
    {g : α → ConverterM β} (hlook : Answers site look (.ok a)) (h : Agrees site m (g a)) : Agrees site m (n >>= g) := by
  intro view stack hstanding
  rw [hn.eq, ConverterM.look_bind, show look ⟨site.toContext, site.function⟩ view = _ from hlook view]
  exact h view stack hstanding

/-- Steps of the library of which both sides take one, and both fail. -/
theorem failed {γ δ : Type} {m : StrictM α} {n : ConverterM γ} {slook : StrictLookM α} {look : LookM γ}
    [hm : StrictM.Looks m slook] [hn : ConverterM.Looks n look] {f : α → StrictM δ} {g : γ → ConverterM δ}
    {e : ImportError} (hslook : ∀ view, slook site view = .error (.failure e))
    (hlook : Answers site look (.error e)) : Agrees site (m >>= f) (n >>= g) := by
  intro view stack _
  rw [hm.eq, hn.eq, StrictM.look_bind, ConverterM.look_bind,
    show slook ⟨site.toContext, site.function⟩ view = _ from hslook view,
    show look ⟨site.toContext, site.function⟩ view = _ from hlook view]
  rfl

/-- The first of the types read on its own before all of them are. -/
theorem inputTypes {f : List TensorType → StrictM β} {g : TensorType → List TensorType → ConverterM β}
    (hsome : site.operands ≠ [])
    (h : ∀ start rest, Agrees site (f (start :: rest)) (g start (start :: rest))) :
    Agrees site (liftM LookM.inputTypes >>= f)
      (liftM (inputType 0) >>= fun start => liftM LookM.inputTypes >>= g start) := by
  obtain ⟨n, hn⟩ := Nat.exists_eq_succ_of_ne_zero (fun hzero => hsome (List.length_eq_zero_iff.1 hzero))
  have hall := answers_inputTypes site
  rw [hn, List.range_succ_eq_map, List.mapM_cons] at hall
  cases hstart : typeAt site 0 with
  | error e =>
    rw [hstart] at hall
    have hfirst : Answers site (inputType 0) (.error e) := hstart ▸ answers_inputType site 0
    exact .failed (fun view => congrArg (Except.mapError Stop.failure) (hall view)) hfirst
  | ok start =>
    rw [hstart] at hall
    have hfirst : Answers site (inputType 0) (.ok start) := hstart ▸ answers_inputType site 0
    refine .looked hfirst (.bind .lift hall.returns fun types htypes => ?_)
    obtain ⟨rest, rfl⟩ : ∃ rest, types = start :: rest := by
      cases hrest : List.mapM (typeAt site) (List.map Nat.succ (List.range n)) with
      | error e =>
        rw [hrest] at htypes
        cases htypes
      | ok rest =>
        rw [hrest] at htypes
        cases htypes
        exact ⟨rest, rfl⟩
    exact h start rest

end StrictM.Agrees

namespace Strict

open LookM ConverterM Infer Operator StrictM

variable {site : Site}

/-! ## Activations -/

def prelu : StrictM (List ValueId) := do
  checkArity 2
  let x ← inputType 0
  let slope ← inputType 1
  let type ← broadcastType x.element [x, slope]
  emit [] [type]

theorem prelu_agrees : Agrees site prelu Operator.prelu :=
  .step .lift fun _ => .step .lift fun _ => .step .lift fun _ => .access (broadcastType_eq ..) .emit

/-! ## Elementwise operators -/

/-- The operands broadcast, with the element type of the one at a place. -/
def likeOperand (place : Nat) (params : Params) : StrictM (List ValueId) := do
  let types ← inputTypes
  let x ← index types place
  let type ← broadcastType x.element types
  emit params [type]

theorem likeFirst_agrees (h : site.operands ≠ []) (params : Params) :
    Agrees site (likeOperand 0 params) (likeFirst params) :=
  .inputTypes h fun _ _ => .access rfl (.access (broadcastType_eq ..) .emit)

def binary (params : Params) : StrictM (List ValueId) := do
  checkArity 2
  likeOperand 0 params

theorem binary_agrees (params : Params) : Agrees site (binary params) (Operator.binary params) := by
  refine .bind .lift returns_checkArity fun _ harity => likeFirst_agrees ?_ params
  intro hnone
  simp [hnone] at harity

def comparison : StrictM (List ValueId) := do
  checkArity 2
  let types ← inputTypes
  let type ← broadcastType .bool types
  emit [] [type]

theorem comparison_agrees : Agrees site comparison Operator.comparison :=
  .step .lift fun _ => .step .lift fun _ => .access (broadcastType_eq ..) .emit

def variadic : StrictM (List ValueId) := do
  checkInputs 1 none
  checkOutputs 1 (some 1)
  likeOperand 0 []

theorem variadic_agrees : Agrees site variadic Operator.variadic := by
  refine .bind .lift returns_checkInputs fun _ hinputs => .step .lift fun _ => likeFirst_agrees ?_ []
  intro hnone
  simp [hnone] at hinputs

def modulo : StrictM (List ValueId) := do
  let fmod ← attrOr .int "fmod" 0
  if fmod ≠ 0 ∧ fmod ≠ 1 then invalid "fmod" s!"expected 0 or 1, got {fmod}"
  binary [("fmod", .int fmod)]

theorem modulo_agrees : Agrees site modulo Operator.modulo :=
  .step .lift fun _ => .guard fun _ => binary_agrees _

def bitShift : StrictM (List ValueId) := do
  let direction ← attr .string "direction"
  if direction ≠ "LEFT" ∧ direction ≠ "RIGHT" then
    invalid "direction" s!"expected LEFT or RIGHT, got {Text.quoted direction}"
  binary [("direction", .string direction)]

theorem bitShift_agrees : Agrees site bitShift Operator.bitShift :=
  .step .lift fun _ => .guard fun _ => binary_agrees _

def select : StrictM (List ValueId) := do
  checkArity 3
  likeOperand 1 []

theorem select_agrees : Agrees site select Operator.select := by
  refine .bind .lift returns_checkArity fun _ harity => ?_
  refine .bind .lift (answers_inputTypes site).returns fun types htypes => ?_
  have hplace : (List.range site.operands.length)[1]? = some 1 := by
    rw [harity.1]
    rfl
  obtain ⟨x, hindex, hx⟩ := getElem?_mapM htypes hplace
  refine .access (index_eq_ok.2 hindex) (.looked (a := x) ?_ (.access (broadcastType_eq ..) .emit))
  rw [← hx]
  exact answers_inputType site 1

/-! ## Products -/

def matMul : StrictM (List ValueId) := do
  checkArity 2
  let a ← inputType 0
  let b ← inputType 1
  let type ← matMulType a b
  emit [] [type]

theorem matMul_agrees : Agrees site matMul Operator.matMul :=
  .step .lift fun _ => .step .lift fun _ => .step .lift fun _ => .access (matMulType_eq ..) .emit

def einsum : StrictM (List ValueId) := do
  checkInputs 1 none
  checkOutputs 1 (some 1)
  let equation ← attr .string "equation"
  let parsed ← Einsum.parse equation
  let types ← inputTypes
  let type ← outputType parsed types
  emit [("equation", .string equation)] [type]

theorem einsum_agrees : Agrees site einsum Operator.einsum := by
  refine .bind .lift returns_checkInputs fun _ hinputs => .step .lift fun _ => .step .lift fun equation => ?_
  refine .bind .fallible returns_lift fun parsed hparsed => .inputTypes ?_ fun start rest => ?_
  · intro hnone
    simp [hnone] at hinputs
  · exact .step (.except (outputType_agrees (count_parse hparsed) rfl)) fun _ => .emit

/-! ## Convolutions -/

def readKernel (spatial : Nat) (weights : Option TensorType) : StrictLookM (List Nat) := do
  match ← attr? .ints "kernel_shape" with
  | some kernel => nonNegative "kernel_shape" kernel
  | none =>
    match weights with
    | none => (throw (.missingAttribute "kernel_shape") : LookM (List Nat))
    | some w =>
      match w.sizes? with
      | some sizes => if sizes.length = spatial + 2 then since sizes 2 else return []
      | none => return []

theorem readKernel_agrees (spatial : Nat) (weights : Option TensorType) :
    StrictLookM.Agrees site (readKernel spatial weights) (Operator.readKernel spatial weights) := by
  refine .step .lift fun kernel => ?_
  cases kernel with
  | some kernel => exact .fallible
  | none =>
    cases weights with
    | none => exact .lift
    | some w =>
      dsimp only
      cases w.sizes? with
      | none => exact .pure
      | some sizes =>
        dsimp only
        split
        · next hlength =>
          rw [since_eq (by omega)]
          exact .pure
        · exact .pure

def readWindow (spatial : Nat) (weights : Option TensorType) : StrictLookM Window := do
  let kernel ← readKernel spatial weights
  if kernel ≠ [] ∧ kernel.length ≠ spatial then
    invalid "kernel_shape" s!"expected {spatial} values, got {kernel.length}"
  let autoPad ← readAutoPad
  let strides ← perAxis "strides" spatial 1
  let dilations ← perAxis "dilations" spatial 1
  let pads ← perAxis "pads" (spatial * 2) 0
  return { kernel, strides, dilations, pads, autoPad }

theorem readWindow_agrees (spatial : Nat) (weights : Option TensorType) :
    StrictLookM.Agrees site (readWindow spatial weights) (Operator.readWindow spatial weights) :=
  .step (readKernel_agrees spatial weights) fun _ => .guard fun _ => .step .lift fun _ => .step .lift fun _ =>
    .step .lift fun _ => .step .lift fun _ => .pure

theorem length_nonNegative {key : String} {values : List Int} {sizes : List Nat}
    (h : nonNegative key values = .ok sizes) : sizes.length = values.length := by
  rw [nonNegative_eq_ok_iff.1 h, List.length_map]

theorem returns_perAxis {key : String} {count default : Nat} :
    Returns site (perAxis key count default) fun sizes => sizes.length = count := by
  refine returns_then fun values => ?_
  cases values with
  | none => exact returns_pure List.length_replicate
  | some values =>
    dsimp only
    split
    · exact returns_throw
    · next hlength =>
      refine returns_imp returns_lift fun sizes hsizes => ?_
      rw [length_nonNegative hsizes]
      exact not_not.1 hlength

theorem returns_readWindow {spatial : Nat} {weights : Option TensorType} :
    Returns site (Operator.readWindow spatial weights) fun w => Covers w spatial := by
  refine returns_then fun kernel => ?_
  dsimp only
  split
  · exact returns_bind (P := fun _ => False) returns_throw fun _ hnever => hnever.elim
  · refine returns_then fun _ => returns_bind returns_perAxis fun strides hstrides => ?_
    refine returns_bind returns_perAxis fun dilations hdilations => returns_bind returns_perAxis fun pads hpads => ?_
    exact returns_pure ⟨hstrides, hdilations, hpads⟩

/-- There are three axes at least, and the spatial ones are those after the first two. -/
theorem returns_spatialAxes {x : TensorType} {weights : Option TensorType} : Returns site (spatialAxes x weights)
    fun spatial => ∀ dims, x.shape = some dims → 3 ≤ dims.length ∧ (dims.drop 2).length = spatial := by
  unfold spatialAxes TensorType.rank?
  cases hshape : x.shape with
  | some dims =>
    dsimp only [Option.map_some]
    split
    · exact returns_then fun _ => returns_throw
    · next hrank =>
      refine returns_pure fun dims' hdims => ?_
      cases hdims
      exact ⟨Nat.le_of_not_lt hrank, List.length_drop⟩
  | none =>
    intro view spatial view' _ dims hdims
    cases hdims

/-- The first axis of the input, the channels, and the spatial axes. -/
def convolvedType (x : TensorType) (channels : Dim) (spatial : List Dim → Except Fault (List Dim)) :
    Except Fault TensorType :=
  match x.shape with
  | none => return .unranked x.element
  | some dims => return .ranked x.element ((← index dims 0) :: channels :: (← spatial dims))

theorem convolvedType_eq {x : TensorType} {channels : Dim} {spatial : List Dim → Except Fault (List Dim)}
    {spatial' : List Dim → List Dim}
    (h : ∀ dims, x.shape = some dims → dims ≠ [] ∧ spatial dims = .ok (spatial' (dims.drop 2))) :
    convolvedType x channels spatial = .ok (Operator.convolvedType x channels spatial') := by
  unfold convolvedType Operator.convolvedType
  cases hshape : x.shape with
  | none => rfl
  | some dims =>
    obtain ⟨hsome, hspatial⟩ := h dims hshape
    obtain ⟨first, rest, rfl⟩ := List.exists_cons_of_ne_nil hsome
    simp only [hspatial]
    rfl

def conv : StrictM (List ValueId) := do
  checkInputs 2 (some 3)
  checkOutputs 1 (some 1)
  let x ← inputType 0
  let w ← inputType 1
  let group ← readGroup
  let spatial ← spatialAxes x (some w)
  let window ← readWindow spatial (some w)
  let channels := (w.shape.bind List.head?).getD .unknown
  let type ← convolvedType x channels fun dims => do outputDims window (← since dims 2) false
  emit ((windowParams window).insert "group" (.int group)) [type]

theorem conv_agrees : Agrees site conv Operator.conv := by
  refine .step .lift fun _ => .step .lift fun _ => .step .lift fun x => .step .lift fun w => ?_
  refine .step .lift fun group => .bind .lift returns_spatialAxes fun spatial hspatial => ?_
  refine .bind (readWindow_agrees spatial (some w)) returns_readWindow fun window hwindow => ?_
  refine .access (convolvedType_eq fun dims hdims => ?_) .emit
  obtain ⟨hrank, hlength⟩ := hspatial dims hdims
  refine ⟨?_, ?_⟩
  · rintro rfl
    simp at hrank
  · rw [since_eq (by omega)]
    exact outputDims_eq hwindow hlength false

/-- The spatial axes of a transposed convolution, which an attribute may fix. -/
def transposedSpatial (window : Window) (outputPadding : List Nat) (spatial : Nat) (fixed : Option (List Nat))
    (dims : List Dim) : Except Fault (List Dim) :=
  match fixed with
  | some sizes => return sizes.map .static
  | none => do transposedDims window outputPadding spatial (← since dims 2)

def convTranspose : StrictM (List ValueId) := do
  checkInputs 2 (some 3)
  checkOutputs 1 (some 1)
  let x ← inputType 0
  let w ← inputType 1
  let group ← readGroup
  let spatial ← spatialAxes x (some w)
  let window ← readWindow spatial (some w)
  let outputPadding ← perAxis "output_padding" spatial 0
  let outputShape ← attr? .ints "output_shape"
  let perGroup := (w.shape.bind fun dims => dims[1]?).bind Dim.size?
  let channels := Dim.ofSize? (perGroup.map (Word.satMul · group.toNat))
  let fixed ← match x.shape, outputShape with
    | some _, some shape => some <$> nonNegative "output_shape" shape
    | _, _ => pure none
  let type ← convolvedType x channels (transposedSpatial window outputPadding spatial fixed)
  let params := windowParams window |>.insert "group" (.int group)
    |>.insert "output_padding" (sizesParam outputPadding)
    |>.insert? "output_shape" (outputShape.map .ints)
  emit params [type]

theorem convTranspose_agrees : Agrees site convTranspose Operator.convTranspose := by
  refine .step .lift fun _ => .step .lift fun _ => .step .lift fun x => .step .lift fun w => ?_
  refine .step .lift fun group => .bind .lift returns_spatialAxes fun spatial hspatial => ?_
  refine .bind (readWindow_agrees spatial (some w)) returns_readWindow fun window hwindow => ?_
  refine .bind .lift returns_perAxis fun outputPadding hpadding => .step .lift fun outputShape => ?_
  -- whether the attribute fixes the axes is read afterwards, so the type is compared for either case
  have htype : ∀ channels fixed, convolvedType x channels (transposedSpatial window outputPadding spatial fixed) =
      .ok (Operator.convolvedType x channels fun dims =>
        match fixed with
        | some sizes => sizes.map .static
        | none => window.transposedDims outputPadding dims) := by
    intro channels fixed
    refine convolvedType_eq fun dims hdims => ?_
    obtain ⟨hrank, hlength⟩ := hspatial dims hdims
    refine ⟨?_, ?_⟩
    · rintro rfl
      simp at hrank
    · cases fixed with
      | some sizes => rfl
      | none =>
        rw [transposedSpatial, since_eq (by omega)]
        exact transposedDims_eq hwindow hpadding hlength
  cases x.shape <;> cases outputShape
  case some.some => exact .step (.map .fallible) fun fixed => .access (htype _ fixed) .emit
  all_goals exact .step .pure fun fixed => .access (htype _ fixed) .emit

/-! ## Pools -/

/-- The first two axes of the input and the window positions. -/
def pooledType (x : TensorType) (window : Window) (ceilMode : Bool) : Except Fault TensorType :=
  match x.shape with
  | none => return .unranked x.element
  | some dims => return .ranked x.element ((← upTo dims 2) ++ (← outputDims window (← since dims 2) ceilMode))

theorem pooledType_eq {x : TensorType} {window : Window} {spatial : Nat} (hwindow : Covers window spatial)
    (hspatial : ∀ dims, x.shape = some dims → 3 ≤ dims.length ∧ (dims.drop 2).length = spatial) (ceilMode : Bool) :
    pooledType x window ceilMode = .ok (Operator.pooledType x window ceilMode) := by
  unfold pooledType Operator.pooledType
  cases hshape : x.shape with
  | none => rfl
  | some dims =>
    obtain ⟨hrank, hlength⟩ := hspatial dims hshape
    have htwo : 2 ≤ dims.length := by omega
    simp only [upTo_eq htwo, since_eq htwo, bind, Except.bind, outputDims_eq hwindow hlength]
    rfl

def readPool : StrictLookM (TensorType × Params) := do
  let x ← inputType 0
  let spatial ← spatialAxes x none
  let window ← readWindow spatial none
  let ceilMode ← flag "ceil_mode" 0
  let type ← pooledType x window ceilMode
  return (type, (windowParams window).insert "ceil_mode" (.int (if ceilMode then 1 else 0)))

theorem readPool_agrees : StrictLookM.Agrees site readPool Operator.readPool := by
  refine .step .lift fun x => .bind .lift returns_spatialAxes fun spatial hspatial => ?_
  refine .bind (readWindow_agrees spatial none) returns_readWindow fun window hwindow => .step .lift fun ceilMode => ?_
  exact .access (pooledType_eq hwindow hspatial ceilMode) .pure

def maxPool : StrictM (List ValueId) := do
  checkInputs 1 (some 1)
  checkOutputs 1 (some 2)
  let (type, params) ← readPool
  let order ← attrOr .int "storage_order" 0
  let types := if (← outputCount) = 2 then [type, type.withElement .i64] else [type]
  emit (params.insert "storage_order" (.int order)) types

theorem maxPool_agrees : Agrees site maxPool Operator.maxPool :=
  .step .lift fun _ => .step .lift fun _ => .step readPool_agrees fun _ => .step .lift fun _ => .step .lift fun _ =>
    .emit

def averagePool : StrictM (List ValueId) := do
  checkArity 1
  let (type, params) ← readPool
  let includePad ← attrOr .int "count_include_pad" 0
  emit (params.insert "count_include_pad" (.int includePad)) [type]

theorem averagePool_agrees : Agrees site averagePool Operator.averagePool :=
  .step .lift fun _ => .step readPool_agrees fun _ => .step .lift fun _ => .emit

/-- The first two axes, if there are as many, and each other one collapsed. -/
def globalType (x : TensorType) : Except Fault TensorType :=
  match x.shape with
  | none => return .unranked x.element
  | some dims =>
    if 2 ≤ dims.length then do
      return .ranked x.element ((← upTo dims 2) ++ List.replicate (← minus dims.length 2) (.static 1))
    else return .unranked x.element

theorem globalType_eq (x : TensorType) : globalType x = .ok (match x.shape with
    | some (n :: c :: spatial) => .ranked x.element (n :: c :: spatial.map fun _ => .static 1)
    | _ => .unranked x.element) := by
  unfold globalType
  rcases x.shape with _ | _ | ⟨n, _ | ⟨c, spatial⟩⟩
  · rfl
  · rfl
  · rfl
  · simp [upTo_eq, minus_eq, bind, Except.bind, pure, Except.pure]

def globalPool : StrictM (List ValueId) := do
  checkArity 1
  let x ← inputType 0
  let type ← globalType x
  emit [] [type]

theorem globalPool_agrees : Agrees site globalPool Operator.globalPool := by
  refine .step .lift fun _ => .step .lift fun x => ?_
  refine .access (globalType_eq x) .emit

/-! ## Normalizations -/

def batchNormalization : StrictM (List ValueId) := do
  checkInputs 5 (some 5)
  checkOutputs 1 (some 5)
  let epsilon ← attrOr .float "epsilon" defaultEpsilon
  let momentum ← attrOr .float "momentum" ⟨0x3f666666⟩
  let training ← attrOr .int "training_mode" 0
  let spatial ← attrOr .int "spatial" 1
  if spatial ≠ 1 then invalid "spatial" "only spatial=1 is supported"
  let x ← inputType 0
  let mean ← inputType 3
  let params := Params.ofList
    [("epsilon", .float epsilon), ("momentum", .float momentum), ("training_mode", .int training)]
  let others ← minus (← outputCount) 1
  emit params (x :: List.replicate others mean)

theorem batchNormalization_agrees : Agrees site batchNormalization Operator.batchNormalization := by
  refine .step .lift fun _ => .bind .lift returns_checkOutputs fun _ houtputs => ?_
  refine .step .lift fun _ => .step .lift fun _ => .step .lift fun _ => .step .lift fun _ => .guard fun _ => ?_
  refine .step .lift fun _ => .step .lift fun _ => .bind .lift returns_outputCount fun count hcount => ?_
  exact .access (minus_eq (by omega)) .emit

def layerNormalization : StrictM (List ValueId) := do
  checkInputs 2 (some 3)
  checkOutputs 1 (some 3)
  let epsilon ← attrOr .float "epsilon" defaultEpsilon
  let stash ← attrOr .int "stash_type" 1
  let axis ← attrOr .int "axis" (-1)
  let x ← inputType 0
  let (axis, statistics) ← match x.shape with
    | none => pure (axis, TensorType.unranked .f32)
    | some dims => do
      let place ← normalizeAxis "axis" axis dims.length
      let kept ← upTo dims place
      let collapsed ← minus dims.length place
      pure ((place : Int), .ranked .f32 (kept ++ List.replicate collapsed (.static 1)))
  let params := Params.ofList [("axis", .int axis), ("epsilon", .float epsilon), ("stash_type", .int stash)]
  let others ← minus (← outputCount) 1
  emit params (x :: List.replicate others statistics)

theorem layerNormalization_agrees : Agrees site layerNormalization Operator.layerNormalization := by
  refine .step .lift fun _ => .bind .lift returns_checkOutputs fun _ houtputs => ?_
  refine .step .lift fun _ => .step .lift fun _ => .step .lift fun axis => .step .lift fun x => ?_
  cases x.shape with
  | none =>
    refine .step .pure fun _ => .bind .lift returns_outputCount fun count hcount => ?_
    exact .access (minus_eq (by omega)) .emit
  | some dims =>
    refine .bind .fallible returns_lift fun place hplace => ?_
    have hle : place ≤ dims.length := Nat.le_of_lt (lt_of_normalizeAxis hplace)
    refine .access (upTo_eq hle) (.access (minus_eq hle) (.step .pure fun _ => ?_))
    refine .bind .lift returns_outputCount fun count hcount => ?_
    exact .access (minus_eq (by omega)) .emit

def dropout : StrictM (List ValueId) := do
  checkInputs 1 (some 3)
  checkOutputs 1 (some 2)
  let _ ← attr? .float "ratio"
  let _ ← attr? .int "seed"
  let data ← input 0
  let node := (← read).node
  match node.outputs[1]? with
  | none => return [data]
  | some mask =>
    if mask = "" then return [data]
    let type := (← typeOf data).withElement .bool
    let names ← since node.outputs 1
    return data :: (← StrictM.act (append · ⟨"DropoutMask", node.displayName, [some data], [], names, [type]⟩))

theorem dropout_agrees : Agrees site dropout Operator.dropout := by
  refine .step .lift fun _ => .bind .lift returns_checkOutputs fun _ houtputs => ?_
  refine .step .lift fun _ => .step .lift fun _ => .step .lift fun data => .read ?_
  dsimp only
  rcases site.node.outputs with _ | ⟨output, _ | ⟨mask, rest⟩⟩
  · exact .pure
  · exact .pure
  · simp only [List.drop_one, List.tail_cons, List.getElem?_cons_succ, List.getElem?_cons_zero]
    split
    · exact .pure
    · exact .step .lift fun _ => .access (since_eq (by simp)) (.appended _ _)

end Strict

end ModelImport
