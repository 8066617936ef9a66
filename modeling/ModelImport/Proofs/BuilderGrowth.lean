import ModelImport.Function.Builder
/-!
# Functions under construction

What a builder does to a function it does not undo: values, arguments and instructions stay what and where they are
(`Function.Extends`), and all that changes is the innermost open block (`Builder.Grows`). A block that is opened and
closed again leaves every older block as it was (`grows_openBlock`).
-/

namespace ModelImport

/-- Arguments and instructions stay; results may be set anew. -/
structure Block.Extends (a b : Block) : Prop where
  arguments : ∀ v ∈ a.arguments, v ∈ b.arguments
  instructions : ∀ (i : Nat) ins, a.instructions[i]? = some ins → b.instructions[i]? = some ins

theorem Block.Extends.refl (a : Block) : a.Extends a := ⟨fun _ h => h, fun _ _ h => h⟩

theorem Block.Extends.trans {a b c : Block} (h : a.Extends b) (h' : b.Extends c) : a.Extends c :=
  ⟨fun v hv => h'.arguments v (h.arguments v hv), fun i ins hi => h'.instructions i ins (h.instructions i ins hi)⟩

structure Function.Extends (f g : Function) : Prop where
  values : ∀ v r, f.value? v = some r → g.value? v = some r
  placeholders : ∀ v ∈ f.placeholders, v ∈ g.placeholders
  constants : ∀ v ∈ f.constants, v ∈ g.constants
  /-- The data of the values that there are. -/
  data : ∀ v r, f.value? v = some r → g.constant? v = f.constant? v
  blocks : ∀ x blk, f.block? x = some blk → ∃ blk', g.block? x = some blk' ∧ blk.Extends blk'

namespace Function

theorem Extends.refl (f : Function) : f.Extends f :=
  ⟨fun _ _ h => h, fun _ h => h, fun _ h => h, fun _ _ _ => rfl, fun _ blk h => ⟨blk, h, .refl blk⟩⟩

theorem Extends.trans {f g k : Function} (h : f.Extends g) (h' : g.Extends k) : f.Extends k := by
  refine ⟨fun v r hv => h'.values v r (h.values v r hv), fun v hv => h'.placeholders v (h.placeholders v hv),
    fun v hv => h'.constants v (h.constants v hv),
    fun v r hv => (h'.data v r (h.values v r hv)).trans (h.data v r hv), fun x blk hx => ?_⟩
  obtain ⟨blk', hx', hb⟩ := h.blocks x blk hx
  obtain ⟨blk'', hx'', hb'⟩ := h'.blocks x blk' hx'
  exact ⟨blk'', hx'', hb.trans hb'⟩

end Function

namespace Builder

/-- The builder has gone on, in its innermost open block or in blocks that are closed again. -/
structure Grows (b b' : Builder) : Prop where
  stack : b'.stack = b.stack
  function : b.function.Extends b'.function
  others : ∀ x blk, x ≠ b.current → b.function.block? x = some blk → b'.function.block? x = some blk

theorem Grows.refl (b : Builder) : b.Grows b := ⟨rfl, .refl _, fun _ _ _ h => h⟩

theorem Grows.current {b b' : Builder} (h : b.Grows b') : b'.current = b.current := by
  rw [Builder.current, h.stack, Builder.current]

theorem Grows.trans {b b' b'' : Builder} (h : b.Grows b') (h' : b'.Grows b'') : b.Grows b'' :=
  ⟨h'.stack.trans h.stack, h.function.trans h'.function,
    fun x blk hx hb => h'.others x blk (h.current ▸ hx) (h.others x blk hx hb)⟩

/-! ## Single steps -/

theorem value?_pushValue (b : Builder) (r : Value) (v : ValueId) :
    (b.pushValue r).function.value? v = if v = b.nextValue then some r else b.function.value? v := by
  simp only [Function.value?, pushValue, Array.getElem?_push]
  by_cases hv : v.index = b.function.values.size
  · rw [if_pos hv, if_pos (by cases v; exact congrArg ValueId.mk hv)]
  · rw [if_neg hv, if_neg (by rintro rfl; exact hv rfl)]

theorem value?_nextValue (b : Builder) : b.function.value? b.nextValue = none := by
  simp [Function.value?, nextValue]

theorem extends_pushValue (b : Builder) (r : Value) : b.function.Extends (b.pushValue r).function := by
  refine ⟨fun v q hv => ?_, fun _ h => h, fun _ h => h, fun _ _ _ => rfl, fun _ blk h => ⟨blk, h, .refl blk⟩⟩
  rw [value?_pushValue, if_neg, hv]
  rintro rfl
  rw [value?_nextValue] at hv
  cases hv

theorem block?_modifyBlock (b : Builder) (id : BlockId) (g : Block → Block) (x : BlockId) :
    (b.modifyBlock id g).function.block? x = if x = id then (b.function.block? x).map g else b.function.block? x := by
  simp only [Function.block?, modifyBlock, Array.getElem?_modify]
  by_cases hx : x = id
  · rw [if_pos hx, if_pos (congrArg BlockId.index hx).symm]
  · rw [if_neg hx, if_neg]
    intro he
    cases x; cases id
    exact hx (congrArg BlockId.mk he.symm)

theorem grows_modifyBlock {b : Builder} {id : BlockId} (hid : id = b.current) {g : Block → Block}
    (hg : ∀ blk, Block.Extends blk (g blk)) : b.Grows (b.modifyBlock id g) := by
  subst hid
  refine ⟨rfl, ⟨fun _ _ h => h, fun _ h => h, fun _ h => h, fun _ _ _ => rfl, fun x blk hx => ?_⟩,
    fun x blk hx hb => ?_⟩
  · rw [block?_modifyBlock, hx]
    split
    · exact ⟨g blk, rfl, hg blk⟩
    · exact ⟨blk, rfl, .refl blk⟩
  · rw [block?_modifyBlock, if_neg hx, hb]

theorem grows_pushValue (b : Builder) (r : Value) : b.Grows (b.pushValue r) :=
  ⟨rfl, extends_pushValue b r, fun _ _ _ h => h⟩

theorem grows_createPlaceholder (b : Builder) (name : String) (type : TensorType) :
    b.Grows (b.createPlaceholder name type).2 := by
  refine (grows_pushValue b ⟨name, type, .placeholder⟩).trans ⟨rfl, ?_, fun _ _ _ h => h⟩
  exact ⟨fun _ _ h => h, fun _ h => Array.mem_push_of_mem _ h, fun _ h => h, fun _ _ _ => rfl,
    fun _ blk h => ⟨blk, h, .refl blk⟩⟩

/-- New data are those of the next value, which is not there yet. -/
theorem grows_createConstant (b : Builder) (name : String) (data : TensorData) :
    b.Grows (b.createConstant name data).2 := by
  have hvalues := (extends_pushValue b ⟨name, .ofSizes data.element data.shape.dims, .constant⟩).values
  refine ⟨rfl, ⟨hvalues, fun _ h => h, fun _ h => Array.mem_push_of_mem _ h, fun v r hv => ?_,
    fun _ blk h => ⟨blk, h, .refl blk⟩⟩, fun _ _ _ h => h⟩
  refine DataTable.find?_insert_of_ne fun he => ?_
  rw [he, value?_nextValue] at hv
  cases hv

theorem grows_createArgument (b : Builder) (name : String) (type : TensorType) :
    b.Grows (b.createArgument name type).2 := by
  refine (grows_pushValue b ⟨name, type, .argument b.current⟩).trans (grows_modifyBlock rfl fun blk => ?_)
  exact ⟨fun _ h => Array.mem_push_of_mem _ h, fun _ _ h => h⟩

theorem grows_setResults (b : Builder) (results : List ValueId) : b.Grows (b.setResults results) :=
  grows_modifyBlock rfl fun _ => ⟨fun _ h => h, fun _ _ h => h⟩

/-! ## Instructions -/

theorem grows_pushResults (block : BlockId) (index : Nat) (names : List String) (types : List TensorType)
    (b : Builder) : b.Grows (pushResults block index names types b).2 := by
  induction types generalizing names b with
  | nil => exact .refl b
  | cons type types ih => exact (grows_pushValue b _).trans (ih _ _)

theorem length_pushResults (block : BlockId) (index : Nat) (names : List String) (types : List TensorType)
    (b : Builder) : (pushResults block index names types b).1.length = types.length := by
  induction types generalizing names b with
  | nil => rfl
  | cons type types ih => exact congrArg Nat.succ (ih _ _)

/-- The blocks are not touched before the instruction is added. -/
theorem blocks_pushResults (block : BlockId) (index : Nat) (names : List String) (types : List TensorType)
    (b : Builder) : (pushResults block index names types b).2.function.blocks = b.function.blocks := by
  induction types generalizing names b with
  | nil => rfl
  | cons type types ih => exact ih _ _

/-- The results come after all other values, in the order of their types. -/
theorem pushResults_eq (block : BlockId) (index : Nat) (names : List String) (types : List TensorType) (b : Builder) :
    ∃ records : List Value, records.map Value.type = types ∧ (∀ r ∈ records, r.definition = .instruction block index) ∧
      pushResults block index names types b = ((List.range' b.function.values.size types.length).map ValueId.mk,
        { b with function.values := b.function.values ++ records.toArray }) := by
  induction types generalizing names b with
  | nil => exact ⟨[], rfl, nofun, by simp [pushResults]⟩
  | cons type types ih =>
    obtain ⟨records, htypes, hdef, he⟩ := ih names.tail
      (b.pushValue ⟨names.head?.getD "", type, .instruction block index⟩)
    refine ⟨⟨names.head?.getD "", type, .instruction block index⟩ :: records, by rw [List.map_cons, htypes],
      List.forall_mem_cons.2 ⟨rfl, hdef⟩, ?_⟩
    rw [pushResults, he]
    simp [pushValue, nextValue, List.range'_succ]

theorem definition_pushResults {block : BlockId} {index : Nat} {names : List String} {types : List TensorType}
    {b : Builder} {v : ValueId} (hv : v ∈ (pushResults block index names types b).1) :
    ∃ r, (pushResults block index names types b).2.function.value? v = some r ∧
      r.definition = .instruction block index := by
  induction types generalizing names b with
  | nil => cases hv
  | cons type types ih =>
    rcases List.mem_cons.1 hv with rfl | hv
    · exact ⟨_, (grows_pushResults _ _ _ types _).function.values _ _
        ((value?_pushValue b _ _).trans (if_pos rfl)), rfl⟩
    · exact ih hv

/-- The number of instructions of the innermost open block. -/
def position (b : Builder) : Nat := ((b.function.block? b.current).map fun blk => blk.instructions.size).getD 0

theorem position_eq {b : Builder} {blk : Block} (h : b.function.block? b.current = some blk) :
    b.position = blk.instructions.size := by
  rw [position, h]
  rfl

theorem Grows.position_le {b b' : Builder} (h : b.Grows b') : b.position ≤ b'.position := by
  cases hb : b.function.block? b.current with
  | none => simp [position, hb]
  | some blk =>
    obtain ⟨blk', hb', he⟩ := h.function.blocks _ _ hb
    rw [position_eq hb, position_eq (h.current ▸ hb')]
    -- an instruction beyond the end of the extended block would have been lost
    refine Nat.le_of_not_lt fun hlt => ?_
    have hlast := he.instructions _ _ (Array.getElem?_eq_getElem hlt)
    simp at hlast

/-- The instruction that an operation becomes. -/
def instructionOf (b : Builder) (op : OpSpec) : Instruction :=
  ⟨op.opType, op.name, op.operands, op.params, (b.append op).1⟩

theorem append_snd (b : Builder) (op : OpSpec) :
    (b.append op).2 = (pushResults b.current b.position op.resultNames op.resultTypes b).2.modifyBlock b.current
      fun blk => { blk with instructions := blk.instructions.push (b.instructionOf op) } := rfl

theorem length_append (b : Builder) (op : OpSpec) : (b.append op).1.length = op.resultTypes.length :=
  length_pushResults ..

/-- The types of the values, with those of the results at the end. -/
theorem types_append (b : Builder) (op : OpSpec) : (b.append op).2.function.values.map Value.type =
    b.function.values.map Value.type ++ op.resultTypes.toArray := by
  obtain ⟨records, htypes, -, he⟩ := pushResults_eq b.current b.position op.resultNames op.resultTypes b
  rw [append_snd, he]
  simp [modifyBlock, ← htypes]

theorem constants_append (b : Builder) (op : OpSpec) : (b.append op).2.function.constants = b.function.constants := by
  obtain ⟨records, -, -, he⟩ := pushResults_eq b.current b.position op.resultNames op.resultTypes b
  rw [append_snd, he]
  rfl

theorem grows_append (b : Builder) (op : OpSpec) : b.Grows (b.append op).2 := by
  have h := grows_pushResults b.current b.position op.resultNames op.resultTypes b
  refine h.trans (grows_modifyBlock h.current.symm fun blk => ⟨fun _ hv => hv, fun i ins hi => ?_⟩)
  rw [Array.getElem?_push, if_neg, hi]
  rintro rfl
  simp at hi

theorem block?_append (b : Builder) (op : OpSpec) (x : BlockId) :
    (b.append op).2.function.block? x =
      if x = b.current then (b.function.block? x).map fun blk =>
        { blk with instructions := blk.instructions.push (b.instructionOf op) }
      else b.function.block? x := by
  rw [append_snd, block?_modifyBlock]
  simp only [Function.block?, blocks_pushResults]

/-! ## Nested blocks -/

theorem block?_openBlock (b : Builder) (name : String) (x : BlockId) :
    (b.openBlock name).2.function.block? x =
      if x = (b.openBlock name).1 then some (.new (b.openBlock name).1 name) else b.function.block? x := by
  rw [Function.block?, openBlock, Array.getElem?_push]
  by_cases hx : x = ⟨b.function.blocks.size⟩
  · rw [if_pos (congrArg BlockId.index hx), if_pos hx]
  · rw [if_neg, if_neg hx]
    · rfl
    · intro he
      cases x
      exact hx (congrArg BlockId.mk he)

theorem block?_openBlock_fst (b : Builder) (name : String) : b.function.block? (b.openBlock name).1 = none := by
  simp [Function.block?, openBlock]

@[simp] theorem function_closeBlock (b : Builder) : b.closeBlock.2.function = b.function := by
  unfold closeBlock
  split <;> rfl

theorem stack_closeBlock (b : Builder) :
    b.closeBlock.2.stack = if 1 < b.stack.length then b.stack.tail else b.stack := by
  unfold closeBlock
  split <;> rfl

/-- A block around which another is open is closed. -/
theorem stack_closeBlock_of {b : Builder} {x : BlockId} {stack : List BlockId} (hs : stack ≠ [])
    (h : b.stack = x :: stack) : b.closeBlock.2.stack = stack := by
  rw [stack_closeBlock, h]
  exact if_pos (Nat.succ_lt_succ (List.length_pos_iff.2 hs))

/-- Opening a block, filling it and closing it again: the older blocks are as they were. -/
theorem block?_closeBlock {b b' : Builder} {name : String} (h : (b.openBlock name).2.Grows b') {x : BlockId}
    {blk : Block} (hx : b.function.block? x = some blk) : b'.closeBlock.2.function.block? x = some blk := by
  have hne : x ≠ (b.openBlock name).1 := by
    rintro rfl
    rw [block?_openBlock_fst] at hx
    cases hx
  rw [function_closeBlock]
  exact h.others x blk hne (by rw [block?_openBlock, if_neg hne, hx])

/-- There has to be a block around the one that is opened: the last one is not closed. -/
theorem grows_openBlock {b b' : Builder} {name : String} (hs : b.stack ≠ []) (h : (b.openBlock name).2.Grows b') :
    b.Grows b'.closeBlock.2 := by
  refine ⟨?_, ⟨?_, ?_, ?_, ?_, fun x blk hx => ?_⟩, fun x blk _ hx => block?_closeBlock h hx⟩
  · exact stack_closeBlock_of hs h.stack
  · rw [function_closeBlock]
    exact h.function.values
  · rw [function_closeBlock]
    exact h.function.placeholders
  · rw [function_closeBlock]
    exact h.function.constants
  · rw [function_closeBlock]
    exact h.function.data
  · exact ⟨blk, block?_closeBlock h hx, .refl blk⟩

end Builder

end ModelImport
