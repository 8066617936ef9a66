import ModelImport.Proofs.ConverterEffect
import ModelImport.Proofs.Dominance
/-!
# Definition sites

A function says in two ways where a value comes from: the record of the value names the place, and the place lists the
value. The places are kept apart from one another, in the lists of inputs and constants, in the arguments of blocks and
in the results of instructions, and the data of constants are in a table of their own. A builder has to keep all of them
in step. It does, whatever it is asked for (`builder_tables_agree`): every value is listed once at the place that its
record names and nowhere else, and the constants, no other values, have data. Nor can requests bring the stack of open
blocks into disorder, however they open and close blocks: the entry stays at its bottom.

Each request makes some values, none in most cases, that are all defined in the same way, and lists them at one place
(`Gains`). The invariant follows from that alone.
-/

namespace ModelImport

namespace Function

/-! ## Records and places -/

/-- How a value is defined according to its record. -/
def definition? (f : Function) (v : ValueId) : Option Definition := (f.value? v).map Value.definition

/-- How often a value is listed at the place of a definition. -/
def listings (f : Function) (v : ValueId) : Definition → Nat
  | .placeholder => f.placeholders.toList.count v
  | .constant => f.constants.toList.count v
  | .argument b => ((f.block? b).map fun blk => blk.arguments.toList.count v).getD 0
  | .instruction b i => ((f.instruction? b i).map fun ins => ins.results.count v).getD 0

/-- The first `count` values from number `start` on. -/
def numbered (start count : Nat) : List ValueId := (List.range' start count).map ValueId.mk

/-- The values that are defined in a given way, in the order of their creation. -/
def defined (f : Function) (d : Definition) : List ValueId :=
  (numbered 0 f.values.size).filter fun v => f.definition? v = some d

/-- The tables of a function agree with one another. -/
structure Consistent (f : Function) : Prop where
  listed : ∀ v d, f.listings v d = if f.definition? v = some d then 1 else 0
  placeholders : f.placeholders.toList = f.defined .placeholder
  constants : f.constants.toList = f.defined .constant
  entries : ∀ v, (f.constant? v).isSome ↔ v ∈ f.constants
  data : ∀ v data, f.constant? v = some data → f.type? v = some (.ofSizes data.element data.shape.dims)
  blocks : ∀ x blk, f.block? x = some blk → blk.id = x

theorem mem_numbered {start count : Nat} {v : ValueId} :
    v ∈ numbered start count ↔ start ≤ v.index ∧ v.index < start + count := by
  unfold numbered
  constructor
  · intro h
    obtain ⟨i, hi, rfl⟩ := List.mem_map.1 h
    exact List.mem_range'_1.1 hi
  · intro h
    exact List.mem_map.2 ⟨v.index, List.mem_range'_1.2 h, rfl⟩

theorem nodup_numbered (start count : Nat) : (numbered start count).Nodup := by
  have hrange : (List.range' start count).Nodup := List.nodup_range'
  unfold numbered
  rw [List.Nodup, List.pairwise_map]
  exact hrange.imp fun hne he => hne (congrArg ValueId.index he)

theorem numbered_append (start m n : Nat) :
    numbered start (m + n) = numbered start m ++ numbered (start + m) n := by
  unfold numbered
  rw [← List.map_append, List.range'_append_1]

/-! ## Values made by one request -/

/-- A function has new values, all defined in one way and listed at that place. -/
structure Gains (f g : Function) (new : List Value) (d : Definition) : Prop where
  values : g.values = f.values ++ new.toArray
  defined : ∀ r ∈ new, r.definition = d
  listings : ∀ v e,
    g.listings v e = f.listings v e + if e = d then (numbered f.values.size new.length).count v else 0
  placeholders : g.placeholders.toList =
    f.placeholders.toList ++ if d = .placeholder then numbered f.values.size new.length else []
  constants : g.constants.toList =
    f.constants.toList ++ if d = .constant then numbered f.values.size new.length else []
  /-- New constants come with data that give them their types. -/
  data : d = .constant → ∀ v ∈ numbered f.values.size new.length,
    ∃ data, g.constant? v = some data ∧ g.type? v = some (.ofSizes data.element data.shape.dims)
  kept : ∀ v, ¬(d = .constant ∧ v ∈ numbered f.values.size new.length) → g.constant? v = f.constant? v

section Gains
variable {f g : Function} {new : List Value} {d : Definition}

theorem Gains.size (h : f.Gains g new d) : g.values.size = f.values.size + new.length := by
  simp [h.values]

theorem definition?_eq_none {v : ValueId} (h : f.values.size ≤ v.index) : f.definition? v = none := by
  simp [definition?, value?, h]

theorem Gains.definition? (h : f.Gains g new d) (v : ValueId) :
    g.definition? v = if v ∈ numbered f.values.size new.length then some d else f.definition? v := by
  have hg : g.definition? v = ((f.values ++ new.toArray)[v.index]?).map Value.definition := by
    rw [Function.definition?, value?, h.values]
  rw [hg, Array.getElem?_append]
  by_cases hold : v.index < f.values.size
  · have hout : v ∉ numbered f.values.size new.length := by
      rw [mem_numbered]
      omega
    rw [if_pos hold, if_neg hout]
    rfl
  · rw [if_neg hold, List.getElem?_toArray]
    by_cases hnew : v.index - f.values.size < new.length
    · have hin : v ∈ numbered f.values.size new.length := by
        rw [mem_numbered]
        omega
      rw [if_pos hin, List.getElem?_eq_getElem hnew, Option.map_some, h.defined _ (List.getElem_mem hnew)]
    · have hout : v ∉ numbered f.values.size new.length := by
        rw [mem_numbered]
        omega
      rw [if_neg hout, List.getElem?_eq_none (by omega), definition?_eq_none (by omega)]
      rfl

/-- The new values come after all others. -/
theorem Gains.defined_eq (h : f.Gains g new d) (e : Definition) :
    g.defined e = f.defined e ++ if e = d then numbered f.values.size new.length else [] := by
  have hold : (numbered 0 f.values.size).filter (fun v => g.definition? v = some e) = f.defined e := by
    refine List.filter_congr fun v hv => ?_
    have hout : v ∉ numbered f.values.size new.length := by
      rw [mem_numbered] at hv ⊢
      omega
    rw [h.definition?, if_neg hout]
  have hnew : (numbered f.values.size new.length).filter (fun v => g.definition? v = some e) =
      if e = d then numbered f.values.size new.length else [] := by
    by_cases hd : e = d
    · rw [if_pos hd, List.filter_eq_self]
      intro v hv
      simp [h.definition?, hv, hd]
    · rw [if_neg hd, List.filter_eq_nil_iff]
      intro v hv
      simp [h.definition?, hv, Ne.symm hd]
  unfold Function.defined
  rw [h.size, numbered_append, List.filter_append, Nat.zero_add, hnew]
  congr 1

/-- What is listed once stays listed once, and so is what is new. -/
theorem Gains.listed (h : f.Gains g new d) (hf : f.Consistent) (v : ValueId) (e : Definition) :
    g.listings v e = if g.definition? v = some e then 1 else 0 := by
  rw [h.listings, h.definition?, hf.listed]
  by_cases hv : v ∈ numbered f.values.size new.length
  · have hnone : f.definition? v = none := definition?_eq_none (mem_numbered.1 hv).1
    have hone : (numbered f.values.size new.length).count v = 1 := List.count_eq_one_of_mem (nodup_numbered _ _) hv
    rw [hnone, if_pos hv, hone]
    by_cases hd : e = d
    · simp [hd]
    · simp [hd, Ne.symm hd]
  · have hzero : (numbered f.values.size new.length).count v = 0 := List.count_eq_zero.2 hv
    rw [if_neg hv, hzero]
    simp

theorem Gains.type? (h : f.Gains g new d) {v : ValueId} {type : TensorType} (hv : f.type? v = some type) :
    g.type? v = some type := by
  unfold Function.type? value? at hv ⊢
  obtain ⟨r, hr, rfl⟩ := Option.map_eq_some_iff.1 hv
  rw [h.values, Array.getElem?_append_left (Array.getElem?_eq_some_iff.1 hr).1, hr]
  rfl

theorem Gains.mem_constants (h : f.Gains g new d) (v : ValueId) :
    v ∈ g.constants ↔ v ∈ f.constants ∨ d = .constant ∧ v ∈ numbered f.values.size new.length := by
  rw [← Array.mem_toList_iff, h.constants, List.mem_append, Array.mem_toList_iff]
  split <;> simp [*]

/-- Only the numbers of blocks need a look. -/
theorem Consistent.gains (hf : f.Consistent) (h : f.Gains g new d)
    (hblocks : ∀ x blk, g.block? x = some blk → blk.id = x) : g.Consistent where
  listed := h.listed hf
  placeholders := by
    rw [h.placeholders, h.defined_eq, hf.placeholders]
    simp only [eq_comm]
  constants := by
    rw [h.constants, h.defined_eq, hf.constants]
    simp only [eq_comm]
  entries := by
    intro v
    rw [h.mem_constants]
    by_cases hv : d = .constant ∧ v ∈ numbered f.values.size new.length
    · obtain ⟨data, hdata, -⟩ := h.data hv.1 v hv.2
      exact iff_of_true (Option.isSome_iff_exists.2 ⟨data, hdata⟩) (.inr hv)
    · rw [h.kept v hv, hf.entries, or_iff_left hv]
  data := by
    intro v data hv
    by_cases hnew : d = .constant ∧ v ∈ numbered f.values.size new.length
    · obtain ⟨data', hdata, htype⟩ := h.data hnew.1 v hnew.2
      cases hdata.symm.trans hv
      exact htype
    · exact h.type? (hf.data v data ((h.kept v hnew).symm.trans hv))
  blocks := hblocks

/-- A step that makes no value. -/
theorem Gains.of_none (d : Definition) (hvalues : g.values = f.values) (hplaceholders : g.placeholders = f.placeholders)
    (hconstants : g.constants = f.constants) (hdata : g.constantData = f.constantData)
    (harguments : ∀ b, (g.block? b).map Block.arguments = (f.block? b).map Block.arguments ∨
      f.block? b = none ∧ (g.block? b).map Block.arguments = some #[])
    (hinstructions : ∀ b i, g.instruction? b i = f.instruction? b i) : f.Gains g [] d where
  values := by simp [hvalues]
  defined := by simp
  listings := by
    intro v e
    have hnil : (numbered f.values.size ([] : List Value).length).count v = 0 := rfl
    simp only [hnil, ite_self, Nat.add_zero]
    cases e with
    | placeholder => simp [Function.listings, hplaceholders]
    | constant => simp [Function.listings, hconstants]
    | argument b =>
      have hcount : ∀ k : Function, k.listings v (.argument b) =
          (((k.block? b).map Block.arguments).map fun a => a.toList.count v).getD 0 := by
        intro k
        rw [Function.listings, Option.map_map]
        rfl
      rw [hcount, hcount]
      rcases harguments b with hsame | ⟨hnone, hempty⟩
      · rw [hsame]
      · rw [hempty, hnone]
        rfl
    | instruction b i => simp [Function.listings, hinstructions]
  placeholders := by
    rw [hplaceholders]
    simp [numbered]
  constants := by
    rw [hconstants]
    simp [numbered]
  data := fun _ v hv => by cases hv
  kept := fun v _ => by rw [Function.constant?, hdata, Function.constant?]

end Gains

end Function

namespace Builder

/-! ## Requests -/

/-- Something that is asked of a builder. -/
inductive Call where
  | placeholder (name : String) (type : TensorType)
  | constant (name : String) (data : TensorData)
  | append (op : OpSpec)
  | openBlock (name : String)
  | argument (name : String) (type : TensorType)
  | setResults (results : List ValueId)
  | closeBlock

/-- The values that a request makes, and the builder after it. -/
def perform (b : Builder) : Call → List ValueId × Builder
  | .placeholder name type => let r := b.createPlaceholder name type; ([r.1], r.2)
  | .constant name data => let r := b.createConstant name data; ([r.1], r.2)
  | .append op => b.append op
  | .openBlock name => ([], (b.openBlock name).2)
  | .argument name type => let r := b.createArgument name type; ([r.1], r.2)
  | .setResults results => ([], b.setResults results)
  | .closeBlock => ([], b.closeBlock.2)

/-- The values that requests make, in order, and the builder after them. -/
def performAll (b : Builder) : List Call → List ValueId × Builder
  | [] => ([], b)
  | call :: calls =>
    let r := b.perform call
    let rest := r.2.performAll calls
    (r.1 ++ rest.1, rest.2)

/-- The open blocks, outermost first. -/
def openBlocks (b : Builder) : List BlockId := b.stack.reverse

/-- The tables agree, and the open blocks are there, the entry first, each older than those inside it. -/
structure Consistent (b : Builder) : Prop where
  function : b.function.Consistent
  entry : b.openBlocks.head? = some .entry
  exist : ∀ x ∈ b.openBlocks, ∃ blk, b.function.block? x = some blk
  nested : (b.openBlocks.map BlockId.index).Pairwise (· < ·)

theorem Consistent.stack_ne_nil {b : Builder} (h : b.Consistent) : b.stack ≠ [] := by
  intro hnil
  have hentry := h.entry
  rw [openBlocks, hnil] at hentry
  cases hentry

theorem Consistent.opened {b : Builder} (h : b.Consistent) : ∃ blk, b.function.block? b.current = some blk := by
  refine h.exist b.current (List.mem_reverse.2 ?_)
  obtain ⟨x, rest, hstack⟩ := List.exists_cons_of_ne_nil h.stack_ne_nil
  simp [current, hstack]

theorem openBlocks_openBlock (b : Builder) (name : String) :
    (b.openBlock name).2.openBlocks = b.openBlocks ++ [(b.openBlock name).1] := by
  simp [openBlocks, openBlock]

/-- Closing takes the innermost block away and never the last one. -/
theorem openBlocks_closeBlock (b : Builder) :
    b.closeBlock.2.openBlocks <+: b.openBlocks ∧ (b.openBlocks ≠ [] → b.closeBlock.2.openBlocks ≠ []) := by
  rw [openBlocks, stack_closeBlock, openBlocks]
  split
  · next hlen =>
    rw [← List.dropLast_reverse]
    refine ⟨List.dropLast_prefix _, fun _ hnil => ?_⟩
    have hdrop := congrArg List.length hnil
    simp only [List.length_dropLast, List.length_reverse, List.length_nil] at hdrop
    omega
  · exact ⟨List.prefix_refl _, id⟩

/-! ## What each request gains -/

section Steps
variable {b : Builder}

theorem gains_createPlaceholder (b : Builder) (name : String) (type : TensorType) :
    b.function.Gains (b.createPlaceholder name type).2.function [⟨name, type, .placeholder⟩] .placeholder where
  values := by simp [createPlaceholder, pushValue]
  defined := by simp
  listings := by
    intro v e
    cases e <;> simp [Function.listings, createPlaceholder, pushValue, Function.block?, Function.instruction?,
      Function.numbered, nextValue]
  placeholders := by simp [createPlaceholder, pushValue, Function.numbered, nextValue]
  constants := by simp [createPlaceholder, pushValue]
  data := nofun
  kept := fun _ _ => rfl

theorem gains_createConstant (b : Builder) (name : String) (data : TensorData) :
    b.function.Gains (b.createConstant name data).2.function
      [⟨name, .ofSizes data.element data.shape.dims, .constant⟩] .constant where
  values := by simp [createConstant, pushValue]
  defined := by simp
  listings := by
    intro v e
    cases e <;> simp [Function.listings, createConstant, pushValue, Function.block?, Function.instruction?,
      Function.numbered, nextValue]
  placeholders := by simp [createConstant, pushValue]
  constants := by simp [createConstant, pushValue, Function.numbered, nextValue]
  data := by
    intro _ v hv
    obtain rfl : v = b.nextValue := by simpa [Function.numbered, nextValue] using hv
    have hrecord := value?_pushValue b ⟨name, .ofSizes data.element data.shape.dims, .constant⟩ b.nextValue
    rw [if_pos rfl] at hrecord
    exact ⟨data, DataTable.find?_insert_self .., congrArg (Option.map Value.type) hrecord⟩
  kept := by
    intro v hv
    refine DataTable.find?_insert_of_ne fun he => hv ⟨rfl, ?_⟩
    rw [he]
    simp [Function.numbered, nextValue]

theorem gains_createArgument {blk : Block} (hb : b.function.block? b.current = some blk) (name : String)
    (type : TensorType) :
    b.function.Gains (b.createArgument name type).2.function [⟨name, type, .argument b.current⟩]
      (.argument b.current) where
  values := by simp [createArgument, pushValue, modifyBlock]
  defined := by simp
  listings := by
    intro v e
    cases e with
    | placeholder => simp [Function.listings, createArgument, pushValue, modifyBlock]
    | constant => simp [Function.listings, createArgument, pushValue, modifyBlock]
    | instruction x i => simp [Function.listings, instruction?_createArgument]
    | argument x =>
      have hx : (b.createArgument name type).2.function.block? x = _ := block?_modifyBlock ..
      simp only [Function.listings, hx]
      by_cases hcur : x = b.current
      · subst hcur
        have hpush : (b.pushValue ⟨name, type, .argument b.current⟩).function.block? b.current = some blk := hb
        simp [hpush, hb, Function.numbered, nextValue, Array.count_push, List.count_singleton]
      · have hpush : (b.pushValue ⟨name, type, .argument b.current⟩).function.block? x = b.function.block? x := rfl
        simp [hcur, hpush]
  placeholders := by simp [createArgument, pushValue, modifyBlock]
  constants := by simp [createArgument, pushValue, modifyBlock]
  data := nofun
  kept := fun _ _ => rfl

/-- The instructions after one more has been appended. -/
theorem instruction?_append_eq {blk : Block} (hb : b.function.block? b.current = some blk) (op : OpSpec) (x : BlockId)
    (i : Nat) :
    (b.append op).2.function.instruction? x i =
      if x = b.current ∧ i = b.position then some (b.instructionOf op) else b.function.instruction? x i := by
  unfold Function.instruction?
  rw [block?_append, position_eq hb]
  by_cases hx : x = b.current
  · subst hx
    by_cases hi : i = blk.instructions.size
    · simp [hb, hi]
    · simp [hb, hi, Array.getElem?_push]
  · simp [hx]

theorem gains_append {blk : Block} (hb : b.function.block? b.current = some blk) (op : OpSpec) :
    ∃ new, b.function.Gains (b.append op).2.function new (.instruction b.current b.position) ∧
      (b.append op).1 = Function.numbered b.function.values.size new.length := by
  obtain ⟨new, -, hdef, hids, he⟩ := append_eq b op
  refine ⟨new, ⟨?_, hdef, ?_, ?_, ?_, nofun, fun v _ => ?_⟩, hids⟩
  · rw [he]
    rfl
  · intro v e
    cases e with
    | placeholder => simp [he, withInstruction, Function.listings]
    | constant => simp [he, withInstruction, Function.listings]
    | argument x =>
      simp only [Function.listings, block?_append]
      by_cases hx : x = b.current
      · subst hx
        simp [hb]
      · simp [hx]
    | instruction x i =>
      simp only [Function.listings, instruction?_append_eq hb]
      by_cases hx : x = b.current ∧ i = b.position
      · -- there was no instruction at the end of the block
        have hnone : b.function.instruction? x i = none := by
          simp [Function.instruction?, hx, hb, position_eq hb]
        rw [if_pos hx, hnone]
        simp only [hx.1, hx.2, if_true, Option.map_none, Option.map_some, Option.getD_none, Option.getD_some,
          Nat.zero_add, instructionOf, hids]
        rfl
      · simp [hx]
  · rw [he]
    simp [withInstruction]
  · rw [he]
    simp [withInstruction]
  · rw [he]
    rfl

theorem gains_openBlock (b : Builder) (name : String) (d : Definition) :
    b.function.Gains (b.openBlock name).2.function [] d := by
  refine .of_none d rfl rfl rfl rfl (fun x => ?_) (instruction?_openBlock b name)
  rw [block?_openBlock]
  by_cases hx : x = (b.openBlock name).1
  · right
    rw [if_pos hx, hx]
    exact ⟨block?_openBlock_fst b name, rfl⟩
  · left
    rw [if_neg hx]

theorem gains_setResults (b : Builder) (results : List ValueId) (d : Definition) :
    b.function.Gains (b.setResults results).function [] d := by
  refine .of_none d rfl rfl rfl rfl (fun x => .inl ?_) (instruction?_setResults b results)
  rw [setResults, block?_modifyBlock]
  split
  · rw [Option.map_map]
    rfl
  · rfl

/-- A request makes values of the next numbers, all of them defined in one way. -/
theorem gains_perform (h : b.Consistent) (call : Call) :
    ∃ new d, b.function.Gains (b.perform call).2.function new d ∧
      (b.perform call).1 = Function.numbered b.function.values.size new.length := by
  obtain ⟨blk, hb⟩ := h.opened
  cases call with
  | placeholder name type => exact ⟨_, _, gains_createPlaceholder b name type, rfl⟩
  | constant name data => exact ⟨_, _, gains_createConstant b name data, rfl⟩
  | append op =>
    obtain ⟨new, hnew, hids⟩ := gains_append hb op
    exact ⟨new, _, hnew, hids⟩
  | openBlock name => exact ⟨_, .placeholder, gains_openBlock b name _, rfl⟩
  | argument name type => exact ⟨_, _, gains_createArgument hb name type, rfl⟩
  | setResults results => exact ⟨_, .placeholder, gains_setResults b results _, rfl⟩
  | closeBlock =>
    refine ⟨[], .placeholder, ?_, rfl⟩
    rw [perform, function_closeBlock]
    exact .of_none _ rfl rfl rfl rfl (fun _ => .inl rfl) fun _ _ => rfl

/-- Changing the content of a block does not change its number. -/
theorem id_of_map {old : Option Block} {g : Block → Block} {c : Prop} [Decidable c] {x : BlockId}
    (h : ∀ blk, old = some blk → blk.id = x) {blk : Block} (hb : (if c then old.map g else old) = some blk)
    (hg : ∀ blk, (g blk).id = blk.id) : blk.id = x := by
  split at hb
  · obtain ⟨before, hbefore, rfl⟩ := Option.map_eq_some_iff.1 hb
    rw [hg]
    exact h before hbefore
  · exact h blk hb

theorem blocks_perform (h : ∀ x blk, b.function.block? x = some blk → blk.id = x) (call : Call) (x : BlockId)
    (blk : Block) (hx : (b.perform call).2.function.block? x = some blk) : blk.id = x := by
  cases call with
  | placeholder name type => exact h x blk hx
  | constant name data => exact h x blk hx
  | append op => exact id_of_map (h x) ((block?_append b op x).symm.trans hx) fun _ => rfl
  | openBlock name =>
    have hopen := (block?_openBlock b name x).symm.trans hx
    split at hopen
    · next hnew =>
      cases hopen
      exact hnew.symm
    · exact h x blk hopen
  | argument name type =>
    have hmodify : (b.createArgument name type).2.function.block? x = _ := block?_modifyBlock ..
    exact id_of_map (h x) (hmodify.symm.trans hx) fun _ => rfl
  | setResults results =>
    have hmodify : (b.setResults results).function.block? x = _ := block?_modifyBlock ..
    exact id_of_map (h x) (hmodify.symm.trans hx) fun _ => rfl
  | closeBlock =>
    rw [perform, function_closeBlock] at hx
    exact h x blk hx

/-- No request takes a block away. -/
theorem extends_perform (b : Builder) (call : Call) : b.function.Extends (b.perform call).2.function := by
  cases call with
  | placeholder name type => exact (grows_createPlaceholder b name type).function
  | constant name data => exact (grows_createConstant b name data).function
  | append op => exact (grows_append b op).function
  | openBlock name => exact extends_openBlock b name
  | argument name type => exact (grows_createArgument b name type).function
  | setResults results => exact (grows_setResults b results).function
  | closeBlock =>
    rw [perform, function_closeBlock]
    exact .refl _

/-- The open blocks stay, but for one that is opened or closed, and the outermost one stays in any case. -/
theorem openBlocks_perform (b : Builder) (call : Call) :
    (b.perform call).2.openBlocks <+: b.openBlocks ∧ (b.openBlocks ≠ [] → (b.perform call).2.openBlocks ≠ []) ∨
      ∃ name, call = .openBlock name ∧ (b.perform call).2.openBlocks = b.openBlocks ++ [⟨b.function.blocks.size⟩] := by
  have hsame : ∀ b' : Builder, b.Grows b' →
      b'.openBlocks <+: b.openBlocks ∧ (b.openBlocks ≠ [] → b'.openBlocks ≠ []) := by
    intro b' hg
    rw [openBlocks, hg.stack]
    exact ⟨List.prefix_refl _, id⟩
  cases call with
  | placeholder name type => exact .inl (hsame _ (grows_createPlaceholder b name type))
  | constant name data => exact .inl (hsame _ (grows_createConstant b name data))
  | append op => exact .inl (hsame _ (grows_append b op))
  | openBlock name => exact .inr ⟨name, rfl, openBlocks_openBlock b name⟩
  | argument name type => exact .inl (hsame _ (grows_createArgument b name type))
  | setResults results => exact .inl (hsame _ (grows_setResults b results))
  | closeBlock => exact .inl (openBlocks_closeBlock b)

theorem Consistent.perform (h : b.Consistent) (call : Call) : (b.perform call).2.Consistent := by
  obtain ⟨new, d, hgains, -⟩ := gains_perform h call
  have hext := extends_perform b call
  have hold : ∀ x ∈ b.openBlocks, ∃ blk, (b.perform call).2.function.block? x = some blk := by
    intro x hx
    obtain ⟨blk, hb⟩ := h.exist x hx
    obtain ⟨blk', hb', -⟩ := hext.blocks x blk hb
    exact ⟨blk', hb'⟩
  have hne : b.openBlocks ≠ [] := List.reverse_eq_nil_iff.not.2 h.stack_ne_nil
  refine ⟨h.function.gains hgains (blocks_perform h.function.blocks call), ?_, ?_, ?_⟩
  · rcases openBlocks_perform b call with ⟨⟨rest, hrest⟩, hstill⟩ | ⟨name, rfl, hopen⟩
    · have hentry := h.entry
      rwa [← hrest, List.head?_append_of_ne_nil _ (hstill hne)] at hentry
    · rw [hopen, List.head?_append_of_ne_nil _ hne]
      exact h.entry
  · intro x hx
    rcases openBlocks_perform b call with ⟨hpre, -⟩ | ⟨name, rfl, hopen⟩
    · exact hold x (hpre.subset hx)
    · rw [hopen, List.mem_append, List.mem_singleton] at hx
      rcases hx with hx | rfl
      · exact hold x hx
      · exact ⟨_, (block?_openBlock ..).trans (if_pos rfl)⟩
  · rcases openBlocks_perform b call with ⟨hpre, -⟩ | ⟨name, rfl, hopen⟩
    · exact h.nested.sublist (hpre.sublist.map _)
    · -- the new block has a number that no block had before
      rw [hopen, List.map_append, List.pairwise_append]
      refine ⟨h.nested, List.pairwise_singleton _ _, ?_⟩
      intro i hi j hj
      obtain ⟨x, hx, rfl⟩ := List.mem_map.1 hi
      obtain ⟨blk, hb⟩ := h.exist x hx
      have hlt : x.index < b.function.blocks.size := (Array.getElem?_eq_some_iff.1 hb).1
      simp only [List.map_cons, List.map_nil, List.mem_singleton] at hj
      omega

end Steps

/-! ## Any number of requests -/

theorem consistent_new (name : String) : (new name).Consistent := by
  refine ⟨⟨?_, rfl, rfl, ?_, nofun, ?_⟩, rfl, ?_, ?_⟩
  · intro v d
    have hnone : (new name).function.definition? v = none := Function.definition?_eq_none (Nat.zero_le _)
    rw [hnone]
    rcases d with _ | _ | ⟨⟨_ | n⟩⟩ | ⟨⟨_ | n⟩, i⟩ <;>
      simp [Function.listings, new, Function.new, Function.block?, Function.instruction?, Block.new]
  · intro v
    simp [new, Function.new, Function.constant?, DataTable.find?]
  · rintro ⟨_ | n⟩ blk hx
    · cases hx
      rfl
    · simp [new, Function.new, Function.block?] at hx
  · intro x hx
    rw [show x = .entry by simpa [openBlocks, new] using hx]
    exact ⟨_, rfl⟩
  · exact List.pairwise_singleton _ _

/-- Whatever a consistent builder is asked for, it stays consistent, hands out the next numbers and keeps what it has. -/
theorem Consistent.performAll {b : Builder} (h : b.Consistent) (calls : List Call) :
    (b.performAll calls).2.Consistent ∧ b.function.Extends (b.performAll calls).2.function ∧
      Function.numbered 0 b.function.values.size ++ (b.performAll calls).1 =
        Function.numbered 0 (b.performAll calls).2.function.values.size := by
  induction calls generalizing b with
  | nil => exact ⟨h, .refl _, List.append_nil _⟩
  | cons call calls ih =>
    obtain ⟨new, d, hgains, hids⟩ := gains_perform h call
    obtain ⟨hlast, hext, hnumbers⟩ := ih (h.perform call)
    refine ⟨hlast, (extends_perform b call).trans hext, ?_⟩
    rw [hgains.size, Function.numbered_append, Nat.zero_add] at hnumbers
    rw [Builder.performAll, hids, ← List.append_assoc]
    exact hnumbers

end Builder

/-- After any requests to a new builder, in any order and with any arguments: the values made are those of the numbers
from 0 on, in this order; each is listed once where its record says that it is defined, and nowhere else; the inputs and
the constants are those so defined, in the order of creation; there are data for the constants and for nothing else,
and they give the constant its type; blocks have the numbers of their places; the stack of open blocks has the entry at
its bottom, whatever was closed, and each open block is older than those inside it. Whatever is asked for next, values
and instructions stay as they are. -/
theorem builder_tables_agree (name : String) (calls : List Builder.Call) :
    let made := ((Builder.new name).performAll calls).1
    let b := ((Builder.new name).performAll calls).2
    let f := b.function
    made = (List.range f.values.size).map ValueId.mk ∧
      (∀ v d, f.listings v d = if f.definition? v = some d then 1 else 0) ∧
      (f.placeholders.toList = f.defined .placeholder ∧ f.constants.toList = f.defined .constant) ∧
      ((∀ v, (f.constant? v).isSome ↔ v ∈ f.constants) ∧
        ∀ v data, f.constant? v = some data → f.type? v = some (.ofSizes data.element data.shape.dims)) ∧
      (∀ x blk, f.block? x = some blk → blk.id = x) ∧
      (b.stack ≠ [] ∧ b.openBlocks.head? = some .entry ∧ (b.openBlocks.map BlockId.index).Pairwise (· < ·) ∧
        ∀ x ∈ b.openBlocks, (f.block? x).isSome) ∧
      ∀ more, let g := (b.performAll more).2.function
        (∀ v r, f.value? v = some r → g.value? v = some r) ∧
          ∀ x i ins, f.instruction? x i = some ins → g.instruction? x i = some ins := by
  intro made b f
  obtain ⟨hb, -, hmade⟩ := (Builder.consistent_new name).performAll calls
  have hf : f.Consistent := hb.function
  refine ⟨?_, hf.listed, ⟨hf.placeholders, hf.constants⟩, ⟨hf.entries, hf.data⟩, hf.blocks,
    ⟨hb.stack_ne_nil, hb.entry, hb.nested, ?_⟩, ?_⟩
  · rw [List.range_eq_range']
    exact hmade
  · intro x hx
    exact Option.isSome_iff_exists.2 (hb.exist x hx)
  · intro more g
    obtain ⟨-, hext, -⟩ := hb.performAll more
    exact ⟨hext.values, fun x i ins hi => hext.instruction? hi⟩

end ModelImport
