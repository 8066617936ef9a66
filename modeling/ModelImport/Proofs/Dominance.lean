import ModelImport.Proofs.Lowering
/-!
# Dominance

Where the values of a function may be used. A place is a block and a number: that of an instruction, or for the values
that the block yields the number of its instructions. A definition dominates the places after it in its block and the
places of the loop bodies there (`Dominates`). While a body is being built, its loop is not there yet; the place where
it will be is pending, and a builder is `Scoped` when every use so far is dominated, the pending loops included.
-/

namespace ModelImport

namespace Function

/-- The instruction at a place. -/
def instruction? (f : Function) (b : BlockId) (i : Nat) : Option Instruction :=
  (f.block? b).bind fun blk => blk.instructions[i]?

/-- The place of a definition has the value. -/
def Lists (f : Function) (v : ValueId) : Definition → Prop
  | .placeholder => v ∈ f.placeholders
  | .constant => v ∈ f.constants ∧ ∃ data, f.constant? v = some data
  | .argument b => ∃ blk, f.block? b = some blk ∧ v ∈ blk.arguments
  | .instruction b i => ∃ ins, f.instruction? b i = some ins ∧ v ∈ ins.results

/-- The record of a value and the place it names agree on how the value is defined. -/
def Defines (f : Function) (v : ValueId) (d : Definition) : Prop :=
  (∃ r, f.value? v = some r ∧ r.definition = d) ∧ f.Lists v d

/-- A value is used at a place: as an operand, or by the block that yields it. -/
def Uses (f : Function) (b : BlockId) (i : Nat) (v : ValueId) : Prop :=
  (∃ ins, f.instruction? b i = some ins ∧ some v ∈ ins.operands) ∨
    ∃ blk, f.block? b = some blk ∧ i = blk.instructions.size ∧ v ∈ blk.results

/-- The instruction at a place is a loop, and its body is the block `b`. -/
def Hosts (f : Function) (p : BlockId) (i : Nat) (b : BlockId) : Prop :=
  ∃ ins, f.instruction? p i = some ins ∧ ins.opType = "Loop" ∧ ins.params.find? "body" = some (.block b)

end Function

/-- Which places bodies belong to: `host p i b` when the block `b` belongs to the instruction `i` of block `p`. -/
abbrev Nesting := BlockId → Nat → BlockId → Prop

/-- Each body belongs to one loop, and that stands in an older block. -/
structure Nesting.Tree (host : Nesting) : Prop where
  older : ∀ p i b, host p i b → p.index < b.index
  unique : ∀ p i p' i' b, host p i b → host p' i' b → p = p' ∧ i = i'

theorem Nesting.Tree.of_le {host host' : Nesting} (h : host'.Tree) (hle : ∀ p i b, host p i b → host' p i b) :
    host.Tree :=
  ⟨fun p i b hb => h.older p i b (hle p i b hb),
    fun p i p' i' b hb hb' => h.unique p i p' i' b (hle p i b hb) (hle p' i' b hb')⟩

/-- The nesting with one more body. -/
def Nesting.add (host : Nesting) (p : BlockId) (i : Nat) (b : BlockId) : Nesting := fun p' i' b' =>
  host p' i' b' ∨ p' = p ∧ i' = i ∧ b' = b

/-- The block of an argument or of an instruction. -/
def Definition.block? : Definition → Option BlockId
  | argument b | instruction b _ => some b
  | placeholder | constant => none

/-- A definition comes before a place: earlier in its block, or earlier than the loop whose body has it. -/
inductive Dominates (host : Nesting) : Definition → BlockId → Nat → Prop
  | placeholder {b i} : Dominates host .placeholder b i
  | constant {b i} : Dominates host .constant b i
  | argument {b i} : Dominates host (.argument b) b i
  | earlier {b i j} : j < i → Dominates host (.instruction b j) b i
  | outer {d b i p j} : host p j b → Dominates host d p j → Dominates host d b i

theorem Dominates.mono {host host' : Nesting} (hh : ∀ p j b, host p j b → host' p j b) {d : Definition} {b : BlockId}
    {i j : Nat} (h : Dominates host d b i) (hij : i ≤ j) : Dominates host' d b j := by
  induction h generalizing j with
  | placeholder => exact .placeholder
  | constant => exact .constant
  | argument => exact .argument
  | earlier hlt => exact .earlier (Nat.lt_of_lt_of_le hlt hij)
  | outer hhost _ ih => exact .outer (hh _ _ _ hhost) (ih (Nat.le_refl _))

namespace Function

/-- The value may be used at the place. -/
def Available (f : Function) (host : Nesting) (b : BlockId) (i : Nat) (v : ValueId) : Prop :=
  ∃ d, f.Defines v d ∧ Dominates host d b i

theorem Available.imp {f : Function} {host host' : Nesting} (h : ∀ p i c, host p i c → host' p i c) {b : BlockId}
    {i : Nat} {v : ValueId} (ha : f.Available host b i v) : f.Available host' b i v := by
  obtain ⟨d, hd, hdom⟩ := ha
  exact ⟨d, hd, hdom.mono h (Nat.le_refl i)⟩

/-- Every use is dominated by the definition of its value, and every body belongs to one loop. -/
structure WellScoped (f : Function) : Prop where
  dominated : ∀ b i v, f.Uses b i v → f.Available f.Hosts b i v
  bodies : Nesting.Tree f.Hosts

/-- A block is the given body or lies inside it, at any depth. -/
inductive Within (f : Function) (body : BlockId) : BlockId → Prop
  | self : Within f body body
  | nested {p i b} : Within f body p → f.Hosts p i b → Within f body b

/-- What is defined inside a body dominates nothing outside it. -/
theorem within_of_dominates {f : Function} {body : BlockId} {d : Definition} {b : BlockId} {i : Nat}
    (h : Dominates f.Hosts d b i) {c : BlockId} (hd : d.block? = some c) (hc : f.Within body c) : f.Within body b := by
  induction h with
  | placeholder | constant => cases hd
  | argument | earlier => cases hd; exact hc
  | outer hhost _ ih => exact .nested (ih hd) hhost

theorem WellScoped.confined {f : Function} (h : f.WellScoped) {body b c : BlockId} {i : Nat} {v : ValueId}
    {d : Definition} (hu : f.Uses b i v) (hv : f.Defines v d) (hd : d.block? = some c) (hc : f.Within body c) :
    f.Within body b := by
  -- the record of a value names one definition
  obtain ⟨d', hv', hdom⟩ := h.dominated b i v hu
  obtain ⟨⟨r, hr, rfl⟩, -⟩ := hv
  obtain ⟨⟨r', hr', rfl⟩, -⟩ := hv'
  cases hr.symm.trans hr'
  exact within_of_dominates hdom hd hc

/-- The places of bodies, those of loops still to come included. -/
def nesting (f : Function) (pending : Nesting) : Nesting := fun p i b => pending p i b ∨ f.Hosts p i b

section Extends
variable {f g : Function} (h : f.Extends g)
include h

theorem Extends.instruction? {b : BlockId} {i : Nat} {ins : Instruction} (hi : f.instruction? b i = some ins) :
    g.instruction? b i = some ins := by
  obtain ⟨blk, hb, hi⟩ := Option.bind_eq_some_iff.1 hi
  obtain ⟨blk', hb', he⟩ := h.blocks b blk hb
  exact Option.bind_eq_some_iff.2 ⟨blk', hb', he.instructions i ins hi⟩

theorem Extends.defines {v : ValueId} {d : Definition} (hd : f.Defines v d) : g.Defines v d := by
  obtain ⟨⟨r, hr, rfl⟩, hl⟩ := hd
  refine ⟨⟨r, h.values v r hr, rfl⟩, ?_⟩
  cases hrd : r.definition with
  | placeholder => rw [hrd] at hl; exact h.placeholders v hl
  | constant =>
    rw [hrd] at hl
    obtain ⟨hc, data, hdata⟩ := hl
    exact ⟨h.constants v hc, data, (h.data v r hr).trans hdata⟩
  | argument b =>
    rw [hrd] at hl
    obtain ⟨blk, hb, hv⟩ := hl
    obtain ⟨blk', hb', he⟩ := h.blocks b blk hb
    exact ⟨blk', hb', he.arguments v hv⟩
  | instruction b i =>
    rw [hrd] at hl
    obtain ⟨ins, hi, hv⟩ := hl
    exact ⟨ins, h.instruction? hi, hv⟩

theorem Extends.nesting {pending : Nesting} {p : BlockId} {i : Nat} {b : BlockId} (hn : f.nesting pending p i b) :
    g.nesting pending p i b :=
  hn.imp_right fun ⟨ins, hi, hloop⟩ => ⟨ins, h.instruction? hi, hloop⟩

theorem Extends.available {pending : Nesting} {b : BlockId} {i j : Nat} {v : ValueId} (hij : i ≤ j)
    (ha : f.Available (f.nesting pending) b i v) : g.Available (g.nesting pending) b j v := by
  obtain ⟨d, hd, hdom⟩ := ha
  exact ⟨d, h.defines hd, hdom.mono (fun _ _ _ => h.nesting) hij⟩

end Extends

/-- Only the blocks of a function have uses. -/
theorem uses_congr {f g : Function} (h : g.blocks = f.blocks) {b : BlockId} {i : Nat} {v : ValueId} :
    g.Uses b i v ↔ f.Uses b i v := by
  simp only [Uses, Function.instruction?, block?, h]

theorem hosts_congr {f g : Function} (h : ∀ x i, g.instruction? x i = f.instruction? x i) {p : BlockId} {i : Nat}
    {b : BlockId} : g.Hosts p i b ↔ f.Hosts p i b := by
  simp only [Hosts, h]

end Function

namespace Builder

/-- The next instruction may use the value. -/
def Sees (pending : Nesting) (b : Builder) (v : ValueId) : Prop :=
  b.function.Available (b.function.nesting pending) b.current b.position v

/-- Every use so far is dominated by the definition of its value, and the bodies so far form a tree. -/
structure Scoped (pending : Nesting) (b : Builder) : Prop where
  nonempty : b.stack ≠ []
  opened : ∃ blk, b.function.block? b.current = some blk
  uses : ∀ x i v, b.function.Uses x i v → b.function.Available (b.function.nesting pending) x i v
  tree : (b.function.nesting pending).Tree
  known : ∀ p i c, b.function.nesting pending p i c → ∃ blk, b.function.block? c = some blk

section Scoped
variable {pending : Nesting} {b b' : Builder}

theorem scoped_new (name : String) : (new name).Scoped fun _ _ _ => False := by
  have hnone : ∀ x i ins, (new name).function.instruction? x i ≠ some ins := by
    rintro ⟨_ | n⟩ i ins h <;> simp [Function.instruction?, Function.block?, new, Function.new, Block.new] at h
  have hhosts : ∀ p i c, ¬(new name).function.nesting (fun _ _ _ => False) p i c := by
    rintro p i c (h | ⟨ins, hi, -⟩)
    · exact h
    · exact hnone p i ins hi
  have htree : ((new name).function.nesting fun _ _ _ => False).Tree :=
    ⟨fun p i c h => absurd h (hhosts p i c), fun p i _ _ c h => absurd h (hhosts p i c)⟩
  refine ⟨List.cons_ne_nil _ _, ⟨_, rfl⟩, fun x i v hu => ?_, htree, fun p i c h => absurd h (hhosts p i c)⟩
  rcases hu with ⟨ins, hi, -⟩ | ⟨blk, hb, -, hv⟩
  · exact absurd hi (hnone x i ins)
  · obtain ⟨_ | n⟩ := x
    · cases hb; cases hv
    · simp [Function.block?, new, Function.new] at hb

theorem Grows.sees (hg : b.Grows b') {v : ValueId} (h : b.Sees pending v) : b'.Sees pending v := by
  rw [Sees, hg.current]
  exact hg.function.available hg.position_le h

/-- Nothing but new uses and new loops needs a look. -/
theorem Scoped.grows (hs : b.Scoped pending) (hg : b.Grows b')
    (h : ∀ x i v, b'.function.Uses x i v →
      (∃ j, j ≤ i ∧ b.function.Uses x j v) ∨ b'.function.Available (b'.function.nesting pending) x i v)
    (hh : ∀ p i c, b'.function.Hosts p i c → b.function.nesting pending p i c) : b'.Scoped pending := by
  have hle : ∀ p i c, b'.function.nesting pending p i c → b.function.nesting pending p i c := fun p i c hn =>
    hn.elim .inl (hh p i c)
  refine ⟨hg.stack ▸ hs.nonempty, ?_, fun x i v hu => ?_, hs.tree.of_le hle, fun p i c hn => ?_⟩
  · obtain ⟨blk, hb⟩ := hs.opened
    obtain ⟨blk', hb', -⟩ := hg.function.blocks _ _ hb
    exact ⟨blk', hg.current ▸ hb'⟩
  · rcases h x i v hu with ⟨j, hj, hold⟩ | hnew
    · exact hg.function.available hj (hs.uses x j v hold)
    · exact hnew
  · obtain ⟨blk, hb⟩ := hs.known p i c (hle p i c hn)
    obtain ⟨blk', hb', -⟩ := hg.function.blocks c blk hb
    exact ⟨blk', hb'⟩

/-- A step that leaves the blocks alone. -/
theorem Scoped.values (hs : b.Scoped pending) (hg : b.Grows b') (h : b'.function.blocks = b.function.blocks) :
    b'.Scoped pending :=
  hs.grows hg (fun _ i _ hu => .inl ⟨i, Nat.le_refl i, (Function.uses_congr h).1 hu⟩) fun p i c hc =>
    .inr ((Function.hosts_congr fun x j => by simp only [Function.instruction?, Function.block?, h]).1 hc)

/-! ## Inputs, constants and arguments -/

theorem scoped_createPlaceholder (hs : b.Scoped pending) (name : String) (type : TensorType) :
    (b.createPlaceholder name type).2.Scoped pending :=
  hs.values (grows_createPlaceholder b name type) rfl

theorem sees_createPlaceholder (b : Builder) (name : String) (type : TensorType) :
    (b.createPlaceholder name type).2.Sees pending (b.createPlaceholder name type).1 :=
  ⟨.placeholder, ⟨⟨_, (value?_pushValue b _ _).trans (if_pos rfl), rfl⟩, Array.mem_push_self⟩, .placeholder⟩

theorem scoped_createConstant (hs : b.Scoped pending) (name : String) (data : TensorData) :
    (b.createConstant name data).2.Scoped pending :=
  hs.values (grows_createConstant b name data) rfl

theorem sees_createConstant (b : Builder) (name : String) (data : TensorData) :
    (b.createConstant name data).2.Sees pending (b.createConstant name data).1 :=
  ⟨.constant, ⟨⟨_, (value?_pushValue b _ _).trans (if_pos rfl), rfl⟩, Array.mem_push_self, data,
    DataTable.find?_insert_self ..⟩, .constant⟩

theorem instruction?_modifyBlock {id : BlockId} {g : Block → Block}
    (hg : ∀ blk, (g blk).instructions = blk.instructions) (x : BlockId) (i : Nat) :
    (b.modifyBlock id g).function.instruction? x i = b.function.instruction? x i := by
  simp only [Function.instruction?, block?_modifyBlock]
  split
  · cases b.function.block? x with
    | none => rfl
    | some blk => exact congrArg (fun a : Array Instruction => a[i]?) (hg blk)
  · rfl

theorem instruction?_createArgument (b : Builder) (name : String) (type : TensorType) :
    ∀ x i, (b.createArgument name type).2.function.instruction? x i = b.function.instruction? x i :=
  instruction?_modifyBlock (b := b.pushValue ⟨name, type, .argument b.current⟩) fun _ => rfl

theorem instruction?_setResults (b : Builder) (results : List ValueId) :
    ∀ x i, (b.setResults results).function.instruction? x i = b.function.instruction? x i :=
  instruction?_modifyBlock fun _ => rfl

theorem scoped_createArgument (hs : b.Scoped pending) (name : String) (type : TensorType) :
    (b.createArgument name type).2.Scoped pending := by
  have hins := instruction?_createArgument b name type
  refine hs.grows (grows_createArgument b name type) (fun x i v hu => .inl ⟨i, Nat.le_refl i, ?_⟩) fun p i c hc =>
    .inr ((Function.hosts_congr hins).1 hc)
  rcases hu with ⟨ins, hi, hv⟩ | ⟨blk', hb', rfl, hv⟩
  · exact .inl ⟨ins, (hins x i).symm.trans hi, hv⟩
  · rw [createArgument, block?_modifyBlock] at hb'
    split at hb'
    · obtain ⟨blk, hb, rfl⟩ := Option.map_eq_some_iff.1 hb'
      exact .inr ⟨blk, hb, rfl, hv⟩
    · exact .inr ⟨blk', hb', rfl, hv⟩

theorem sees_createArgument (hs : b.Scoped pending) (name : String) (type : TensorType) :
    (b.createArgument name type).2.Sees pending (b.createArgument name type).1 := by
  obtain ⟨blk, hb⟩ := hs.opened
  refine ⟨.argument b.current, ⟨⟨_, (value?_pushValue b _ _).trans (if_pos rfl), rfl⟩, ?_⟩, .argument⟩
  refine ⟨_, (block?_modifyBlock ..).trans ((if_pos rfl).trans (congrArg (Option.map _) hb)), Array.mem_push_self⟩

/-! ## Instructions -/

theorem instruction?_append (hs : b.Scoped pending) (op : OpSpec) :
    (b.append op).2.function.instruction? b.current b.position = some (b.instructionOf op) := by
  obtain ⟨blk, hb⟩ := hs.opened
  rw [Function.instruction?, block?_append, if_pos rfl, hb, position_eq hb]
  exact Array.getElem?_push_size

theorem position_append (hs : b.Scoped pending) (op : OpSpec) : (b.append op).2.position = b.position + 1 := by
  obtain ⟨blk, hb⟩ := hs.opened
  have hb' := block?_append b op b.current
  rw [if_pos rfl, hb] at hb'
  rw [position_eq hb, position_eq ((grows_append b op).current ▸ hb')]
  exact Array.size_push _

/-- An instruction is an old one or the one just added. -/
theorem instruction?_append_cases (hs : b.Scoped pending) {op : OpSpec} {x : BlockId} {i : Nat} {ins : Instruction}
    (h : (b.append op).2.function.instruction? x i = some ins) :
    b.function.instruction? x i = some ins ∨ x = b.current ∧ i = b.position ∧ ins = b.instructionOf op := by
  simp only [Function.instruction?, block?_append] at h
  by_cases hx : x = b.current
  · subst hx
    obtain ⟨blk, hb⟩ := hs.opened
    rw [if_pos rfl, hb, Option.map_some, Option.bind_some, Array.getElem?_push] at h
    split at h
    · next hlast =>
      cases h
      exact .inr ⟨rfl, hlast.trans (position_eq hb).symm, rfl⟩
    · exact .inl (Option.bind_eq_some_iff.2 ⟨blk, hb, h⟩)
  · rw [if_neg hx] at h
    exact .inl h

/-- The operands must be there to be used, and the place of a loop must be kept for it. -/
theorem scoped_append (hs : b.Scoped pending) {op : OpSpec} (hop : ∀ v, some v ∈ op.operands → b.Sees pending v)
    (hloop : op.opType = "Loop" → ∀ c, op.params.find? "body" = some (.block c) → pending b.current b.position c) :
    (b.append op).2.Scoped pending := by
  have hg := grows_append b op
  refine hs.grows hg (fun x i v hu => ?_) fun p i c hc => ?_
  · rcases hu with ⟨ins, hi, hv⟩ | ⟨blk', hb', rfl, hv⟩
    · rcases instruction?_append_cases hs hi with hold | ⟨rfl, rfl, rfl⟩
      · exact .inl ⟨i, Nat.le_refl i, .inl ⟨ins, hold, hv⟩⟩
      · exact .inr (hg.function.available (Nat.le_refl _) (hop v hv))
    · -- what a block yields is used at its end, which may have moved on
      rw [block?_append] at hb'
      split at hb'
      · obtain ⟨blk, hb, rfl⟩ := Option.map_eq_some_iff.1 hb'
        exact .inl ⟨blk.instructions.size, by rw [Array.size_push]; exact Nat.le_succ _, .inr ⟨blk, hb, rfl, hv⟩⟩
      · exact .inl ⟨_, Nat.le_refl _, .inr ⟨blk', hb', rfl, hv⟩⟩
  · obtain ⟨ins, hi, htype, hbody⟩ := hc
    rcases instruction?_append_cases hs hi with hold | ⟨rfl, rfl, rfl⟩
    · exact .inr ⟨ins, hold, htype, hbody⟩
    · exact .inl (hloop htype c hbody)

theorem sees_append (hs : b.Scoped pending) {op : OpSpec} {v : ValueId} (hv : v ∈ (b.append op).1) :
    (b.append op).2.Sees pending v := by
  obtain ⟨r, hr, hrd⟩ := definition_pushResults hv
  refine ⟨.instruction b.current b.position, ⟨⟨r, hr, hrd⟩, _, instruction?_append hs op, hv⟩, ?_⟩
  rw [(grows_append b op).current, position_append hs op]
  exact .earlier (Nat.lt_succ_self _)

theorem scoped_apply (hs : b.Scoped pending) {l : Lowering}
    (hop : ∀ op, l.addition = some (.instruction op) → ∀ v, some v ∈ op.operands → b.Sees pending v)
    (hloop : ∀ op, l.addition = some (.instruction op) → op.opType = "Loop" →
      ∀ c, op.params.find? "body" = some (.block c) → pending b.current b.position c) :
    (l.apply b).2.Scoped pending := by
  unfold Lowering.apply
  split
  · exact hs
  · next op hl => exact scoped_append hs (hop op hl) (hloop op hl)
  · exact scoped_createConstant hs _ _

theorem sees_apply (hs : b.Scoped pending) {l : Lowering} (hl : ∀ v ∈ l.forwarded, b.Sees pending v) {v : ValueId}
    (hv : v ∈ (l.apply b).1) : (l.apply b).2.Sees pending v := by
  have hold : ∀ w ∈ l.forwarded, (l.apply b).2.Sees pending w := fun w hw => (grows_apply l b).sees (hl w hw)
  unfold Lowering.apply at hv hold ⊢
  split at hv
  · exact hl v hv
  · next op hop =>
    rw [hop] at hold
    rcases List.mem_append.1 hv with hv | hv
    · exact hold v hv
    · exact sees_append hs hv
  · next name data hop =>
    rw [hop] at hold
    rcases List.mem_append.1 hv with hv | hv
    · exact hold v hv
    · rw [List.mem_singleton.1 hv]
      exact sees_createConstant b name data

/-! ## Results and nested blocks -/

theorem scoped_setResults (hs : b.Scoped pending) {results : List ValueId} (hr : ∀ v ∈ results, b.Sees pending v) :
    (b.setResults results).Scoped pending := by
  have hg := grows_setResults b results
  have hins := instruction?_setResults b results
  refine hs.grows hg (fun x i v hu => ?_) fun p i c hc => .inr ((Function.hosts_congr hins).1 hc)
  rcases hu with ⟨ins, hi, hv⟩ | ⟨blk', hb', rfl, hv⟩
  · exact .inl ⟨i, Nat.le_refl i, .inl ⟨ins, (hins x i).symm.trans hi, hv⟩⟩
  · rw [setResults, block?_modifyBlock] at hb'
    split at hb'
    · next hx =>
      subst hx
      obtain ⟨blk, hb, rfl⟩ := Option.map_eq_some_iff.1 hb'
      refine .inr (hg.function.available (Nat.le_refl _) ?_)
      have hsee := hr v hv
      rwa [Sees, position_eq hb] at hsee
    · exact .inl ⟨_, Nat.le_refl _, .inr ⟨blk', hb', rfl, hv⟩⟩

theorem extends_openBlock (b : Builder) (name : String) : b.function.Extends (b.openBlock name).2.function := by
  refine ⟨fun _ _ h => h, fun _ h => h, fun _ h => h, fun _ _ _ => rfl, fun x blk hx => ⟨blk, ?_, .refl blk⟩⟩
  rw [block?_openBlock, if_neg, hx]
  rintro rfl
  rw [block?_openBlock_fst] at hx
  cases hx

/-- A body may use whatever its loop may use. -/
theorem sees_openBlock {name : String} {v : ValueId} (h : b.Sees pending v) :
    (b.openBlock name).2.Sees (pending.add b.current b.position (b.openBlock name).1) v := by
  obtain ⟨d, hd, hdom⟩ := (extends_openBlock b name).available (Nat.le_refl _) h
  exact ⟨d, hd, .outer (.inl (.inr ⟨rfl, rfl, rfl⟩)) (hdom.mono (fun _ _ _ => Or.imp_left .inl) (Nat.le_refl _))⟩

theorem instruction?_openBlock (b : Builder) (name : String) (x : BlockId) (i : Nat) :
    (b.openBlock name).2.function.instruction? x i = b.function.instruction? x i := by
  rw [Function.instruction?, block?_openBlock, Function.instruction?]
  split
  · next hx =>
    rw [hx, block?_openBlock_fst]
    simp [Block.new]
  · rfl

/-- A body that has just been opened is newer than every block and belongs to no other loop. -/
theorem tree_openBlock (hs : b.Scoped pending) (name : String) :
    ((b.openBlock name).2.function.nesting (pending.add b.current b.position (b.openBlock name).1)).Tree := by
  have hcases : ∀ p i c,
      (b.openBlock name).2.function.nesting (pending.add b.current b.position (b.openBlock name).1) p i c →
      b.function.nesting pending p i c ∧ c ≠ (b.openBlock name).1 ∨
        p = b.current ∧ i = b.position ∧ c = (b.openBlock name).1 := by
    intro p i c hn
    have hold : b.function.nesting pending p i c → c ≠ (b.openBlock name).1 := by
      rintro hn rfl
      obtain ⟨blk, hb⟩ := hs.known _ _ _ hn
      rw [block?_openBlock_fst] at hb
      cases hb
    rcases hn with (hp | hnew) | hh
    · exact .inl ⟨.inl hp, hold (.inl hp)⟩
    · exact .inr hnew
    · have hh := (Function.hosts_congr (instruction?_openBlock b name)).1 hh
      exact .inl ⟨.inr hh, hold (.inr hh)⟩
  refine ⟨fun p i c hn => ?_, fun p i p' i' c hn hn' => ?_⟩
  · rcases hcases p i c hn with ⟨hold, -⟩ | ⟨rfl, -, rfl⟩
    · exact hs.tree.older p i c hold
    · obtain ⟨blk, hb⟩ := hs.opened
      exact (Array.getElem?_eq_some_iff.1 hb).1
  · -- an old body is not the new one, so both places are old or both are new
    rcases hcases p i c hn with ⟨hold, hne⟩ | ⟨rfl, rfl, hc⟩ <;>
      rcases hcases p' i' c hn' with ⟨hold', hne'⟩ | ⟨rfl, rfl, hc'⟩
    · exact hs.tree.unique p i p' i' c hold hold'
    · exact absurd hc' hne
    · exact absurd hc hne'
    · exact ⟨rfl, rfl⟩

theorem scoped_openBlock (hs : b.Scoped pending) (name : String) :
    (b.openBlock name).2.Scoped (pending.add b.current b.position (b.openBlock name).1) := by
  have hext := extends_openBlock b name
  refine ⟨List.cons_ne_nil _ _, ⟨_, (block?_openBlock ..).trans (if_pos rfl)⟩, fun x i v hu => ?_,
    tree_openBlock hs name, fun p i c hn => ?_⟩
  · have hu' : b.function.Uses x i v := by
      rcases hu with ⟨ins, hi, hv⟩ | ⟨blk, hb, rfl, hv⟩
      · exact .inl ⟨ins, (instruction?_openBlock b name x i).symm.trans hi, hv⟩
      · rw [block?_openBlock] at hb
        split at hb
        · cases hb; cases hv
        · exact .inr ⟨blk, hb, rfl, hv⟩
    exact (hext.available (Nat.le_refl i) (hs.uses x i v hu')).imp fun _ _ _ => Or.imp_left .inl
  · have hold : b.function.nesting pending p i c → ∃ blk, (b.openBlock name).2.function.block? c = some blk := by
      intro hn
      obtain ⟨blk, hb⟩ := hs.known p i c hn
      obtain ⟨blk', hb', -⟩ := hext.blocks c blk hb
      exact ⟨blk', hb'⟩
    rcases hn with (hp | ⟨-, -, rfl⟩) | hh
    · exact hold (.inl hp)
    · exact ⟨_, (block?_openBlock ..).trans (if_pos rfl)⟩
    · exact hold (.inr ((Function.hosts_congr (instruction?_openBlock b name)).1 hh))

theorem scoped_closeBlock {name : String} (hs : b.Scoped pending) (hg : (b.openBlock name).2.Grows b')
    {pending' : Nesting} (hs' : b'.Scoped pending') : b'.closeBlock.2.Scoped pending' := by
  obtain ⟨blk, hb⟩ := hs.opened
  have hgrows := grows_openBlock hs.nonempty hg
  refine ⟨hgrows.stack ▸ hs.nonempty, ⟨blk, ?_⟩, ?_, ?_, ?_⟩
  · rw [hgrows.current]
    exact block?_closeBlock hg hb
  · rw [function_closeBlock]
    exact hs'.uses
  · rw [function_closeBlock]
    exact hs'.tree
  · rw [function_closeBlock]
    exact hs'.known

/-- A block that is opened and closed leaves the place where its loop will stand. -/
theorem position_closeBlock {name : String} (hs : b.Scoped pending) (hg : (b.openBlock name).2.Grows b') :
    b'.closeBlock.2.position = b.position := by
  obtain ⟨blk, hb⟩ := hs.opened
  have hb' := block?_closeBlock hg hb
  rw [position_eq hb, position_eq ((grows_openBlock hs.nonempty hg).current ▸ hb')]

/-- Loops that have come are no longer pending. -/
theorem Sees.of_hosts {pending' : Nesting} {v : ValueId} (hv : b.Sees pending' v)
    (h : ∀ p i c, pending' p i c → b.function.nesting pending p i c) : b.Sees pending v :=
  hv.imp fun p i c hn => hn.elim (h p i c) .inr

theorem Scoped.of_hosts {pending' : Nesting} (hs : b.Scoped pending') (hle : ∀ p i c, pending p i c → pending' p i c)
    (h : ∀ p i c, pending' p i c → b.function.nesting pending p i c) : b.Scoped pending := by
  have hle' : ∀ p i c, b.function.nesting pending p i c → b.function.nesting pending' p i c := fun p i c =>
    Or.imp_left (hle p i c)
  exact ⟨hs.nonempty, hs.opened, fun x i v hu => (hs.uses x i v hu).imp fun p i c hn => hn.elim (h p i c) .inr,
    hs.tree.of_le hle', fun p i c hn => hs.known p i c (hle' p i c hn)⟩

end Scoped

end Builder

end ModelImport
