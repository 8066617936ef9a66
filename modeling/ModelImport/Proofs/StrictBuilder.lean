import ModelImport.Proofs.StrictAccess
/-!
# Strict builders

The builder in terms of strict accesses: it looks up the block that it works on, and a block that is not there is a
fault. All of this rests on one thing about a builder, that there are open blocks and that they are there
(`Builder.Standing`). With the builder come the steps of strict converters. They agree with those of the library over
every such builder (`StrictM.Agrees`), and there is a rule for each kind of step.
-/

namespace ModelImport

/-! ## Open blocks -/

namespace Builder
variable {b b' : Builder}

/-- There is an open block, and every open block is there. -/
structure Standing (b : Builder) : Prop where
  nonempty : b.stack ≠ []
  exist : ∀ x ∈ b.stack, x.index < b.function.blocks.size

theorem Standing.current (h : b.Standing) : b.current.index < b.function.blocks.size := by
  obtain ⟨x, rest, hstack⟩ := List.exists_cons_of_ne_nil h.nonempty
  have hcurrent : b.current = x := by rw [Builder.current, hstack]; rfl
  rw [hcurrent]
  exact h.exist x (hstack ▸ List.mem_cons_self)

theorem Standing.grows (h : b.Standing) (hg : b.Grows b') : b'.Standing := by
  refine ⟨hg.stack ▸ h.nonempty, fun x hx => ?_⟩
  rw [hg.stack] at hx
  obtain ⟨blk, hblk, -⟩ := hg.function.blocks x _ (Array.getElem?_eq_getElem (h.exist x hx))
  exact (Array.getElem?_eq_some_iff.1 hblk).1

theorem Standing.openBlock (h : b.Standing) (name : String) : (b.openBlock name).2.Standing := by
  refine ⟨List.cons_ne_nil _ _, fun x hx => ?_⟩
  have hsize : (b.openBlock name).2.function.blocks.size = b.function.blocks.size + 1 := Array.size_push ..
  rw [hsize]
  rcases List.mem_cons.1 hx with rfl | hx
  · exact Nat.lt_succ_self _
  · exact Nat.lt_succ_of_lt (h.exist x hx)

end Builder

namespace Strict
variable {b : Builder}

/-! ## Blocks -/

/-- The block that a handle stands for. -/
def blockAt (b : Builder) (id : BlockId) : Except Fault Block := index b.function.blocks.toList id.index

/-- The builder with a block changed. -/
def modifyBlock (b : Builder) (id : BlockId) (f : Block → Block) : Except Fault Builder := do
  let _ ← blockAt b id
  return b.modifyBlock id f

theorem modifyBlock_eq {id : BlockId} (h : id.index < b.function.blocks.size) (f : Block → Block) :
    modifyBlock b id f = .ok (b.modifyBlock id f) := by
  rw [modifyBlock, blockAt, index_of_lt h]
  rfl

def append (b : Builder) (op : OpSpec) : Except Fault (List ValueId × Builder) := do
  let block := b.current
  let blk ← blockAt b block
  let (results, b) := Builder.pushResults block blk.instructions.size op.resultNames op.resultTypes b
  let instruction : Instruction := ⟨op.opType, op.name, op.operands, op.params, results⟩
  let b ← modifyBlock b block fun blk => { blk with instructions := blk.instructions.push instruction }
  return (results, b)

theorem append_eq (h : b.Standing) (op : OpSpec) : append b op = .ok (b.append op) := by
  obtain ⟨blk, hblk⟩ : ∃ blk, b.function.block? b.current = some blk := ⟨_, Array.getElem?_eq_getElem h.current⟩
  have hat : blockAt b b.current = .ok blk := by
    rw [blockAt, index_eq_ok, Array.getElem?_toList]
    exact hblk
  unfold append Builder.append
  simp only [hat, hblk, Option.map_some, Option.getD_some, bind, Except.bind]
  -- the results are values of the function and no blocks, so the block is where it was
  rw [modifyBlock_eq (by rw [Builder.blocks_pushResults]; exact h.current)]
  rfl

def createArgument (b : Builder) (name : String) (type : TensorType) : Except Fault (ValueId × Builder) := do
  let block := b.current
  let v := b.nextValue
  let b ← modifyBlock (b.pushValue ⟨name, type, .argument block⟩) block fun blk =>
    { blk with arguments := blk.arguments.push v }
  return (v, b)

theorem createArgument_eq (h : b.Standing) (name : String) (type : TensorType) :
    createArgument b name type = .ok (b.createArgument name type) := by
  unfold createArgument
  dsimp only
  rw [modifyBlock_eq (b := b.pushValue _) h.current]
  rfl

def setResults (b : Builder) (results : List ValueId) : Except Fault Builder :=
  modifyBlock b b.current fun blk => { blk with results }

theorem setResults_eq (h : b.Standing) (results : List ValueId) : setResults b results = .ok (b.setResults results) :=
  modifyBlock_eq h.current _

end Strict

/-! ## Converters -/

/-- The steps of a strict converter. -/
abbrev StrictM := ReaderT Context (StateT AttributeView (ExceptT Stop (StateM Builder)))

instance : MonadLift StrictLookM StrictM where
  monadLift m := fun context view b => (m ⟨context, b.function⟩ view, b)

namespace StrictM
variable {α β : Type}

/-- What a strict access to the builder comes to. A fault leaves the builder as it was. -/
def act (f : Builder → Except Fault (α × Builder)) : StrictM α := fun _ view b =>
  match f b with
  | .ok (a, b') => (.ok (a, view), b')
  | .error e => (.error (.fault e), b)

/-- Steps of the library that make no access but that to the block which they add to. -/
def lift (m : ConverterM α) : StrictM α := fun context view b =>
  match Strict.blockAt b b.current with
  | .ok _ => ((m context view b).1.mapError .failure, (m context view b).2)
  | .error e => (.error (.fault e), b)

/-- A strict step that only looks. -/
class Looks (m : StrictM α) (look : outParam (StrictLookM α)) : Prop where
  eq : m = liftM (m := StrictLookM) look

instance (look : StrictLookM α) : Looks (liftM look) look := ⟨rfl⟩

instance (a : α) : Looks (pure a) (pure a) := ⟨rfl⟩

theorem look_bind (look : StrictLookM α) (f : α → StrictM β) (context : Context) (view : AttributeView) (b : Builder) :
    ((liftM look : StrictM α) >>= f) context view b =
      match look ⟨context, b.function⟩ view with
      | .error e => (.error e, b)
      | .ok (a, view') => f a context view' b := by
  have hcont : ((liftM look : StrictM α) >>= f) context view b =
      ExceptT.bindCont (m := StateM Builder) (fun r => f r.1 context r.2) (look ⟨context, b.function⟩ view) b := rfl
  rw [hcont]
  cases look ⟨context, b.function⟩ view <;> rfl

instance (g : α → β) (m : StrictM α) (look : StrictLookM α) [hm : Looks m look] : Looks (g <$> m) (g <$> look) where
  eq := by
    obtain rfl := hm.eq
    funext context view b
    have hmap : (liftM (g <$> look) : StrictM β) context view b =
        (look ⟨context, b.function⟩ view >>= fun r => pure (g r.1, r.2), b) := rfl
    rw [hmap]
    refine (look_bind look (fun a => pure (g a)) context view b).trans ?_
    cases look ⟨context, b.function⟩ view <;> rfl

theorem bind_ok {m : StrictM α} {context : Context} {view view' : AttributeView} {b b' : Builder} {a : α}
    (h : m context view b = (.ok (a, view'), b')) (f : α → StrictM β) :
    (m >>= f) context view b = f a context view' b' := by
  have hcont : (m >>= f) context view b = ExceptT.bindCont (m := StateM Builder) (fun r => f r.1 context r.2)
    (m context view b).1 (m context view b).2 := rfl
  rw [hcont, h]
  rfl

/-- Over the function of a site, the strict steps come to the same as the others, without a fault. -/
def Agrees (site : Site) (m : StrictM α) (n : ConverterM α) : Prop :=
  ∀ view stack, Builder.Standing ⟨site.function, stack⟩ →
    m site.toContext view ⟨site.function, stack⟩ =
      ((n site.toContext view ⟨site.function, stack⟩).1.mapError .failure,
        (n site.toContext view ⟨site.function, stack⟩).2)

namespace Agrees
variable {site : Site}

/-- A step that may tell something about what it returns. -/
theorem bind {m : StrictM α} {n : ConverterM α} {slook : StrictLookM α} {look : LookM α} [hm : Looks m slook]
    [hn : ConverterM.Looks n look] {f : α → StrictM β} {g : α → ConverterM β} {P : α → Prop}
    (hlook : StrictLookM.Agrees site slook look) (hp : look.Returns site P) (hf : ∀ a, P a → Agrees site (f a) (g a)) :
    Agrees site (m >>= f) (n >>= g) := by
  intro view stack hstanding
  rw [hm.eq, hn.eq, look_bind, ConverterM.look_bind, show slook ⟨site.toContext, site.function⟩ view = _ from hlook view]
  cases hrun : look site view with
  | error e => rfl
  | ok r => exact hf r.1 (hp view r.1 r.2 hrun) r.2 stack hstanding

/-- A step of which nothing needs to be known. -/
theorem step {m : StrictM α} {n : ConverterM α} {slook : StrictLookM α} {look : LookM α} [Looks m slook]
    [ConverterM.Looks n look] {f : α → StrictM β} {g : α → ConverterM β} (hlook : StrictLookM.Agrees site slook look)
    (hf : ∀ a, Agrees site (f a) (g a)) : Agrees site (m >>= f) (n >>= g) :=
  bind (P := fun _ => True) hlook (fun _ _ _ _ => trivial) fun a _ => hf a

/-- An access that the data allows. -/
theorem access {x : Except Fault α} {a : α} {f : α → StrictM β} {n : ConverterM β} (hx : x = .ok a)
    (hf : Agrees site (f a) n) : Agrees site (liftM x >>= f) n := by
  subst hx
  exact hf

/-- What is computed from the node. -/
theorem read {f : Context → StrictM β} {g : Context → ConverterM β}
    (h : Agrees site (f site.toContext) (g site.toContext)) :
    Agrees site (MonadReader.read >>= f) (MonadReader.read >>= g) := h

/-- A look at the node that the library has no need of. -/
theorem peek {f : Context → StrictM β} {n : ConverterM β} (h : Agrees site (f site.toContext) n) :
    Agrees site (MonadReader.read >>= f) n := h

/-- A check before the rest. -/
theorem guard {c : Prop} [Decidable c] {key reason : String} {f : α → StrictM β} {g : α → ConverterM β}
    {m : StrictM β} {n : ConverterM β} (h : ¬c → Agrees site m n) :
    Agrees site (if c then liftM (LookM.invalid key reason : LookM α) >>= f else m)
      (if c then liftM (LookM.invalid key reason : LookM α) >>= g else n) := by
  split
  · exact fun _ _ _ => rfl
  · next hc => exact h hc

theorem pure {a : α} : Agrees site (pure a) (pure a) := fun _ _ _ => rfl

theorem throw {e : ImportError} : Agrees site (liftM (throw e : LookM α)) (throw e) := fun _ _ _ => rfl

/-- Whatever the library does in the block that is there. -/
theorem lift {n : ConverterM α} : Agrees site (StrictM.lift n) n := by
  intro view stack hstanding
  have hat : Strict.blockAt ⟨site.function, stack⟩ _ = .ok _ := Strict.index_of_lt hstanding.current
  rw [StrictM.lift, hat]

theorem append (op : OpSpec) : Agrees site (act (Strict.append · op)) (ConverterM.append op) := by
  intro view stack hstanding
  rw [act, Strict.append_eq hstanding]
  rfl

/-- An instruction after which nothing can fail. -/
theorem appended (op : OpSpec) (f : List ValueId → β) :
    Agrees site (do return f (← act (Strict.append · op))) (do return f (← ConverterM.append op)) := by
  intro view stack hstanding
  rw [bind_ok (append op view stack hstanding)]
  rfl

end Agrees

end StrictM

namespace Strict

open LookM

/-! ## Additions -/

/-- One instruction in place of the node, with an operator and operands of its own. -/
def emitOp (opType : String) (operands : List (Option ValueId)) (params : Params) (types : List TensorType) :
    StrictM (List ValueId) := do
  let node := (← read).node
  StrictM.act (append · ⟨opType, node.displayName, operands, params, node.outputs, types⟩)

/-- One instruction of the node's own kind over all its inputs. -/
def emit (params : Params) (types : List TensorType) : StrictM (List ValueId) := do
  emitOp (← opType) (← read).operands params types

end Strict

namespace StrictM.Agrees
variable {site : Site} {params : Params} {types : List TensorType}

theorem emit : Agrees site (Strict.emit params types) (ConverterM.emit params types) :=
  .step .lift fun _ => .read (.read (.append _))

end StrictM.Agrees

end ModelImport
