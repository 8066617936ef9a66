import ModelImport.Proofs.LoopBody
/-!
# Loops and their bodies agree

In the function that an import returns, every block but the entry is the body of one loop, and every loop agrees with
its body (`loops_and_bodies_agree`). The blocks are numbered in the order in which the bodies are met: a body comes
before those inside it, and these before the rest of the nodes (`loopBodies`). A run therefore makes the blocks of its
bodies one after another, and what it has made it leaves alone (`Builder.Builds`).
-/

namespace ModelImport

/-- The bodies of the loops, at any depth, in the order in which they are met. -/
def loopBodies (nodes : List Node) : List Graph :=
  match nodes with
  | [] => []
  | node :: rest =>
    let inside :=
      if node.isLoop then
        match h : loopBody node with
        | .ok body =>
          have := Nat.lt_trans (Session.sizeOf_nodes_lt body) (sizeOf_loopBody h)
          body :: loopBodies body.nodes
        | .error _ => []
      else []
    inside ++ loopBodies rest
termination_by sizeOf nodes

theorem loopBodies_nil : loopBodies [] = [] := by rw [loopBodies]

theorem loopBodies_cons_node {node : Node} (h : node.isLoop = false) (rest : List Node) :
    loopBodies (node :: rest) = loopBodies rest := by
  rw [loopBodies, h]
  rfl

theorem loopBodies_cons_loop {node : Node} {body : Graph} (h : node.isLoop = true) (hb : loopBody node = .ok body)
    (rest : List Node) : loopBodies (node :: rest) = body :: loopBodies body.nodes ++ loopBodies rest := by
  rw [loopBodies, h, if_pos rfl]
  split
  · next body' hb' =>
    rw [hb] at hb'
    cases hb'
    rfl
  · next e he =>
    rw [hb] at he
    cases he

namespace Builder

/-! ## Blocks are made one after another -/

/-- Every loop has a body. -/
def Bodied (b : Builder) : Prop :=
  ∀ p i ins, b.function.instruction? p i = some ins → ins.opType = "Loop" →
    ∃ c, ins.params.find? "body" = some (.block c)

/-- So many blocks have been added, no older one has got new arguments, and every loop still has a body. -/
structure Works (n : Nat) (b b' : Builder) : Prop where
  size : b'.function.blocks.size = b.function.blocks.size + n
  arguments : ∀ x blk, b.function.block? x = some blk →
    ∃ blk', b'.function.block? x = some blk' ∧ blk'.arguments = blk.arguments
  bodied : b.Bodied → b'.Bodied

/-- The builder has gone on and made blocks of the given bodies, one after another. -/
structure Builds (bodies : List Graph) (b b' : Builder) : Prop where
  works : Works bodies.length b b'
  grows : b.Grows b'
  made : ∀ (k : Nat) body, bodies[k]? = some body → b'.function.BodyOf ⟨b.function.blocks.size + k⟩ body

section
variable {b b' b'' : Builder} {pending : Nesting}

theorem Works.trans {n m : Nat} (h : Works n b b') (h' : Works m b' b'') : Works (n + m) b b'' := by
  refine ⟨by rw [h'.size, h.size, Nat.add_assoc], fun x blk hx => ?_, fun hb => h'.bodied (h.bodied hb)⟩
  obtain ⟨blk', hx', ha⟩ := h.arguments x blk hx
  obtain ⟨blk'', hx'', ha'⟩ := h'.arguments x blk' hx'
  exact ⟨blk'', hx'', ha'.trans ha⟩

theorem works_of_blocks_eq (h : b'.function.blocks = b.function.blocks) : Works 0 b b' := by
  refine ⟨congrArg Array.size h, fun x blk hx => ⟨blk, ?_, rfl⟩, fun hb p i ins hi => hb p i ins ?_⟩
  · rwa [Function.block?, h]
  · rwa [Function.instruction?, Function.block?, h] at hi

theorem works_append (hs : b.Scoped pending) {op : OpSpec}
    (hop : op.opType = "Loop" → ∃ c, op.params.find? "body" = some (.block c)) : Works 0 b (b.append op).2 := by
  refine ⟨?_, fun x blk hx => ?_, fun hb p i ins hi htype => ?_⟩
  · rw [append_snd, modifyBlock, Array.size_modify, blocks_pushResults, Nat.add_zero]
  · rw [block?_append, hx]
    split
    · exact ⟨_, rfl, rfl⟩
    · exact ⟨blk, rfl, rfl⟩
  · rcases instruction?_append_cases hs hi with hold | ⟨-, -, rfl⟩
    · exact hb p i ins hold htype
    · exact hop htype

theorem works_setResults (b : Builder) (results : List ValueId) : Works 0 b (b.setResults results) := by
  refine ⟨Array.size_modify, fun x blk hx => ?_, fun hb p i ins hi => hb p i ins ?_⟩
  · rw [setResults, block?_modifyBlock, hx]
    split
    · exact ⟨_, rfl, rfl⟩
    · exact ⟨blk, rfl, rfl⟩
  · exact (instruction?_setResults b results p i).symm.trans hi

theorem bodied_new (name : String) : (new name).Bodied := by
  rintro ⟨_ | n⟩ i ins h <;> simp [Function.instruction?, Function.block?, new, Function.new, Block.new] at h

/-- A block that is made later is not the innermost open one now. -/
theorem Scoped.ne_current (hs : b.Scoped pending) (k : Nat) : (⟨b.function.blocks.size + k⟩ : BlockId) ≠ b.current := by
  intro hcurrent
  obtain ⟨blk, hblk⟩ := hs.opened
  have hopen := (Array.getElem?_eq_some_iff.1 hblk).1
  rw [← hcurrent] at hopen
  exact absurd hopen (Nat.not_lt.2 (Nat.le_add_right _ k))

theorem Works.builds (h : Works 0 b b') (hg : b.Grows b') : Builds [] b b' := ⟨h, hg, nofun⟩

/-- What has been made is closed, and what comes later leaves it alone. -/
theorem Builds.trans {bodies bodies' : List Graph} (h : Builds bodies b b') (h' : Builds bodies' b' b'')
    (hs : b.Scoped pending) : Builds (bodies ++ bodies') b b'' := by
  refine ⟨List.length_append ▸ h.works.trans h'.works, h.grows.trans h'.grows, fun k body hk => ?_⟩
  rcases Nat.lt_or_ge k bodies.length with hlt | hge
  · rw [List.getElem?_append_left hlt] at hk
    exact h'.grows.bodyOf (h.grows.current ▸ hs.ne_current k) (h.made k body hk)
  · rw [List.getElem?_append_right hge] at hk
    have hmade := h'.made _ body hk
    rwa [h.works.size, Nat.add_assoc, Nat.add_sub_cancel' hge] at hmade

/-- In a function built from nothing, every block but the entry has been made of a body. -/
theorem Builds.bodyOf {name : String} {bodies : List Graph} (h : Builds bodies (new name) b) {x : BlockId} {blk : Block}
    (hblk : b.function.block? x = some blk) (hne : x ≠ .entry) :
    ∃ k body, x = ⟨k + 1⟩ ∧ bodies[k]? = some body ∧ b.function.BodyOf x body := by
  rcases x with ⟨_ | k⟩
  · exact absurd rfl hne
  · have hlt := (Array.getElem?_eq_some_iff.1 hblk).1
    rw [h.works.size, show (new name).function.blocks.size = 1 from rfl, Nat.add_comm 1] at hlt
    have hk := List.getElem?_eq_getElem (Nat.lt_of_succ_lt_succ hlt)
    refine ⟨k, _, rfl, hk, ?_⟩
    rw [Nat.add_comm]
    exact h.made k _ hk

end

end Builder

namespace Session

/-! ## Nodes -/

/-- An ordinary node makes no block. -/
theorem Scoped.builds_convertNode {pending : Nesting} {scope : ScopeId} {s : Session} (hs : s.Scoped pending scope)
    (hreg : s.registry = .builtin) (opset : Int) (node : Node) :
    Builder.Builds [] s.builder (s.convertNode scope opset node).2.builder := by
  refine Builder.Works.builds ?_ ((evolves_convertNode s opset node : s.Evolves scope _).builder
    (additive_of_builtin hreg hs.builder.nonempty))
  have hsame : Builder.Works 0 s.builder s.builder := Builder.works_of_blocks_eq rfl
  rcases convertNode_builtin hreg scope opset node with ⟨e, he⟩ | ⟨operands, c, l, view, -, hc, -, hl, he⟩
  · rw [he]
    exact hsame
  · rw [he, Session.applyLowering, bindOutputs_builder]
    change Builder.Works 0 s.builder (l.apply s.builder).2
    rcases l.apply_cases s.builder with ⟨-, ha⟩ | ⟨op, hop, ha⟩ | ⟨name, data, -, ha⟩ <;> rw [ha]
    · exact hsame
    · exact Builder.works_append hs.builder fun htype =>
        absurd htype (hl.loopFree (Registry.builtin_ne_loop hc) op hop)
    · exact Builder.works_of_blocks_eq rfl

/-! ## Loops -/

section Loop
variable {pending : Nesting} {scope : ScopeId} {s inner : Session} {node : Node} {plan : LoopPlan}

theorem leaveBody_function (s : Session) (child : ScopeId) (outer : Phase) (yielded : List ValueId) :
    (s.leaveBody child outer (some yielded)).builder.function = (s.builder.setResults yielded).function :=
  Builder.function_closeBlock _

/-- A body that is entered, converted and left adds its block to those inside it. -/
theorem works_leaveBody (hr : s.registry.Additive)
    (hin : (s.enterLoop scope node plan).Evolves (s.bodyScope scope) inner) {n : Nat}
    (hw : Builder.Works n (s.enterLoop scope node plan).builder inner.builder) (outer : Phase)
    (yielded : List ValueId) :
    Builder.Works (n + 1) s.builder (inner.leaveBody (s.bodyScope scope) outer (some yielded)).builder := by
  have hgrow := grows_body hr ((evolves_enterLoop s scope node plan).trans hin) yielded
  have hyield := hw.trans (Builder.works_setResults inner.builder yielded)
  obtain ⟨hsize, hins⟩ := enterLoop_blocks s scope node plan
  refine ⟨?_, fun x blk hx => ⟨blk, Builder.block?_closeBlock hgrow hx, rfl⟩, fun hb => ?_⟩
  · rw [leaveBody_function]
    calc (inner.builder.setResults yielded).function.blocks.size
      _ = s.builder.function.blocks.size + 1 + n := by rw [hyield.size, hsize]; rfl
      _ = s.builder.function.blocks.size + (n + 1) := by omega
  · have hbodied := hyield.bodied fun p i ins hi => hb p i ins ((hins p i).symm.trans hi)
    rw [Builder.Bodied, leaveBody_function]
    exact hbodied

/-- A loop makes the block of its body, and then those inside it. -/
theorem Scoped.builds_finishLoop (hs : s.Scoped pending scope) (hr : s.registry.Additive)
    (hp : s.planLoop scope node = .ok plan) (hin : (s.enterLoop scope node plan).Evolves (s.bodyScope scope) inner)
    (hi : inner.Scoped (bodyPending pending s) (s.bodyScope scope)) {bodies : List Graph}
    (hb : Builder.Builds bodies (s.enterLoop scope node plan).builder inner.builder) {yielded : List ValueId}
    (hclean : inner.diagnostics.length ≤ s.diagnostics.length)
    (hy : inner.resolveOutputs (s.bodyScope scope) plan.body.outputs = some yielded) (outer : Phase) :
    Builder.Builds (plan.body :: bodies) s.builder
      ((inner.leaveBody (s.bodyScope scope) outer (some yielded)).finishLoop scope node plan s.bodyBlock
        yielded).2.builder := by
  have hopen := (evolves_enterLoop s scope node plan).trans hin
  have hcurrent : inner.builder.current = s.bodyBlock := (hopen.builder ⟨hr, List.cons_ne_nil _ _⟩).current
  have ht := hs.leaveBody hr node plan hopen hi hy outer
  have hleave := Builder.grows_openBlock hs.builder.nonempty (grows_body hr hopen yielded)
  have hworks := works_leaveBody hr hin hb.works outer yielded
  -- the block of the body, with the arguments it was given and the values it yields
  obtain ⟨blk, hblk, harguments⟩ := enterLoop_arguments hr (Nat.le_trans hin.diagnostics.length_le hclean)
  obtain ⟨blk', hblk', hsame⟩ := hb.works.arguments _ blk hblk
  have hbody := Builder.block?_setResults (hcurrent ▸ hblk') yielded
  rw [hcurrent, ← leaveBody_function inner (s.bodyScope scope) outer] at hbody
  refine ⟨hworks.trans (m := 0) ?_, hleave.trans ?_, fun k body hk => ?_⟩
  · rw [finishLoop_builder]
    exact Builder.works_append ht.builder fun _ => ⟨_, rfl⟩
  · rw [finishLoop_builder]
    exact Builder.grows_append ..
  · cases k with
    | zero =>
      cases hk
      have hchecked := (planLoop_checked hp).mono hleave.function
      have hne : s.bodyBlock ≠ _ := hs.builder.ne_current 0
      rw [← hleave.current] at hne
      refine bodyOf_finishLoop ht.builder hchecked hne hbody ?_ (length_resolveOutputs hy) ?_ scope
      · rw [hsame]
        rw [leaveBody_function]
        exact harguments.imp fun _ _ => hb.grows.function.binds
      · rw [leaveBody_function]
        exact fun v hv => (hi.resolveOutputs hy v hv).type?
    | succ k =>
      have hmade := hb.made k body hk
      rw [(enterLoop_blocks s scope node plan).1, Nat.add_right_comm, Nat.add_assoc] at hmade
      have hyielded := (Builder.grows_setResults inner.builder yielded).bodyOf ?_ hmade
      · rw [← leaveBody_function inner (s.bodyScope scope) outer] at hyielded
        rw [finishLoop_builder]
        exact (Builder.grows_append ..).bodyOf (hleave.current ▸ hs.builder.ne_current (k + 1)) hyielded
      · rw [hcurrent]
        intro he
        exact absurd (congrArg BlockId.index he) (Nat.ne_of_gt (Nat.lt_add_of_pos_right (Nat.succ_pos k)))

end Loop

/-! ## Runs and imports -/

theorem CleanRun.builds {opset : Int} {scope : ScopeId} {nodes : List Node} {s s' : Session}
    (h : CleanRun opset scope nodes s s') (hreg : s.registry = .builtin) {pending : Nesting}
    (hs : s.Scoped pending scope) : Builder.Builds (loopBodies nodes) s.builder s'.builder := by
  -- for any pending places, as in `CleanRun.scoped`
  induction h generalizing pending with
  | done =>
    rw [loopBodies_nil]
    exact (Builder.works_of_blocks_eq rfl).builds (.refl _)
  | @node scope node rest s t s' _ hl hc _ ih =>
    obtain ⟨hs', hreg'⟩ := hs.after_node hreg hc
    have hbuilt := (hs.congr rfl rfl : s.ask.Scoped pending scope).builds_convertNode hreg opset node
    rw [hc] at hbuilt
    rw [loopBodies_cons_node hl]
    exact hbuilt.trans (ih hreg' hs') hs.builder
  | @loop scope node rest s t s' plan inner yielded _ hl hp hbody hy hres hc _ ihb ih =>
    have hask : s.ask.Scoped pending scope := hs.congr rfl rfl
    have henter := (evolves_enterLoop s.ask scope node plan).registry.trans hreg
    have hinner := hbody.scoped henter (hask.enterLoop node plan)
    have hrun := hbody.run.evolves (usable_enterLoop node plan hask.usable)
    obtain ⟨hs', hreg'⟩ := hs.after_loop hreg hp hrun hinner hres hc
    have hlen := length_of_yieldBody (congrArg Prod.fst hy)
    rw [hy] at hlen
    have hbuilt := hask.builds_finishLoop (hreg ▸ Registry.builtin_additive) hp hrun hinner
      (ihb henter (hask.enterLoop node plan))
      (Nat.le_of_eq hlen) hres s.phase
    rw [hc] at hbuilt
    rw [loopBodies_cons_loop hl (planLoop_eq_ok hp).2.1]
    exact hbuilt.trans (ih hreg' hs') hs.builder

theorem blocks_openGraph (s : Session) (graph : Graph) :
    (s.openGraph graph).builder.function.blocks = s.builder.function.blocks := by
  rw [openGraph, blocks_bindInitializers]
  refine foldl_builder (g := (·.function.blocks)) (fun t input => ?_) _ _
  unfold bindInput
  split
  · rfl
  · rw [bindName_builder]
    rfl

theorem CleanImport.builds {models : List Model} {s s' : Session} (h : CleanImport models s s') (hs : s.Sound) :
    Builder.Builds (models.flatMap fun model => loopBodies model.graph.nodes) s.builder s'.builder := by
  induction h with
  | nil => exact (Builder.works_of_blocks_eq rfl).builds (.refl _)
  | @cons model models s inner values s' hrun hvalues _ ih =>
    have hopen := evolves_openGraph s model.graph
    have hbegin := (Builder.works_of_blocks_eq (blocks_openGraph s model.graph)).builds
      (hopen.builder (additive_of_builtin hs.registry hs.names.builder.nonempty))
    have hnodes := hrun.builds (hopen.registry.trans hs.registry) (hs.names.openGraph model.graph)
    rw [List.flatMap_cons]
    exact (hbegin.trans hnodes hs.names.builder).trans (ih (hs.collected hrun hvalues)) hs.names.builder

end Session

/-- Whatever the models and the options, a function that an import returns has one block for each loop body of the
models, in their order, after the entry. Each of these blocks is the body of one loop, which stands in an older block,
and each loop agrees with its body: in the number of operands, arguments, yielded values and results, and in their
types. -/
theorem loops_and_bodies_agree {models : List Model} {options : Options} {f : Function}
    (h : (importModels models options).result = .ok f) :
    f.blocks.size = (models.flatMap fun model => loopBodies model.graph.nodes).length + 1 ∧
      (∀ b blk, f.block? b = some blk → b ≠ .entry →
        (∃! place : BlockId × Nat, f.Hosts place.1 place.2 b) ∧ ∀ p i, f.Hosts p i b → p.index < b.index) ∧
      ∀ p i ins, f.instruction? p i = some ins → ins.opType = "Loop" →
        ∃ k blk body n, ins.params.find? "body" = some (.block ⟨k + 1⟩) ∧ f.block? ⟨k + 1⟩ = some blk ∧
          (models.flatMap fun model => loopBodies model.graph.nodes)[k]? = some body ∧ f.Agrees n ins blk body := by
  generalize hbodies : (models.flatMap fun model => loopBodies model.graph.nodes) = bodies
  obtain ⟨s, -, hs, hclean, rfl⟩ := cleanImport_of_ok h
  have hscoped := Builder.scoped_setResults hs.names.builder hs.outputs
  have htree := hscoped.tree.of_le fun _ _ _ => .inr
  have hnodes := hclean.builds (Session.sound_standard options)
  have hresults := (s.builder.works_setResults s.outputs).builds (s.builder.grows_setResults s.outputs)
  have hbuilt := hnodes.trans hresults (Builder.scoped_new "main")
  rw [hbodies, List.append_nil] at hbuilt
  generalize s.builder.setResults s.outputs = b at hscoped htree hbuilt ⊢
  refine ⟨hbuilt.works.size.trans (Nat.add_comm ..), fun x blk hblk hne => ⟨?_, fun p i => htree.older p i x⟩,
    fun p i ins hins htype => ?_⟩
  · obtain ⟨k, body, rfl, -, p, i, ins, -, -, hins, htype, hparam, -⟩ := hbuilt.bodyOf hblk hne
    refine ⟨(p, i), ⟨ins, hins, htype, hparam⟩, fun place hplace => ?_⟩
    obtain ⟨hp, hi⟩ := htree.unique _ _ _ _ _ hplace ⟨ins, hins, htype, hparam⟩
    exact Prod.ext hp hi
  · obtain ⟨c, hparam⟩ := hbuilt.works.bodied (Builder.bodied_new "main") p i ins hins htype
    have hhosts : b.function.Hosts p i c := ⟨ins, hins, htype, hparam⟩
    obtain ⟨blk, hblk⟩ := hscoped.known p i c (.inr hhosts)
    have hne : c ≠ .entry := by
      rintro rfl
      exact absurd (htree.older p i _ hhosts) (Nat.not_lt_zero _)
    obtain ⟨k, body, rfl, hk, p', i', ins', blk', n, hins', htype', hparam', hblk', hagree⟩ :=
      hbuilt.bodyOf hblk hne
    -- the loop that made the block is the one we look at
    obtain ⟨rfl, rfl⟩ := htree.unique _ _ _ _ _ hhosts ⟨ins', hins', htype', hparam'⟩
    cases hins.symm.trans hins'
    exact ⟨k, blk', body, n, hparam, hblk', hk, hagree⟩

/-- A loop that runs `accumulator` on what it carries, and keeps the values of all iterations. -/
def history : Model where
  irVersion := 7
  opset := 13
  producer := "p"
  graph :=
    { name := "g"
      nodes := [⟨"", "Loop", "", ["", "", "x"], ["y", "all"], [("body", .graph
        { name := "body"
          nodes := accumulator.graph.nodes
          inputs := [⟨"j", none, none⟩, ⟨"d", none, none⟩, ⟨"x", none, none⟩]
          outputs := [⟨"d", none, none⟩, ⟨"y", none, none⟩, ⟨"y", none, none⟩]
          initializers := [] })]⟩]
      inputs := [⟨"x", some 1, some [.value 2]⟩]
      outputs := [⟨"y", none, none⟩, ⟨"all", none, none⟩]
      initializers := [] }

theorem history_loops_agree :
    ∃ f outer, (importModels [history] .standard).result = .ok f ∧ f.blocks.size = 3 ∧
      f.instruction? .entry 0 = some outer ∧ outer.opType = "Loop" ∧ ∃ k blk body n,
        outer.params.find? "body" = some (.block ⟨k + 1⟩) ∧ f.block? ⟨k + 1⟩ = some blk ∧
        ([history].flatMap fun model => loopBodies model.graph.nodes)[k]? = some body ∧ f.Agrees n outer blk body := by
  have hshape : (importModels [history] .standard).result.toOption.map
      (fun f => (f.blocks.size, (f.instruction? .entry 0).map (·.opType))) = some (3, some "Loop") := by decide +kernel
  cases h : (importModels [history] .standard).result with
  | ok f =>
    rw [h] at hshape
    obtain ⟨hsize, hfirst⟩ := Prod.mk.inj (Option.some.inj hshape)
    obtain ⟨outer, hins, htype⟩ := Option.map_eq_some_iff.1 hfirst
    exact ⟨f, outer, rfl, hsize, hins, htype, (loops_and_bodies_agree h).2.2 .entry 0 outer hins htype⟩
  | error e => rw [h] at hshape; cases hshape

end ModelImport
