import ModelImport.Import
import ModelImport.Proofs.SessionSteps
/-!
# What a converter does to the function

A converter does one of three things to the function under construction: nothing, one instruction at the end of the
innermost open block, or one constant (`builtin_all_or_nothing`). All that was there stays as it was, and a converter
that fails has done nothing. The values it returns are operands of the node or have just been made. There are enough of
them for the outputs of the node, except in one case: a dropout whose mask is declared without a name
(`builtin_outputs_covered_iff`).
-/

namespace ModelImport

/-- A converter at work: the values that the node stands for, or the failure, and the builder after it. -/
def Converter.perform (c : Converter) (node : Node) (operands : List (Option ValueId)) (opset : Int) (b : Builder) :
    Except ImportError (List ValueId) × Builder :=
  let (answer, b') := c.run ⟨node, operands, opset⟩ b
  (answer.map Prod.fst, b')

/-- What a session does to its builder for an ordinary node is what the converter of the node does to it. -/
theorem Session.convertNode_builder {s : Session} {scope : ScopeId} {opset : Int} {node : Node} {c : Converter}
    {context : Context} (h : s.dispatch scope opset node = .ok (c, context)) :
    (s.convertNode scope opset node).2.builder = (c.perform node context.operands opset s.builder).2 := by
  rcases convertNode_cases s scope opset node with ⟨e, hd, -⟩ | ⟨operands, c', -, -, hd, hcase⟩
  · rw [hd] at h
    cases h
  · rw [hd] at h
    cases h
    rcases hcase with ⟨e, -, he⟩ | ⟨values, view, -, he⟩
    · rw [he]
      rfl
    · rw [he, conclude_builder]
      rfl

namespace Builder

/-! ## Additions -/

/-- The builder with one more instruction at the end of its innermost open block, and with the results of that. -/
def withInstruction (b : Builder) (ins : Instruction) (results : List Value) : Builder :=
  { b with
    function.values := b.function.values ++ results.toArray
    function.blocks := b.function.blocks.modify b.current.index fun blk =>
      { blk with instructions := blk.instructions.push ins } }

/-- The builder with one more constant. -/
def withConstant (b : Builder) (record : Value) (data : TensorData) : Builder :=
  { b with
    function.values := b.function.values.push record
    function.constants := b.function.constants.push b.nextValue
    function.constantData := b.function.constantData.insert b.nextValue data }

/-- The value is there now and was not there before. -/
def Creates (b b' : Builder) (v : ValueId) : Prop := b.function.value? v = none ∧ (b'.function.value? v).isSome

theorem append_eq (b : Builder) (op : OpSpec) : ∃ results : List Value,
    results.map Value.type = op.resultTypes ∧ (∀ r ∈ results, r.definition = .instruction b.current b.position) ∧
      (b.append op).1 = (List.range' b.function.values.size results.length).map ValueId.mk ∧
      (b.append op).2 = b.withInstruction (b.instructionOf op) results := by
  obtain ⟨results, htypes, hdef, he⟩ := pushResults_eq b.current b.position op.resultNames op.resultTypes b
  refine ⟨results, htypes, hdef, ?_, ?_⟩
  · rw [← List.length_map (f := Value.type), htypes]
    exact congrArg Prod.fst he
  · rw [append_snd, he]
    rfl

theorem creates_append {b : Builder} {op : OpSpec} {v : ValueId} (hv : v ∈ (b.append op).1) :
    b.Creates (b.append op).2 v := by
  obtain ⟨results, -, -, hvalues, he⟩ := append_eq b op
  rw [hvalues] at hv
  obtain ⟨i, hi, rfl⟩ := List.mem_map.1 hv
  rw [List.mem_range'_1] at hi
  rw [he]
  constructor
  · simpa [Function.value?] using hi.1
  · simpa [Function.value?, withInstruction] using hi.2

theorem creates_createConstant (b : Builder) (name : String) (data : TensorData) :
    b.Creates (b.createConstant name data).2 (b.createConstant name data).1 := by
  refine ⟨value?_nextValue b, ?_⟩
  simp [Function.value?, createConstant, pushValue, nextValue]

end Builder

theorem Lowering.mem_apply {l : Lowering} {b : Builder} {v : ValueId} (hv : v ∈ (l.apply b).1) :
    v ∈ l.forwarded ∨ b.Creates (l.apply b).2 v := by
  rcases l.apply_cases b with ⟨-, he⟩ | ⟨op, -, he⟩ | ⟨name, data, -, he⟩
  · rw [he] at hv
    exact .inl hv
  · rw [he] at hv ⊢
    exact (List.mem_append.1 hv).imp_right Builder.creates_append
  · rw [he] at hv ⊢
    refine (List.mem_append.1 hv).imp_right fun hnew => ?_
    rw [List.mem_singleton.1 hnew]
    exact Builder.creates_createConstant b name data

/-! ## Converters of the library -/

/-- A converter that leaves nothing half done fails without a trace, or makes one lowering. -/
theorem Converter.perform_cases {c : Converter} {node : Node} {operands : List (Option ValueId)} {opset : Int}
    {b : Builder} {P : Lowering → Prop}
    (h : ConverterM.Settles ⟨⟨node, operands, opset⟩, b.function⟩ c.lower P) :
    (∃ e, c.perform node operands opset b = (.error e, b)) ∨
      ∃ l, P l ∧ c.perform node operands opset b = (.ok (l.apply b).1, (l.apply b).2) := by
  rcases run_cases h with ⟨e, hrun⟩ | ⟨l, view, hl, hrun⟩
  · exact .inl ⟨e, by rw [perform, hrun]; rfl⟩
  · exact .inr ⟨l, hl, by rw [perform, hrun]; rfl⟩

/-- A converter of the library that fails leaves the builder as it is. One that succeeds leaves alone all that is there,
and adds nothing, one instruction over operands of the node, or one constant; the values that it returns are operands
of the node or have just been made. This is what sessions do to their builders, node by node. -/
theorem builtin_all_or_nothing {kind : String} {c : Converter} (h : Registry.builtin.find? kind = some c) (node : Node)
    (operands : List (Option ValueId)) (opset : Int) (b : Builder) :
    (match c.perform node operands opset b with
    | (.error _, b') => b' = b
    | (.ok values, b') =>
      b.Grows b' ∧ (∀ v ∈ values, some v ∈ operands ∨ b.Creates b' v) ∧
        (b' = b ∨
          (∃ ins results, b' = b.withInstruction ins results ∧ (∀ v, some v ∈ ins.operands → some v ∈ operands) ∧
            ∀ r ∈ results, r.definition = .instruction b.current b.position) ∨
          ∃ record data, b' = b.withConstant record data ∧ record.definition = .constant)) ∧
      ∀ (s : Session) (scope : ScopeId), s.builder = b →
        s.dispatch scope opset node = .ok (c, ⟨node, operands, opset⟩) →
        (s.convertNode scope opset node).2.builder = (c.perform node operands opset b).2 := by
  refine ⟨?_, fun s scope hb hs => hb ▸ Session.convertNode_builder hs⟩
  rcases Converter.perform_cases ((Registry.builtin_fits h).fits ⟨⟨node, operands, opset⟩, b.function⟩) with
    ⟨e, hperform⟩ | ⟨l, hl, hperform⟩
  · rw [hperform]
  · rw [hperform]
    refine ⟨Builder.grows_apply l b, fun v hv => (Lowering.mem_apply hv).imp_left (hl.forwarded v), ?_⟩
    rcases l.apply_cases b with ⟨-, he⟩ | ⟨op, hop, he⟩ | ⟨name, data, -, he⟩
    · exact .inl (congrArg Prod.snd he)
    · obtain ⟨results, -, hdef, -, happend⟩ := b.append_eq op
      exact .inr (.inl ⟨b.instructionOf op, results, (congrArg Prod.snd he).trans happend, hl.operands op hop, hdef⟩)
    · exact .inr (.inr ⟨_, data, congrArg Prod.snd he, rfl⟩)

/-- A loop body under construction, around which there is one input. -/
def bodyBuilder : Builder := (((Builder.new "f").createPlaceholder "x" (.ofSizes .f32 [4])).2.openBlock "body").2

def dropoutNode (mask : String) : Node := ⟨"", "Dropout", "", ["x"], ["y", mask], []⟩

theorem masked_dropout_in_body :
    Registry.builtin.find? "Dropout" = some (.of Operator.dropout) ∧
      ∃ b', (Converter.of Operator.dropout).perform (dropoutNode "m") [some ⟨0⟩] 13 bodyBuilder =
          (.ok [⟨0⟩, ⟨1⟩], b') ∧ bodyBuilder.Grows b' ∧ (b'.function.blocks.map (·.instructions.size)) = #[0, 1] ∧
        ∀ v ∈ [⟨0⟩, ⟨1⟩], some v ∈ [some ⟨0⟩] ∨ bodyBuilder.Creates b' v := by
  have hkind : Registry.builtin.find? "Dropout" = some (.of Operator.dropout) := rfl
  have hvalues : ((Converter.of Operator.dropout).perform (dropoutNode "m") [some ⟨0⟩] 13 bodyBuilder).1 =
      .ok [⟨0⟩, ⟨1⟩] := by rfl
  have hsizes : ((Converter.of Operator.dropout).perform (dropoutNode "m") [some ⟨0⟩] 13
      bodyBuilder).2.function.blocks.map (·.instructions.size) = #[0, 1] := by decide +kernel
  have hdone := (builtin_all_or_nothing hkind (dropoutNode "m") [some ⟨0⟩] 13 bodyBuilder).1
  refine ⟨hkind, _, Prod.ext hvalues rfl, ?_⟩
  rw [show (Converter.of Operator.dropout).perform (dropoutNode "m") [some ⟨0⟩] 13 bodyBuilder = (_, _) from
    Prod.ext hvalues rfl] at hdone
  exact ⟨hdone.1, hsizes, hdone.2.1⟩

/-- Counts the outputs of its node when the instruction has been added. -/
def hastyConverter : Converter := .of do
  let values ← ConverterM.emit [] [.ofSizes .f32 [4]]
  LookM.checkOutputs 1 (some 1)
  return values

-- that nothing is left of a failure is a merit of the library: a converter can be written that leaves its instruction
example :
    (hastyConverter.perform (dropoutNode "m") [some ⟨0⟩] 13 bodyBuilder).1 =
        .error (.arity "Dropout" "outputs" 1 (some 1) 2) ∧
      ((hastyConverter.perform (dropoutNode "m") [some ⟨0⟩] 13 bodyBuilder).2.function.blocks.map
        (·.instructions.size)) = #[0, 1] := ⟨rfl, by decide +kernel⟩

/-! ## Values for the outputs -/

theorem Registry.builtin_covers_iff {kind : String} {c : Converter} (h : builtin.find? kind = some c) (site : Site) :
    ConverterM.Settles site c.lower fun l =>
      l.Covers site ↔ ¬(kind = "Dropout" ∧ site.node.outputs[1]? = some "") := by
  by_cases hkind : kind = "Dropout"
  · subst hkind
    obtain rfl : .of Operator.dropout = c := Option.some.inj h
    refine ConverterM.settles_imp Operator.settles_dropout fun l hl => hl.2.trans ?_
    simp
  · refine ConverterM.settles_imp (builtin_covers h hkind site) fun l hl => ?_
    simp [hkind, hl]

theorem ScopeTree.insertAll_ne_arity {t t' : ScopeTree} {id : ScopeId} {pairs : List (String × ValueId)}
    {e : ImportError} (h : t.insertAll id pairs = (some e, t')) : e.kind ≠ .invalidNodeArity := by
  induction pairs generalizing t with
  | nil => cases h
  | cons pair pairs ih =>
    rw [insertAll] at h
    split at h
    · exact ih h
    · split at h
      · exact ih h
      · next e' he =>
        cases h
        intro hkind
        unfold insert at he
        split at he
        · cases he
          cases hkind
        · split at he <;> cases he
          cases hkind

/-- Outputs are refused for their number exactly when there are more of them than values. -/
theorem Session.bindOutputs_arity_iff (s : Session) (scope : ScopeId) (node : Node) (values : List ValueId) :
    (∃ expected actual,
        (s.bindOutputs scope node values).1 = .failed (.invalidNodeArity node.opType "results" expected actual)) ↔
      values.length < node.outputs.length := by
  rcases bindOutputs_cases s scope node values with ⟨hfew, he⟩ | ⟨henough, t, ⟨-, he⟩ | ⟨e, hi, he⟩⟩
  · rw [he]
    exact iff_of_true ⟨_, _, rfl⟩ hfew
  · rw [he]
    exact iff_of_false nofun (Nat.not_lt_of_le henough)
  · rw [he]
    refine iff_of_false ?_ (Nat.not_lt_of_le henough)
    rintro ⟨expected, actual, harity⟩
    cases harity
    exact ScopeTree.insertAll_ne_arity hi rfl

/-- A converter of the library that succeeds returns a value for each output of its node, and then binding the outputs
does not fail for want of values. The one exception is a dropout whose second output is declared without a name. -/
theorem builtin_outputs_covered_iff {kind : String} {c : Converter} (h : Registry.builtin.find? kind = some c)
    {node : Node} {operands : List (Option ValueId)} {opset : Int} {b b' : Builder} {values : List ValueId}
    (hr : c.perform node operands opset b = (.ok values, b')) :
    (node.outputs.length ≤ values.length ↔ ¬(kind = "Dropout" ∧ node.outputs[1]? = some "")) ∧
      ∀ (s : Session) (scope : ScopeId),
        (∃ expected actual,
          (s.bindOutputs scope node values).1 = .failed (.invalidNodeArity node.opType "results" expected actual)) ↔
        kind = "Dropout" ∧ node.outputs[1]? = some "" := by
  obtain ⟨e, he⟩ | ⟨l, hcovers, he⟩ := Converter.perform_cases
    (Registry.builtin_covers_iff h ⟨⟨node, operands, opset⟩, b.function⟩)
  · rw [he] at hr
    cases hr
  rw [he] at hr
  cases hr
  rw [Lowering.Covers, ← l.length_apply b] at hcovers
  refine ⟨hcovers, fun s scope => ?_⟩
  rw [Session.bindOutputs_arity_iff, ← Nat.not_le, hcovers, not_not]

theorem masked_dropout_covered :
    Registry.builtin.find? "Dropout" = some (.of Operator.dropout) ∧
      ∃ values b', (Converter.of Operator.dropout).perform (dropoutNode "m") [some ⟨0⟩] 13 bodyBuilder =
        (.ok values, b') ∧ (dropoutNode "m").outputs.length ≤ values.length := by
  have hkind : Registry.builtin.find? "Dropout" = some (.of Operator.dropout) := rfl
  have hvalues : ((Converter.of Operator.dropout).perform (dropoutNode "m") [some ⟨0⟩] 13 bodyBuilder).1 =
      .ok [⟨0⟩, ⟨1⟩] := rfl
  have hcovered := (builtin_outputs_covered_iff hkind (Prod.ext hvalues rfl)).1
  exact ⟨hkind, _, _, Prod.ext hvalues rfl, hcovered.2 (by decide)⟩

/-- A dropout that passes its input on and leaves out the mask. -/
def maskless : Model where
  irVersion := 7
  opset := 13
  producer := "p"
  graph :=
    { name := "g"
      nodes := [dropoutNode ""]
      inputs := [⟨"x", some 1, some [.value 4]⟩]
      outputs := [⟨"y", none, none⟩]
      initializers := [] }

theorem omitted_mask_refused :
    Registry.builtin.find? "Dropout" = some (.of Operator.dropout) ∧
      ((Converter.of Operator.dropout).perform (dropoutNode "") [some ⟨0⟩] 13 bodyBuilder).1 = .ok [⟨0⟩] ∧
      (dropoutNode "").outputs.length = 2 ∧
      (importModels [maskless] .standard).result =
        .error [⟨⟨"g", "y", "Dropout"⟩, .arity "Dropout" "results" 2 (some 2) 1⟩] := by
  refine ⟨rfl, rfl, rfl, ?_⟩
  have hdiagnostics : ([maskless].foldl Session.convertModel (.standard .standard)).diagnostics =
      [⟨⟨"g", "y", "Dropout"⟩, .arity "Dropout" "results" 2 (some 2) 1⟩] := by decide +kernel
  rw [importModels, Session.outcome, Session.finish, hdiagnostics]
  rfl

end ModelImport
