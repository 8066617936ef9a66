import ModelImport.Proofs.ConverterEffect
import ModelImport.Proofs.FaultIsolation
import ModelImport.Proofs.LoopBody
import ModelImport.Proofs.Visits
/-!
# What a node leaves in the scopes

The conversion of a node, that of a loop with its bodies included, changes nothing in the scopes but the names in the
node's own scope, and there it adds outputs of the node only (`node_conversion_local`). A node that fails should add
none. It does so in one case: outputs are bound one after another, so when one of them cannot be bound, those before it
stay (`failed_node_binds_nothing_iff`). Both rest on one account of a visit (`visit_bindings`): either the outputs were
never reached and the scopes are as before, or the outputs were bound in order up to the first clash.
-/

namespace ModelImport

namespace ScopeTree

/-! ## Names of one scope -/

/-- The value that a name is bound to in a scope itself. -/
def binding? (t : ScopeTree) (id : ScopeId) (name : String) : Option ValueId := (t.record? id).bind (·.find? name)

theorem record?_congr {t u : ScopeTree} (h : t.slots = u.slots) (id : ScopeId) : t.record? id = u.record? id := by
  rw [record?, slot?_congr h, record?]

theorem binding?_congr {t u : ScopeTree} (h : t.slots = u.slots) (id : ScopeId) (name : String) :
    t.binding? id name = u.binding? id name := by
  rw [binding?, record?_congr h, binding?]

theorem addNames_nil (t : ScopeTree) (index : Nat) : t.addNames index [] = t :=
  congrArg (fun slots => { t with slots }) (slots_addNames_nil t index)

theorem addNames_addNames (t : ScopeTree) (index : Nat) (names more : List (String × ValueId)) :
    (t.addNames index names).addNames index more = t.addNames index (more ++ names) :=
  congrArg (fun slots => { t with slots }) (slots_addNames_addNames t index names more)

theorem record?_addNames_self {t : ScopeTree} {id : ScopeId} {r : ScopeRecord} (hr : t.record? id = some r)
    (names : List (String × ValueId)) : (t.addNames id.index names).record? id = some (r.add names) := by
  obtain ⟨hslot, hserial⟩ := record?_eq_some.1 hr
  refine record?_eq_some.2 ⟨?_, hserial⟩
  rw [slot?_addNames, if_pos rfl, hslot]
  rfl

/-- Another scope may have had the same slot, but it is not alive then. -/
theorem record?_addNames_other {t : ScopeTree} {id other : ScopeId} {r : ScopeRecord} (hr : t.record? id = some r)
    (hne : other ≠ id) (names : List (String × ValueId)) :
    (t.addNames id.index names).record? other = t.record? other := by
  by_cases hindex : other.index = id.index
  · obtain ⟨hslot, hserial⟩ := record?_eq_some.1 hr
    have hother : id.serial ≠ other.serial := by
      intro hs
      apply hne
      cases other
      cases id
      simp_all
    have hold : t.record? other = none := by
      rw [record?, hindex, hslot]
      simp [hserial, hother]
    have hnew : (t.addNames id.index names).record? other = none := by
      rw [record?, slot?_addNames, if_pos hindex, hindex, hslot]
      simp [hserial, hother]
    rw [hold, hnew]
  · rw [record?, slot?_addNames, if_neg hindex, record?]

theorem binding?_addNames_self {t : ScopeTree} {id : ScopeId} {r : ScopeRecord} (hr : t.record? id = some r)
    (names : List (String × ValueId)) (name : String) :
    (t.addNames id.index names).binding? id name =
      ((names.find? (·.1 == name)).map (·.2)).or (t.binding? id name) := by
  rw [binding?, record?_addNames_self hr, binding?, hr, Option.bind_some, Option.bind_some, ScopeRecord.find?_add]

/-! ## Names bound one after another -/

/-- The pairs of which the name is not empty. -/
def named (pairs : List (String × ValueId)) : List (String × ValueId) := pairs.filter (·.1 ≠ "")

theorem named_cons_of_empty {pair : String × ValueId} (h : pair.1 = "") (pairs : List (String × ValueId)) :
    named (pair :: pairs) = named pairs := by
  simp [named, h]

theorem named_cons_of_ne {pair : String × ValueId} (h : pair.1 ≠ "") (pairs : List (String × ValueId)) :
    named (pair :: pairs) = pair :: named pairs := by
  simp [named, h]

/-- The names before the first that cannot be bound: all of them, or those before one that is bound in the scope
already, by an earlier request or by an earlier name of this one. -/
theorem insertAll_cases {t : ScopeTree} {id : ScopeId} {r : ScopeRecord} (hr : t.record? id = some r)
    (pairs : List (String × ValueId)) : ∃ done : List (String × ValueId),
    (t.insertAll id pairs).2 = t.addNames id.index done.reverse ∧ (done.map Prod.fst).Nodup ∧
      (∀ x ∈ done, r.find? x.1 = none) ∧
      ((t.insertAll id pairs).1 = none ∧ named pairs = done ∨
        ∃ x more, (t.insertAll id pairs).1 = some (.duplicateBinding x.1) ∧ named pairs = done ++ x :: more ∧
          ((r.find? x.1).isSome ∨ x.1 ∈ done.map Prod.fst)) := by
  induction pairs generalizing t r with
  | nil => exact ⟨[], (addNames_nil t id.index).symm, List.nodup_nil, nofun, .inl ⟨rfl, rfl⟩⟩
  | cons pair pairs ih =>
    by_cases hempty : pair.1 = ""
    · rw [insertAll, if_pos hempty, named_cons_of_empty hempty]
      exact ih hr
    · rw [insertAll, if_neg hempty, named_cons_of_ne hempty]
      rcases insert_of_record hr pair.1 pair.2 with ⟨hdup, hbound⟩ | ⟨hfree, hok⟩
      · rw [hdup]
        exact ⟨[], (addNames_nil t id.index).symm, List.nodup_nil, nofun,
          .inr ⟨pair, named pairs, rfl, rfl, .inl hbound⟩⟩
      · rw [hok]
        obtain ⟨done, hscopes, hnodup, hnone, hend⟩ := ih (record?_addNames_self hr [(pair.1, pair.2)])
        -- what the later names find free is free of this one, and was free before it
        have hsplit : ∀ name, (r.add [(pair.1, pair.2)]).find? name = none →
            name ≠ pair.1 ∧ r.find? name = none := by
          intro name hname
          rw [ScopeRecord.find?_add, Option.or_eq_none_iff] at hname
          refine ⟨?_, hname.2⟩
          rintro rfl
          simp at hname
        refine ⟨pair :: done, ?_, ?_, ?_, ?_⟩
        · rw [hscopes, addNames_addNames, List.reverse_cons]
        · rw [List.map_cons, List.nodup_cons]
          refine ⟨fun hmem => ?_, hnodup⟩
          obtain ⟨x, hx, heq⟩ := List.mem_map.1 hmem
          exact (hsplit x.1 (hnone x hx)).1 heq
        · intro x hx
          rcases List.mem_cons.1 hx with rfl | hx
          · exact hfree
          · exact (hsplit x.1 (hnone x hx)).2
        · rcases hend with ⟨hall, hnamed⟩ | ⟨x, more, hsome, hnamed, hclash⟩
          · exact .inl ⟨hall, by rw [hnamed]⟩
          · refine .inr ⟨x, more, hsome, by rw [hnamed]; rfl, ?_⟩
            rw [List.map_cons, List.mem_cons]
            rcases hclash with hclash | hclash
            · rw [ScopeRecord.find?_add, Option.isSome_or, Bool.or_eq_true] at hclash
              rcases hclash with hnew | hold
              · have hname : pair.1 = x.1 := by
                  simpa [List.find?_singleton] using hnew
                exact .inr (.inl hname.symm)
              · exact .inl hold
            · exact .inr (.inr hclash)

/-- Where no name occurs twice, a name is found with its own value. -/
theorem find?_of_nodup {names : List (String × ValueId)} (h : (names.map Prod.fst).Nodup) {x : String × ValueId}
    (hx : x ∈ names) : names.find? (·.1 == x.1) = some x := by
  induction names with
  | nil => cases hx
  | cons y names ih =>
    rw [List.map_cons, List.nodup_cons] at h
    rcases List.mem_cons.1 hx with rfl | hx
    · simp
    · have hne : y.1 ≠ x.1 := fun he => h.1 (List.mem_map.2 ⟨x, hx, he.symm⟩)
      rw [List.find?_cons_of_neg (by simpa using hne)]
      exact ih h.2 hx

/-- Names bound in one scope do not change what other names stand for, wherever they are looked up. -/
theorem find?_addNames_of_ne {t : ScopeTree} (wf : t.WellFormed) {index : Nat} {names : List (String × ValueId)}
    {name : String} (hne : ∀ x ∈ names, x.1 ≠ name) (id : ScopeId) :
    (t.addNames index names).find? id name = t.find? id name := by
  have hadd : ∀ r : ScopeRecord, (r.add names).find? name = r.find? name := by
    intro r
    have hnone : names.find? (·.1 == name) = none := by
      rw [List.find?_eq_none]
      intro x hx
      simpa using hne x hx
    rw [ScopeRecord.find?_add, hnone]
    rfl
  have hlive : (t.addNames index names).isLive id = t.isLive id := by
    simp only [isLive, record?, slot?_addNames]
    split
    · cases t.slot? id.index <;> simp [Option.filter]
      split <;> simp_all
    · rfl
  rw [find?_eq, find?_eq, hlive]
  split
  · next h =>
    obtain ⟨r, hr, -⟩ := isLive_iff.1 h
    rw [lineage_addNames wf index names hr, List.findSome?_map]
    congr 1
    funext x
    simp only [Function.comp_apply]
    split
    · exact hadd x.2
    · rfl
  · rfl

end ScopeTree

namespace Session

/-! ## What a visit binds -/

/-- The values that the conversion of a node comes to, if it gets so far: those that its converter returns, or the
results of the loop. -/
def returned? (s : Session) (scope : ScopeId) (opset : Int) (node : Node) : Option (List ValueId) :=
  if node.isLoop then
    match s.planLoop scope node with
    | .error _ => none
    | .ok plan =>
      let b := s.throughBody scope opset node plan
      b.1.map fun yielded => (b.2.builder.append (b.2.loopOp node plan s.bodyBlock yielded)).1
  else
    match s.dispatch scope opset node with
    | .error _ => none
    | .ok (converter, context) => (converter.perform node context.operands opset s.builder).1.toOption

/-- The values to which the outputs of a node are to be bound, if its conversion gets so far. -/
def boundTo? (s : Session) (scope : ScopeId) (opset : Int) (node : Node) : Option (List ValueId) :=
  (s.returned? scope opset node).filter fun values => node.outputs.length ≤ values.length

theorem scopes_settle (s : Session) (scope : ScopeId) (node : Node) (outcome : NodeOutcome) :
    (s.settle scope node outcome).scopes = s.scopes := by
  cases outcome <;> rfl

/-- Binding outputs, by whether there are values enough. -/
theorem bindOutputs_scopes (s : Session) (scope : ScopeId) (node : Node) (values : List ValueId) :
    values.length < node.outputs.length ∧ (s.bindOutputs scope node values).1 ≠ .converted ∧
        (s.bindOutputs scope node values).2.scopes = s.scopes ∨
      node.outputs.length ≤ values.length ∧
        (s.bindOutputs scope node values).2.scopes = (s.scopes.insertAll scope (node.outputs.zip values)).2 ∧
        ((s.bindOutputs scope node values).1 = .converted ↔
          (s.scopes.insertAll scope (node.outputs.zip values)).1 = none) := by
  rcases bindOutputs_cases s scope node values with ⟨hfew, he⟩ | ⟨henough, t, ⟨hi, he⟩ | ⟨e, hi, he⟩⟩
  · exact .inl ⟨hfew, by rw [he]; nofun, by rw [he]⟩
  · refine .inr ⟨henough, by rw [he, hi], ?_⟩
    rw [he, hi]
    simp
  · refine .inr ⟨henough, by rw [he, hi], ?_⟩
    rw [he, hi]
    simp

/-- What the outputs of a node are bound to, and in which scopes. -/
structure Binding (s : Session) (scope : ScopeId) (opset : Int) (node : Node) (values : List ValueId)
    (t : ScopeTree) : Prop where
  bound : s.ask.boundTo? scope opset node = some values
  slots : t.slots = s.scopes.slots
  scopes : (s.visit scope opset node).2.scopes = (t.insertAll scope (node.outputs.zip values)).2
  converted : (s.visit scope opset node).1 = .converted ↔ (t.insertAll scope (node.outputs.zip values)).1 = none

/-- The outputs of a node were not reached: it has failed, and the scopes are as they were. -/
structure Unbound (s : Session) (scope : ScopeId) (opset : Int) (node : Node) : Prop where
  bound : s.ask.boundTo? scope opset node = none
  failed : (s.visit scope opset node).1 ≠ .converted
  slots : (s.visit scope opset node).2.scopes.slots = s.scopes.slots

section Visit
variable {s : Session} {scope : ScopeId} {opset : Int} {node : Node}

/-- The last step of every conversion that gets so far: outputs are bound in scopes that are those of the beginning. -/
theorem visit_of_bindOutputs {t : Session} {values : List ValueId}
    (hattempt : s.ask.attempt scope opset node = t.bindOutputs scope node values)
    (hreturned : s.ask.returned? scope opset node = some values) (hslots : t.scopes.slots = s.scopes.slots) :
    s.Unbound scope opset node ∨ ∃ values t, s.Binding scope opset node values t := by
  have hvisit : s.visit scope opset node = ((t.bindOutputs scope node values).1,
      (t.bindOutputs scope node values).2.settle scope node (t.bindOutputs scope node values).1) := by
    rw [visit, hattempt]
  rcases bindOutputs_scopes t scope node values with ⟨hfew, hfailed, hscopes⟩ | ⟨henough, hscopes, hconverted⟩
  · refine .inl ⟨?_, by rw [hvisit]; exact hfailed, ?_⟩
    · rw [boundTo?, hreturned, Option.filter_some, if_neg (by simpa using hfew)]
    · rw [hvisit, scopes_settle, hscopes, hslots]
  · refine .inr ⟨values, t.scopes, ?_, hslots, ?_, by rw [hvisit]; exact hconverted⟩
    · rw [boundTo?, hreturned, Option.filter_some, if_pos (by simpa using henough)]
    · rw [hvisit, scopes_settle, hscopes]

theorem visit_node (hl : node.isLoop = false) :
    s.Unbound scope opset node ∨ ∃ values t, s.Binding scope opset node values t := by
  have hreturned : s.ask.returned? scope opset node = _ := if_neg (by simp [hl])
  have hattempt := attempt_of_node s.ask scope opset hl
  have hnone : ∀ {t : Session} {e : ImportError}, s.ask.convertNode scope opset node = (.failed e, t) →
      t.scopes = s.scopes → s.ask.returned? scope opset node = none → s.Unbound scope opset node := by
    intro t e hconvert hscopes hvalues
    have hvisit : s.visit scope opset node = (.failed e, t.settle scope node (.failed e)) := by
      rw [visit, hattempt, hconvert]
    refine ⟨by rw [boundTo?, hvalues]; rfl, by simp [hvisit], ?_⟩
    rw [hvisit, scopes_settle, hscopes]
  have hran : ∀ c context, (s.ask.ran c context).scopes = s.scopes := by
    intro c context
    obtain ⟨token, he⟩ := s.ask.ran_eq c context
    rw [he]
    rfl
  rcases convertNode_cases s.ask scope opset node with
    ⟨e, hd, he⟩ | ⟨operands, c, -, -, hd, ⟨e, hrun, he⟩ | ⟨values, view, hrun, he⟩⟩
  · exact .inl (hnone he rfl (by rw [hreturned, hd]))
  · refine .inl (hnone he (hran c _) ?_)
    simp only [hreturned, hd, Converter.perform, hrun]
    rfl
  · refine visit_of_bindOutputs (hattempt.trans he) ?_ (congrArg ScopeTree.slots (hran c ⟨node, operands, opset⟩))
    simp only [hreturned, hd, Converter.perform, hrun]
    rfl

/-- When a loop body has been left, the scopes are those before it. -/
theorem slots_throughBody (hu : s.scopes.Usable scope) (opset : Int) (node : Node) (plan : LoopPlan) :
    (s.throughBody scope opset node plan).2.scopes.slots = s.scopes.slots :=
  ScopeTree.destroy_createChild hu (evolves_body hu opset node plan).scopes

theorem visit_loop (hl : node.isLoop = true) (hu : s.scopes.Usable scope) :
    s.Unbound scope opset node ∨ ∃ values t, s.Binding scope opset node values t := by
  have hreturned : s.ask.returned? scope opset node = _ := if_pos hl
  have hattempt := attempt_of_loop s.ask scope opset hl
  cases hp : s.ask.planLoop scope node with
  | error e =>
    rw [convertLoop_of_error hp] at hattempt
    refine .inl ⟨?_, by simp [visit, hattempt], by rw [visit, hattempt, scopes_settle]; rfl⟩
    rw [boundTo?, hreturned, hp]
    rfl
  | ok plan =>
    rw [convertLoop_of_plan hp] at hattempt
    have hslots := slots_throughBody (s := s.ask) hu opset node plan
    rw [hp] at hreturned
    dsimp only at hreturned
    cases hy : (s.ask.throughBody scope opset node plan).1 with
    | none =>
      rw [hy] at hattempt hreturned
      refine .inl ⟨by rw [boundTo?, hreturned]; rfl, by simp [visit, hattempt], ?_⟩
      rw [visit, hattempt, scopes_settle]
      exact hslots
    | some yielded =>
      rw [hy] at hattempt hreturned
      exact visit_of_bindOutputs hattempt hreturned hslots

/-- A visit either does not come to the outputs of the node, or binds them one after another in the scope of the node
and nowhere else. -/
theorem visit_bindings (hu : s.scopes.Usable scope) {r : ScopeRecord} (hr : s.scopes.record? scope = some r)
    (opset : Int) (node : Node) :
    s.Unbound scope opset node ∨ ∃ values done, s.ask.boundTo? scope opset node = some values ∧
      node.outputs.length ≤ values.length ∧
      (s.visit scope opset node).2.scopes.slots = (s.scopes.addNames scope.index done.reverse).slots ∧
      (done.map Prod.fst).Nodup ∧ (∀ x ∈ done, r.find? x.1 = none) ∧
      ((s.visit scope opset node).1 = .converted ∧ ScopeTree.named (node.outputs.zip values) = done ∨
        ∃ x more, (s.visit scope opset node).1 ≠ .converted ∧
          ScopeTree.named (node.outputs.zip values) = done ++ x :: more ∧
          ((r.find? x.1).isSome ∨ x.1 ∈ done.map Prod.fst)) := by
  have hvisit : s.Unbound scope opset node ∨ ∃ values t, s.Binding scope opset node values t := by
    cases hl : node.isLoop with
    | false => exact visit_node hl
    | true => exact visit_loop hl hu
  refine hvisit.imp_right ?_
  rintro ⟨values, t, hvalues, hslots, hscopes, hconverted⟩
  have hr' : t.record? scope = some r := (ScopeTree.record?_congr hslots scope).trans hr
  obtain ⟨done, hdone, hnodup, hfree, hend⟩ := ScopeTree.insertAll_cases hr' (node.outputs.zip values)
  refine ⟨values, done, hvalues, ?_, ?_, hnodup, hfree, ?_⟩
  · have := (Option.filter_eq_some_iff.1 hvalues).2
    simpa using this
  · rw [hscopes, hdone, ScopeTree.addNames, hslots, ScopeTree.addNames]
  · rcases hend with ⟨hnone, hnamed⟩ | ⟨x, more, hsome, hnamed, hclash⟩
    · exact .inl ⟨hconverted.2 hnone, hnamed⟩
    · refine .inr ⟨x, more, ?_, hnamed, hclash⟩
      simp [hconverted, hsome]

/-- All that a visit does to the scopes, however it ends. -/
theorem visit_adds (hu : s.scopes.Usable scope) {r : ScopeRecord} (hr : s.scopes.record? scope = some r) (opset : Int)
    (node : Node) :
    ∃ names, (s.visit scope opset node).2.scopes.slots = (s.scopes.addNames scope.index names).slots ∧
      ∀ x ∈ names, r.find? x.1 = none ∧ x.1 ≠ "" ∧ x.1 ∈ node.outputs := by
  rcases visit_bindings hu hr opset node with
    hnone | ⟨values, done, -, -, hslots, -, hfree, hend⟩
  · exact ⟨[], by rw [hnone.slots, ScopeTree.slots_addNames_nil], nofun⟩
  · have hsub : ∀ x ∈ done, x ∈ ScopeTree.named (node.outputs.zip values) := by
      intro x hx
      rcases hend with ⟨-, hnamed⟩ | ⟨y, more, -, hnamed, -⟩
      · rw [hnamed]
        exact hx
      · rw [hnamed]
        exact List.mem_append_left _ hx
    refine ⟨done.reverse, hslots, fun x hx => ?_⟩
    have hx := List.mem_reverse.1 hx
    obtain ⟨hzip, hne⟩ := List.mem_filter.1 (hsub x hx)
    exact ⟨hfree x hx, by simpa using hne, (List.of_mem_zip hzip).1⟩

/-- The outputs of a node that has been converted are bound to the values at their positions. -/
theorem visit_converted (hu : s.scopes.Usable scope) (h : (s.visit scope opset node).1 = .converted) :
    ∃ values, s.ask.returned? scope opset node = some values ∧
      ∀ (i : Nat) name, node.outputs[i]? = some name → name ≠ "" →
        ∃ v, values[i]? = some v ∧ (s.visit scope opset node).2.scopes.binding? scope name = some v := by
  obtain ⟨r, hr⟩ := Option.isSome_iff_exists.1 hu.live
  rcases visit_bindings hu hr opset node with
    hnone | ⟨values, done, hbound, hlen, hslots, hnodup, -, ⟨-, hnamed⟩ | ⟨x, more, hfailed, -⟩⟩
  · exact absurd h hnone.failed
  · refine ⟨values, (Option.filter_eq_some_iff.1 hbound).1, fun i name hi hname => ?_⟩
    obtain ⟨hlt, rfl⟩ := List.getElem?_eq_some_iff.1 hi
    have hv := List.getElem?_eq_getElem (Nat.lt_of_lt_of_le hlt hlen)
    refine ⟨_, hv, ?_⟩
    have hmem : (node.outputs[i], values[i]) ∈ done.reverse := by
      rw [List.mem_reverse, ← hnamed, ScopeTree.named, List.mem_filter]
      refine ⟨List.mem_of_getElem? (i := i) ?_, by simpa using hname⟩
      rw [List.getElem?_zip_eq_some]
      exact ⟨hi, hv⟩
    have hnodup' : (done.reverse.map Prod.fst).Nodup := by
      rw [List.map_reverse, List.nodup_reverse]
      exact hnodup
    rw [ScopeTree.binding?_congr hslots, ScopeTree.binding?_addNames_self hr, ScopeTree.find?_of_nodup hnodup' hmem]
    rfl
  · exact absurd h hfailed

end Visit

end Session

/-! ## The scopes after a node -/

/-- Whatever the node and however its conversion ends: no scope made for it is alive afterwards and none has gone, no
other scope has changed, and its own scope has kept its names and gained at most outputs of the node. If the node has
been converted, each of its outputs that has a name is bound to the value returned at its position. So no other name
comes to stand for anything, or for anything else, in any scope. -/
theorem node_conversion_local {registry : Registry} {s : Session} {scope : ScopeId} (hs : s.Occurs registry)
    (hlive : s.scopes.isLive scope = true) (opset : Int) (node : Node) :
    let before := s.scopes
    let outcome := (s.visit scope opset node).1
    let after := (s.visit scope opset node).2.scopes
    (∀ id, after.isLive id = before.isLive id) ∧
      (∀ id name, id ≠ scope → after.binding? id name = before.binding? id name) ∧
      (∀ name v, before.binding? scope name = some v → after.binding? scope name = some v) ∧
      (∀ name v, after.binding? scope name = some v →
        before.binding? scope name = some v ∨ name ≠ "" ∧ name ∈ node.outputs) ∧
      (outcome = .converted → ∃ values, s.ask.returned? scope opset node = some values ∧
        ∀ (i : Nat) name, node.outputs[i]? = some name → name ≠ "" →
          ∃ v, values[i]? = some v ∧ after.binding? scope name = some v) ∧
      ∀ id name, name = "" ∨ name ∉ node.outputs → after.find? id name = before.find? id name := by
  intro before outcome after
  have hu := hs.usable hlive
  obtain ⟨r, hr⟩ := Option.isSome_iff_exists.1 hlive
  obtain ⟨names, hslots, hnames⟩ := Session.visit_adds hu hr opset node
  have hgrows : before.Grows scope after := (Session.evolves_visit hu opset node).scopes
  have hown : ∀ name, after.binding? scope name =
      ((names.find? (·.1 == name)).map (·.2)).or (before.binding? scope name) := fun name =>
    (ScopeTree.binding?_congr hslots scope name).trans (ScopeTree.binding?_addNames_self hr names name)
  refine ⟨hgrows.isLive, fun id name hne => ?_, fun name v hv => ?_, fun name v hv => ?_, Session.visit_converted hu,
    fun id name hname => ?_⟩
  · rw [ScopeTree.binding?, ScopeTree.record?_congr hslots, ScopeTree.record?_addNames_other hr hne, ScopeTree.binding?]
  · -- a name that was bound is not among the new ones
    cases hnew : names.find? (·.1 == name) with
    | none => rw [hown, hnew, hv]; rfl
    | some x =>
      have hfree := (hnames x (List.mem_of_find?_eq_some hnew)).1
      have hx : x.1 = name := by simpa using List.find?_some hnew
      rw [ScopeTree.binding?, hr, Option.bind_some, ← hx, hfree] at hv
      cases hv
  · cases hnew : names.find? (·.1 == name) with
    | none =>
      rw [hown, hnew] at hv
      exact .inl hv
    | some x =>
      obtain ⟨-, hne, hmem⟩ := hnames x (List.mem_of_find?_eq_some hnew)
      have hx : x.1 = name := by simpa using List.find?_some hnew
      exact .inr ⟨hx ▸ hne, hx ▸ hmem⟩
  · have wf := ScopeTree.wellFormed_addNames hu.wf scope.index names
    rw [ScopeTree.find?_congr wf (hgrows.wellFormed hu.wf) hslots.symm]
    refine ScopeTree.find?_addNames_of_ne hu.wf (fun x hx he => ?_) id
    obtain ⟨-, hne, hmem⟩ := hnames x hx
    rcases hname with rfl | hname
    · exact hne he
    · exact hname (he ▸ hmem)

/-- A loop over the input of `oneInput`, with names of its own in the body. -/
def countingLoop : Node :=
  ⟨"", "Loop", "", ["", "", "x"], ["y"], [("body", .graph
    { name := "body"
      nodes := [⟨"", "Add", "", ["v", "k"], ["w"], []⟩]
      inputs := [⟨"i", none, none⟩, ⟨"c", none, none⟩, ⟨"v", none, none⟩]
      outputs := [⟨"c", none, none⟩, ⟨"w", none, none⟩]
      initializers := [⟨"k", 1, [], .floats [⟨0⟩]⟩] })]⟩

theorem loop_names_stay_inside :
    oneInput.Occurs .builtin ∧ oneInput.scopes.isLive .root = true ∧
      (oneInput.visit .root 13 countingLoop).1 = .converted ∧
      (∀ name ∈ ["i", "c", "v", "k", "w"], (oneInput.visit .root 13 countingLoop).2.scopes.find? .root name = none) ∧
      ∃ v, (oneInput.ask.returned? .root 13 countingLoop).map (·[0]?) = some (some v) ∧
        (oneInput.visit .root 13 countingLoop).2.scopes.binding? .root "y" = some v := by
  have hoccurs : oneInput.Occurs .builtin := .graph _ .start
  have hlive : oneInput.scopes.isLive .root = true := by decide +kernel
  have hconverted : (oneInput.visit .root 13 countingLoop).1 = .converted := by decide +kernel
  have hnone : ∀ name ∈ ["i", "c", "v", "k", "w"], name ∉ countingLoop.outputs ∧
      oneInput.scopes.find? .root name = none := by decide +kernel
  obtain ⟨-, -, -, -, hbound, hnames⟩ := node_conversion_local hoccurs hlive 13 countingLoop
  obtain ⟨values, hvalues, houtputs⟩ := hbound hconverted
  obtain ⟨v, hv, hy⟩ := houtputs 0 "y" rfl (by decide)
  refine ⟨hoccurs, hlive, hconverted, fun name hname => ?_, v, by rw [hvalues]; exact congrArg some hv, hy⟩
  obtain ⟨hout, hfind⟩ := hnone name hname
  exact (hnames .root name (.inr hout)).trans hfind

/-! ## The scopes after a node that fails -/

/-- The first output to be bound is the first that has a name. -/
theorem ScopeTree.head?_named_zip {outputs : List String} {values : List ValueId}
    (h : outputs.length ≤ values.length) :
    (named (outputs.zip values)).head?.map Prod.fst = outputs.find? (· ≠ "") := by
  have hfst : (outputs.zip values).map Prod.fst = outputs := List.map_fst_zip h
  rw [named, List.head?_filter]
  conv_rhs => rw [← hfst, List.find?_map]
  rfl

/-- A node that fails leaves every scope with the names it had, so that nothing stands for anything it did not stand for
before, unless its outputs were being bound when it failed and the first of them that has a name was free. Then that
one stays bound. -/
theorem failed_node_binds_nothing_iff {registry : Registry} {s : Session} {scope : ScopeId} (hs : s.Occurs registry)
    (hlive : s.scopes.isLive scope = true) {opset : Int} {node : Node}
    (hfailed : (s.visit scope opset node).1 ≠ .converted) :
    let before := s.scopes
    let after := (s.visit scope opset node).2.scopes
    (∀ id, before.isLive id = true → after.isLive id = true ∧
        ∀ name, after.binding? id name = before.binding? id name ∧ after.find? id name = before.find? id name) ↔
      ¬((s.ask.boundTo? scope opset node).isSome ∧
        ∃ name, node.outputs.find? (· ≠ "") = some name ∧ before.binding? scope name = none) := by
  intro before after
  have hu := hs.usable hlive
  obtain ⟨r, hr⟩ := Option.isSome_iff_exists.1 hlive
  have hgrows : before.Grows scope after := (Session.evolves_visit hu opset node).scopes
  have hsame : after.slots = before.slots → ∀ id, before.isLive id = true → after.isLive id = true ∧
      ∀ name, after.binding? id name = before.binding? id name ∧ after.find? id name = before.find? id name := by
    intro hslots id hid
    exact ⟨(hgrows.isLive id).trans hid, fun name => ⟨ScopeTree.binding?_congr hslots id name,
      ScopeTree.find?_congr hu.wf (hgrows.wellFormed hu.wf) hslots.symm id name⟩⟩
  rcases Session.visit_bindings hu hr opset node with
    hnone | ⟨values, done, hbound, hlen, hslots, hnodup, hfree, ⟨hconverted, -⟩ | ⟨x, more, -, hnamed, hclash⟩⟩
  · refine iff_of_true (hsame hnone.slots) ?_
    rw [hnone.bound]
    simp
  · exact absurd hconverted hfailed
  · have hfirst := ScopeTree.head?_named_zip hlen
    rw [hnamed] at hfirst
    cases done with
    | nil =>
      -- the first output itself could not be bound
      refine iff_of_true (hsame (by rw [hslots]; exact ScopeTree.slots_addNames_nil ..)) ?_
      rintro ⟨-, name, hname, hfree⟩
      obtain rfl : x.1 = name := Option.some.inj (hfirst.trans hname)
      rw [ScopeTree.binding?, hr, Option.bind_some] at hfree
      simp [hfree] at hclash
    | cons first done =>
      have hbefore : before.binding? scope first.1 = none := by
        rw [ScopeTree.binding?, hr, Option.bind_some]
        exact hfree first List.mem_cons_self
      have hafter : after.binding? scope first.1 = some first.2 := by
        rw [ScopeTree.binding?_congr hslots, ScopeTree.binding?_addNames_self hr, ScopeTree.find?_of_nodup (x := first)]
        · rfl
        · rw [List.map_reverse, List.nodup_reverse]
          exact hnodup
        · rw [List.mem_reverse]
          exact List.mem_cons_self
      refine iff_of_false (fun hkept => ?_) (not_not_intro ⟨by rw [hbound]; rfl, first.1, hfirst.symm, hbefore⟩)
      have hchanged := ((hkept scope hlive).2 first.1).1
      rw [hbefore, hafter] at hchanged
      cases hchanged

/-- A node that splits the input of `oneInput` in two. -/
def splitNode (first second : String) : Node := ⟨"", "Split", "", ["x"], [first, second], []⟩

theorem clashing_first_output_binds_nothing :
    oneInput.Occurs .builtin ∧ oneInput.scopes.isLive .root = true ∧
      (oneInput.visit .root 13 (splitNode "x" "a")).1 = .failed (.duplicateBinding "x") ∧
      (oneInput.visit .root 13 (splitNode "x" "a")).2.scopes.find? .root "a" = none := by
  have hoccurs : oneInput.Occurs .builtin := .graph _ .start
  have hlive : oneInput.scopes.isLive .root = true := by decide +kernel
  have hfailed : (oneInput.visit .root 13 (splitNode "x" "a")).1 = .failed (.duplicateBinding "x") := by decide +kernel
  have hkept := (failed_node_binds_nothing_iff hoccurs hlive (by rw [hfailed]; nofun)).2 (by decide +kernel)
  refine ⟨hoccurs, hlive, hfailed, ((hkept .root hlive).2 "a").2.trans ?_⟩
  decide +kernel

/-- The first half of the input is bound before the second is found to have a name that is taken. -/
theorem clashing_second_output_leaves_first :
    oneInput.Occurs .builtin ∧ oneInput.scopes.isLive .root = true ∧
      (oneInput.visit .root 13 (splitNode "a" "x")).1 = .failed (.duplicateBinding "x") ∧
      oneInput.scopes.find? .root "a" = none ∧
      (oneInput.visit .root 13 (splitNode "a" "x")).2.scopes.find? .root "a" = some ⟨1⟩ :=
  ⟨.graph _ .start, by decide +kernel, by decide +kernel, by decide +kernel, by decide +kernel⟩

end ModelImport
