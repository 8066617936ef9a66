import ModelImport.Session.Node
/-!
# Changing what scopes hold

A change that is made to every scope of a tree and leaves its serial number and its parent alone goes through all
operations on the tree: handles stay good, the ways outward stay the same, and a scope that is created or destroyed
after the change is the one that would be before it. What such a change does to names is said name by name.
-/

namespace ModelImport

/-- A change of scopes that leaves them where they are, and does nothing to a scope that binds nothing. -/
structure ScopeRecord.KeepsPlace (f : ScopeRecord → ScopeRecord) : Prop where
  serial : ∀ r, (f r).serial = r.serial
  parent : ∀ r, (f r).parent = r.parent
  empty : ∀ serial parent, f ⟨serial, parent, []⟩ = ⟨serial, parent, []⟩

namespace ScopeTree

/-- Changes every scope of a tree. -/
def mapRecords (f : ScopeRecord → ScopeRecord) (t : ScopeTree) : ScopeTree :=
  { t with slots := t.slots.map (Option.map f) }

theorem slot?_mapRecords (f : ScopeRecord → ScopeRecord) (t : ScopeTree) (index : Nat) :
    (t.mapRecords f).slot? index = (t.slot? index).map f := by
  rw [slot?, slot?, mapRecords, Array.getElem?_map]
  rcases t.slots[index]? with _ | _ | s <;> rfl

section Place
variable {f : ScopeRecord → ScopeRecord} (hf : ScopeRecord.KeepsPlace f) (t : ScopeTree)
include hf

theorem record?_mapRecords (id : ScopeId) : (t.mapRecords f).record? id = (t.record? id).map f := by
  rw [record?, record?, slot?_mapRecords]
  cases t.slot? id.index with
  | none => rfl
  | some s =>
    rw [Option.map_some, Option.filter_some, Option.filter_some, hf.serial]
    by_cases hs : s.serial == id.serial
    · rw [if_pos hs, if_pos hs, Option.map_some]
    · rw [if_neg hs, if_neg hs, Option.map_none]

theorem isLive_mapRecords (id : ScopeId) : (t.mapRecords f).isLive id = t.isLive id := by
  rw [isLive, isLive, record?_mapRecords hf, Option.isSome_map]

theorem walk_mapRecords (fuel index : Nat) :
    (t.mapRecords f).walk fuel index = (t.walk fuel index).map fun x => (x.1, f x.2) := by
  induction fuel generalizing index with
  | zero => rfl
  | succ fuel ih =>
    rw [walk, walk, slot?_mapRecords]
    cases t.slot? index with
    | none => rfl
    | some s =>
      simp only [Option.map_some, List.map_cons, List.cons.injEq, true_and, hf.parent]
      cases s.parent with
      | none => rfl
      | some parent => exact ih parent

theorem lineage_mapRecords (index : Nat) :
    (t.mapRecords f).lineage index = (t.lineage index).map fun x => (x.1, f x.2) := by
  rw [lineage, walk_mapRecords hf, mapRecords, Array.size_map, lineage]

/-- A name stands for what another one stood for before, if it does so in every scope. -/
theorem find?_mapRecords {name name' : String} (hname : ∀ r, (f r).find? name' = r.find? name) (id : ScopeId) :
    (t.mapRecords f).find? id name' = t.find? id name := by
  rw [find?, find?, ancestry, ancestry, isLive_mapRecords hf, lineage_mapRecords hf]
  split
  · simp only [List.map_map, List.findSome?_map, Function.comp_def, hname]
  · rfl

theorem createChild_mapRecords (parent : ScopeId) :
    (t.mapRecords f).createChild parent = ((t.createChild parent).1, (t.createChild parent).2.mapRecords f) := by
  have hfree : (t.mapRecords f).slots.findIdx? Option.isNone = t.slots.findIdx? Option.isNone := by
    simp [mapRecords, Array.findIdx?_map, Function.comp_def]
  rw [createChild, createChild, hfree, isLive_mapRecords hf]
  cases t.slots.findIdx? Option.isNone with
  | none => simp [mapRecords, hf.empty]
  | some free => simp [mapRecords, hf.empty, Array.map_setIfInBounds]

theorem descends_mapRecords (index ancestor : Nat) :
    (t.mapRecords f).descends index ancestor = t.descends index ancestor := by
  rw [descends, descends, lineage_mapRecords hf, List.any_map]
  rfl

theorem destroy_mapRecords (id : ScopeId) : (t.mapRecords f).destroy id = (t.destroy id).mapRecords f := by
  rw [destroy, destroy, isLive_mapRecords hf]
  split
  · rfl
  · simp only [descends_mapRecords hf]
    have hmap : ∀ slots : Array (Option ScopeRecord),
        (slots.map (Option.map f)).popWhile Option.isNone = (slots.popWhile Option.isNone).map (Option.map f) := by
      intro ⟨slots⟩
      simp [← List.map_reverse, List.dropWhile_map, Function.comp_def]
    rw [mapRecords, mapRecords, ← hmap]
    congr 2
    apply Array.ext_getElem?
    intro j
    simp only [Array.getElem?_mapIdx, Array.getElem?_map]
    cases t.slots[j]? with
    | none => rfl
    | some slot =>
      simp only [Option.map_some]
      split <;> rfl

/-- Where a change turns one name into another, it does so before or after the name is bound, and the name cannot be
bound for the same reason. -/
theorem insert_mapRecords {name name' : String} (hname : ∀ r, (f r).find? name' = r.find? name) {v : ValueId}
    (hbind : ∀ r, f { r with bindings := (name, v) :: r.bindings } =
      { f r with bindings := (name', v) :: (f r).bindings }) (id : ScopeId) :
    (∃ t', t.insert id name v = .ok t' ∧ (t.mapRecords f).insert id name' v = .ok (t'.mapRecords f)) ∨
      t.insert id name v = .error (.nameNotFound name) ∧
        (t.mapRecords f).insert id name' v = .error (.nameNotFound name') ∨
      t.insert id name v = .error (.duplicateBinding name) ∧
        (t.mapRecords f).insert id name' v = .error (.duplicateBinding name') := by
  rw [insert, insert, record?_mapRecords hf]
  cases t.record? id with
  | none => exact .inr (.inl ⟨rfl, rfl⟩)
  | some s =>
    simp only [Option.map_some, hname]
    split
    · exact .inr (.inr ⟨rfl, rfl⟩)
    · refine .inl ⟨_, rfl, congrArg Except.ok ?_⟩
      simp [mapRecords, Array.map_setIfInBounds, hbind]

end Place

end ScopeTree

end ModelImport
