import ModelImport.Error
import ModelImport.Function.Basic
import ModelImport.Text.Names
/-!
# Scopes

A tree of scopes that bind names to values. A scope sees the bindings of its ancestors and may shadow them; within one
scope a name is bound once. Scopes live in slots of an arena that are used again after a scope is destroyed, so a
handle carries the serial number of its scope, and a handle of a destroyed scope resolves nothing.
-/

namespace ModelImport

/-- A handle of a scope. -/
structure ScopeId where
  index : Nat
  serial : Nat
deriving DecidableEq, Repr, Inhabited

/-- The root scope of every tree. -/
def ScopeId.root : ScopeId := ⟨0, 0⟩

/-- A scope: the slot of its parent and the names bound in it, latest first. -/
structure ScopeRecord where
  serial : Nat
  parent : Option Nat
  bindings : List (String × ValueId)
deriving DecidableEq, Repr, Inhabited

namespace ScopeRecord

/-- The value bound to a name in this scope itself. -/
def find? (r : ScopeRecord) (name : String) : Option ValueId := (r.bindings.find? (·.1 == name)).map (·.2)

end ScopeRecord

structure ScopeTree where
  slots : Array (Option ScopeRecord)
  nextSerial : Nat
deriving DecidableEq, Repr, Inhabited

namespace ScopeTree

/-- The tree with only the root. -/
def new : ScopeTree := ⟨#[some ⟨0, none, []⟩], 1⟩

/-- The scope in a slot. -/
def slot? (t : ScopeTree) (index : Nat) : Option ScopeRecord := (t.slots[index]?).join

/-- The scope of a handle, if it is still alive. -/
def record? (t : ScopeTree) (id : ScopeId) : Option ScopeRecord :=
  (t.slot? id.index).filter (·.serial == id.serial)

def isLive (t : ScopeTree) (id : ScopeId) : Bool := (t.record? id).isSome

/-- The slots met on the way from a slot outward, with their scopes, in at most `fuel` steps. -/
def walk (t : ScopeTree) : Nat → Nat → List (Nat × ScopeRecord)
  | 0, _ => []
  | fuel + 1, index =>
    match t.slot? index with
    | none => []
    | some r =>
      (index, r) ::
        match r.parent with
        | none => []
        | some parent => walk t fuel parent

/-- The way from a slot outward. A way visits no slot twice, so there are enough steps. -/
def lineage (t : ScopeTree) (index : Nat) : List (Nat × ScopeRecord) := t.walk t.slots.size index

/-- A live scope and its ancestors, innermost first. -/
def ancestry (t : ScopeTree) (id : ScopeId) : List ScopeRecord :=
  if t.isLive id then (t.lineage id.index).map (·.2) else []

/-- The innermost binding of a name that a scope sees. -/
def find? (t : ScopeTree) (id : ScopeId) (name : String) : Option ValueId :=
  (t.ancestry id).findSome? (·.find? name)

/-- Looks a name up in a scope and outward through its ancestors. -/
def find (t : ScopeTree) (id : ScopeId) (name : String) : Except ImportError ValueId :=
  match t.find? id name with
  | some v => .ok v
  | none => .error (.nameNotFound name)

def contains (t : ScopeTree) (id : ScopeId) (name : String) : Bool := (t.find? id name).isSome

/-- Binds a name in a scope itself. -/
def insert (t : ScopeTree) (id : ScopeId) (name : String) (value : ValueId) : Except ImportError ScopeTree :=
  match t.record? id with
  | none => .error (.nameNotFound name)
  | some r =>
    if (r.find? name).isSome then .error (.duplicateBinding name)
    else
      let bound := { r with bindings := (name, value) :: r.bindings }
      .ok { t with slots := t.slots.setIfInBounds id.index (some bound) }

/-- Creates a scope inside a live one, in the first free slot. -/
def createChild (t : ScopeTree) (parent : ScopeId) : ScopeId × ScopeTree :=
  let record : ScopeRecord := ⟨t.nextSerial, if t.isLive parent then some parent.index else none, []⟩
  match t.slots.findIdx? Option.isNone with
  | some free => (⟨free, t.nextSerial⟩, ⟨t.slots.setIfInBounds free (some record), t.nextSerial + 1⟩)
  | none => (⟨t.slots.size, t.nextSerial⟩, ⟨t.slots.push (some record), t.nextSerial + 1⟩)

/-- Whether the way outward from a slot passes another one. -/
def descends (t : ScopeTree) (index ancestor : Nat) : Bool := (t.lineage index).any (·.1 == ancestor)

/-- Destroys a scope and every scope inside it, and gives up the free slots at the end. The root stays. -/
def destroy (t : ScopeTree) (id : ScopeId) : ScopeTree :=
  if id.index = 0 || !t.isLive id then t
  else
    let slots := t.slots.mapIdx fun index slot => if t.descends index id.index then none else slot
    { t with slots := slots.popWhile Option.isNone }

/-- The names bound in a scope itself, in increasing order. -/
def localNames (t : ScopeTree) (id : ScopeId) : List String :=
  match t.record? id with
  | some r => Text.sortNames (r.bindings.map (·.1))
  | none => []

/-- The number of scopes around a scope. -/
def depth (t : ScopeTree) (id : ScopeId) : Nat := (t.ancestry id).length - 1

end ScopeTree

end ModelImport
