import ModelImport.Proofs.Lowering
/-!
# Strict accesses

The definitions of the library never get stuck. A read past the end of a list answers nothing, a slice is cut to what is
there, and a number divided by zero is zero. A machine that works on arrays has no such answers: it stops with a fault.
Here are the accesses of such a machine, and computations over them, which may fault besides failing as those of the
library do. A strict computation agrees with one of the library when it comes to the same, result or failure, without a
fault (`Agrees`). There is a rule for each kind of step, so that the proof for a computation follows its text.
-/

namespace ModelImport

/-- An access that the data does not allow. -/
inductive Fault where
  | index (place length : Nat)
  | slice (first last length : Nat)
  | insertion (place length : Nat)
  /-- The first element of an empty list. -/
  | empty
  /-- A place or length below zero. -/
  | negative
  /-- A division by zero. -/
  | division
  /-- A range whose least element exceeds its greatest. -/
  | range
deriving DecidableEq, Repr

namespace Strict
variable {α β : Type}

/-! ## Lists -/

/-- The element at a place. -/
def index (xs : List α) (place : Nat) : Except Fault α :=
  match xs[place]? with
  | some x => .ok x
  | none => .error (.index place xs.length)

/-- The first element. -/
def first : List α → Except Fault α
  | [] => .error .empty
  | x :: _ => .ok x

/-- The elements from one place up to another. -/
def segment (xs : List α) (start stop : Nat) : Except Fault (List α) :=
  if start ≤ stop ∧ stop ≤ xs.length then .ok ((xs.take stop).drop start) else .error (.slice start stop xs.length)

/-- The elements before a place. -/
def upTo (xs : List α) (stop : Nat) : Except Fault (List α) := segment xs 0 stop

/-- The elements from a place on. -/
def since (xs : List α) (start : Nat) : Except Fault (List α) := segment xs start xs.length

/-- The list with the element at a place replaced. -/
def replace (xs : List α) (place : Nat) (x : α) : Except Fault (List α) :=
  if place < xs.length then .ok (xs.set place x) else .error (.index place xs.length)

/-- The list with an element put in before a place, which may be its end. -/
def insert (xs : List α) (place : Nat) (x : α) : Except Fault (List α) :=
  if place ≤ xs.length then .ok (xs.take place ++ x :: xs.drop place) else .error (.insertion place xs.length)

theorem index_eq_ok {xs : List α} {place : Nat} {x : α} : index xs place = .ok x ↔ xs[place]? = some x := by
  unfold index
  split <;> simp [*]

theorem index_of_lt {xs : List α} {place : Nat} (h : place < xs.length) : index xs place = .ok xs[place] :=
  index_eq_ok.2 (List.getElem?_eq_getElem h)

theorem first_eq_ok {xs : List α} {x : α} : first xs = .ok x ↔ xs.head? = some x := by
  cases xs <;> simp [first]

theorem segment_eq {xs : List α} {start stop : Nat} (h : start ≤ stop) (h' : stop ≤ xs.length) :
    segment xs start stop = .ok ((xs.take stop).drop start) := if_pos ⟨h, h'⟩

theorem upTo_eq {xs : List α} {stop : Nat} (h : stop ≤ xs.length) : upTo xs stop = .ok (xs.take stop) :=
  segment_eq (Nat.zero_le _) h

theorem since_eq {xs : List α} {start : Nat} (h : start ≤ xs.length) : since xs start = .ok (xs.drop start) := by
  rw [since, segment_eq h (Nat.le_refl _), List.take_length]

theorem replace_eq {xs : List α} {place : Nat} (h : place < xs.length) (x : α) :
    replace xs place x = .ok (xs.set place x) := if_pos h

theorem insert_eq {xs : List α} {place : Nat} (h : place ≤ xs.length) (x : α) :
    insert xs place x = .ok (xs.take place ++ x :: xs.drop place) := if_pos h

/-! ## Numbers -/

/-- A difference that is to serve as a place or a length. -/
def minus (a b : Nat) : Except Fault Nat := if b ≤ a then .ok (a - b) else .error .negative

def quotient (a b : Nat) : Except Fault Nat := if b = 0 then .error .division else .ok (a / b)

def remainder (a b : Nat) : Except Fault Nat := if b = 0 then .error .division else .ok (a % b)

/-- A quotient rounded up. -/
def ceilQuotient (a b : Nat) : Except Fault Nat := if b = 0 then .error .division else .ok (Word.ceilDiv a b)

/-- A quotient of integers, rounded towards zero. -/
def truncated (a b : Int) : Except Fault Int := if b = 0 then .error .division else .ok (a.tdiv b)

/-- A number moved into a range. -/
def clamp (least greatest x : Int) : Except Fault Int :=
  if least ≤ greatest then .ok (Infer.clamp least greatest x) else .error .range

theorem minus_eq {a b : Nat} (h : b ≤ a) : minus a b = .ok (a - b) := if_pos h

theorem quotient_eq {b : Nat} (h : b ≠ 0) (a : Nat) : quotient a b = .ok (a / b) := if_neg h

theorem remainder_eq {b : Nat} (h : b ≠ 0) (a : Nat) : remainder a b = .ok (a % b) := if_neg h

theorem ceilQuotient_eq {b : Nat} (h : b ≠ 0) (a : Nat) : ceilQuotient a b = .ok (Word.ceilDiv a b) := if_neg h

theorem truncated_eq {b : Int} (h : b ≠ 0) (a : Int) : truncated a b = .ok (a.tdiv b) := if_neg h

theorem clamp_eq {least greatest : Int} (h : least ≤ greatest) (x : Int) :
    clamp least greatest x = .ok (Infer.clamp least greatest x) := if_pos h

/-! ## Steps repeated -/

theorem mapM_eq {f : α → Except Fault β} {g : α → β} {xs : List α} (h : ∀ x ∈ xs, f x = .ok (g x)) :
    xs.mapM f = .ok (xs.map g) := by
  induction xs with
  | nil => rfl
  | cons x xs ih =>
    rw [List.forall_mem_cons] at h
    rw [List.mapM_cons, h.1, ih h.2]
    rfl

/-- Accesses of which the library keeps what is there. -/
theorem mapM_eq_filterMap {f : α → Except Fault β} {g : α → Option β} {xs : List α}
    (h : ∀ x ∈ xs, ∃ y, f x = .ok y ∧ g x = some y) : xs.mapM f = .ok (xs.filterMap g) := by
  induction xs with
  | nil => rfl
  | cons x xs ih =>
    rw [List.forall_mem_cons] at h
    obtain ⟨y, hf, hg⟩ := h.1
    rw [List.mapM_cons, hf, ih h.2, List.filterMap_cons, hg]
    rfl

theorem filterM_eq {f : α → Except Fault Bool} {p : α → Bool} {xs : List α} (h : ∀ x ∈ xs, f x = .ok (p x)) :
    xs.filterM f = .ok (xs.filter p) := by
  -- the accumulator holds what has been kept so far, the last of it first
  suffices haux : ∀ acc, xs.filterAuxM f acc = .ok ((xs.filter p).reverse ++ acc) by
    rw [List.filterM, haux []]
    simp [bind, Except.bind, pure, Except.pure]
  induction xs with
  | nil => exact fun _ => rfl
  | cons x xs ih =>
    intro acc
    rw [List.forall_mem_cons] at h
    rw [List.filterAuxM, h.1]
    cases hx : p x <;> simp [bind, Except.bind, ih h.2, hx]

theorem foldlM_eq {f : β → α → Except Fault β} {g : β → α → β} {xs : List α} (h : ∀ b, ∀ x ∈ xs, f b x = .ok (g b x))
    (b : β) : xs.foldlM f b = .ok (xs.foldl g b) := by
  induction xs generalizing b with
  | nil => rfl
  | cons x xs ih =>
    rw [List.foldlM_cons, h b x List.mem_cons_self]
    exact ih (fun b y hy => h b y (List.mem_cons_of_mem _ hy)) (g b x)

end Strict

/-! ## Computations that may fail -/

/-- Why a strict computation stops. -/
inductive Stop where
  | fault (f : Fault)
  | failure (e : ImportError)

/-- Strict computations that may also fail. -/
abbrev StrictExcept := Except Stop

instance : MonadLift (Except Fault) StrictExcept := ⟨Except.mapError .fault⟩

instance : MonadLift (Except ImportError) StrictExcept := ⟨Except.mapError .failure⟩

namespace StrictExcept
variable {α β : Type}

/-- The strict computation comes to the same as the other, without a fault. -/
def Agrees (m : StrictExcept α) (n : Except ImportError α) : Prop := m = n.mapError .failure

namespace Agrees

theorem pure {a : α} : Agrees (pure a) (.ok a) := rfl

theorem lift {n : Except ImportError α} : Agrees (liftM n) n := rfl

theorem bind {m : StrictExcept α} {n : Except ImportError α} {f : α → StrictExcept β} {g : α → Except ImportError β}
    (hm : Agrees m n) (hf : ∀ a, n = .ok a → Agrees (f a) (g a)) : Agrees (m >>= f) (n >>= g) := by
  unfold Agrees at hm ⊢
  rw [hm]
  cases n with
  | error e => rfl
  | ok a => exact hf a rfl

/-- An access that the data allows. -/
theorem access {x : Except Fault α} {a : α} {f : α → StrictExcept β} {n : Except ImportError β} (hx : x = .ok a)
    (hf : Agrees (f a) n) : Agrees (liftM x >>= f) n := by
  subst hx
  exact hf

/-- A check before the rest. -/
theorem guard {c : Prop} [Decidable c] {e : ImportError} {f : α → StrictExcept β} {g : α → Except ImportError β}
    {m : StrictExcept β} {n : Except ImportError β} (h : ¬c → Agrees m n) :
    Agrees (if c then liftM (Except.error e : Except ImportError α) >>= f else m)
      (if c then .error e >>= g else n) := by
  split
  · rfl
  · next hc => exact h hc

end Agrees

end StrictExcept

/-! ## Steps that look -/

/-- Strict steps that look at a site. -/
abbrev StrictLookM := ReaderT Site (StateT AttributeView StrictExcept)

namespace StrictLookM
variable {α β : Type}

/-- Steps that make no access of their own. -/
def lift (m : LookM α) : StrictLookM α := fun site view => (m site view).mapError .failure

instance : MonadLift LookM StrictLookM := ⟨lift⟩

/-- The strict steps come to the same as the others at a site, without a fault. -/
def Agrees (site : Site) (m : StrictLookM α) (n : LookM α) : Prop :=
  ∀ view, StrictExcept.Agrees (m site view) (n site view)

namespace Agrees
variable {site : Site}

theorem lift {n : LookM α} : Agrees site (liftM n : StrictLookM α) n := fun _ => rfl

theorem pure {a : α} : Agrees site (pure a) (pure a) := fun _ => rfl

/-- A step that may tell something about what it returns. -/
theorem bind {m : StrictLookM α} {n : LookM α} {f : α → StrictLookM β} {g : α → LookM β} {P : α → Prop}
    (hm : Agrees site m n) (hn : n.Returns site P) (hf : ∀ a, P a → Agrees site (f a) (g a)) :
    Agrees site (m >>= f) (n >>= g) := by
  intro view
  refine StrictExcept.Agrees.bind (hm view) fun r hr => ?_
  exact hf r.1 (hn view r.1 r.2 hr) r.2

/-- A step of which nothing needs to be known. -/
theorem step {m : StrictLookM α} {n : LookM α} {f : α → StrictLookM β} {g : α → LookM β} (hm : Agrees site m n)
    (hf : ∀ a, Agrees site (f a) (g a)) : Agrees site (m >>= f) (n >>= g) :=
  hm.bind (P := fun _ => True) (fun _ _ _ _ => trivial) fun a _ => hf a

/-- An access that the data allows. -/
theorem access {x : Except Fault α} {a : α} {f : α → StrictLookM β} {n : LookM β} (hx : x = .ok a)
    (hf : Agrees site (f a) n) : Agrees site (liftM x >>= f) n := by
  subst hx
  exact hf

/-- A computation that needs nothing of the site. -/
theorem except {m : StrictExcept α} {n : Except ImportError α} (h : m.Agrees n) :
    Agrees site (liftM m : StrictLookM α) (liftM n) := fun _ => .bind h fun _ _ => .pure

/-- Something of the library that may fail and needs nothing of the site. -/
theorem fallible {x : Except ImportError α} : Agrees site (liftM x : StrictLookM α) (liftM x) := by
  intro view
  cases x <;> rfl

theorem map {f : α → β} {m : StrictLookM α} {n : LookM α} (h : Agrees site m n) :
    Agrees site (f <$> m) (f <$> n) := by
  rw [map_eq_pure_bind, map_eq_pure_bind]
  exact .step h fun _ => .pure

/-- A check before the rest. -/
theorem guard {c : Prop} [Decidable c] {key reason : String} {f : α → StrictLookM β} {g : α → LookM β}
    {m : StrictLookM β} {n : LookM β} (h : ¬c → Agrees site m n) :
    Agrees site (if c then liftM (LookM.invalid key reason : LookM α) >>= f else m)
      (if c then LookM.invalid key reason >>= g else n) := by
  split
  · exact fun _ => rfl
  · next hc => exact h hc

end Agrees

end StrictLookM

end ModelImport
