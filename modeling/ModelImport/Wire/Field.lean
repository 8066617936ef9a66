import ModelImport.Numeric.Bytes
import ModelImport.Text.Utf8
/-!
# The wire format

A serialized message is a run of fields. Each has a number and one of four forms: a variable-length integer, four or
eight bytes, or a counted run of bytes, which may be text, a packed list or a message. Groups, an older way to nest, are
only skipped. `fields` splits a message into its fields; the readers after it pick out the fields of one number and
insist on the form that belongs there. Every reader answers `none` for malformed input.
-/

namespace ModelImport.Wire

/-! ## Splitting a message -/

/-- A variable-length integer whose first `place` bytes have been read: seven bits a byte, the lowest first, with the
top bit on all bytes but the last. It has at most ten bytes, and of the tenth only the lowest bit. -/
def varintFrom (place : Nat) : Bytes → Option (Nat × Bytes)
  | [] => none
  | b :: rest =>
    if place = 9 && 1 < b.toNat then none
    else if b.toNat < 128 then some (b.toNat, rest)
    else
      match varintFrom (place + 1) rest with
      | none => none
      | some (n, rest) => some (b.toNat - 128 + 128 * n, rest)

/-- A variable-length integer and what follows it. -/
def varint (bytes : Bytes) : Option (Nat × Bytes) := varintFrom 0 bytes

theorem length_varintFrom {place n : Nat} {bytes rest : Bytes} (h : varintFrom place bytes = some (n, rest)) :
    rest.length < bytes.length := by
  induction bytes generalizing place n rest with
  | nil => simp [varintFrom] at h
  | cons b bytes ih =>
    simp only [varintFrom] at h
    split at h
    · cases h
    · split at h
      · cases h
        simp
      · split at h
        · cases h
        · rename_i hrec
          cases h
          have := ih hrec
          simp only [List.length_cons]
          omega

theorem length_varint {n : Nat} {bytes rest : Bytes} (h : varint bytes = some (n, rest)) :
    rest.length < bytes.length := length_varintFrom h

/-- The first `count` bytes and the rest, if there are so many. -/
def split? (count : Nat) (bytes : Bytes) : Option (Bytes × Bytes) :=
  if (bytes.take count).length = count then some (bytes.take count, bytes.drop count) else none

theorem length_split? {count : Nat} {bytes front rest : Bytes} (h : split? count bytes = some (front, rest)) :
    rest.length ≤ bytes.length := by
  unfold split? at h
  split at h
  · cases h
    simp
  · cases h

/-- What a field holds. -/
inductive FieldValue where
  | varint (n : Nat)
  | fixed64 (n : Nat)
  | bytes (payload : Bytes)
  | fixed32 (n : Nat)
  /-- A group, whose content is not kept. -/
  | group
deriving DecidableEq, Repr, Inhabited

structure Field where
  number : Nat
  value : FieldValue
deriving DecidableEq, Repr, Inhabited

/-- A field, or the beginning or end of a group. -/
inductive Token where
  | field (f : Field)
  | openGroup (number : Nat)
  | closeGroup (number : Nat)

/-- The form of a field that begins after its key, by the code in the key. -/
def tokenAfter (number code : Nat) (bytes : Bytes) : Option (Token × Bytes) :=
  match code with
  | 0 => (varint bytes).map fun (n, rest) => (.field ⟨number, .varint n⟩, rest)
  | 1 => (split? 8 bytes).map fun (front, rest) => (.field ⟨number, .fixed64 (littleEndian front)⟩, rest)
  | 2 =>
    match varint bytes with
    | none => none
    | some (count, rest) => (split? count rest).map fun (front, rest) => (.field ⟨number, .bytes front⟩, rest)
  | 3 => some (.openGroup number, bytes)
  | 4 => some (.closeGroup number, bytes)
  | 5 => (split? 4 bytes).map fun (front, rest) => (.field ⟨number, .fixed32 (littleEndian front)⟩, rest)
  | _ => none

/-- One token. A key has 32 bits, of which the lowest three are the form and the others the number, which is not 0. -/
def token (bytes : Bytes) : Option (Token × Bytes) :=
  match varint bytes with
  | none => none
  | some (key, rest) => if key < 8 || Nat.pow 2 32 ≤ key then none else tokenAfter (key / 8) (key % 8) rest

theorem length_tokenAfter {number code : Nat} {bytes rest : Bytes} {t : Token}
    (h : tokenAfter number code bytes = some (t, rest)) : rest.length ≤ bytes.length := by
  unfold tokenAfter at h
  split at h
  · simp only [Option.map_eq_some_iff, Prod.exists, Prod.mk.injEq] at h
    obtain ⟨n, r, hv, _, rfl⟩ := h
    exact Nat.le_of_lt (length_varint hv)
  · simp only [Option.map_eq_some_iff, Prod.exists, Prod.mk.injEq] at h
    obtain ⟨n, r, hs, _, rfl⟩ := h
    exact length_split? hs
  · split at h
    · cases h
    · rename_i hv
      simp only [Option.map_eq_some_iff, Prod.exists, Prod.mk.injEq] at h
      obtain ⟨n, r, hs, _, rfl⟩ := h
      exact Nat.le_trans (length_split? hs) (Nat.le_of_lt (length_varint hv))
  · cases h
    exact Nat.le_refl _
  · cases h
    exact Nat.le_refl _
  · simp only [Option.map_eq_some_iff, Prod.exists, Prod.mk.injEq] at h
    obtain ⟨n, r, hs, _, rfl⟩ := h
    exact length_split? hs
  · cases h

theorem length_token {bytes rest : Bytes} {t : Token} (h : token bytes = some (t, rest)) :
    rest.length < bytes.length := by
  unfold token at h
  split at h
  · cases h
  · rename_i hv
    split at h
    · cases h
    · exact Nat.lt_of_le_of_lt (length_tokenAfter h) (length_varint hv)

/-- The fields of a message in which the groups `opened`, innermost first, have begun. Of a group only its number is
kept. Whatever is skipped inside groups counts against the nesting that is left. -/
def fieldsIn (nesting : Nat) (opened : List Nat) (bytes : Bytes) : Option (List Field) :=
  if bytes.isEmpty then if opened.isEmpty then some [] else none
  else
    match h : token bytes with
    | none => none
    | some (.field f, rest) =>
      have := length_token h
      if opened.isEmpty then (fieldsIn nesting opened rest).map (f :: ·)
      else if opened.length < nesting then fieldsIn nesting opened rest
      else none
    | some (.openGroup number, rest) =>
      have := length_token h
      if opened.length < nesting then fieldsIn nesting (number :: opened) rest else none
    | some (.closeGroup number, rest) =>
      have := length_token h
      match opened with
      | [] => none
      | innermost :: outer =>
        if innermost ≠ number then none
        else if outer.isEmpty then (fieldsIn nesting outer rest).map (⟨number, .group⟩ :: ·)
        else fieldsIn nesting outer rest
termination_by bytes.length

/-- The fields of a message. -/
def fields (nesting : Nat) (bytes : Bytes) : Option (List Field) := fieldsIn nesting [] bytes

/-! ## The forms of a field -/

namespace FieldValue

def varint? : FieldValue → Option Nat
  | varint n => some n
  | _ => none

def fixed32? : FieldValue → Option Nat
  | fixed32 n => some n
  | _ => none

def payload? : FieldValue → Option Bytes
  | bytes b => some b
  | _ => none

/-- Variable-length integers one after another. -/
def packedVarints (bytes : Bytes) : Option (List Nat) :=
  if bytes.isEmpty then some []
  else
    match h : Wire.varint bytes with
    | none => none
    | some (n, rest) =>
      have := length_varint h
      (packedVarints rest).map (n :: ·)
termination_by bytes.length

/-- Numbers of `size` bytes one after another. -/
def packedFixed (size : Nat) (bytes : Bytes) : Option (List Nat) :=
  if bytes.length % size = 0 then some ((byteGroups size (bytes.length / size) bytes).map littleEndian) else none

/-- The integers of a field of a list of integers, which may hold one of them or be packed. -/
def varints? : FieldValue → Option (List Nat)
  | varint n => some [n]
  | bytes b => packedVarints b
  | _ => none

def fixed32s? : FieldValue → Option (List Nat)
  | fixed32 n => some [n]
  | bytes b => packedFixed 4 b
  | _ => none

def fixed64s? : FieldValue → Option (List Nat)
  | fixed64 n => some [n]
  | bytes b => packedFixed 8 b
  | _ => none

end FieldValue

/-! ## The fields of one number -/

/-- The fields of a message. -/
structure Fields where
  list : List Field

namespace Fields

/-- What the fields of a number hold. -/
def values (fs : Fields) (number : Nat) : List FieldValue :=
  (fs.list.filter (·.number == number)).map (·.value)

/-- A single integer: the last one counts, and none is 0. -/
def varint (fs : Fields) (number : Nat) : Option Nat :=
  ((fs.values number).mapM FieldValue.varint?).map fun ns => ns.getLastD 0

def varints (fs : Fields) (number : Nat) : Option (List Nat) :=
  ((fs.values number).mapM FieldValue.varints?).map List.flatten

def fixed32 (fs : Fields) (number : Nat) : Option Nat :=
  ((fs.values number).mapM FieldValue.fixed32?).map fun ns => ns.getLastD 0

def fixed32s (fs : Fields) (number : Nat) : Option (List Nat) :=
  ((fs.values number).mapM FieldValue.fixed32s?).map List.flatten

def fixed64s (fs : Fields) (number : Nat) : Option (List Nat) :=
  ((fs.values number).mapM FieldValue.fixed64s?).map List.flatten

/-- Counted runs of bytes. -/
def payloads (fs : Fields) (number : Nat) : Option (List Bytes) := (fs.values number).mapM FieldValue.payload?

/-- A single run of bytes: the last one counts. -/
def payload (fs : Fields) (number : Nat) : Option Bytes := (fs.payloads number).map fun bs => bs.getLastD []

/-- Texts, each of which must be well-formed. -/
def texts (fs : Fields) (number : Nat) : Option (List String) :=
  (fs.payloads number).bind fun bs => bs.mapM Utf8.decode

/-- A single text: the last one counts, but all must be well-formed. -/
def text (fs : Fields) (number : Nat) : Option String := (fs.texts number).map fun ts => ts.getLastD ""

/-- Messages, by a reader for the runs of bytes of one message. -/
def messages {α : Type} (fs : Fields) (number : Nat) (read : List Bytes → Option α) : Option (List α) :=
  (fs.payloads number).bind fun bs => bs.mapM fun b => read [b]

/-- A single message, absent if there is no field for it. Of several the fields are taken together. -/
def message? {α : Type} (fs : Fields) (number : Nat) (read : List Bytes → Option α) : Option (Option α) :=
  (fs.payloads number).bind fun bs => if bs.isEmpty then some none else (read bs).map some

/-- The fields of a message that comes in several runs of bytes. Unknown fields are passed over, but they need some
nesting left. -/
def read (nesting : Nat) (known : List Nat) (runs : List Bytes) : Option Fields := do
  let fs := (← runs.mapM (fields nesting)).flatten
  if nesting = 0 && fs.any fun f => !known.contains f.number then none
  return ⟨fs⟩

end Fields

end ModelImport.Wire
