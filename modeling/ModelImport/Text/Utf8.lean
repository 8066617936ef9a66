/-!
# Reading UTF-8

`decode` reads well-formed UTF-8 and refuses anything else. `decodeLossy` reads any bytes: each longest beginning of a
character that is cut short, and each byte that begins none, becomes one replacement character.
-/

namespace ModelImport.Utf8

/-- What a leading byte announces: the bits it contributes, the number of bytes to follow, and the range of the first
of them. The later ones range over all continuation bytes. -/
structure Lead where
  bits : Nat
  more : Nat
  least : Nat
  greatest : Nat

/-- The leading byte of a character, if the byte is one. -/
def lead (b : Nat) : Option Lead :=
  if b ≤ 0x7f then some ⟨b, 0, 0x80, 0xbf⟩
  else if 0xc2 ≤ b && b ≤ 0xdf then some ⟨b - 0xc0, 1, 0x80, 0xbf⟩
  else if b = 0xe0 then some ⟨0, 2, 0xa0, 0xbf⟩
  else if b = 0xed then some ⟨0xd, 2, 0x80, 0x9f⟩
  else if 0xe1 ≤ b && b ≤ 0xef then some ⟨b - 0xe0, 2, 0x80, 0xbf⟩
  else if b = 0xf0 then some ⟨0, 3, 0x90, 0xbf⟩
  else if 0xf1 ≤ b && b ≤ 0xf3 then some ⟨b - 0xf0, 3, 0x80, 0xbf⟩
  else if b = 0xf4 then some ⟨4, 3, 0x80, 0x8f⟩
  else none

/-- Reads the `more` bytes that a character still needs. The character is absent when one of them is missing or out of
range; then the rest begins at that byte. -/
def trail (bits more least greatest : Nat) : List UInt8 → Option Char × List UInt8
  | [] => (if more = 0 then some (Char.ofNat bits) else none, [])
  | b :: rest =>
    if more = 0 then (some (Char.ofNat bits), b :: rest)
    else if least ≤ b.toNat && b.toNat ≤ greatest then
      trail (bits * 64 + (b.toNat - 0x80)) (more - 1) 0x80 0xbf rest
    else (none, b :: rest)

theorem length_trail (bits more least greatest : Nat) (bytes : List UInt8) :
    (trail bits more least greatest bytes).2.length ≤ bytes.length := by
  induction bytes generalizing bits more least greatest with
  | nil => simp [trail]
  | cons b rest ih =>
    unfold trail
    split
    · simp
    · split
      · exact Nat.le_succ_of_le (ih ..)
      · simp

/-- One character, or the refusal of what cannot be one, and the rest. -/
def step (b : UInt8) (rest : List UInt8) : Option Char × List UInt8 :=
  match lead b.toNat with
  | none => (none, rest)
  | some l => trail l.bits l.more l.least l.greatest rest

theorem length_step (b : UInt8) (rest : List UInt8) : (step b rest).2.length ≤ rest.length := by
  unfold step
  split
  · simp
  · exact length_trail ..

/-- The characters of the bytes, with the refused pieces marked. -/
def pieces : List UInt8 → List (Option Char)
  | [] => []
  | b :: rest => (step b rest).1 :: pieces (step b rest).2
termination_by bytes => bytes.length
decreasing_by
  have := length_step b rest
  simp only [List.length_cons]
  omega

/-- The text of well-formed bytes. -/
def decode (bytes : List UInt8) : Option String := (pieces bytes).mapM id |>.map String.ofList

/-- The character that stands for a piece that cannot be read. -/
def replacement : Char := Char.ofNat 0xfffd

/-- The text of any bytes. -/
def decodeLossy (bytes : List UInt8) : String := String.ofList ((pieces bytes).map (·.getD replacement))

end ModelImport.Utf8
