/-!
# Bytes and numbers

Numbers stored as bytes, least significant first.
-/

namespace ModelImport

abbrev Bytes := List UInt8

/-- The number whose bytes are given, least significant first. -/
def littleEndian (bytes : Bytes) : Nat := bytes.foldr (fun b n => b.toNat + 256 * n) 0

/-- The first `count` groups of `size` bytes each. -/
def byteGroups (size : Nat) : Nat → Bytes → List Bytes
  | 0, _ => []
  | count + 1, bytes => bytes.take size :: byteGroups size count (bytes.drop size)

end ModelImport
