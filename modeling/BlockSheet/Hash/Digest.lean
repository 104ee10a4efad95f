import BlockSheet.Text.Hex

/-!
# Digests

A digest is 32 bytes. What the library computes from a digest function it computes from any such
function, so a digest function is a parameter wherever one is used.
-/

namespace BlockSheet.Hash

/-- The 32 bytes that stand for a text. -/
abbrev Digest := Vector UInt8 32

/-- A function that gives each text its digest. -/
abbrev DigestFunction := String → Digest

namespace Digest

/-- The digest in hexadecimal, two digits a byte. -/
def hex (digest : Digest) : String :=
  String.ofList <| digest.toList.flatMap fun b =>
    [Text.hexDigit (b.toNat / 16), Text.hexDigit b.toNat]

/-- The number whose digits to the base 256 are the first eight bytes, the highest first. -/
def head (digest : Digest) : Nat :=
  (digest.toList.take 8).foldl (fun n b => 256 * n + b.toNat) 0

end Digest

end BlockSheet.Hash
