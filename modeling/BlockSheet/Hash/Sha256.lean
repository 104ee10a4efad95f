import BlockSheet.Hash.Digest

/-!
# SHA-256

The digest function of FIPS 180-4 on the UTF-8 bytes of a text.
-/

namespace BlockSheet.Hash.Sha256

/-! ## Words -/

/-- Rotate a word to the right by fewer than 32 bits. -/
def rotate (x : UInt32) (bits : UInt32) : UInt32 := (x >>> bits) ||| (x <<< (32 - bits))

/-- Take each bit from the second word where the first has a one, else from the third. -/
def choose (x y z : UInt32) : UInt32 := (x &&& y) ^^^ (~~~x &&& z)

/-- The value that at least two of the three words have, bit by bit. -/
def majority (x y z : UInt32) : UInt32 := (x &&& y) ^^^ (x &&& z) ^^^ (y &&& z)

def upperSigma0 (x : UInt32) : UInt32 := rotate x 2 ^^^ rotate x 13 ^^^ rotate x 22

def upperSigma1 (x : UInt32) : UInt32 := rotate x 6 ^^^ rotate x 11 ^^^ rotate x 25

def lowerSigma0 (x : UInt32) : UInt32 := rotate x 7 ^^^ rotate x 18 ^^^ (x >>> 3)

def lowerSigma1 (x : UInt32) : UInt32 := rotate x 17 ^^^ rotate x 19 ^^^ (x >>> 10)

/-- The first 32 bits of the fractional parts of the cube roots of the first 64 primes. -/
def roundConstants : List UInt32 := [
  0x428a2f98, 0x71374491, 0xb5c0fbcf, 0xe9b5dba5, 0x3956c25b, 0x59f111f1, 0x923f82a4, 0xab1c5ed5,
  0xd807aa98, 0x12835b01, 0x243185be, 0x550c7dc3, 0x72be5d74, 0x80deb1fe, 0x9bdc06a7, 0xc19bf174,
  0xe49b69c1, 0xefbe4786, 0x0fc19dc6, 0x240ca1cc, 0x2de92c6f, 0x4a7484aa, 0x5cb0a9dc, 0x76f988da,
  0x983e5152, 0xa831c66d, 0xb00327c8, 0xbf597fc7, 0xc6e00bf3, 0xd5a79147, 0x06ca6351, 0x14292967,
  0x27b70a85, 0x2e1b2138, 0x4d2c6dfc, 0x53380d13, 0x650a7354, 0x766a0abb, 0x81c2c92e, 0x92722c85,
  0xa2bfe8a1, 0xa81a664b, 0xc24b8b70, 0xc76c51a3, 0xd192e819, 0xd6990624, 0xf40e3585, 0x106aa070,
  0x19a4c116, 0x1e376c08, 0x2748774c, 0x34b0bcb5, 0x391c0cb3, 0x4ed8aa4a, 0x5b9cca4f, 0x682e6ff3,
  0x748f82ee, 0x78a5636f, 0x84c87814, 0x8cc70208, 0x90befffa, 0xa4506ceb, 0xbef9a3f7, 0xc67178f2]

/-! ## Blocks -/

/-- The eight words of the state. -/
structure State where
  a : UInt32
  b : UInt32
  c : UInt32
  d : UInt32
  e : UInt32
  f : UInt32
  g : UInt32
  h : UInt32

/-- The first 32 bits of the fractional parts of the square roots of the first eight primes. -/
def initial : State :=
  ⟨0x6a09e667, 0xbb67ae85, 0x3c6ef372, 0xa54ff53a,
   0x510e527f, 0x9b05688c, 0x1f83d9ab, 0x5be0cd19⟩

/-- The words of the message schedule, the latest first: `count` words more are computed from the
last sixteen. -/
def extend : Nat → List UInt32 → List UInt32
  | 0, words => words
  | count + 1, words =>
    extend count <|
      (lowerSigma1 (words.getD 1 0) + words.getD 6 0 + lowerSigma0 (words.getD 14 0) +
        words.getD 15 0) :: words

/-- One round with its constant and its word of the schedule. -/
def round (s : State) (entry : UInt32 × UInt32) : State :=
  let first := s.h + upperSigma1 s.e + choose s.e s.f s.g + entry.1 + entry.2
  let second := upperSigma0 s.a + majority s.a s.b s.c
  ⟨first + second, s.a, s.b, s.c, s.d + first, s.e, s.f, s.g⟩

/-- The state after a block of sixteen words. -/
def compress (s : State) (block : List UInt32) : State :=
  let schedule := (extend 48 block.reverse).reverse
  let t := (roundConstants.zip schedule).foldl round s
  ⟨s.a + t.a, s.b + t.b, s.c + t.c, s.d + t.d, s.e + t.e, s.f + t.f, s.g + t.g, s.h + t.h⟩

/-! ## Messages -/

/-- A number as `count` bytes, the highest first. -/
def bigEndian (count n : Nat) : List UInt8 :=
  ((List.range count).map fun i => UInt8.ofNat (n / Nat.pow 256 i)).reverse

/-- The message with its end mark, filled up with zeros and its length in bits to whole blocks of
64 bytes. -/
def padded (message : List UInt8) : List UInt8 :=
  let length := message.length
  message ++ 0x80 :: List.replicate ((119 - length % 64) % 64) 0 ++ bigEndian 8 (8 * length)

/-- Four bytes as a word, the highest first. -/
def toWords : List UInt8 → List UInt32
  | p :: q :: r :: s :: bytes =>
    (p.toUInt32 <<< 24 ||| q.toUInt32 <<< 16 ||| r.toUInt32 <<< 8 ||| s.toUInt32) :: toWords bytes
  | _ => []

/-- The state after all words of a message, block by block. -/
def absorb (s : State) (words : List UInt32) : State :=
  if words.isEmpty then s else absorb (compress s (words.take 16)) (words.drop 16)
termination_by words.length
decreasing_by
  cases words with
  | nil => contradiction
  | cons w ws => simp only [List.drop_succ_cons, List.length_cons, List.length_drop]; omega

/-- The bytes of the state, the highest of each word first. -/
def State.digest (s : State) : Digest :=
  let words : Vector UInt32 8 := #v[s.a, s.b, s.c, s.d, s.e, s.f, s.g, s.h]
  Vector.ofFn fun (i : Fin 32) =>
    (words.get ⟨i.val / 4, by omega⟩ >>> (24 - 8 * UInt32.ofNat (i.val % 4))).toUInt8

def digest : DigestFunction := fun text =>
  (absorb initial (toWords (padded text.toUTF8.data.toList))).digest

end BlockSheet.Hash.Sha256
