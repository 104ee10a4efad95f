import BlockSheet.Decimal.Digits
import BlockSheet.Hash.Digest

/-!
# Short hashes

Ids are short tokens of digits and letters made from a digest. The same client id and attempt always
give the same token; each further attempt hashes another text.
-/

namespace BlockSheet

open Hash (DigestFunction)

/-- The character of a digit to the base 36; only the last place of the number counts. -/
def base36Char (n : Nat) : Char :=
  if n % 36 < 10 then Char.ofNat ('0'.toNat + n % 36)
  else Char.ofNat ('a'.toNat + (n % 36 - 10))

/-- The digits of a number to the base 36, the lowest first and without zeros at the end; zero has
none. -/
def base36Digits (n : Nat) : List Char :=
  if n = 0 then [] else base36Char n :: base36Digits (n / 36)

/-- The lowest `length` digits of a number to the base 36, the lowest first. A number with fewer
digits is filled up with zeros. -/
def token (length n : Nat) : List Char :=
  let digits := base36Digits n
  (digits ++ List.replicate (length - digits.length) '0').take length

@[simp] theorem length_token (length n : Nat) : (token length n).length = length := by
  simp only [token, List.length_take, List.length_append, List.length_replicate]
  omega

/-- Makes ids from digests. -/
structure ShortHash where
  digest : DigestFunction
  length : Nat

namespace ShortHash

/-- The text that is hashed: the client id, and for every attempt but the first its number behind a
colon. -/
def seed (clientId : String) (attempt : Nat) : String :=
  if attempt = 0 then clientId
  else clientId ++ String.ofList (':' :: Decimal.digits attempt)

/-- The number that the first eight bytes of the digest form. -/
def number (h : ShortHash) (clientId : String) (attempt : Nat) : Nat :=
  (h.digest (seed clientId attempt)).head

/-- The id for a client id and an attempt. -/
def generate (h : ShortHash) (clientId : String) (attempt : Nat) : String :=
  String.ofList (token h.length (h.number clientId attempt))

end ShortHash

end BlockSheet
