import BlockSheet.Identity.ShortHash
import BlockSheet.Proofs.Decimal.Digits

/-!
# What a token tells of its number

A token is made by dividing a number by 36 until nothing is left, and by cutting the digits off or
filling them up with zeros to the length that was set. Where the division ends does not show: the
character at a place is the digit of the number at that place, be it one that the division gave or
a zero behind the last one (`getElem?_token`).

So a token of length `l` is the remainder of its number modulo `36 ^ l`, and no more
(`token_eq_iff`). The numbers have 64 bits, which is more than twelve digits to the base 36 hold
and less than thirteen do: from thirteen characters on, different numbers have different tokens.
-/

namespace BlockSheet

/-! ### Digits to the base 36 -/

/-- The digits to the base 36 in the order of their values. -/
def base36Alphabet : List Char := "0123456789abcdefghijklmnopqrstuvwxyz".toList

theorem nodup_base36Alphabet : base36Alphabet.Nodup := by decide +kernel

/-- Only the last place of a number counts for its digit. -/
theorem base36Char_mod (n : Nat) : base36Char (n % 36) = base36Char n := by
  rw [base36Char, base36Char, Nat.mod_mod]

theorem getElem?_base36Alphabet (n : Nat) :
    base36Alphabet[n % 36]? = some (base36Char n) := by
  have all : ∀ d < 36, base36Alphabet[d]? = some (base36Char d) := by decide +kernel
  rw [← base36Char_mod]
  exact all (n % 36) (Nat.mod_lt n (by decide))

/-- A digit is known by its value. -/
theorem base36Char_eq_iff {m n : Nat} : base36Char m = base36Char n ↔ m % 36 = n % 36 := by
  have hlength : base36Alphabet.length = 36 := by decide +kernel
  rw [← Option.some_inj, ← getElem?_base36Alphabet, ← getElem?_base36Alphabet]
  exact List.getElem?_inj (by rw [hlength]; exact Nat.mod_lt m (by decide)) nodup_base36Alphabet

/-- **The division** goes on as long as something is left, and gives one digit of the number after
the other. -/
theorem getElem?_base36Digits (n i : Nat) :
    (base36Digits n)[i]? = if n / 36 ^ i = 0 then none else some (base36Char (n / 36 ^ i)) := by
  fun_induction base36Digits n generalizing i with
  | case1 => rw [Nat.zero_div, if_pos rfl, List.getElem?_nil]
  | case2 n hn ih =>
      cases i with
      | zero => rw [pow_zero, Nat.div_one, if_neg hn, List.getElem?_cons_zero]
      | succ i => rw [List.getElem?_cons_succ, ih, Nat.div_div_eq_div_mul, ← pow_succ']

/-! ### Tokens -/

/-- **A token has a digit of its number at each place**, the lowest first. -/
theorem getElem?_token {length i : Nat} (hi : i < length) (n : Nat) :
    (token length n)[i]? = some (base36Char (n / 36 ^ i)) := by
  have hplace := getElem?_base36Digits n i
  rw [token, List.getElem?_take_of_lt hi]
  by_cases hleft : n / 36 ^ i = 0
  · -- The division has ended in front of this place, so it holds one of the zeros.
    have hzero : base36Char 0 = '0' := rfl
    rw [if_pos hleft, List.getElem?_eq_none_iff] at hplace
    rw [List.getElem?_append_right hplace, hleft, hzero, List.getElem?_replicate_of_lt (by omega)]
  · rw [if_neg hleft] at hplace
    rw [List.getElem?_append_left (List.getElem?_eq_some_iff.1 hplace).1, hplace]

/-- The lowest places of a number are its remainder. -/
theorem sum_places (length n : Nat) :
    ∑ i ∈ Finset.range length, 36 ^ i * (n / 36 ^ i % 36) = n % 36 ^ length := by
  induction length with
  | zero => rw [Finset.sum_range_zero, pow_zero, Nat.mod_one]
  | succ length ih => rw [Finset.sum_range_succ, ih, Nat.mod_pow_succ]

/-- The places of a number that a token shows are those of its remainder. -/
theorem place_mod {length i : Nat} (hi : i < length) (n : Nat) :
    n % 36 ^ length / 36 ^ i % 36 = n / 36 ^ i % 36 := by
  rw [← Nat.mod_mul_right_div_self, ← Nat.mod_mul_right_div_self, ← pow_succ,
    Nat.mod_mod_of_dvd _ (pow_dvd_pow 36 hi)]

/-- **Tokens are remainders**: two numbers have the same token of some length exactly if they are
congruent modulo that power of 36. -/
theorem token_eq_iff {length m n : Nat} :
    token length m = token length n ↔ m ≡ n [MOD 36 ^ length] := by
  constructor
  · intro h
    have hplaces : ∀ i ∈ Finset.range length, 36 ^ i * (m / 36 ^ i % 36) =
        36 ^ i * (n / 36 ^ i % 36) := by
      intro i hi
      have hchars := congrArg (·[i]?) h
      rw [getElem?_token (Finset.mem_range.1 hi), getElem?_token (Finset.mem_range.1 hi),
        Option.some_inj, base36Char_eq_iff] at hchars
      rw [hchars]
    rw [Nat.ModEq, ← sum_places, ← sum_places]
    exact Finset.sum_congr rfl hplaces
  · intro h
    refine List.ext_getElem? fun i => ?_
    by_cases hi : i < length
    · rw [getElem?_token hi, getElem?_token hi, Option.some_inj, base36Char_eq_iff,
        ← place_mod hi m, ← place_mod hi n, h]
    · rw [List.getElem?_eq_none (by simpa using hi), List.getElem?_eq_none (by simpa using hi)]

/-! ### Numbers of digests -/

namespace Hash.Digest

/-- The number of a digest is the one whose digits to the base 256 are its first eight bytes. -/
theorem head_eq_ofDigits (digest : Digest) :
    digest.head = Nat.ofDigits 256 ((digest.toList.take 8).reverse.map UInt8.toNat) := by
  have hstep : (fun (n : Nat) (b : UInt8) => 256 * n + b.toNat) =
      fun n b => b.toNat + 256 * n := by
    funext n b
    exact Nat.add_comm _ _
  rw [head, hstep, Nat.ofDigits_eq_foldr, List.foldr_map, List.foldr_reverse]
  rfl

/-- It has 64 bits. -/
theorem head_lt (digest : Digest) : digest.head < 2 ^ 64 := by
  have hbytes : ∀ b ∈ (digest.toList.take 8).reverse.map UInt8.toNat, b < 256 := by
    intro b hb
    obtain ⟨byte, -, rfl⟩ := List.mem_map.1 hb
    exact byte.toNat_lt
  have hlength : ((digest.toList.take 8).reverse.map UInt8.toNat).length = 8 := by simp
  have hlt := Nat.ofDigits_lt_base_pow_length (by decide) hbytes
  rw [hlength] at hlt
  rw [head_eq_ofDigits]
  exact hlt

end Hash.Digest

namespace ShortHash

/-- What is hashed: the client id, and behind it a colon and the number of the attempt for each one
but the first. -/
theorem seed_eq (clientId : String) (attempt : Nat) :
    seed clientId attempt =
      if attempt = 0 then clientId else clientId ++ ":" ++ toString attempt := by
  have htext : String.ofList (':' :: Decimal.digits attempt) = ":" ++ toString attempt := by
    rw [← Decimal.ofList_digits, ← List.singleton_append, String.ofList_append]
  rw [seed, htext, String.append_assoc]

/-- **Tokens are remainders to the base 36.** An id has the length that was set, and at each place
the digit of the number that the first eight bytes of the digest form; this for every digest
function. The digest is that of the client id, with a colon and the number of the attempt behind it
for each attempt but the first. Two draws give the same id exactly if their numbers are congruent
modulo that power of 36, and from thirteen characters on exactly if their numbers are equal. -/
theorem generate_residue (h : ShortHash) :
    (∀ clientId attempt,
      h.number clientId attempt = Nat.ofDigits 256
          (((h.digest (if attempt = 0 then clientId
            else clientId ++ ":" ++ toString attempt)).toList.take 8).reverse.map UInt8.toNat) ∧
        (h.generate clientId attempt).length = h.length ∧
        ∀ i < h.length, (h.generate clientId attempt).toList[i]? =
          base36Alphabet[h.number clientId attempt / 36 ^ i % 36]?) ∧
      ∀ clientId attempt clientId' attempt',
        (h.generate clientId attempt = h.generate clientId' attempt' ↔
          h.number clientId attempt ≡ h.number clientId' attempt' [MOD 36 ^ h.length]) ∧
        (13 ≤ h.length → (h.generate clientId attempt = h.generate clientId' attempt' ↔
          h.number clientId attempt = h.number clientId' attempt')) := by
  have htokens : ∀ clientId attempt clientId' attempt',
      h.generate clientId attempt = h.generate clientId' attempt' ↔
        h.number clientId attempt ≡ h.number clientId' attempt' [MOD 36 ^ h.length] := by
    intro clientId attempt clientId' attempt'
    rw [generate, generate, String.ofList_inj, token_eq_iff]
  refine ⟨fun clientId attempt => ⟨?_, ?_, fun i hi => ?_⟩,
    fun clientId attempt clientId' attempt' => ⟨htokens _ _ _ _, fun hlength => ?_⟩⟩
  · rw [number, Hash.Digest.head_eq_ofDigits, seed_eq]
  · rw [generate, String.length_ofList, length_token]
  · rw [generate, String.toList_ofList, getElem?_token hi, getElem?_base36Alphabet]
  · have hbound : ∀ clientId attempt, h.number clientId attempt < 36 ^ h.length := by
      intro clientId attempt
      calc h.number clientId attempt < 2 ^ 64 := Hash.Digest.head_lt _
        _ ≤ 36 ^ 13 := by decide
        _ ≤ 36 ^ h.length := Nat.pow_le_pow_right (by decide) hlength
    rw [htokens]
    exact ⟨fun hmod => hmod.eq_of_lt_of_lt (hbound _ _) (hbound _ _), fun heq => heq ▸ .refl _⟩

section Thirteenth

/-- A digest function that knows the second attempt of a client id: its number is the twelfth power
of 36, and zero for every other text. -/
def thirteenthPlace : Hash.DigestFunction := fun text =>
  let power : Vector UInt8 5 := #v[0x41, 0xC2, 0x1C, 0xB8, 0xE1]
  let zeros : Vector UInt8 27 := .replicate 27 0
  if text = "a:1" then power ++ zeros else .replicate 32 0

/-- Both attempts share every token of twelve characters, and with a thirteenth they differ, which
is a one for the second attempt. -/
theorem generate_residue_thirteenthPlace :
    (⟨thirteenthPlace, 12⟩ : ShortHash).generate "a" 0 =
        (⟨thirteenthPlace, 12⟩ : ShortHash).generate "a" 1 ∧
      13 ≤ 13 ∧
      (⟨thirteenthPlace, 13⟩ : ShortHash).generate "a" 0 ≠
        (⟨thirteenthPlace, 13⟩ : ShortHash).generate "a" 1 ∧
      12 < 13 ∧
      ((⟨thirteenthPlace, 13⟩ : ShortHash).generate "a" 1).toList[12]? = some '1' := by
  have hzero : ∀ length, (⟨thirteenthPlace, length⟩ : ShortHash).number "a" 0 = 0 :=
    fun length => by cbv
  have hpower : ∀ length, (⟨thirteenthPlace, length⟩ : ShortHash).number "a" 1 = 36 ^ 12 :=
    fun length => by cbv
  refine ⟨((generate_residue ⟨thirteenthPlace, 12⟩).2 "a" 0 "a" 1).1.2 ?_, le_refl 13, ?_,
    by decide, ?_⟩
  · rw [hzero, hpower]
    decide
  · have hapart :=
      ((generate_residue ⟨thirteenthPlace, 13⟩).2 "a" 0 "a" 1).2 (le_refl 13)
    rw [Ne, hapart, hzero, hpower]
    decide
  · have hplace :=
      ((generate_residue ⟨thirteenthPlace, 13⟩).1 "a" 1).2.2 12 (by decide)
    rw [hplace, hpower]
    decide +kernel

end Thirteenth

end ShortHash

end BlockSheet
