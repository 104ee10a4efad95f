import Mathlib
import BlockSheet.Json.Lexeme
import BlockSheet.Json.Printer

/-!
# Strings read back

Every string reads back from its text in quotes, whatever comes behind the closing quote
(`stringBody_append`). What is escaped gives the character again, whether it has a short escape or
its code is written; every other character stands for itself.
-/

namespace BlockSheet.Json

open Text (hexDigit)

/-! ### Escapes -/

/-- A hexadecimal digit has the value of the place that it was written for. -/
theorem hexValue?_hexDigit (n : Nat) : hexValue? (hexDigit n) = some (n % 16) := by
  have all : ∀ d < 16, hexValue? (hexDigit d) = some d := by decide
  have hplace : hexDigit n = hexDigit (n % 16) := by
    rw [hexDigit, hexDigit, Nat.mod_mod]
  rw [hplace]
  exact all (n % 16) (Nat.mod_lt n (by omega))

/-- The code of a control character has two hexadecimal places. -/
theorem codeEscape_control {c : Char} (hc : c.toNat < 32) (rest : List Char) :
    codeEscape ('0' :: '0' :: hexDigit (c.toNat / 16) :: hexDigit c.toNat :: rest) =
      .ok (c, rest) := by
  have hzero : hexValue? '0' = some 0 := rfl
  have hcode : ((0 * 16 + 0) * 16 + c.toNat / 16 % 16) * 16 + c.toNat % 16 = c.toNat := by omega
  have hread : hexCode ('0' :: '0' :: hexDigit (c.toNat / 16) :: hexDigit c.toNat :: rest) =
      .ok (c.toNat, rest) := by
    simp only [hexCode, hzero, hexValue?_hexDigit, hcode]
  have htrailing : isTrailingSurrogate c.toNat = false := by
    rw [isTrailingSurrogate, Bool.and_eq_false_iff, decide_eq_false_iff_not]
    exact .inl (by omega)
  have hleading : isLeadingSurrogate c.toNat = false := by
    rw [isLeadingSurrogate, Bool.and_eq_false_iff, decide_eq_false_iff_not]
    exact .inl (by omega)
  simp only [codeEscape, hread, htrailing, hleading, bind, Except.bind, Bool.false_eq_true,
    if_false, Char.ofNat_toNat]

/-! ### Strings -/

/-- The text of one character reads as this character, where the string goes on behind it. -/
theorem stringChars_escapeChar (c r : Char) {room rest cs rest' : List Char}
    (hrest : stringChars room rest = .ok (cs, rest')) :
    stringChars (r :: room) (escapeChar c ++ rest) = .ok (c :: cs, rest') := by
  have hescape : ∀ text, escaped text = .ok (c, rest) →
      stringChars (r :: room) ('\\' :: text) = .ok (c :: cs, rest') := by
    intro text htext
    rw [stringChars, if_neg (by decide), if_pos rfl, htext]
    simp only [bind, Except.bind, hrest]
  have hshort : ∀ letter, shortEscape? letter = some c →
      stringChars (r :: room) ('\\' :: letter :: rest) = .ok (c :: cs, rest') := by
    intro letter hletter
    refine hescape _ ?_
    rw [escaped, hletter]
  unfold escapeChar
  split_ifs with h₁ h₂ h₃ h₄ h₅ h₆ h₇ h₈
  · exact hshort '"' (by rw [h₁]; rfl)
  · exact hshort '\\' (by rw [h₂]; rfl)
  · exact hshort 'b' (by rw [h₃]; rfl)
  · exact hshort 'f' (by rw [h₄]; rfl)
  · exact hshort 'n' (by rw [h₅]; rfl)
  · exact hshort 'r' (by rw [h₆]; rfl)
  · exact hshort 't' (by rw [h₇]; rfl)
  · exact hescape _ (codeEscape_control h₈ rest)
  · rw [List.singleton_append, stringChars, if_neg h₁, if_neg h₂, if_neg h₈]
    simp only [bind, Except.bind, hrest]

/-- The characters of a string read back, given room for them and the closing quote. -/
theorem stringChars_append (cs rest : List Char) {room : List Char}
    (hroom : cs.length < room.length) :
    stringChars room (cs.flatMap escapeChar ++ '"' :: rest) = .ok (cs, rest) := by
  induction cs generalizing room with
  | nil =>
      cases room with
      | nil => exact absurd hroom (Nat.not_lt_zero _)
      | cons r room => rw [List.flatMap_nil, List.nil_append, stringChars, if_pos rfl]
  | cons c cs ih =>
      cases room with
      | nil => exact absurd hroom (Nat.not_lt_zero _)
      | cons r room =>
          rw [List.flatMap_cons, List.append_assoc]
          exact stringChars_escapeChar c r (ih (Nat.lt_of_succ_lt_succ hroom))

theorem escapeChar_ne_nil (c : Char) : escapeChar c ≠ [] := by
  unfold escapeChar
  split_ifs <;> simp

/-- Every character takes up room in the text. -/
theorem length_le_length_flatMap_escapeChar (cs : List Char) :
    cs.length ≤ (cs.flatMap escapeChar).length := by
  induction cs with
  | nil => exact Nat.le_refl 0
  | cons c cs ih =>
      have hpos := List.length_pos_of_ne_nil (escapeChar_ne_nil c)
      rw [List.flatMap_cons, List.length_append, List.length_cons]
      omega

/-- **Reading a string back.** Anything may come behind the closing quote. -/
theorem stringBody_append (s : String) (rest : List Char) :
    stringBody (s.toList.flatMap escapeChar ++ '"' :: rest) = .ok (s, rest) := by
  have hroom : s.toList.length < (s.toList.flatMap escapeChar ++ '"' :: rest).length := by
    have hle := length_le_length_flatMap_escapeChar s.toList
    rw [List.length_append, List.length_cons]
    omega
  rw [stringBody, stringChars_append _ rest hroom]
  exact congrArg (fun s => Except.ok (s, rest)) String.ofList_toList

end BlockSheet.Json
