import Mathlib
import BlockSheet.Decimal.Digits

/-!
# Texts of digits

What a text of digits denotes when it is taken apart or extended by zeros (`ofDigitsFrom_append`,
`ofDigitsFrom_zeros`), and how the number of digits goes with the size of the number that is written
(`pow_length_digits_le`, `lt_pow_length_digits`).
-/

namespace BlockSheet.Decimal

/-! ### Reading digits -/

@[simp] theorem ofDigitsFrom_nil (read : Nat) : ofDigitsFrom read [] = read := by
  rw [ofDigitsFrom, List.foldl_nil]

theorem ofDigitsFrom_cons (read : Nat) (c : Char) (text : List Char) :
    ofDigitsFrom read (c :: text) = ofDigitsFrom (10 * read + digitValue c) text := by
  rw [ofDigitsFrom, List.foldl_cons, ofDigitsFrom]

/-- Reading a text onto the number of another one reads both. -/
theorem ofDigitsFrom_ofDigits (s t : List Char) :
    ofDigitsFrom (ofDigits s) t = ofDigits (s ++ t) := (ofDigitsFrom_append 0 s t).symm

@[simp] theorem digitValue_zero : digitValue '0' = 0 := rfl

@[simp] theorem isDigit_zero : isDigit '0' = true := rfl

/-- Each zero behind a number multiplies it by ten. -/
theorem ofDigitsFrom_zeros (read k : Nat) :
    ofDigitsFrom read (List.replicate k '0') = read * 10 ^ k := by
  induction k generalizing read with
  | zero => simp
  | succ k ih =>
      rw [List.replicate_succ, ofDigitsFrom_cons, ih, digitValue_zero, pow_succ]
      ring

/-- What is read never gets less. -/
theorem le_ofDigitsFrom (read : Nat) (text : List Char) : read ≤ ofDigitsFrom read text := by
  induction text generalizing read with
  | nil => rw [ofDigitsFrom_nil]
  | cons c text ih =>
      rw [ofDigitsFrom_cons]
      exact le_trans (by omega) (ih _)

/-! ### Digits of a number -/

theorem isDigit_of_mem_zeros {k : Nat} {c : Char} (h : c ∈ List.replicate k '0') :
    isDigit c = true := by
  rw [List.eq_of_mem_replicate h]
  rfl

/-- The digits are those that the library gives a number. -/
theorem digits_eq_toDigits (n : Nat) : digits n = Nat.toDigits 10 n := by
  have hchar : ∀ d < 10, digitChar d = Nat.digitChar d := by decide
  fun_induction digits n with
  | case1 n h => rw [Nat.toDigits_of_lt_base h, hchar n h]
  | case2 n h ih =>
      have hlast : digitChar n = Nat.digitChar (n % 10) := by
        rw [← hchar (n % 10) (Nat.mod_lt n (by decide)), digitChar, digitChar, Nat.mod_mod]
      rw [ih, hlast, Nat.toDigits_eq_if (by decide : 1 < 10) (n := n), if_neg h]

/-- The text of the digits is the text that the library gives a number. -/
theorem ofList_digits (n : Nat) : String.ofList (digits n) = toString n := by
  rw [digits_eq_toDigits, Nat.toString_eq_repr, Nat.repr_eq_ofList_toDigits]

/-- The last digit is that of the last decimal place. -/
theorem getLast?_digits (n : Nat) : (digits n).getLast? = some (digitChar n) := by
  unfold digits
  split <;> simp

/-- A number that ten does not divide is written without a zero at the end. -/
theorem getLast?_digits_ne_zero {n : Nat} (hn : n % 10 ≠ 0) : (digits n).getLast? ≠ some '0' := by
  intro hzero
  rw [getLast?_digits, Option.some.injEq] at hzero
  exact hn (by rw [← digitValue_digitChar, hzero, digitValue_zero])

/-- A positive number is written without a leading zero. -/
theorem head?_digits_ne_zero {n : Nat} (hn : n ≠ 0) : (digits n).head? ≠ some '0' := by
  fun_induction digits n with
  | case1 n h =>
      intro hzero
      have hvalue := congrArg (Option.map digitValue) hzero
      simp at hvalue
      omega
  | case2 n h ih =>
      rw [List.head?_append_of_ne_nil _ (digits_ne_nil _)]
      exact ih (by omega)

@[simp] theorem digits_zero : digits 0 = ['0'] := by
  rw [digits]
  rfl

/-- A number is less than the power of ten with as many zeros as it has digits. -/
theorem lt_pow_length_digits (n : Nat) : n < 10 ^ (digits n).length := by
  fun_induction digits n with
  | case1 n h => simpa using h
  | case2 n h ih =>
      rw [List.length_append, List.length_singleton, pow_succ]
      omega

/-- A positive number is at least the power of ten with one zero less. -/
theorem pow_length_digits_le {n : Nat} (hn : n ≠ 0) : 10 ^ ((digits n).length - 1) ≤ n := by
  fun_induction digits n with
  | case1 n h => simpa using Nat.one_le_iff_ne_zero.2 hn
  | case2 n h ih =>
      have hlength : (digits (n / 10)).length - 1 + 1 = (digits (n / 10)).length := by
        have := List.length_pos_of_ne_nil (digits_ne_nil (n / 10))
        omega
      have hless := ih (by omega)
      rw [List.length_append, List.length_singleton, Nat.add_sub_cancel, ← hlength, pow_succ]
      omega

end BlockSheet.Decimal
