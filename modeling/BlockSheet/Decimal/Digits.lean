/-!
# Decimal digits

Natural numbers as decimal text. `digits` writes a number without leading zeros, `ofDigits` reads a
text of digits. Main statements: reading inverts writing (`ofDigits_digits`), and a written number
holds digits only (`isDigit_of_mem_digits`) and at least one (`digits_ne_nil`).
-/

namespace BlockSheet.Decimal

/-- Is the character one of `0` to `9`? -/
def isDigit (c : Char) : Bool := '0' ≤ c && c ≤ '9'

/-- The value of a digit character. -/
def digitValue (c : Char) : Nat := c.toNat - '0'.toNat

/-- The character of a digit; only the last decimal place of the number counts. -/
def digitChar (n : Nat) : Char := Char.ofNat ('0'.toNat + n % 10)

/-- The decimal digits of a number, the highest first and without leading zeros; zero is `0`. -/
def digits (n : Nat) : List Char :=
  if n < 10 then [digitChar n] else digits (n / 10) ++ [digitChar n]

/-- The number that a text of digits denotes, read from the left onto a number already read. -/
def ofDigitsFrom (read : Nat) (text : List Char) : Nat :=
  text.foldl (fun n c => 10 * n + digitValue c) read

/-- The number that a text of digits denotes. -/
def ofDigits (text : List Char) : Nat := ofDigitsFrom 0 text

/-! ## Reading what was written -/

/-- A digit character is a digit, and its value is the last place of the number. -/
theorem digitChar_facts (n : Nat) :
    isDigit (digitChar n) = true ∧ digitValue (digitChar n) = n % 10 := by
  have all : ∀ d < 10, isDigit (Char.ofNat (48 + d)) = true ∧
      digitValue (Char.ofNat (48 + d)) = d := by decide
  exact all (n % 10) (Nat.mod_lt n (by omega))

@[simp] theorem isDigit_digitChar (n : Nat) : isDigit (digitChar n) = true :=
  (digitChar_facts n).1

@[simp] theorem digitValue_digitChar (n : Nat) : digitValue (digitChar n) = n % 10 :=
  (digitChar_facts n).2

/-- Reading a text and then another one reads both, one behind the other. -/
theorem ofDigitsFrom_append (read : Nat) (s t : List Char) :
    ofDigitsFrom read (s ++ t) = ofDigitsFrom (ofDigitsFrom read s) t := by
  simp [ofDigitsFrom]

/-- A written number reads back. -/
theorem ofDigits_digits (n : Nat) : ofDigits (digits n) = n := by
  unfold ofDigits
  fun_induction digits n with
  | case1 n h =>
    rw [ofDigitsFrom, List.foldl_cons, List.foldl_nil, digitValue_digitChar]
    omega
  | case2 n h ih =>
    rw [ofDigitsFrom_append, ih, ofDigitsFrom, List.foldl_cons, List.foldl_nil,
      digitValue_digitChar]
    omega

/-- A written number has at least one digit. -/
theorem digits_ne_nil (n : Nat) : digits n ≠ [] := by
  unfold digits
  split <;> simp

/-- A written number holds digits only. -/
theorem isDigit_of_mem_digits {n : Nat} {c : Char} (h : c ∈ digits n) : isDigit c = true := by
  fun_induction digits n with
  | case1 n hn =>
    obtain rfl := List.mem_singleton.1 h
    exact isDigit_digitChar n
  | case2 n hn ih =>
    rcases List.mem_append.1 h with h | h
    · exact ih h
    · obtain rfl := List.mem_singleton.1 h
      exact isDigit_digitChar n

/-! ## Integers -/

/-- The text of an integer: the digits of its magnitude behind a minus sign where it is negative. -/
def integer : Int → List Char
  | .ofNat n => digits n
  | .negSucc n => '-' :: digits (n + 1)

end BlockSheet.Decimal
