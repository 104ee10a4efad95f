/-!
# Hexadecimal text

Numbers to the base 16, with letters in lower case.
-/

namespace BlockSheet.Text

/-- The character of a hexadecimal digit; only the last place of the number counts. -/
def hexDigit (n : Nat) : Char :=
  if n % 16 < 10 then Char.ofNat ('0'.toNat + n % 16) else Char.ofNat ('a'.toNat + (n % 16 - 10))

/-- The hexadecimal digits of a number, the highest first and without leading zeros. -/
def hexDigits (n : Nat) : List Char :=
  if n < 16 then [hexDigit n] else hexDigits (n / 16) ++ [hexDigit n]

end BlockSheet.Text
