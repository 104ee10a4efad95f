/-!
# Binary floating point numbers of 64 bits

The finite numbers of the IEEE 754 format binary64 as exact data: a sign, a significand `m` and an
exponent `e` stand for `± m · 2 ^ e`. The fields are canonical, so equal numbers of equal sign have
equal fields; the two zeros differ in their sign alone. Infinities and NaN are not of this type.

* `Binary64.ofRatio?`: the number nearest to a quotient of natural numbers, a tie going to the even
  significand;
* `Binary64.ofDecimal?`: the number nearest to `m · 10 ^ k`.

Both answer `none` exactly where rounding leaves the finite range.
-/

namespace BlockSheet.Decimal

/-- The significand has at most 53 bits, and fewer than 53 only at the least exponent. -/
def Canonical (significand : Nat) (exponent : Int) : Prop :=
  significand < Nat.pow 2 53 ∧ -1074 ≤ exponent ∧ exponent ≤ 971 ∧
    (Nat.pow 2 52 ≤ significand ∨ exponent = -1074)

instance (significand : Nat) (exponent : Int) : Decidable (Canonical significand exponent) :=
  inferInstanceAs (Decidable (_ ∧ _ ∧ _ ∧ _))

/-- A finite number `± significand · 2 ^ exponent`. -/
structure Binary64 where
  negative : Bool
  significand : Nat
  exponent : Int
  canonical : Canonical significand exponent
  deriving DecidableEq

namespace Binary64

/-- The zero of a sign. -/
def zero (negative : Bool) : Binary64 := ⟨negative, 0, -1074, by decide⟩

/-- Is the number one of the two zeros? -/
def isZero (x : Binary64) : Bool := x.significand == 0

@[simp] theorem isZero_zero (negative : Bool) : (zero negative).isZero = true := rfl

/-- Numerically equal: the two zeros are equal, apart from that the numbers are the same. -/
def numericEq (x y : Binary64) : Bool := (x.isZero && y.isZero) || x == y

/-- The quotient rounded to the nearest integer, a tie to the even one. -/
def roundQuotient (numerator denominator : Nat) : Nat :=
  let quotient := numerator / denominator
  let remainder := numerator % denominator
  if 2 * remainder < denominator then quotient
  else if denominator < 2 * remainder then quotient + 1
  else quotient + quotient % 2

/-- The quotient `numerator / denominator / 2 ^ exponent` as a quotient of natural numbers. -/
def scaled (numerator denominator : Nat) (exponent : Int) : Nat × Nat :=
  (numerator * Nat.pow 2 (-exponent).toNat, denominator * Nat.pow 2 exponent.toNat)

/-- The exponent at which a positive quotient has a significand of 53 bits, or the least exponent
where that is greater. The first guess compares the lengths of the two numbers in bits and can be
one too high. -/
def exponentOf (numerator denominator : Nat) : Int :=
  let guess : Int := Nat.log2 numerator - Nat.log2 denominator - 52
  let (n, d) := scaled numerator denominator guess
  max (-1074) (if n < d * Nat.pow 2 52 then guess - 1 else guess)

/-- A significand that rounding has carried to 54 bits moves to the next exponent. There is no
number for what is beyond the greatest exponent. -/
def pack? (negative : Bool) (significand : Nat) (exponent : Int) : Option Binary64 :=
  if significand = Nat.pow 2 53 then
    if h : Canonical (Nat.pow 2 52) (exponent + 1) then
      some ⟨negative, Nat.pow 2 52, exponent + 1, h⟩
    else none
  else
    if h : Canonical significand exponent then some ⟨negative, significand, exponent, h⟩ else none

/-- The number nearest to a quotient with a positive denominator, or `none` beyond the finite
range. -/
def ofRatio? (negative : Bool) (numerator denominator : Nat) : Option Binary64 :=
  if numerator = 0 then some (zero negative)
  else
    let exponent := exponentOf numerator denominator
    let (n, d) := scaled numerator denominator exponent
    pack? negative (roundQuotient n d) exponent

/-- The number nearest to `significand · 10 ^ exponent`, or `none` beyond the finite range.

Powers far outside the format are not computed: from `10 ^ 309` on every positive integer multiple
is too great, and `m · 10 ^ (-p)` rounds to zero when `2 ^ (3 p)` is already more than
`m · 2 ^ 1076`. -/
def ofDecimal? (negative : Bool) (significand : Nat) (exponent : Int) : Option Binary64 :=
  if significand = 0 then some (zero negative)
  else
    let up := exponent.toNat
    let down := (-exponent).toNat
    if 308 < up then none
    else if Nat.log2 significand + 1077 < 3 * down then some (zero negative)
    else ofRatio? negative (significand * Nat.pow 10 up) (Nat.pow 10 down)

end Binary64

end BlockSheet.Decimal
