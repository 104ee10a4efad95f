import BlockSheet.Decimal.Binary64

/-!
# The shortest decimal that reads back

`Binary64.shortest` chooses the decimal digits of a number: on the coarsest decimal grid that holds
a point which reads back as the number, it takes such a point nearest to the number. Only the two
grid points around the number can be nearest, so only these are tried; the test is the reader
itself, `Binary64.ofDecimal?`. Where both points are equally near a `Tie` decides.
-/

namespace BlockSheet.Decimal

/-- A positive decimal `significand · 10 ^ exponent`. -/
structure Scientific where
  significand : Nat
  exponent : Int
  deriving DecidableEq

/-- Which of two equally near grid points is taken: the upper one, or the one with an even
significand. -/
inductive Tie
  | up
  | toEven
  deriving DecidableEq

/-- Move trailing zeros of the significand into the exponent. -/
def Scientific.stripZeros (d : Scientific) : Scientific :=
  if h : d.significand ≠ 0 ∧ d.significand % 10 = 0 then
    stripZeros ⟨d.significand / 10, d.exponent + 1⟩
  else d
termination_by d.significand
decreasing_by exact Nat.div_lt_self (by omega) (by omega)

namespace Binary64

/-- The magnitude as a quotient of natural numbers. -/
def ratio (x : Binary64) : Nat × Nat :=
  (x.significand * Nat.pow 2 x.exponent.toNat, Nat.pow 2 (-x.exponent).toNat)

/-- The exact decimal value of the magnitude: a negative power of two is a power of five with the
decimal point moved. -/
def exact (x : Binary64) : Scientific :=
  Scientific.stripZeros
    ⟨x.significand * Nat.pow 2 x.exponent.toNat * Nat.pow 5 (-x.exponent).toNat, min x.exponent 0⟩

/-- Does the decimal read back as the magnitude of `x`, and is it written without a trailing zero?
With a trailing zero it lies on a coarser grid too. -/
def readsBack (x : Binary64) (d : Scientific) : Bool :=
  d.significand % 10 != 0 && ofDecimal? x.negative d.significand d.exponent == some x

/-- The point of the grid `10 ^ exponent` that reads back as `x` and is nearest to it. -/
def nearestOnGrid? (x : Binary64) (tie : Tie) (exponent : Int) : Option Scientific :=
  let (numerator, denominator) := x.ratio
  let n := numerator * Nat.pow 10 (-exponent).toNat
  let d := denominator * Nat.pow 10 exponent.toNat
  let lower : Scientific := ⟨n / d, exponent⟩
  let upper : Scientific := ⟨n / d + 1, exponent⟩
  let remainder := n % d
  let upperFirst :=
    d < 2 * remainder ||
      (2 * remainder == d &&
        match tie with
        | .up => true
        | .toEven => lower.significand % 2 == 1)
  let (first, second) := if upperFirst then (upper, lower) else (lower, upper)
  if x.readsBack first then some first
  else if x.readsBack second then some second
  else none

/-- An exponent whose power of ten is greater than the number: `1233 / 4096` is just below the
decimal logarithm of two. -/
def gridBound (x : Binary64) : Int :=
  Int.fdiv ((Nat.log2 x.significand + 1 + x.exponent) * 1233) 4096 + 2

/-- The shortest decimal of a number that is not zero. Seventeen digits always suffice, which the
21 grids below `gridBound` cover; the exact value stands behind them. -/
def shortest (x : Binary64) (tie : Tie) : Scientific :=
  let found := (List.range 21).findSome? fun (step : Nat) =>
    x.nearestOnGrid? tie (x.gridBound - step)
  found.getD x.exact

end Binary64

end BlockSheet.Decimal
