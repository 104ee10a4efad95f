import Mathlib
import BlockSheet.Json.Printer
import BlockSheet.Proofs.Decimal.Order
import BlockSheet.Proofs.Decimal.Ties
import BlockSheet.Style.Declaration

/-!
# Numbers in CSS

A float of a style tree is written twice, in CSS and in the JSON text of the tree. The two layouts
put the point and the exponent at different places, and the texts denote the same rational number
all the same, but for one thing: a number halfway between two shortest decimals is rounded up in CSS
and to even in JSON (`denoted_numberChars`). Both decimals read as the number, so the tree that is
stored and the sheet that was made of it still agree on it.

CSS has exponents for what is less than `micro` and for `10 ^ 21` and more
(`isSome_exponent_numeralOf`).
-/

namespace BlockSheet.Style

open Json (Number numberLayout)
open Decimal (Binary64 Numeral Scientific Layout Tie denoted signed)

/-! ### Where exponents begin -/

/-- The number nearest to `10 ^ (-6)`; it is a little less. -/
def micro : Binary64 := ⟨false, 4722366482869645, -72, by decide⟩

/-- The number `10 ^ 21`. -/
def sextillion : Binary64 := ⟨false, 7629394531250000, 17, by decide⟩

theorem magnitude_micro : micro.magnitude < 10 ^ (-6 : ℤ) := by
  unfold Binary64.magnitude micro
  norm_num

theorem magnitude_sextillion : sextillion.magnitude = 10 ^ 21 := by
  unfold Binary64.magnitude sextillion
  norm_num

theorem leading_lt_micro_iff {x : Binary64} (hx : x.significand ≠ 0) (tie : Tie) :
    (x.shortest tie).leading < -6 ↔ x.magnitude < micro.magnitude := by
  refine Binary64.leading_shortest_lt_iff (by decide) (by decide +kernel) ?_ hx tie
  intro negative tie
  cases negative <;> cases tie <;> decide +kernel

theorem leading_lt_sextillion_iff {x : Binary64} (hx : x.significand ≠ 0) (tie : Tie) :
    (x.shortest tie).leading < 21 ↔ x.magnitude < 10 ^ 21 := by
  rw [← magnitude_sextillion]
  refine Binary64.leading_shortest_lt_iff (by decide) (by decide +kernel) ?_ hx tie
  intro negative tie
  cases negative <;> cases tie <;> decide +kernel

theorem isZero_eq_true_iff (x : Binary64) : x.isZero = true ↔ x.significand = 0 := beq_iff_eq

/-- A decimal is written with an exponent in CSS if its first digit stands too low or too high. -/
theorem not_positional_iff (d : Scientific) :
    ¬ cssLayout.Positional d ↔ d.leading < -6 ∨ ¬ d.leading < 21 := by
  show ¬ (-6 ≤ d.leading ∧ d.leading ≤ 20) ↔ _
  omega

/-- **Exponents in CSS** belong to numbers that are small, but not zero, or great. -/
theorem isSome_exponent_numeralOf (x : Binary64) :
    (cssLayout.numeralOf x).exponent.isSome = true ↔
      x.isZero = false ∧ (x.magnitude < micro.magnitude ∨ 10 ^ 21 ≤ x.magnitude) := by
  unfold Layout.numeralOf
  cases hzero : x.isZero with
  | true => simp [Numeral.padded]
  | false =>
      have hx : x.significand ≠ 0 := fun h => by simp [(isZero_eq_true_iff x).2 h] at hzero
      rw [if_neg Bool.false_ne_true, Layout.isSome_exponent_numeral, not_positional_iff,
        leading_lt_micro_iff hx, leading_lt_sextillion_iff hx, not_lt]
      simp

/-! ### What the texts denote -/

theorem abs_signed {magnitude : ℚ} (h : 0 ≤ magnitude) (negative : Bool) :
    |signed negative magnitude| = magnitude := by
  cases negative with
  | true => exact (abs_neg _).trans (abs_of_nonneg h)
  | false => exact abs_of_nonneg h

theorem signed_injective (negative : Bool) : Function.Injective (signed negative) := by
  intro a b h
  cases negative with
  | true => exact neg_injective h
  | false => exact h

theorem value_nonneg (d : Scientific) : 0 ≤ d.value := by
  unfold Scientific.value
  positivity

/-- What is shown has an exponent exactly if its magnitude is below `10 ^ (-6)`, but not zero, or at
least `10 ^ 21`. -/
theorem isSome_exponent_numeralOf_iff_denoted (x : Binary64) :
    (cssLayout.numeralOf x).exponent.isSome = true ↔
      x.isZero = false ∧ (|denoted (cssLayout.write x)| < 10 ^ (-6 : ℤ) ∨
        10 ^ 21 ≤ |denoted (cssLayout.write x)|) := by
  unfold Layout.numeralOf
  rw [Layout.denoted_write]
  cases hzero : x.isZero with
  | true => simp [Numeral.padded]
  | false =>
      have hx : x.significand ≠ 0 := fun h => by simp [(isZero_eq_true_iff x).2 h] at hzero
      have hs := Binary64.significand_shortest_ne_zero hx cssLayout.tie
      rw [if_neg Bool.false_ne_true, if_neg Bool.false_ne_true, Layout.isSome_exponent_numeral,
        not_positional_iff, Scientific.leading_lt_iff hs, Scientific.leading_lt_iff hs,
        abs_signed (value_nonneg _), not_lt]
      simp

/-- The fraction of a number in CSS does not end in a zero. -/
theorem getLast?_fraction_numeralOf (x : Binary64) :
    (cssLayout.numeralOf x).fraction.getLast? ≠ some '0' := by
  unfold Layout.numeralOf
  cases hzero : x.isZero with
  | true => simp [Numeral.padded, cssLayout]
  | false =>
      have hx : x.significand ≠ 0 := fun h => by simp [(isZero_eq_true_iff x).2 h] at hzero
      rw [if_neg Bool.false_ne_true]
      exact Layout.getLast?_fraction_numeral rfl _ (Binary64.shortest_readsBack hx _).2

theorem not_halfway_of_isZero {x : Binary64} (hx : x.isZero = true) (d : Scientific) :
    ¬ x.Halfway d := by
  refine Binary64.not_halfway_of_le ?_
  have hzero : x.magnitude = 0 := by simp [Binary64.magnitude, (isZero_eq_true_iff x).1 hx]
  rw [hzero]
  exact value_nonneg d

/-- The texts of a float denote the same, unless the float lies halfway between the even decimal and
the next one. -/
theorem denoted_write_eq_iff (x : Binary64) :
    denoted (cssLayout.write x) = denoted (numberLayout.write x) ↔
      ¬ x.Halfway (x.shortest .toEven) := by
  rw [Layout.denoted_write, Layout.denoted_write, (signed_injective x.negative).eq_iff]
  cases hzero : x.isZero with
  | true => simp [not_halfway_of_isZero hzero]
  | false =>
      simp only [Bool.false_eq_true, if_false]
      show (x.shortest .up).value = (x.shortest .toEven).value ↔ _
      rcases x.chosen_shortest with ⟨hup, hhalf⟩ | ⟨hup, hhalf⟩
      · simp [hup, hhalf]
      · have hplace : (0 : ℚ) < 10 ^ (x.shortest .toEven).exponent := by positivity
        rw [hup, Scientific.value_next]
        simp [hhalf, hplace.ne']

/-- **A float in CSS and in JSON.** The texts denote the same rational number, unless the float lies
halfway between the decimal of the JSON text, which is even, and the next one; there the CSS text
denotes the next one. In CSS there are an optional minus sign, digits, optionally a point and digits
that do not end in a zero, and an exponent exactly for small and great numbers: those below the
nearest number to `10 ^ (-6)`, which are shown by decimals below `10 ^ (-6)`, and those from
`10 ^ 21` on. -/
theorem denoted_numberChars (x : Binary64) :
    (denoted (numberChars (.float x)) = denoted (Number.float x).chars ↔
        ¬ x.Halfway (x.shortest .toEven)) ∧
      (x.Halfway (x.shortest .toEven) →
        denoted (Number.float x).chars = signed x.negative (x.shortest .toEven).value ∧
          denoted (numberChars (.float x)) = signed x.negative (x.shortest .toEven).next.value) ∧
      ∃ n : Numeral, n.chars = numberChars (.float x) ∧ n.fraction.getLast? ≠ some '0' ∧
        (n.exponent.isSome = true ↔
          x.isZero = false ∧ (x.magnitude < micro.magnitude ∨ 10 ^ 21 ≤ x.magnitude)) ∧
        (n.exponent.isSome = true ↔
          x.isZero = false ∧ (|denoted (numberChars (.float x))| < 10 ^ (-6 : ℤ) ∨
            10 ^ 21 ≤ |denoted (numberChars (.float x))|)) := by
  show (denoted (cssLayout.write x) = denoted (numberLayout.write x) ↔ _) ∧ (_ → _) ∧ _
  refine ⟨denoted_write_eq_iff x, ?_, cssLayout.numeralOf x, cssLayout.chars_numeralOf x,
    getLast?_fraction_numeralOf x, isSome_exponent_numeralOf x,
    isSome_exponent_numeralOf_iff_denoted x⟩
  intro hhalf
  have hzero : ¬ x.isZero = true := fun hzero => not_halfway_of_isZero hzero _ hhalf
  have hup : x.shortest .up = (x.shortest .toEven).next := by
    rcases x.chosen_shortest with ⟨-, hnot⟩ | ⟨hup, -⟩
    · exact absurd hhalf hnot
    · exact hup
  show denoted (numberLayout.write x) = _ ∧ denoted (cssLayout.write x) = _
  rw [Layout.denoted_write, Layout.denoted_write, if_neg hzero, if_neg hzero, ← hup]
  exact ⟨rfl, rfl⟩

/-- The number `2 ^ 50 + 1 / 4`, which has two decimals of seventeen digits and none of sixteen. -/
def quarterAbove : Binary64 := ⟨false, 4503599627370497, -2, by decide⟩

theorem halfway_quarterAbove : quarterAbove.Halfway (quarterAbove.shortest .toEven) := by
  have hshortest : quarterAbove.shortest .toEven = ⟨11258999068426242, -1⟩ := by decide +kernel
  rw [hshortest]
  refine ⟨?_, rfl, by decide +kernel⟩
  unfold Binary64.magnitude quarterAbove Scientific.value
  norm_num

/-- Its two texts denote different numbers. And `micro`, which is less than `10 ^ (-6)`, is written
without an exponent. -/
theorem denoted_numberChars_ne_quarterAbove :
    numberChars (.float quarterAbove) = "1125899906842624.3".toList ∧
      (Number.float quarterAbove).chars = "1125899906842624.2".toList ∧
      denoted (numberChars (.float quarterAbove)) ≠ denoted (Number.float quarterAbove).chars ∧
      micro.magnitude < 10 ^ (-6 : ℤ) ∧ numberChars (.float micro) = "0.000001".toList := by
  refine ⟨by decide +kernel, by decide +kernel, ?_, magnitude_micro, by decide +kernel⟩
  intro heq
  exact (denoted_write_eq_iff quarterAbove).1 heq halfway_quarterAbove

end BlockSheet.Style
