import Mathlib
import BlockSheet.Decimal.Layout
import BlockSheet.Proofs.Decimal.Digits
import BlockSheet.Proofs.Decimal.Rounding

/-!
# Decimal notation

The texts that layouts give to numbers, taken apart. A `Numeral` has a sign, digits in front of a
point and behind it, and an exponent; `Numeral.value` is the rational number that it stands for.
`denoted` reads a text without knowing what it was made of.

* A text denotes the value of the numeral that it is the text of (`denoted_chars`), so two layouts
  may be compared by what their texts denote.
* Every layout writes numerals (`chars_numeralOf`). Where it puts the point and the zeros does not
  change the value (`value_decimal_numeral`): a text denotes the shortest decimal of the number,
  with its sign (`denoted_write`).
-/

namespace BlockSheet.Decimal

/-! ### Numerals -/

/-- A number in decimal notation. The point is written if there are digits behind it. -/
structure Numeral where
  negative : Bool
  /-- The digits in front of the point. -/
  whole : List Char
  /-- The digits behind the point. -/
  fraction : List Char
  /-- The power of ten by which the number is multiplied, if one is written. -/
  exponent : Option ℤ
  whole_ne_nil : whole ≠ []
  isDigit_whole : ∀ c ∈ whole, isDigit c = true
  isDigit_fraction : ∀ c ∈ fraction, isDigit c = true

/-- The minus sign of a negative number. -/
def signChars (negative : Bool) : List Char := if negative then ['-'] else []

/-- A magnitude with its sign. -/
def signed (negative : Bool) (magnitude : ℚ) : ℚ := if negative then -magnitude else magnitude

namespace Numeral

/-- The point and the digits behind it, if there are any. -/
def fractionChars : List Char → List Char
  | [] => []
  | c :: fraction => '.' :: c :: fraction

theorem fractionChars_of_ne_nil {fraction : List Char} (h : fraction ≠ []) :
    fractionChars fraction = '.' :: fraction := by
  cases fraction with
  | nil => exact absurd rfl h
  | cons c fraction => rfl

/-- The text of a numeral. -/
def chars (n : Numeral) : List Char :=
  signChars n.negative ++ (n.whole ++ (fractionChars n.fraction ++ n.exponent.elim [] exponentPart))

/-- The decimal of a numeral, without the sign. -/
def decimal (n : Numeral) : Scientific :=
  ⟨ofDigits (n.whole ++ n.fraction), n.exponent.getD 0 - n.fraction.length⟩

/-- The rational number that a numeral stands for. -/
def value (n : Numeral) : ℚ := signed n.negative n.decimal.value

end Numeral

/-! ### What a text denotes -/

/-- The exponent that stands behind the digits of a text. -/
def denotedExponent : List Char → ℤ
  | 'e' :: '-' :: ds => -(ofDigits ds : ℤ)
  | 'e' :: '+' :: ds => ofDigits ds
  | _ => 0

/-- What a text denotes that begins with digits. -/
def denotedMagnitude (text : List Char) : ℚ :=
  let whole := text.takeWhile isDigit
  match text.dropWhile isDigit with
  | '.' :: rest =>
    let fraction := rest.takeWhile isDigit
    ofDigits (whole ++ fraction) *
      10 ^ (denotedExponent (rest.dropWhile isDigit) - fraction.length)
  | rest => ofDigits whole * 10 ^ denotedExponent rest

/-- The rational number that a decimal text denotes. -/
def denoted : List Char → ℚ
  | '-' :: text => -denotedMagnitude text
  | text => denotedMagnitude text

theorem denotedExponent_exponentPart (p : ℤ) : denotedExponent (exponentPart p) = p := by
  unfold exponentPart
  by_cases hp : p < 0
  · rw [if_pos hp]
    show -(ofDigits (digits p.natAbs) : ℤ) = p
    rw [ofDigits_digits]
    omega
  · rw [if_neg hp]
    show (ofDigits (digits p.natAbs) : ℤ) = p
    rw [ofDigits_digits]
    omega

namespace Numeral

/-- Behind the digits stands nothing, or an exponent that is none. -/
theorem denotedExponent_elim (exponent : Option ℤ) :
    denotedExponent (exponent.elim [] exponentPart) = exponent.getD 0 := by
  cases exponent with
  | none => rfl
  | some p => exact denotedExponent_exponentPart p

/-- The digits of a text end where the exponent begins. -/
theorem takeWhile_append_elim {ds : List Char} (hds : ∀ c ∈ ds, isDigit c = true)
    (exponent : Option ℤ) :
    (ds ++ exponent.elim [] exponentPart).takeWhile isDigit = ds ∧
      (ds ++ exponent.elim [] exponentPart).dropWhile isDigit =
        exponent.elim [] exponentPart := by
  rw [List.takeWhile_append_of_pos hds, List.dropWhile_append_of_pos hds]
  cases exponent with
  | none => simp
  | some p => exact ⟨by simp [exponentPart, isDigit], by simp [exponentPart, isDigit]⟩

theorem denotedMagnitude_chars (n : Numeral) :
    denotedMagnitude (n.whole ++ (fractionChars n.fraction ++ n.exponent.elim [] exponentPart)) =
      n.decimal.value := by
  show _ = (ofDigits (n.whole ++ n.fraction) : ℚ) * 10 ^ (n.exponent.getD 0 - n.fraction.length)
  unfold denotedMagnitude
  cases hfraction : n.fraction with
  | nil =>
      obtain ⟨htake, hdrop⟩ := takeWhile_append_elim n.isDigit_whole n.exponent
      rw [fractionChars, List.nil_append, htake, hdrop]
      cases n.exponent with
      | none => simp [denotedExponent]
      | some p =>
          show (ofDigits n.whole : ℚ) * 10 ^ denotedExponent (exponentPart p) = _
          simp [denotedExponent_exponentPart]
  | cons c fraction =>
      have hds := n.isDigit_fraction
      rw [hfraction] at hds
      obtain ⟨htake, hdrop⟩ := takeWhile_append_elim hds n.exponent
      have hpoint : ¬ isDigit '.' = true := by decide
      rw [fractionChars, List.takeWhile_append_of_pos n.isDigit_whole,
        List.dropWhile_append_of_pos n.isDigit_whole, List.cons_append,
        List.takeWhile_cons_of_neg hpoint, List.dropWhile_cons_of_neg hpoint, List.append_nil]
      simp only [htake, hdrop, denotedExponent_elim]

/-- **A text denotes the value** of the numeral that it is the text of. -/
theorem denoted_chars (n : Numeral) : denoted n.chars = n.value := by
  unfold chars value signChars signed
  rw [← denotedMagnitude_chars]
  cases n.negative with
  | true => rfl
  | false =>
      -- The first digit is no minus sign.
      cases hwhole : n.whole with
      | nil => exact absurd hwhole n.whole_ne_nil
      | cons c whole =>
          have hc : isDigit c = true := n.isDigit_whole c (by rw [hwhole]; exact List.mem_cons_self)
          have hminus : c ≠ '-' := by
            rintro rfl
            exact absurd hc (by decide)
          simp only [Bool.false_eq_true, if_false, List.nil_append, List.cons_append]
          unfold denoted
          split
          · next heq => exact absurd (List.cons.inj heq).1 hminus
          · rfl

/-! ### The numerals that layouts write -/

/-- The digits of a number with zeros behind them, and a zero behind the point where one is
written. -/
def padded (negative : Bool) (s zeros : Nat) (point : Bool) : Numeral where
  negative := negative
  whole := digits s ++ List.replicate zeros '0'
  fraction := if point then ['0'] else []
  exponent := none
  whole_ne_nil := List.append_ne_nil_of_left_ne_nil (digits_ne_nil s) _
  isDigit_whole c hc := (List.mem_append.1 hc).elim isDigit_of_mem_digits isDigit_of_mem_zeros
  isDigit_fraction := by cases point <;> simp

/-- The digits of a number with the point among them, or at the end where it is not written. -/
def cut (negative : Bool) (s places : Nat) (exponent : Option ℤ)
    (hplaces : places < (digits s).length) : Numeral where
  negative := negative
  whole := (digits s).take ((digits s).length - places)
  fraction := (digits s).drop ((digits s).length - places)
  exponent := exponent
  whole_ne_nil := by
    refine List.ne_nil_of_length_pos ?_
    rw [List.length_take]
    omega
  isDigit_whole _ hc := isDigit_of_mem_digits (List.mem_of_mem_take hc)
  isDigit_fraction _ hc := isDigit_of_mem_digits (List.mem_of_mem_drop hc)

/-- The digits of a number behind the point, with zeros in between. -/
def small (negative : Bool) (s zeros : Nat) : Numeral where
  negative := negative
  whole := ['0']
  fraction := List.replicate zeros '0' ++ digits s
  exponent := none
  whole_ne_nil := List.cons_ne_nil _ _
  isDigit_whole := by simp
  isDigit_fraction c hc := (List.mem_append.1 hc).elim isDigit_of_mem_zeros isDigit_of_mem_digits

theorem value_decimal_padded (negative : Bool) (s zeros : Nat) (point : Bool) :
    (padded negative s zeros point).decimal.value = s * 10 ^ (zeros : ℤ) := by
  unfold decimal padded Scientific.value
  cases point with
  | false =>
      have hdigits := ofDigitsFrom_ofDigits (digits s) (List.replicate zeros '0')
      rw [ofDigits_digits, ofDigitsFrom_zeros] at hdigits
      simp [← hdigits]
  | true =>
      have hdigits := ofDigitsFrom_ofDigits (digits s) (List.replicate (zeros + 1) '0')
      rw [ofDigits_digits, ofDigitsFrom_zeros, List.replicate_succ', ← List.append_assoc] at hdigits
      simp only [if_true, ← hdigits, Option.getD_none, List.length_singleton]
      push_cast
      rw [zpow_neg_one, zpow_natCast, pow_succ]
      field_simp

theorem value_decimal_cut (negative : Bool) (s places : Nat) (exponent : Option ℤ)
    (hplaces : places < (digits s).length) :
    (cut negative s places exponent hplaces).decimal.value =
      s * 10 ^ (exponent.getD 0 - places) := by
  have hlength : (digits s).length - ((digits s).length - places) = places := by omega
  simp only [decimal, Scientific.value, cut, List.take_append_drop, ofDigits_digits,
    List.length_drop, hlength]

theorem value_decimal_small (negative : Bool) (s zeros : Nat) :
    (small negative s zeros).decimal.value =
      s * 10 ^ (-(zeros + (digits s).length : ℕ) : ℤ) := by
  have hdigits : ofDigits (['0'] ++ (List.replicate zeros '0' ++ digits s)) = s := by
    rw [← List.append_assoc, List.singleton_append, ← List.replicate_succ,
      ← ofDigitsFrom_ofDigits, ofDigits, ofDigitsFrom_zeros, Nat.zero_mul]
    exact ofDigits_digits s
  simp only [decimal, Scientific.value, small, hdigits, Option.getD_none, List.length_append,
    List.length_replicate, zero_sub]

/-! ### The characters of a numeral -/

/-- Without an exponent there are digits, a point and a minus sign. -/
theorem mem_chars_of_exponent_eq_none {n : Numeral} (hn : n.exponent = none) {c : Char}
    (hc : c ∈ n.chars) : isDigit c = true ∨ c = '.' ∨ c = '-' := by
  unfold chars signChars at hc
  rw [hn, Option.elim_none, List.append_nil, List.mem_append, List.mem_append] at hc
  rcases hc with hc | hc | hc
  · right; right
    cases hnegative : n.negative with
    | false => simp [hnegative] at hc
    | true => simpa [hnegative] using hc
  · exact .inl (n.isDigit_whole c hc)
  · have hds := n.isDigit_fraction
    cases hfraction : n.fraction with
    | nil => simp [hfraction, fractionChars] at hc
    | cons d fraction =>
        rw [hfraction, fractionChars, List.mem_cons] at hc
        rw [hfraction] at hds
        rcases hc with rfl | hc
        · exact .inr (.inl rfl)
        · exact .inl (hds c hc)

/-- The letter of the exponent stands in a text exactly if an exponent does. -/
theorem mem_chars_iff_isSome_exponent (n : Numeral) :
    'e' ∈ n.chars ↔ n.exponent.isSome = true := by
  constructor
  · intro he
    by_contra hnone
    have hchar := mem_chars_of_exponent_eq_none (by simpa using hnone) he
    exact absurd hchar (by decide)
  · intro hsome
    obtain ⟨p, hp⟩ := Option.isSome_iff_exists.1 hsome
    unfold chars
    rw [hp]
    simp [exponentPart]

end Numeral

/-! ### What layouts write -/

namespace Scientific

/-- The exponent of the first digit of a decimal. -/
def leading (d : Scientific) : ℤ := d.exponent + (digits d.significand).length - 1

theorem value_lt_pow_leading (d : Scientific) : d.value < 10 ^ (d.leading + 1) := by
  have hdigits : (d.significand : ℚ) < 10 ^ (digits d.significand).length := by
    exact_mod_cast lt_pow_length_digits d.significand
  calc d.value < 10 ^ (digits d.significand).length * 10 ^ d.exponent := by
        unfold value
        gcongr
    _ = 10 ^ (d.leading + 1) := by
        rw [← zpow_natCast, ← zpow_add₀ (by norm_num), leading]
        congr 1
        omega

theorem pow_leading_le_value {d : Scientific} (hd : d.significand ≠ 0) :
    10 ^ d.leading ≤ d.value := by
  have hlength := List.length_pos_of_ne_nil (digits_ne_nil d.significand)
  have hdigits : (10 : ℚ) ^ ((digits d.significand).length - 1) ≤ d.significand := by
    exact_mod_cast pow_length_digits_le hd
  calc (10 : ℚ) ^ d.leading = 10 ^ ((digits d.significand).length - 1) * 10 ^ d.exponent := by
        rw [← zpow_natCast, ← zpow_add₀ (by norm_num), leading]
        congr 1
        omega
    _ ≤ d.value := by
        unfold value
        gcongr

/-- The first digit of a decimal stands below a power of ten if the decimal does. -/
theorem leading_lt_iff {d : Scientific} (hd : d.significand ≠ 0) (p : ℤ) :
    d.leading < p ↔ d.value < 10 ^ p := by
  have hten : (1 : ℚ) < 10 := by norm_num
  constructor
  · intro h
    exact (value_lt_pow_leading d).trans_le (zpow_le_zpow_right₀ hten.le (by omega))
  · intro h
    exact (zpow_lt_zpow_iff_right₀ hten).1 ((pow_leading_le_value hd).trans_lt h)

end Scientific

namespace Layout

/-- Is a decimal written without an exponent? -/
def Positional (layout : Layout) (d : Scientific) : Prop :=
  layout.positionalFrom ≤ d.leading ∧ d.leading ≤ layout.positionalTo

instance (layout : Layout) (d : Scientific) : Decidable (layout.Positional d) :=
  inferInstanceAs (Decidable (_ ∧ _))

/-- The numeral that a layout gives to a decimal. -/
def numeral (layout : Layout) (negative : Bool) (d : Scientific) : Numeral :=
  if layout.Positional d then
    if 0 ≤ d.exponent then
      .padded negative d.significand d.exponent.toNat layout.keepsPoint
    else if h : (-d.exponent).toNat < (digits d.significand).length then
      .cut negative d.significand (-d.exponent).toNat none h
    else
      .small negative d.significand ((-d.exponent).toNat - (digits d.significand).length)
  else
    .cut negative d.significand ((digits d.significand).length - 1) (some d.leading)
      (Nat.sub_lt (List.length_pos_of_ne_nil (digits_ne_nil _)) Nat.one_pos)

/-- The numeral that a layout gives to a number: the shortest decimal, or a zero. -/
def numeralOf (layout : Layout) (x : Binary64) : Numeral :=
  if x.isZero then .padded x.negative 0 0 layout.keepsPoint
  else layout.numeral x.negative (x.shortest layout.tie)

theorem writeScientific_eq (layout : Layout) (d : Scientific) :
    layout.writeScientific d =
      if layout.Positional d then layout.positional (digits d.significand) d.exponent
      else scientific (digits d.significand) d.leading := rfl

/-- The digits with the point behind the first one. -/
theorem scientific_eq {ds : List Char} (hds : ds ≠ []) (leading : ℤ) :
    scientific ds leading =
      ds.take 1 ++ (Numeral.fractionChars (ds.drop 1) ++ exponentPart leading) := by
  match ds with
  | [] => exact absurd rfl hds
  | [c] => rfl
  | c :: c' :: ds => rfl

theorem chars_numeral (layout : Layout) (negative : Bool) (d : Scientific) :
    (layout.numeral negative d).chars = signChars negative ++ layout.writeScientific d := by
  rw [writeScientific_eq, numeral]
  have hlength := List.length_pos_of_ne_nil (digits_ne_nil d.significand)
  by_cases hpositional : layout.Positional d
  · rw [if_pos hpositional, if_pos hpositional, positional]
    by_cases hexponent : 0 ≤ d.exponent
    · rw [if_pos hexponent, if_pos hexponent]
      cases hpoint : layout.keepsPoint <;>
        simp [Numeral.chars, Numeral.padded, Numeral.fractionChars]
    · rw [if_neg hexponent, if_neg hexponent]
      by_cases hplaces : (-d.exponent).toNat < (digits d.significand).length
      · have hfraction : (digits d.significand).drop
            ((digits d.significand).length - (-d.exponent).toNat) ≠ [] := by
          refine List.ne_nil_of_length_pos ?_
          rw [List.length_drop]
          omega
        rw [dif_pos hplaces]
        simp [Numeral.chars, Numeral.cut, Numeral.fractionChars_of_ne_nil hfraction, hplaces]
      · have hfraction : List.replicate ((-d.exponent).toNat - (digits d.significand).length) '0' ++
            digits d.significand ≠ [] := List.append_ne_nil_of_right_ne_nil _ (digits_ne_nil _)
        rw [dif_neg hplaces]
        simp [Numeral.chars, Numeral.small, Numeral.fractionChars_of_ne_nil hfraction, hplaces]
  · have hfirst : (digits d.significand).length - ((digits d.significand).length - 1) = 1 := by
      omega
    rw [if_neg hpositional, if_neg hpositional, scientific_eq (digits_ne_nil _)]
    simp only [Numeral.chars, Numeral.cut, hfirst, Option.elim_some]

theorem negative_numeral (layout : Layout) (negative : Bool) (d : Scientific) :
    (layout.numeral negative d).negative = negative := by
  unfold numeral
  split
  · split
    · rfl
    · split <;> rfl
  · rfl

theorem value_decimal_numeral (layout : Layout) (negative : Bool) (d : Scientific) :
    (layout.numeral negative d).decimal.value = d.value := by
  unfold numeral
  have hlength := List.length_pos_of_ne_nil (digits_ne_nil d.significand)
  split
  · split
    · next hexponent =>
        rw [Numeral.value_decimal_padded, Int.toNat_of_nonneg hexponent, Scientific.value]
    · next hexponent =>
        split
        · next hplaces =>
            have hpower : (none.getD 0 - (-d.exponent).toNat : ℤ) = d.exponent := by
              rw [Option.getD_none]
              omega
            rw [Numeral.value_decimal_cut, hpower, Scientific.value]
        · next hplaces =>
            have hpower : (-((-d.exponent).toNat - (digits d.significand).length +
                (digits d.significand).length : ℕ) : ℤ) = d.exponent := by omega
            rw [Numeral.value_decimal_small, hpower, Scientific.value]
  · have hpower : ((some d.leading).getD 0 - ((digits d.significand).length - 1 : ℕ) : ℤ) =
        d.exponent := by
      rw [Option.getD_some, Scientific.leading]
      omega
    rw [Numeral.value_decimal_cut, hpower, Scientific.value]

theorem exponent_numeral (layout : Layout) (negative : Bool) (d : Scientific) :
    (layout.numeral negative d).exponent =
      if layout.Positional d then none else some d.leading := by
  unfold numeral
  split
  · split
    · rfl
    · split <;> rfl
  · rfl

theorem isSome_exponent_numeral (layout : Layout) (negative : Bool) (d : Scientific) :
    (layout.numeral negative d).exponent.isSome = true ↔ ¬ layout.Positional d := by
  rw [exponent_numeral]
  split <;> simp [*]

/-- A zero in front of the point stands alone. -/
theorem whole_numeral (layout : Layout) (negative : Bool) {d : Scientific}
    (hd : d.significand ≠ 0) :
    (layout.numeral negative d).whole = ['0'] ∨
      (layout.numeral negative d).whole.head? ≠ some '0' := by
  have hhead := head?_digits_ne_zero hd
  have htake : ∀ k, k < (digits d.significand).length →
      ((digits d.significand).take ((digits d.significand).length - k)).head? ≠ some '0' := by
    intro k hk
    rw [List.head?_take, if_neg (by omega)]
    exact hhead
  unfold numeral
  split
  · split
    · right
      show (digits d.significand ++ _).head? ≠ _
      rwa [List.head?_append_of_ne_nil _ (digits_ne_nil _)]
    · split
      · next hplaces => exact .inr (htake _ hplaces)
      · exact .inl rfl
  · exact .inr (htake _ (Nat.sub_lt (List.length_pos_of_ne_nil (digits_ne_nil _)) Nat.one_pos))

/-- Where the point of integral numbers is written, a text without an exponent has a fraction. -/
theorem fraction_numeral_ne_nil {layout : Layout} (hpoint : layout.keepsPoint = true)
    (negative : Bool) {d : Scientific} (hd : layout.Positional d) :
    (layout.numeral negative d).fraction ≠ [] := by
  unfold numeral
  rw [if_pos hd]
  split
  · simp [Numeral.padded, hpoint]
  · split
    · next hexponent hplaces =>
        refine List.ne_nil_of_length_pos ?_
        show 0 < ((digits d.significand).drop _).length
        rw [List.length_drop]
        omega
    · exact List.append_ne_nil_of_right_ne_nil _ (digits_ne_nil _)

/-- A layout without the point of integral numbers writes no zero at the end of a fraction. -/
theorem getLast?_fraction_numeral {layout : Layout} (hpoint : layout.keepsPoint = false)
    (negative : Bool) {d : Scientific} (hd : d.significand % 10 ≠ 0) :
    (layout.numeral negative d).fraction.getLast? ≠ some '0' := by
  have hlast := getLast?_digits_ne_zero hd
  have hdrop : ∀ k, ((digits d.significand).drop k).getLast? ≠ some '0' := by
    intro k
    rw [List.getLast?_drop]
    split
    · simp
    · exact hlast
  unfold numeral
  split
  · split
    · simp [Numeral.padded, hpoint]
    · split
      · exact hdrop _
      · simpa [Numeral.small, List.getLast?_append_of_ne_nil _ (digits_ne_nil _)] using hlast
  · exact hdrop _

/-- **Layouts write numerals.** -/
theorem chars_numeralOf (layout : Layout) (x : Binary64) :
    (layout.numeralOf x).chars = layout.write x := by
  unfold numeralOf write
  cases hzero : x.isZero with
  | false => exact chars_numeral layout x.negative (x.shortest layout.tie)
  | true =>
      cases hpoint : layout.keepsPoint <;>
        simp [Numeral.chars, Numeral.padded, Numeral.fractionChars, positional, signChars, hpoint]

/-- **A text denotes the shortest decimal** of the number, or zero. -/
theorem denoted_write (layout : Layout) (x : Binary64) :
    denoted (layout.write x) =
      signed x.negative (if x.isZero then 0 else (x.shortest layout.tie).value) := by
  rw [← chars_numeralOf, Numeral.denoted_chars, numeralOf, Numeral.value]
  split
  · rw [Numeral.value_decimal_padded, Nat.cast_zero, zero_mul]
    rfl
  · rw [negative_numeral, value_decimal_numeral]

end Layout

end BlockSheet.Decimal
