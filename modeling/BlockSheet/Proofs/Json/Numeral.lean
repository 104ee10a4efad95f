import BlockSheet.Json.Lexeme
import BlockSheet.Json.Printer
import BlockSheet.Proofs.Decimal.Digits
import BlockSheet.Proofs.Decimal.Notation
import BlockSheet.Proofs.Decimal.ReadBack

/-!
# Numbers read back

Every JSON number reads back from its text, whatever comes behind it that does not go on with the
number (`number_append`). Integers and floats are told apart by their texts: that of a float has a
point or an exponent, and reads as the float of the decimal that it spells
(`number_numeral_append`). This decimal is not the shortest one letter by letter, since an integral
float is written with a zero behind the point, but it has the same value.
-/

namespace BlockSheet.Json

open Decimal (isDigit digitValue digits integer ofDigits ofDigitsFrom digits_zero digits_ne_nil
  isDigit_of_mem_digits ofDigits_digits ofDigitsFrom_cons ofDigitsFrom_ofDigits le_ofDigitsFrom
  head?_digits_ne_zero Layout Numeral Scientific Binary64 exponentPart signChars)
open Decimal.Binary64 (ofDecimal? ofDecimal?_congr value_of_ofDecimal?_eq_some)

/-! ### What comes behind a number -/

/-- The text does not go on with digits. -/
def NoDigit (text : List Char) : Prop := ∀ c ∈ text.head?, isDigit c = false

/-- The text does not go on with a number. -/
def EndsNumber (text : List Char) : Prop :=
  ∀ c ∈ text.head?, isDigit c = false ∧ c ≠ '.' ∧ c ≠ 'e' ∧ c ≠ 'E'

theorem EndsNumber.noDigit {text : List Char} (h : EndsNumber text) : NoDigit text :=
  fun c hc => (h c hc).1

theorem noDigit_cons {c : Char} {text : List Char} (h : isDigit c = false) :
    NoDigit (c :: text) := by
  intro c' hc
  obtain rfl : c = c' := by simpa using hc
  exact h

/-- A run of digits ends where the text does not go on with digits. -/
theorem takeWhile_isDigit_append {ds rest : List Char} (hds : ∀ c ∈ ds, isDigit c = true)
    (hrest : NoDigit rest) :
    (ds ++ rest).takeWhile isDigit = ds ∧ (ds ++ rest).dropWhile isDigit = rest := by
  have hstop : rest.takeWhile isDigit = [] ∧ rest.dropWhile isDigit = rest := by
    cases rest with
    | nil => exact ⟨rfl, rfl⟩
    | cons c rest =>
        have hc := hrest c rfl
        simp [hc]
  rw [List.takeWhile_append_of_pos hds, List.dropWhile_append_of_pos hds, hstop.1, hstop.2,
    List.append_nil]
  exact ⟨rfl, rfl⟩

/-! ### The parts of a number -/

/-- The integral part: digits that do not begin with a zero, or a zero alone. -/
theorem magnitude_append (negative : Bool) {ds tail : List Char} (hne : ds ≠ [])
    (hds : ∀ c ∈ ds, isDigit c = true) (hlead : ds = ['0'] ∨ ds.head? ≠ some '0')
    (htail : NoDigit tail) :
    magnitude negative (ds ++ tail) = numberTail negative (ofDigits ds) tail := by
  cases ds with
  | nil => exact absurd rfl hne
  | cons c ds =>
      by_cases hc : c = '0'
      · have hzero : ds = [] := by simpa [hc] using hlead
        have hstop : tail.takeWhile isDigit = [] :=
          (takeWhile_isDigit_append (List.forall_mem_nil _) htail).1
        rw [hc, hzero, List.singleton_append, magnitude, if_pos rfl, hstop]
        rfl
      · have hdigit : isDigit c = true := hds c List.mem_cons_self
        obtain ⟨htake, hdrop⟩ := takeWhile_isDigit_append hds htail
        rw [List.cons_append] at htake hdrop ⊢
        rw [magnitude, if_neg hc, if_pos hdigit, htake, hdrop]

/-- Without a point and an exponent a number is integral. -/
theorem numberTail_of_endsNumber (negative : Bool) (whole : Nat) {rest : List Char}
    (hrest : EndsNumber rest) :
    numberTail negative whole rest = wholeNumber negative whole rest := by
  cases rest with
  | nil => rfl
  | cons c rest =>
      obtain ⟨-, hpoint, he, hE⟩ := hrest c rfl
      unfold numberTail
      split
      · next heq => exact absurd (List.cons.inj heq).1 hpoint
      · next heq => exact absurd (List.cons.inj heq).1 he
      · next heq => exact absurd (List.cons.inj heq).1 hE
      · rfl

/-- Digits behind the point, and nothing behind them. -/
theorem fractionTail_append (negative : Bool) (whole : Nat) {ds rest : List Char} (hne : ds ≠ [])
    (hds : ∀ c ∈ ds, isDigit c = true) (hrest : EndsNumber rest) :
    fractionTail negative whole (ds ++ rest) =
      floatNumber negative (ofDigitsFrom whole ds) (-ds.length) rest := by
  obtain ⟨htake, hdrop⟩ := takeWhile_isDigit_append hds hrest.noDigit
  rw [fractionTail, htake, hdrop]
  simp only [List.isEmpty_eq_false_iff.2 hne]
  cases rest with
  | nil => rfl
  | cons c rest =>
      obtain ⟨-, -, he, hE⟩ := hrest c rfl
      split <;> simp_all

/-- Digits behind the point, and an exponent behind them. -/
theorem fractionTail_append_exponent (negative : Bool) (whole : Nat) {ds : List Char}
    (hne : ds ≠ []) (hds : ∀ c ∈ ds, isDigit c = true) (rest : List Char) :
    fractionTail negative whole (ds ++ 'e' :: rest) =
      exponentTail negative (ofDigitsFrom whole ds) ds.length rest := by
  have hstop : NoDigit ('e' :: rest) := noDigit_cons rfl
  obtain ⟨htake, hdrop⟩ := takeWhile_isDigit_append hds hstop
  rw [fractionTail, htake, hdrop]
  simp only [List.isEmpty_eq_false_iff.2 hne]
  rfl

/-- The digits of an exponent that is not too great. -/
theorem exponentDigits_append {ds rest : List Char} (hds : ∀ c ∈ ds, isDigit c = true)
    (hrest : NoDigit rest) (read : Nat) (hbound : ofDigitsFrom read ds ≤ greatestExponent) :
    exponentDigits read (ds ++ rest) = (some (ofDigitsFrom read ds), rest) := by
  induction ds generalizing read with
  | nil =>
      cases rest with
      | nil => rfl
      | cons c rest =>
          have hc := hrest c rfl
          simp [exponentDigits, hc]
  | cons c ds ih =>
      rw [ofDigitsFrom_cons] at hbound ⊢
      have hnext := le_trans (le_ofDigitsFrom _ ds) hbound
      rw [List.cons_append, exponentDigits, if_pos (hds c List.mem_cons_self)]
      dsimp only
      rw [if_neg (Nat.not_lt.2 hnext)]
      exact ih (fun c' hc' => hds c' (List.mem_cons_of_mem _ hc')) _ hbound

/-- An exponent with its sign. -/
theorem exponentTail_append (negative : Bool) (s places : Nat) (p : Int) {rest : List Char}
    (hrest : NoDigit rest) (hbound : p.natAbs ≤ greatestExponent) :
    exponentTail negative s places
        ((if p < 0 then '-' else '+') :: digits p.natAbs ++ rest) =
      floatNumber negative s (p - places) rest := by
  cases hdigits : digits p.natAbs with
  | nil => exact absurd hdigits (digits_ne_nil _)
  | cons c ds =>
      have hall : ∀ c' ∈ c :: ds, isDigit c' = true := by
        rw [← hdigits]
        exact fun c' => isDigit_of_mem_digits
      have hvalue : ofDigitsFrom (digitValue c) ds = p.natAbs := by
        rw [← ofDigits_digits p.natAbs, hdigits, ofDigits, ofDigitsFrom_cons, Nat.mul_zero,
          Nat.zero_add]
      have hread := exponentDigits_append (fun c' hc' => hall c' (List.mem_cons_of_mem _ hc'))
        hrest (digitValue c) (hvalue ▸ hbound)
      rw [hvalue] at hread
      by_cases hneg : p < 0
      · rw [if_pos hneg, List.cons_append, List.cons_append, exponentTail]
        simp only [if_pos (hall c List.mem_cons_self), hread]
        congr 1
        omega
      · rw [if_neg hneg, List.cons_append, List.cons_append, exponentTail]
        simp only [if_pos (hall c List.mem_cons_self), hread]
        congr 1
        omega

/-! ### Integers -/

/-- The digits of a number where its first digit settles that there is no other zero in front. -/
theorem digits_eq_zero_or_head? (n : Nat) : digits n = ['0'] ∨ (digits n).head? ≠ some '0' := by
  by_cases hn : n = 0
  · exact Or.inl (hn ▸ digits_zero)
  · exact Or.inr (head?_digits_ne_zero hn)

theorem magnitude_digits (negative : Bool) (n : Nat) {rest : List Char} (hrest : EndsNumber rest) :
    magnitude negative (digits n ++ rest) = wholeNumber negative n rest := by
  rw [magnitude_append negative (digits_ne_nil n) (fun c => isDigit_of_mem_digits)
    (digits_eq_zero_or_head? n) hrest.noDigit, ofDigits_digits, numberTail_of_endsNumber _ _ hrest]

/-- An integer in range is taken as it is, but for the zero with a minus sign. -/
theorem wholeNumber_of_val (n : Integer) (negative : Bool) (whole : Nat)
    (hval : n.val = if negative then -(whole : Int) else whole)
    (hzero : (negative && whole == 0) = false) (rest : List Char) :
    wholeNumber negative whole rest = .ok (.int n, rest) := by
  have hof : Integer.ofInt? (if negative then -(whole : Int) else whole) = some n := by
    rw [← hval, Integer.ofInt?, dif_pos ⟨n.lower, n.upper⟩]
  simp only [wholeNumber, hzero, hof, Bool.false_eq_true, if_false]

/-- A number that reads behind its sign reads with it: a magnitude never begins with a minus. -/
theorem number_of_magnitude {negative : Bool} {text : List Char} {read : Number × List Char}
    (h : magnitude negative text = .ok read) :
    number ((if negative then ['-'] else []) ++ text) = .ok read := by
  cases negative with
  | true => exact h
  | false =>
      rw [if_neg Bool.false_ne_true, List.nil_append]
      unfold number
      split
      · cases h
      · exact h

theorem number_integer_append (n : Integer) {rest : List Char} (hrest : EndsNumber rest) :
    number (integer n.val ++ rest) = .ok (.int n, rest) := by
  cases hval : n.val with
  | ofNat m =>
      have hwhole := wholeNumber_of_val n false m hval rfl rest
      exact number_of_magnitude ((magnitude_digits false m hrest).trans hwhole)
  | negSucc m =>
      have hwhole := wholeNumber_of_val n true (m + 1) hval rfl rest
      exact number_of_magnitude ((magnitude_digits true (m + 1) hrest).trans hwhole)

/-! ### Floats -/

/-- What stands behind the integral part of a float: a fraction, or an exponent, or both. -/
theorem numberTail_append (negative : Bool) (whole : Nat) {fs : List Char}
    (hfs : ∀ c ∈ fs, isDigit c = true) {exponent : Option Int} (hfloat : exponent = none → fs ≠ [])
    (hbound : ∀ p, exponent = some p → p.natAbs ≤ greatestExponent) {rest : List Char}
    (hrest : EndsNumber rest) :
    numberTail negative whole
        (Numeral.fractionChars fs ++ (exponent.elim [] exponentPart ++ rest)) =
      floatNumber negative (ofDigitsFrom whole fs) (exponent.getD 0 - fs.length) rest := by
  cases exponent with
  | none =>
      have hfne := hfloat rfl
      rw [Numeral.fractionChars_of_ne_nil hfne, Option.elim_none, List.nil_append, List.cons_append,
        numberTail, fractionTail_append negative whole hfne hfs hrest, Option.getD_none, zero_sub]
  | some p =>
      have hread := exponentTail_append negative (ofDigitsFrom whole fs) fs.length p hrest.noDigit
        (hbound p rfl)
      cases fs with
      | nil => exact hread
      | cons c fs =>
          exact (fractionTail_append_exponent negative whole (List.cons_ne_nil c fs) hfs _).trans
            hread

theorem noDigit_fractionChars_append (fs : List Char) (exponent : Option Int) {rest : List Char}
    (hrest : EndsNumber rest) :
    NoDigit (Numeral.fractionChars fs ++ (exponent.elim [] exponentPart ++ rest)) := by
  cases fs with
  | cons c fs => exact noDigit_cons rfl
  | nil =>
      cases exponent with
      | none => exact hrest.noDigit
      | some p => exact noDigit_cons rfl

theorem floatNumber_of_eq_some {negative : Bool} {s : Nat} {e : Int} {x : Binary64}
    (h : ofDecimal? negative s e = some x) (rest : List Char) :
    floatNumber negative s e rest = .ok (.float x, rest) := by
  rw [floatNumber, h]

/-- **A numeral reads as the float of its decimal**, if it is none of an integer: it has a fraction
or an exponent. -/
theorem number_numeral_append {n : Numeral} (hlead : n.whole = ['0'] ∨ n.whole.head? ≠ some '0')
    (hfloat : n.exponent = none → n.fraction ≠ [])
    (hbound : ∀ p, n.exponent = some p → p.natAbs ≤ greatestExponent) {x : Binary64}
    (hread : ofDecimal? n.negative n.decimal.significand n.decimal.exponent = some x)
    {rest : List Char} (hrest : EndsNumber rest) :
    number (n.chars ++ rest) = .ok (.float x, rest) := by
  have htail := noDigit_fractionChars_append n.fraction n.exponent hrest
  unfold Numeral.chars signChars
  rw [List.append_assoc, List.append_assoc, List.append_assoc]
  refine number_of_magnitude ?_
  rw [magnitude_append n.negative n.whole_ne_nil n.isDigit_whole hlead htail,
    numberTail_append n.negative _ n.isDigit_fraction hfloat hbound hrest, ofDigitsFrom_ofDigits]
  exact floatNumber_of_eq_some hread rest

/-- The first digit of a decimal within the range stands below `10 ^ 1024`. -/
theorem leading_lt {d : Scientific} (hd : d.significand ≠ 0) (hhigh : d.value < 2 ^ 1024) :
    d.leading < 1024 := by
  rw [Scientific.leading_lt_iff hd]
  exact hhigh.trans_le (pow_le_pow_left₀ (by norm_num) (by norm_num) 1024)

/-- It stands above `10 ^ (-1076)`. -/
theorem lt_leading {d : Scientific} (hlow : 2 ^ (-1075 : ℤ) ≤ d.value) : -1076 < d.leading := by
  have hpower : (10 : ℚ) ^ (-1075 : ℤ) ≤ 2 ^ (-1075 : ℤ) := by
    rw [zpow_neg, zpow_neg, zpow_ofNat, zpow_ofNat]
    exact inv_anti₀ (by positivity) (pow_le_pow_left₀ (by norm_num) (by norm_num) _)
  have hless := (hpower.trans hlow).trans_lt d.value_lt_pow_leading
  have := (zpow_lt_zpow_iff_right₀ (by norm_num : (1 : ℚ) < 10)).1 hless
  omega

/-- The numeral of the shortest decimal reads as the float that the decimal belongs to. -/
theorem number_shortest_append {x : Binary64} (hx : x.significand ≠ 0) {rest : List Char}
    (hrest : EndsNumber rest) :
    number ((numberLayout.numeral x.negative (x.shortest numberLayout.tie)).chars ++ rest) =
      .ok (.float x, rest) := by
  obtain ⟨hread, hlast⟩ := Binary64.shortest_readsBack hx numberLayout.tie
  generalize x.shortest numberLayout.tie = d at *
  have hs : d.significand ≠ 0 := fun hzero => by simp [hzero] at hlast
  refine number_numeral_append (Layout.whole_numeral numberLayout _ hs) ?_ ?_ ?_ hrest
  · intro hnone
    rw [Layout.exponent_numeral] at hnone
    have hpositional : numberLayout.Positional d := by
      by_contra hnot
      simp [hnot] at hnone
    exact Layout.fraction_numeral_ne_nil rfl x.negative hpositional
  · intro p hp
    obtain ⟨hlow, hhigh⟩ := value_of_ofDecimal?_eq_some hx hread
    have habove : -1076 < d.leading := lt_leading hlow
    have hbelow : d.leading < 1024 := leading_lt hs hhigh
    have hgreatest : greatestExponent = 2147483647 := rfl
    rw [Layout.exponent_numeral] at hp
    split at hp
    · cases hp
    · obtain rfl := Option.some.inj hp
      omega
  · rw [Layout.negative_numeral, ← hread]
    exact (ofDecimal?_congr x.negative hs
      (Layout.value_decimal_numeral numberLayout x.negative d).symm).symm

/-- There is one zero of each sign. -/
theorem eq_zero_of_significand {x : Binary64} (hx : x.significand = 0) :
    x = Binary64.zero x.negative := by
  obtain ⟨negative, significand, exponent, hcanonical⟩ := x
  obtain rfl : significand = 0 := hx
  obtain rfl : exponent = -1074 := hcanonical.2.2.2.elim (fun h => absurd h (by decide)) id
  rfl

theorem number_float_append (x : Binary64) {rest : List Char} (hrest : EndsNumber rest) :
    number (numberLayout.write x ++ rest) = .ok (.float x, rest) := by
  rw [← Layout.chars_numeralOf, Layout.numeralOf]
  by_cases hx : x.significand = 0
  · have hzero : ofDecimal? x.negative 0 (-1) = some x :=
      congrArg some (eq_zero_of_significand hx).symm
    have hdigits : (Numeral.padded x.negative 0 0 true).whole = ['0'] := by
      simp [Numeral.padded, digits_zero]
    have hread : ofDecimal? x.negative
        (ofDigits ((Numeral.padded x.negative 0 0 true).whole ++ ['0'])) (-1) = some x := by
      rwa [hdigits]
    rw [if_pos (show x.isZero = true from beq_iff_eq.2 hx)]
    exact number_numeral_append (.inl hdigits) (fun _ => List.cons_ne_nil '0' [])
      (fun p hp => by cases hp) hread hrest
  · rw [if_neg (show ¬x.isZero = true from mt beq_iff_eq.1 hx)]
    exact number_shortest_append hx hrest

/-- **Reading a number back.** Whatever ends a number may come behind its text. -/
theorem number_append (n : Number) {rest : List Char} (hrest : EndsNumber rest) :
    number (n.chars ++ rest) = .ok (n, rest) := by
  cases n with
  | int n => exact number_integer_append n hrest
  | float x => exact number_float_append x hrest

end BlockSheet.Json
