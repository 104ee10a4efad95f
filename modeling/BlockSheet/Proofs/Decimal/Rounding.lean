import Mathlib
import BlockSheet.Decimal.Shortest

/-!
# Rounding to binary

How a decimal becomes a binary number, in terms of the rational numbers that both stand for.

* A positive value is rounded at one exponent, which the value alone determines (`RoundsAt`); the
  estimate by lengths in bits finds it (`roundsAt_exponentOf`). So two decimals of one value read as
  the same number (`ofDecimal?_congr`).
* The two shortcuts for values far outside the format give what rounding gives
  (`ofDecimal?_eq_ofRatio?`).
* A value that a number has is not rounded (`ofDecimal?_of_value_eq`).
-/

namespace BlockSheet.Decimal

/-- The value of a decimal. -/
def Scientific.value (d : Scientific) : ℚ := d.significand * 10 ^ d.exponent

namespace Binary64

/-- The magnitude of a number. -/
def magnitude (x : Binary64) : ℚ := x.significand * 2 ^ x.exponent

/-! ### The exponent of a value -/

/-- Is a positive value rounded at an exponent? Its significand there is below `2 ^ 53`, and has 53
bits unless the exponent is the least one. -/
structure RoundsAt (v : ℚ) (e : ℤ) : Prop where
  least : -1074 ≤ e
  below : v < 2 ^ (e + 53)
  full : 2 ^ (e + 52) ≤ v ∨ e = -1074

/-- A greater value is rounded at the same or a greater exponent. -/
theorem RoundsAt.mono {v w : ℚ} {e f : ℤ} (he : RoundsAt v e) (hf : RoundsAt w f) (h : v ≤ w) :
    e ≤ f := by
  by_contra hlt
  have hfull : (2 : ℚ) ^ (e + 52) ≤ v := he.full.resolve_right (by have := hf.least; omega)
  have hpow : (2 : ℚ) ^ (e + 52) < 2 ^ (f + 53) := (hfull.trans h).trans_lt hf.below
  have := (zpow_lt_zpow_iff_right₀ (by norm_num : (1 : ℚ) < 2)).1 hpow
  omega

/-- There is one such exponent. -/
theorem RoundsAt.unique {v : ℚ} {e f : ℤ} (he : RoundsAt v e) (hf : RoundsAt v f) : e = f :=
  le_antisymm (he.mono hf le_rfl) (hf.mono he le_rfl)

/-- Scaling divides by a power of two. -/
theorem scaled_div {n d : Nat} (hd : d ≠ 0) (e : ℤ) :
    (scaled n d e).2 ≠ 0 ∧
      ((scaled n d e).1 : ℚ) / (scaled n d e).2 = (n : ℚ) / d / 2 ^ e := by
  obtain ⟨k, rfl | rfl⟩ := e.eq_nat_or_neg
  · refine ⟨?_, ?_⟩
    · simp [scaled, hd]
    · simp [scaled, div_div]
  · refine ⟨?_, ?_⟩
    · simp [scaled, hd]
    · simp [scaled, mul_div_right_comm]

/-- A quotient of two numbers lies between two powers of two that their lengths in bits give. -/
theorem two_zpow_lt_div {n d : Nat} (hn : n ≠ 0) (hd : d ≠ 0) :
    (2 : ℚ) ^ ((n.log2 : ℤ) - d.log2 - 1) < n / d ∧
      (n : ℚ) / d < 2 ^ ((n.log2 : ℤ) - d.log2 + 1) := by
  have hdpos : (0 : ℚ) < d := by exact_mod_cast Nat.pos_of_ne_zero hd
  have hnlow : (2 : ℚ) ^ n.log2 ≤ n := by exact_mod_cast Nat.log2_self_le hn
  have hnhigh : (n : ℚ) < 2 ^ (n.log2 + 1) := by exact_mod_cast Nat.lt_log2_self
  have hdlow : (2 : ℚ) ^ d.log2 ≤ d := by exact_mod_cast Nat.log2_self_le hd
  have hdhigh : (d : ℚ) < 2 ^ (d.log2 + 1) := by exact_mod_cast Nat.lt_log2_self
  have htwo : (2 : ℚ) ≠ 0 := by norm_num
  constructor
  · rw [lt_div_iff₀ hdpos]
    calc (2 : ℚ) ^ ((n.log2 : ℤ) - d.log2 - 1) * d
        < 2 ^ ((n.log2 : ℤ) - d.log2 - 1) * 2 ^ (d.log2 + 1) := by gcongr
      _ = 2 ^ n.log2 := by
        rw [← zpow_natCast, ← zpow_natCast, ← zpow_add₀ htwo]
        congr 1
        push_cast
        ring
      _ ≤ n := hnlow
  · rw [div_lt_iff₀ hdpos]
    calc (n : ℚ) < 2 ^ (n.log2 + 1) := hnhigh
      _ = 2 ^ ((n.log2 : ℤ) - d.log2 + 1) * 2 ^ d.log2 := by
        rw [← zpow_natCast, ← zpow_natCast, ← zpow_add₀ htwo]
        congr 1
        push_cast
        ring
      _ ≤ 2 ^ ((n.log2 : ℤ) - d.log2 + 1) * d := by gcongr

/-- The estimate finds the exponent at which a quotient is rounded. -/
theorem roundsAt_exponentOf {n d : Nat} (hn : n ≠ 0) (hd : d ≠ 0) :
    RoundsAt (n / d) (exponentOf n d) := by
  obtain ⟨hlow, hhigh⟩ := two_zpow_lt_div hn hd
  set guess : ℤ := (n.log2 : ℤ) - d.log2 - 52 with hguess
  obtain ⟨hd', hscaled⟩ := scaled_div (n := n) hd guess
  have hdpos : (0 : ℚ) < (scaled n d guess).2 := by exact_mod_cast Nat.pos_of_ne_zero hd'
  have hpos : (0 : ℚ) < 2 ^ guess := by positivity
  have htwo : (2 : ℚ) ≠ 0 := by norm_num
  -- The test compares the value with the least one of 53 bits at the guess.
  have htest : (scaled n d guess).1 < (scaled n d guess).2 * Nat.pow 2 52 ↔
      (n : ℚ) / d < 2 ^ (guess + 52) := by
    rw [zpow_add₀ htwo, ← div_lt_iff₀' hpos, ← hscaled, div_lt_iff₀' hdpos, Nat.pow_eq]
    exact_mod_cast Iff.rfl
  have hfits : ∀ e : ℤ, (n : ℚ) / d < 2 ^ (e + 53) → 2 ^ (e + 52) ≤ (n : ℚ) / d →
      RoundsAt (n / d) (max (-1074) e) := by
    intro e hbelow hfull
    refine ⟨le_max_left _ _, hbelow.trans_le ?_, ?_⟩
    · exact zpow_le_zpow_right₀ (by norm_num) (by omega)
    · rcases le_total (-1074) e with hle | hle
      · rw [max_eq_right hle]
        exact .inl hfull
      · exact .inr (max_eq_left hle)
  rw [exponentOf]
  by_cases hless : (scaled n d guess).1 < (scaled n d guess).2 * Nat.pow 2 52
  · simp only [← hguess, if_pos hless]
    have hup : guess - 1 + 53 = guess + 52 := by ring
    have hdown : guess - 1 + 52 = (n.log2 : ℤ) - d.log2 - 1 := by rw [hguess]; ring
    exact hfits _ (hup ▸ htest.1 hless) (hdown ▸ hlow.le)
  · simp only [← hguess, if_neg hless]
    have hup : guess + 53 = (n.log2 : ℤ) - d.log2 + 1 := by rw [hguess]; ring
    exact hfits _ (hup ▸ hhigh) (not_lt.1 fun h => hless (htest.2 h))

/-! ### Rounding a quotient -/

/-- Rounding depends on the quotient alone. -/
theorem roundQuotient_mul {k : Nat} (hk : k ≠ 0) (n d : Nat) :
    roundQuotient (k * n) (k * d) = roundQuotient n d := by
  have hpos : 0 < k := Nat.pos_of_ne_zero hk
  have hleft : 2 * (k * (n % d)) < k * d ↔ 2 * (n % d) < d := by
    rw [Nat.mul_left_comm, Nat.mul_lt_mul_left hpos]
  have hright : k * d < 2 * (k * (n % d)) ↔ d < 2 * (n % d) := by
    rw [Nat.mul_left_comm, Nat.mul_lt_mul_left hpos]
  simp only [roundQuotient, Nat.mul_div_mul_left _ _ hpos, Nat.mul_mod_mul_left, hleft, hright]

theorem roundQuotient_congr {n d n' d' : Nat} (hd : d ≠ 0) (hd' : d' ≠ 0)
    (h : (n : ℚ) / d = n' / d') : roundQuotient n d = roundQuotient n' d' := by
  rw [div_eq_div_iff (by exact_mod_cast hd) (by exact_mod_cast hd')] at h
  have hcross : d' * n = d * n' := by
    have h' : n * d' = n' * d := by exact_mod_cast h
    rw [Nat.mul_comm, h', Nat.mul_comm]
  rw [← roundQuotient_mul hd' n d, hcross, Nat.mul_comm d' d, roundQuotient_mul hd]

@[simp] theorem roundQuotient_one (n : Nat) : roundQuotient n 1 = n := by
  simp [roundQuotient, Nat.mod_one]

theorem roundQuotient_eq_zero_of_lt {n d : Nat} (h : 2 * n < d) : roundQuotient n d = 0 := by
  have hless : n < d := by omega
  rw [roundQuotient, Nat.div_eq_of_lt hless, Nat.mod_eq_of_lt hless, if_pos h]

/-- **A quotient is rounded** at the exponent that its value determines, as any quotient of the
scaled value is. -/
theorem ofRatio?_eq_pack? (negative : Bool) {n d m k : Nat} {e : ℤ} (hn : n ≠ 0) (hd : d ≠ 0)
    (he : RoundsAt (n / d) e) (hk : k ≠ 0) (hscaled : (m : ℚ) / k = (n : ℚ) / d / 2 ^ e) :
    ofRatio? negative n d = pack? negative (roundQuotient m k) e := by
  obtain rfl : exponentOf n d = e := (roundsAt_exponentOf hn hd).unique he
  obtain ⟨hd', hdiv⟩ := scaled_div (n := n) hd (exponentOf n d)
  rw [ofRatio?, if_neg hn]
  simp only [roundQuotient_congr hd' hk (hdiv.trans hscaled.symm)]

/-- Two quotients of one value are rounded to the same number. -/
theorem ofRatio?_congr (negative : Bool) {n d n' d' : Nat} (hn : n ≠ 0) (hd : d ≠ 0) (hd' : d' ≠ 0)
    (h : (n : ℚ) / d = n' / d') : ofRatio? negative n d = ofRatio? negative n' d' := by
  have hn' : n' ≠ 0 := by
    rintro rfl
    rw [Nat.cast_zero, zero_div, div_eq_zero_iff] at h
    exact h.elim (fun h => hn (by exact_mod_cast h)) fun h => hd (by exact_mod_cast h)
  obtain ⟨hk, hscaled⟩ := scaled_div (n := n) hd (exponentOf n d)
  have he := roundsAt_exponentOf hn hd
  rw [ofRatio?_eq_pack? negative hn hd he hk hscaled,
    ofRatio?_eq_pack? negative hn' hd' (h ▸ he) hk (h ▸ hscaled)]

/-- A quotient that a number has as its magnitude is not rounded. -/
theorem ofRatio?_of_div_eq {n d : Nat} {x : Binary64} (hx : x.significand ≠ 0) (hd : d ≠ 0)
    (h : (n : ℚ) / d = x.magnitude) : ofRatio? x.negative n d = some x := by
  obtain ⟨hfits, hleast, -, hfull⟩ := x.canonical
  have hpos : (0 : ℚ) < 2 ^ x.exponent := by positivity
  have htwo : (2 : ℚ) ≠ 0 := by norm_num
  have hn : n ≠ 0 := by
    rintro rfl
    rw [Nat.cast_zero, zero_div, magnitude, eq_comm, mul_eq_zero] at h
    exact h.elim (fun h => hx (by exact_mod_cast h)) fun h => hpos.ne' h
  have he : RoundsAt (n / d) x.exponent := by
    rw [h, magnitude]
    refine ⟨hleast, ?_, hfull.imp_left fun hfull => ?_⟩
    · rw [add_comm, zpow_add₀ htwo]
      gcongr
      exact_mod_cast hfits
    · rw [add_comm, zpow_add₀ htwo]
      gcongr
      exact_mod_cast hfull
  have hscaled : (x.significand : ℚ) / (1 : Nat) = (n : ℚ) / d / 2 ^ x.exponent := by
    rw [h, magnitude, Nat.cast_one, div_one, mul_div_cancel_right₀ _ hpos.ne']
  rw [ofRatio?_eq_pack? x.negative hn hd he one_ne_zero hscaled, roundQuotient_one, pack?,
    if_neg (Nat.ne_of_lt hfits), dif_pos x.canonical]

/-! ### Reading a decimal -/

/-- The value of a decimal as a quotient of natural numbers. -/
theorem value_eq_div (s : Nat) (e : ℤ) :
    Scientific.value ⟨s, e⟩ =
      ((s * Nat.pow 10 e.toNat : Nat) : ℚ) / (Nat.pow 10 (-e).toNat : Nat) := by
  obtain ⟨k, rfl | rfl⟩ := e.eq_nat_or_neg
  · simp [Scientific.value]
  · simp [Scientific.value, div_eq_mul_inv]

/-- There is no number beyond the greatest exponent. -/
theorem pack?_eq_none (negative : Bool) (m : Nat) {e : ℤ} (he : 971 < e) :
    pack? negative m e = none := by
  rw [pack?]
  split
  · exact dif_neg fun h => by have := h.2.2.1; omega
  · exact dif_neg fun h => by have := h.2.2.1; omega

/-- What is `2 ^ 1024` or more is beyond the range. -/
theorem ofRatio?_eq_none (negative : Bool) {n d : Nat} (hn : n ≠ 0) (hd : d ≠ 0)
    (h : (2 : ℚ) ^ 1024 ≤ n / d) : ofRatio? negative n d = none := by
  have he := roundsAt_exponentOf hn hd
  have hpow : (2 : ℚ) ^ (1024 : ℤ) < 2 ^ (exponentOf n d + 53) := by
    exact_mod_cast h.trans_lt he.below
  have hlt := (zpow_lt_zpow_iff_right₀ (by norm_num : (1 : ℚ) < 2)).1 hpow
  obtain ⟨hk, hscaled⟩ := scaled_div (n := n) hd (exponentOf n d)
  rw [ofRatio?_eq_pack? negative hn hd he hk hscaled]
  exact pack?_eq_none negative _ (by omega)

/-- What is below half the least number becomes zero. -/
theorem ofRatio?_eq_zero (negative : Bool) {n d : Nat} (hn : n ≠ 0) (hd : d ≠ 0)
    (h : (n : ℚ) / d < 2 ^ (-1075 : ℤ)) : ofRatio? negative n d = some (zero negative) := by
  have he : RoundsAt (n / d) (-1074) :=
    ⟨le_rfl, h.trans (zpow_lt_zpow_right₀ (by norm_num) (by norm_num)), .inr rfl⟩
  obtain ⟨hk, hscaled⟩ := scaled_div (n := n) hd (-1074)
  have hkpos : (0 : ℚ) < (scaled n d (-1074)).2 := by exact_mod_cast Nat.pos_of_ne_zero hk
  have hhalf : 2 * (scaled n d (-1074)).1 < (scaled n d (-1074)).2 := by
    have hlt : ((scaled n d (-1074)).1 : ℚ) / (scaled n d (-1074)).2 < 1 / 2 := by
      rw [hscaled, div_lt_iff₀ (by positivity)]
      have hsplit : (2 : ℚ) ^ (-1075 : ℤ) = 1 / 2 * 2 ^ (-1074 : ℤ) := by
        rw [one_div, ← zpow_neg_one, ← zpow_add₀ two_ne_zero]
        rfl
      exact h.trans_eq hsplit
    rw [div_lt_div_iff₀ hkpos two_pos, one_mul, mul_comm] at hlt
    exact_mod_cast hlt
  rw [ofRatio?_eq_pack? negative hn hd he hk hscaled, roundQuotient_eq_zero_of_lt hhalf]
  rfl

/-- The shortcuts for values far outside the format give what rounding gives. -/
theorem ofDecimal?_eq_ofRatio? (negative : Bool) {s : Nat} (hs : s ≠ 0) (e : ℤ) :
    ofDecimal? negative s e =
      ofRatio? negative (s * Nat.pow 10 e.toNat) (Nat.pow 10 (-e).toNat) := by
  have hn : s * Nat.pow 10 e.toNat ≠ 0 := Nat.mul_ne_zero hs (by simp)
  have hd : Nat.pow 10 (-e).toNat ≠ 0 := by simp
  rw [ofDecimal?, if_neg hs]
  dsimp only
  by_cases hup : 308 < e.toNat
  · rw [if_pos hup, ofRatio?_eq_none negative hn hd]
    have hdown : (-e).toNat = 0 := by omega
    have hone : (1 : ℚ) ≤ s := by exact_mod_cast Nat.one_le_iff_ne_zero.2 hs
    have hgreat : (2 : ℕ) ^ 1024 ≤ 10 ^ 309 := by decide +kernel
    rw [hdown]
    calc (2 : ℚ) ^ 1024 ≤ 10 ^ 309 := by exact_mod_cast hgreat
      _ ≤ 10 ^ e.toNat := pow_le_pow_right₀ (by norm_num) (by omega)
      _ ≤ s * 10 ^ e.toNat := le_mul_of_one_le_left (by positivity) hone
      _ = ((s * Nat.pow 10 e.toNat : Nat) : ℚ) / (Nat.pow 10 0 : Nat) := by simp
  rw [if_neg hup]
  by_cases hdown : s.log2 + 1077 < 3 * (-e).toNat
  · rw [if_pos hdown, ofRatio?_eq_zero negative hn hd]
    have hzero : e.toNat = 0 := by omega
    have hless : (s : ℚ) < 2 ^ (s.log2 + 1) := by exact_mod_cast Nat.lt_log2_self
    have height : (2 : ℚ) ^ (3 * (-e).toNat) ≤ 10 ^ (-e).toNat := by
      rw [pow_mul]
      exact pow_le_pow_left₀ (by norm_num) (by norm_num) _
    have hpow : (2 : ℚ) ^ (s.log2 + 1) * 2 ^ 1075 < 2 ^ (3 * (-e).toNat) := by
      rw [← pow_add]
      exact pow_lt_pow_right₀ (by norm_num) (by omega)
    rw [hzero, div_lt_iff₀ (by exact_mod_cast Nat.pos_of_ne_zero hd), zpow_neg, inv_mul_eq_div,
      lt_div_iff₀ (by positivity)]
    calc ((s * Nat.pow 10 0 : Nat) : ℚ) * 2 ^ (1075 : ℤ) = s * 2 ^ 1075 := by
          rw [zpow_ofNat, Nat.pow_eq, pow_zero, Nat.mul_one]
      _ < 2 ^ (s.log2 + 1) * 2 ^ 1075 := by gcongr
      _ < 2 ^ (3 * (-e).toNat) := hpow
      _ ≤ 10 ^ (-e).toNat := height
      _ = (Nat.pow 10 (-e).toNat : Nat) := by simp
  · rw [if_neg hdown]

/-- Two decimals of one value read as the same number. -/
theorem ofDecimal?_congr (negative : Bool) {s s' : Nat} {e e' : ℤ} (hs : s ≠ 0)
    (h : Scientific.value ⟨s, e⟩ = Scientific.value ⟨s', e'⟩) :
    ofDecimal? negative s e = ofDecimal? negative s' e' := by
  have hs' : s' ≠ 0 := by
    rintro rfl
    have hpow : (10 : ℚ) ^ e ≠ 0 := zpow_ne_zero _ (by norm_num)
    rw [Scientific.value, Scientific.value, Nat.cast_zero, zero_mul, mul_eq_zero] at h
    exact h.elim (fun h => hs (by exact_mod_cast h)) hpow
  rw [ofDecimal?_eq_ofRatio? negative hs, ofDecimal?_eq_ofRatio? negative hs']
  rw [value_eq_div, value_eq_div] at h
  exact ofRatio?_congr negative (Nat.mul_ne_zero hs (by simp)) (by simp) (by simp) h

/-- A decimal with the magnitude of a number reads as that number. -/
theorem ofDecimal?_of_value_eq {s : Nat} {e : ℤ} {x : Binary64} (hx : x.significand ≠ 0)
    (h : Scientific.value ⟨s, e⟩ = x.magnitude) : ofDecimal? x.negative s e = some x := by
  have hs : s ≠ 0 := by
    rintro rfl
    rw [Scientific.value, Nat.cast_zero, zero_mul, magnitude, eq_comm, mul_eq_zero] at h
    exact h.elim (fun h => hx (by exact_mod_cast h)) fun h => zpow_ne_zero _ two_ne_zero h
  rw [ofDecimal?_eq_ofRatio? _ hs]
  rw [value_eq_div] at h
  exact ofRatio?_of_div_eq hx (by simp) h

/-- A decimal that reads as a number other than zero is neither too great nor too small. -/
theorem value_of_ofDecimal?_eq_some {negative : Bool} {s : Nat} {e : ℤ} {x : Binary64}
    (hx : x.significand ≠ 0) (h : ofDecimal? negative s e = some x) :
    2 ^ (-1075 : ℤ) ≤ Scientific.value ⟨s, e⟩ ∧ Scientific.value ⟨s, e⟩ < 2 ^ 1024 := by
  have hs : s ≠ 0 := by
    rintro rfl
    rw [ofDecimal?, if_pos rfl, Option.some.injEq] at h
    exact hx (by rw [← h]; rfl)
  have hn : s * Nat.pow 10 e.toNat ≠ 0 := Nat.mul_ne_zero hs (by simp)
  have hd : Nat.pow 10 (-e).toNat ≠ 0 := by simp
  rw [ofDecimal?_eq_ofRatio? negative hs] at h
  rw [value_eq_div]
  constructor
  · by_contra hlt
    rw [ofRatio?_eq_zero negative hn hd (not_le.1 hlt), Option.some.injEq] at h
    exact hx (by rw [← h]; rfl)
  · by_contra hle
    rw [ofRatio?_eq_none negative hn hd (not_lt.1 hle)] at h
    cases h

end Binary64

end BlockSheet.Decimal
