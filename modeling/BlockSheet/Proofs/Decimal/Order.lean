import Mathlib
import BlockSheet.Proofs.Decimal.Notation
import BlockSheet.Proofs.Decimal.ReadBack

/-!
# The order of numbers and their decimals

Reading keeps the order: of two decimals the greater one does not read as the lesser number
(`magnitude_le_of_value_le`). So a power of ten parts the numbers in the same way as it parts their
shortest decimals, if it is the shortest decimal of the number that it reads as
(`leading_shortest_lt_iff`). This is how a layout, which looks at the first digit of the decimal,
comes to tell small and great numbers from the others.
-/

namespace BlockSheet.Decimal

namespace Binary64

/-! ### Rounding keeps the order -/

/-- Of two quotients with one denominator the greater one is not rounded to less. -/
theorem roundQuotient_mono {n n' : Nat} (h : n ≤ n') (d : Nat) :
    roundQuotient n d ≤ roundQuotient n' d := by
  have hquotient : n / d ≤ n' / d := Nat.div_le_div_right h
  have hn := Nat.div_add_mod n d
  have hn' := Nat.div_add_mod n' d
  simp only [roundQuotient]
  rcases hquotient.lt_or_eq with hlt | heq
  · split_ifs <;> omega
  · rw [heq] at hn ⊢
    split_ifs <;> omega

theorem roundQuotient_le_roundQuotient {n d n' d' : Nat} (hd : d ≠ 0) (hd' : d' ≠ 0)
    (h : (n : ℚ) / d ≤ n' / d') : roundQuotient n d ≤ roundQuotient n' d' := by
  have hdpos : (0 : ℚ) < d := by exact_mod_cast Nat.pos_of_ne_zero hd
  have hdpos' : (0 : ℚ) < d' := by exact_mod_cast Nat.pos_of_ne_zero hd'
  rw [div_le_div_iff₀ hdpos hdpos'] at h
  have hcross : d' * n ≤ d * n' := by
    rw [Nat.mul_comm, Nat.mul_comm d]
    exact_mod_cast h
  rw [← roundQuotient_mul hd' n d, ← roundQuotient_mul hd n' d', Nat.mul_comm d d']
  exact roundQuotient_mono hcross _

/-- A significand is rounded to `2 ^ 53` at most. -/
theorem RoundsAt.roundQuotient_le {v : ℚ} {e : ℤ} (he : RoundsAt v e) {m k : Nat} (hk : k ≠ 0)
    (hscaled : (m : ℚ) / k = v / 2 ^ e) : roundQuotient m k ≤ 2 ^ 53 := by
  have hpos : (0 : ℚ) < 2 ^ e := by positivity
  rw [← roundQuotient_one (2 ^ 53)]
  refine roundQuotient_le_roundQuotient hk one_ne_zero ?_
  rw [hscaled, div_le_iff₀ hpos, Nat.cast_one, div_one, Nat.cast_pow, Nat.cast_ofNat,
    ← zpow_natCast, ← zpow_add₀ two_ne_zero, add_comm]
  exact he.below.le

/-- A significand is rounded to `2 ^ 52` at least, unless the exponent is the least one. -/
theorem RoundsAt.le_roundQuotient {v : ℚ} {e : ℤ} (he : RoundsAt v e) (hleast : e ≠ -1074)
    {m k : Nat} (hk : k ≠ 0) (hscaled : (m : ℚ) / k = v / 2 ^ e) :
    2 ^ 52 ≤ roundQuotient m k := by
  have hpos : (0 : ℚ) < 2 ^ e := by positivity
  rw [← roundQuotient_one (2 ^ 52)]
  refine roundQuotient_le_roundQuotient one_ne_zero hk ?_
  rw [hscaled, le_div_iff₀ hpos, Nat.cast_one, div_one, Nat.cast_pow, Nat.cast_ofNat,
    ← zpow_natCast, ← zpow_add₀ two_ne_zero, add_comm]
  exact he.full.resolve_right hleast

theorem magnitude_of_pack? {negative : Bool} {m : Nat} {e : ℤ} {x : Binary64}
    (h : pack? negative m e = some x) : x.magnitude = m * 2 ^ e := by
  unfold pack? at h
  split at h
  · next hm =>
      split at h
      · obtain rfl := Option.some.inj h
        show ((Nat.pow 2 52 : ℕ) : ℚ) * 2 ^ (e + 1) = m * 2 ^ e
        rw [hm, Nat.pow_eq, Nat.pow_eq, zpow_add_one₀ two_ne_zero, Nat.cast_pow, Nat.cast_pow,
          Nat.cast_ofNat]
        ring
      · cases h
  · split at h
    · obtain rfl := Option.some.inj h
      rfl
    · cases h

/-- **Rounding keeps the order.** -/
theorem magnitude_le_of_div_le {negative negative' : Bool} {n d n' d' : Nat} {x y : Binary64}
    (hn : n ≠ 0) (hd : d ≠ 0) (hn' : n' ≠ 0) (hd' : d' ≠ 0)
    (hx : ofRatio? negative n d = some x) (hy : ofRatio? negative' n' d' = some y)
    (h : (n : ℚ) / d ≤ n' / d') : x.magnitude ≤ y.magnitude := by
  have he := roundsAt_exponentOf hn hd
  have hf := roundsAt_exponentOf hn' hd'
  obtain ⟨hk, hscaled⟩ := scaled_div (n := n) hd (exponentOf n d)
  obtain ⟨hk', hscaled'⟩ := scaled_div (n := n') hd' (exponentOf n' d')
  rw [ofRatio?_eq_pack? negative hn hd he hk hscaled] at hx
  rw [ofRatio?_eq_pack? negative' hn' hd' hf hk' hscaled'] at hy
  rw [magnitude_of_pack? hx, magnitude_of_pack? hy]
  generalize exponentOf n d = e at *
  generalize exponentOf n' d' = f at *
  generalize scaled n d e = a at *
  generalize scaled n' d' f = b at *
  rcases (he.mono hf h).lt_or_eq with hless | rfl
  · -- At a lesser exponent the significand is at most `2 ^ 53`, at a greater one at least `2 ^ 52`.
    have hbelow : roundQuotient a.1 a.2 ≤ 2 ^ 53 := he.roundQuotient_le hk hscaled
    have hfull : 2 ^ 52 ≤ roundQuotient b.1 b.2 :=
      hf.le_roundQuotient (by have := he.least; omega) hk' hscaled'
    calc (roundQuotient a.1 a.2 : ℚ) * 2 ^ e
        ≤ 2 ^ 53 * 2 ^ e := by
          gcongr
          exact_mod_cast hbelow
      _ = 2 ^ 52 * 2 ^ (e + 1) := by
          rw [zpow_add_one₀ two_ne_zero]
          ring
      _ ≤ 2 ^ 52 * 2 ^ f := by
          gcongr
          · norm_num
          · omega
      _ ≤ roundQuotient b.1 b.2 * 2 ^ f := by
          gcongr
          exact_mod_cast hfull
  · have hround : roundQuotient a.1 a.2 ≤ roundQuotient b.1 b.2 := by
      refine roundQuotient_le_roundQuotient hk hk' ?_
      rw [hscaled, hscaled']
      gcongr
    gcongr

/-- **Reading keeps the order**, whatever the signs. -/
theorem magnitude_le_of_value_le {negative negative' : Bool} {d d' : Scientific} {x y : Binary64}
    (hx : ofDecimal? negative d.significand d.exponent = some x)
    (hy : ofDecimal? negative' d'.significand d'.exponent = some y) (h : d.value ≤ d'.value) :
    x.magnitude ≤ y.magnitude := by
  by_cases hs : d.significand = 0
  · rw [ofDecimal?, if_pos hs, Option.some.injEq] at hx
    have hzero : x.magnitude = 0 := by simp [← hx, zero, magnitude]
    rw [hzero, magnitude]
    positivity
  · have hs' : d'.significand ≠ 0 := by
      intro hzero
      have hpos : 0 < d.value := by
        have : (0 : ℚ) < d.significand := by exact_mod_cast Nat.pos_of_ne_zero hs
        rw [Scientific.value]
        positivity
      rw [Scientific.value, Scientific.value, hzero, Nat.cast_zero, zero_mul] at h
      exact absurd hpos (not_lt.2 h)
    rw [ofDecimal?_eq_ofRatio? _ hs] at hx
    rw [ofDecimal?_eq_ofRatio? _ hs'] at hy
    have hvalue := value_eq_div d.significand d.exponent
    have hvalue' := value_eq_div d'.significand d'.exponent
    refine magnitude_le_of_div_le (Nat.mul_ne_zero hs (by simp)) (by simp)
      (Nat.mul_ne_zero hs' (by simp)) (by simp) hx hy ?_
    rw [← hvalue, ← hvalue']
    exact h

/-- Numbers of one sign and one magnitude are the same. -/
theorem eq_of_magnitude_eq {x y : Binary64} (hx : x.significand ≠ 0) (hy : y.significand ≠ 0)
    (hsign : x.negative = y.negative) (h : x.magnitude = y.magnitude) : x = y := by
  have hread := ofDecimal?_of_value_eq hx (value_exact x)
  have hread' := ofDecimal?_of_value_eq hy ((value_exact x).trans h)
  rw [hsign] at hread
  exact Option.some.inj (hread.symm.trans hread')

/-! ### Powers of ten -/

theorem significand_shortest_ne_zero {x : Binary64} (hx : x.significand ≠ 0) (tie : Tie) :
    (x.shortest tie).significand ≠ 0 := by
  intro hzero
  have hlast := (shortest_readsBack hx tie).2
  rw [hzero] at hlast
  exact hlast rfl

/-- **A power of ten parts numbers and their decimals** in the same way, if it is the shortest
decimal of the number that it reads as. -/
theorem leading_shortest_lt_iff {p : ℤ} {y : Binary64} (hy : y.significand ≠ 0)
    (hread : ofDecimal? y.negative 1 p = some y)
    (hshortest : ∀ negative tie, shortest { y with negative := negative } tie = ⟨1, p⟩)
    {x : Binary64} (hx : x.significand ≠ 0) (tie : Tie) :
    (x.shortest tie).leading < p ↔ x.magnitude < y.magnitude := by
  have hback := (shortest_readsBack hx tie).1
  have hpower : Scientific.value ⟨1, p⟩ = 10 ^ p := by simp [Scientific.value]
  rw [Scientific.leading_lt_iff (significand_shortest_ne_zero hx tie), ← hpower]
  constructor
  · intro hless
    refine lt_of_le_of_ne (magnitude_le_of_value_le hback hread hless.le) ?_
    intro heq
    have hsame : x = { y with negative := x.negative } := eq_of_magnitude_eq hx hy rfl heq
    rw [hsame, hshortest] at hless
    exact lt_irrefl _ hless
  · intro hless
    by_contra hle
    exact absurd (magnitude_le_of_value_le hread hback (not_lt.1 hle)) (not_le.2 hless)

end Binary64

end BlockSheet.Decimal
