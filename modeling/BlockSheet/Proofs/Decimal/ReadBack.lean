import BlockSheet.Decimal.Layout
import BlockSheet.Proofs.Decimal.Rounding

/-!
# Shortest decimals read back

Whatever grid the search for the shortest decimal of a number stops at, the decimal that it gives
reads as the number again and has no trailing zero (`shortest_readsBack`). On a grid the search
tests this itself; the exact value that stands behind the grids needs no rounding. So a number is
known by its shortest decimal.
-/

namespace BlockSheet.Decimal

namespace Scientific

/-- Moving trailing zeros keeps the value. -/
@[simp] theorem value_stripZeros (d : Scientific) : d.stripZeros.value = d.value := by
  fun_induction stripZeros d with
  | case1 d h ih =>
      have hdvd : (d.significand : ℚ) = 10 * (d.significand / 10 : Nat) := by
        exact_mod_cast (Nat.mul_div_cancel' (Nat.dvd_of_mod_eq_zero h.2)).symm
      rw [ih, value, value, zpow_add_one₀ (by norm_num), hdvd]
      ring
  | case2 d h => rfl

/-- No trailing zero is left. -/
theorem significand_stripZeros_mod {d : Scientific} (hd : d.significand ≠ 0) :
    d.stripZeros.significand % 10 ≠ 0 := by
  fun_induction stripZeros d with
  | case1 d h ih => exact ih (by dsimp only; omega)
  | case2 d h => exact fun hzero => h ⟨hd, hzero⟩

end Scientific

namespace Binary64

/-- The exact decimal has the magnitude as its value. -/
theorem value_exact (x : Binary64) : x.exact.value = x.magnitude := by
  rw [exact, Scientific.value_stripZeros, magnitude, Scientific.value]
  obtain ⟨k, hk | hk⟩ := x.exponent.eq_nat_or_neg
  · simp [hk]
  · have hmin : min (-(k : ℤ)) 0 = -k := min_eq_left (by omega)
    have hten : (10 : ℚ) ^ k = 5 ^ k * 2 ^ k := by
      rw [← mul_pow]
      norm_num
    simp only [hk, hmin, zpow_neg, zpow_natCast, hten, neg_neg, Int.toNat_natCast,
      Int.toNat_neg_natCast, Nat.pow_eq, pow_zero, mul_one, Nat.cast_mul, Nat.cast_pow]
    field_simp
    norm_num

/-- What is taken from a grid reads back. -/
theorem readsBack_of_nearestOnGrid? {x : Binary64} {tie : Tie} {e : ℤ} {d : Scientific}
    (h : x.nearestOnGrid? tie e = some d) : x.readsBack d = true := by
  -- Whichever of the two grid points is tried first, the one that is taken has passed the test.
  have htried : ∀ first second : Scientific, (if x.readsBack first then some first
      else if x.readsBack second then some second else none) = some d → x.readsBack d = true := by
    intro first second h
    split at h
    · next hback => exact Option.some.inj h ▸ hback
    · split at h
      · next hback => exact Option.some.inj h ▸ hback
      · cases h
  exact htried _ _ h

/-- **The shortest decimal** of a number other than zero reads as this number, and has no trailing
zero. -/
theorem shortest_readsBack {x : Binary64} (hx : x.significand ≠ 0) (tie : Tie) :
    ofDecimal? x.negative (x.shortest tie).significand (x.shortest tie).exponent = some x ∧
      (x.shortest tie).significand % 10 ≠ 0 := by
  rw [shortest]
  cases hfound : (List.range 21).findSome? fun (step : Nat) =>
      x.nearestOnGrid? tie (x.gridBound - step) with
  | none =>
      rw [Option.getD_none]
      refine ⟨ofDecimal?_of_value_eq hx (value_exact x), ?_⟩
      exact Scientific.significand_stripZeros_mod (by simp [hx])
  | some d =>
      obtain ⟨step, -, hgrid⟩ := List.exists_of_findSome?_eq_some hfound
      have hback := readsBack_of_nearestOnGrid? hgrid
      rw [Option.getD_some]
      simp only [readsBack, Bool.and_eq_true, bne_iff_ne, beq_iff_eq] at hback
      exact hback.symm

end Binary64

end BlockSheet.Decimal
