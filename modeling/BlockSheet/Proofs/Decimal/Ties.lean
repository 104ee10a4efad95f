import Mathlib
import BlockSheet.Proofs.Decimal.ReadBack

/-!
# Ties between shortest decimals

A number may lie halfway between two neighbouring decimals that both read as the number. Then
formats differ: one takes the upper decimal, another the even one. This matters where the lower
decimal is the even one (`Halfway`), and nowhere else: apart from such numbers the rule for ties has
no effect on the shortest decimal (`chosen_shortest`).
-/

namespace BlockSheet.Decimal

/-- The next decimal upwards with as many places. -/
def Scientific.next (d : Scientific) : Scientific := ⟨d.significand + 1, d.exponent⟩

theorem Scientific.value_next (d : Scientific) : d.next.value = d.value + 10 ^ d.exponent := by
  unfold next value
  push_cast
  ring

namespace Binary64

/-- The number lies halfway between an even decimal and the next one, which reads as the number
too. -/
structure Halfway (x : Binary64) (d : Scientific) : Prop where
  magnitude_eq : x.magnitude = d.value + 10 ^ d.exponent / 2
  even : d.significand % 2 = 0
  next_reads : ofDecimal? x.negative d.next.significand d.next.exponent = some x

/-- What the decimals are that the two rules for ties choose. -/
def Chosen (x : Binary64) (even up : Scientific) : Prop :=
  up = even ∧ ¬ x.Halfway even ∨ up = even.next ∧ x.Halfway even

/-- A decimal that is not less than the number is none that the number lies behind by half a
place. -/
theorem not_halfway_of_le {x : Binary64} {d : Scientific} (h : x.magnitude ≤ d.value) :
    ¬ x.Halfway d := by
  intro hhalf
  have hpos : (0 : ℚ) < 10 ^ d.exponent := by positivity
  have := hhalf.magnitude_eq
  linarith

/-! ### One grid -/

/-- The magnitude in units of a grid, as a quotient of natural numbers. -/
def gridRatio (x : Binary64) (e : ℤ) : Nat × Nat :=
  (x.ratio.1 * Nat.pow 10 (-e).toNat, x.ratio.2 * Nat.pow 10 e.toNat)

/-- The grid point next to the magnitude from below. -/
def gridBelow (x : Binary64) (e : ℤ) : Scientific := ⟨(x.gridRatio e).1 / (x.gridRatio e).2, e⟩

/-- The first one of two decimals that reads back. -/
def firstReading (x : Binary64) (first second : Scientific) : Option Scientific :=
  if x.readsBack first then some first else if x.readsBack second then some second else none

theorem gridRatio_snd_ne_zero (x : Binary64) (e : ℤ) : (x.gridRatio e).2 ≠ 0 := by
  simp [gridRatio, ratio]

theorem gridRatio_div (x : Binary64) (e : ℤ) :
    ((x.gridRatio e).1 : ℚ) / (x.gridRatio e).2 = x.magnitude / 10 ^ e := by
  have hratio : (x.ratio.1 : ℚ) / x.ratio.2 = x.magnitude := by
    obtain ⟨k, hk | hk⟩ := x.exponent.eq_nat_or_neg
    · simp [ratio, magnitude, hk]
    · simp [ratio, magnitude, hk, div_eq_mul_inv]
  rw [← hratio]
  obtain ⟨k, rfl | rfl⟩ := e.eq_nat_or_neg
  · simp [gridRatio, div_div]
  · simp [gridRatio, mul_div_right_comm]

/-- Is the upper one of the two grid points around the magnitude tried first? -/
def upperFirst (x : Binary64) (tie : Tie) (e : ℤ) : Bool :=
  decide ((x.gridRatio e).2 < 2 * ((x.gridRatio e).1 % (x.gridRatio e).2)) ||
    (2 * ((x.gridRatio e).1 % (x.gridRatio e).2) == (x.gridRatio e).2 &&
      match tie with
      | .up => true
      | .toEven => (x.gridBelow e).significand % 2 == 1)

/-- The nearer grid point is tried first. At a tie the upper one is, unless ties go to even and the
lower one is even. -/
theorem upperFirst_iff (x : Binary64) (tie : Tie) (e : ℤ) :
    x.upperFirst tie e = true ↔
      (x.gridRatio e).2 < 2 * ((x.gridRatio e).1 % (x.gridRatio e).2) ∨
        2 * ((x.gridRatio e).1 % (x.gridRatio e).2) = (x.gridRatio e).2 ∧
          (tie = .toEven → (x.gridBelow e).significand % 2 = 1) := by
  unfold upperFirst
  rw [Bool.or_eq_true, Bool.and_eq_true, decide_eq_true_iff, beq_iff_eq]
  refine or_congr_right (and_congr_right fun _ => ?_)
  cases tie with
  | up =>
      have hother : Tie.up ≠ .toEven := by decide
      exact ⟨fun _ heq => absurd heq hother, fun _ => rfl⟩
  | toEven =>
      show ((x.gridBelow e).significand % 2 == 1) = true ↔ _
      rw [beq_iff_eq]
      exact ⟨fun hodd _ => hodd, fun h => h rfl⟩

/-- What a grid gives: the first one that reads back of the two grid points around the magnitude. -/
theorem nearestOnGrid?_eq (x : Binary64) (tie : Tie) (e : ℤ) :
    x.nearestOnGrid? tie e =
      if (x.gridRatio e).2 < 2 * ((x.gridRatio e).1 % (x.gridRatio e).2) ∨
          2 * ((x.gridRatio e).1 % (x.gridRatio e).2) = (x.gridRatio e).2 ∧
            (tie = .toEven → (x.gridBelow e).significand % 2 = 1) then
        x.firstReading (x.gridBelow e).next (x.gridBelow e)
      else x.firstReading (x.gridBelow e) (x.gridBelow e).next := by
  have hsearch : x.nearestOnGrid? tie e =
      x.firstReading
        (if x.upperFirst tie e then ((x.gridBelow e).next, x.gridBelow e)
          else (x.gridBelow e, (x.gridBelow e).next)).1
        (if x.upperFirst tie e then ((x.gridBelow e).next, x.gridBelow e)
          else (x.gridBelow e, (x.gridBelow e).next)).2 := rfl
  by_cases hupper : x.upperFirst tie e = true
  · rw [hsearch, if_pos hupper, if_pos ((x.upperFirst_iff tie e).1 hupper)]
  · rw [hsearch, if_neg hupper, if_neg (mt (x.upperFirst_iff tie e).2 hupper)]

/-- The grid point below the magnitude, and where the magnitude stands above it. -/
theorem gridBelow_facts (x : Binary64) (e : ℤ) :
    x.magnitude < (x.gridBelow e).next.value ∧
      (x.magnitude = (x.gridBelow e).value + 10 ^ e / 2 ↔
        2 * ((x.gridRatio e).1 % (x.gridRatio e).2) = (x.gridRatio e).2) := by
  have hdiv := x.gridRatio_div e
  have hne := x.gridRatio_snd_ne_zero e
  rw [Scientific.value_next]
  unfold Scientific.value gridBelow
  generalize x.gridRatio e = g at *
  have hpos : (0 : ℚ) < 10 ^ e := by positivity
  have hgpos : (0 : ℚ) < g.2 := by exact_mod_cast Nat.pos_of_ne_zero hne
  have hsplit : (g.1 : ℚ) = g.2 * (g.1 / g.2 : ℕ) + (g.1 % g.2 : ℕ) := by
    exact_mod_cast (Nat.div_add_mod g.1 g.2).symm
  have hless : ((g.1 % g.2 : ℕ) : ℚ) < g.2 := by
    exact_mod_cast Nat.mod_lt _ (Nat.pos_of_ne_zero hne)
  have hmagnitude : x.magnitude =
      ((g.1 / g.2 : ℕ) + (g.1 % g.2 : ℕ) / g.2) * 10 ^ e := by
    rw [eq_div_iff hpos.ne'] at hdiv
    rw [← hdiv, hsplit]
    field_simp
  have hone : ((g.1 % g.2 : ℕ) : ℚ) / g.2 < 1 := (div_lt_one hgpos).2 hless
  constructor
  · rw [hmagnitude]
    nlinarith
  · have hhalf : ((g.1 % g.2 : ℕ) : ℚ) / g.2 = 1 / 2 ↔ 2 * (g.1 % g.2) = g.2 := by
      rw [div_eq_div_iff hgpos.ne' two_ne_zero, one_mul, mul_comm]
      exact_mod_cast Iff.rfl
    rw [hmagnitude, ← hhalf]
    constructor
    · intro h
      have : (((g.1 % g.2 : ℕ) : ℚ) / g.2 - 1 / 2) * 10 ^ e = 0 := by linarith
      rcases mul_eq_zero.1 this with h | h
      · linarith
      · exact absurd h hpos.ne'
    · intro h
      rw [h]
      ring

theorem not_halfway_next (x : Binary64) (e : ℤ) : ¬ x.Halfway (x.gridBelow e).next :=
  not_halfway_of_le (x.gridBelow_facts e).1.le

/-- What two rules choose alike, at no tie that matters. -/
theorem rel_chosen_self {x : Binary64} {d d' : Scientific} (hd : ¬ x.Halfway d)
    (hd' : ¬ x.Halfway d') :
    Option.Rel x.Chosen (x.firstReading d d') (x.firstReading d d') := by
  unfold firstReading
  split
  · exact .some (.inl ⟨rfl, hd⟩)
  · split
    · exact .some (.inl ⟨rfl, hd'⟩)
    · exact .none

/-- Halfway behind an even decimal it matters which of the two decimals is tried first, if both read
back. -/
theorem rel_chosen_of_halfway {x : Binary64} {e : ℤ}
    (hhalf : x.magnitude = (x.gridBelow e).value + 10 ^ e / 2)
    (heven : (x.gridBelow e).significand % 2 = 0) :
    Option.Rel x.Chosen (x.firstReading (x.gridBelow e) (x.gridBelow e).next)
      (x.firstReading (x.gridBelow e).next (x.gridBelow e)) := by
  unfold firstReading
  by_cases hread : x.readsBack (x.gridBelow e) = true
  · by_cases hread' : x.readsBack (x.gridBelow e).next = true
    · rw [if_pos hread, if_pos hread']
      simp only [readsBack, Bool.and_eq_true, beq_iff_eq] at hread'
      exact .some (.inr ⟨rfl, hhalf, heven, hread'.2⟩)
    · rw [if_pos hread, if_neg hread', if_pos hread]
      refine .some (.inl ⟨rfl, ?_⟩)
      intro h
      -- Behind an even digit comes no zero, so the next decimal would have been taken as well.
      have hplace : (x.gridBelow e).next.significand % 10 ≠ 0 := by
        simp only [Scientific.next]
        omega
      exact hread' (by simp [readsBack, h.next_reads, hplace])
  · rw [if_neg hread]
    split
    · exact .some (.inl ⟨rfl, x.not_halfway_next e⟩)
    · exact .none

/-- On one grid the two rules choose the same decimal, or neighbours with the number halfway. -/
theorem chosen_nearestOnGrid? (x : Binary64) (e : ℤ) :
    Option.Rel x.Chosen (x.nearestOnGrid? .toEven e) (x.nearestOnGrid? .up e) := by
  have hnext := x.not_halfway_next e
  have htie := (x.gridBelow_facts e).2
  rw [nearestOnGrid?_eq, nearestOnGrid?_eq]
  by_cases hhalf : 2 * ((x.gridRatio e).1 % (x.gridRatio e).2) = (x.gridRatio e).2
  · have hup : Tie.up = .toEven → (x.gridBelow e).significand % 2 = 1 := fun h => by cases h
    by_cases hodd : (x.gridBelow e).significand % 2 = 1
    · have hbelow : ¬ x.Halfway (x.gridBelow e) := by
        intro h
        have := h.even
        omega
      rw [if_pos (.inr ⟨hhalf, fun _ => hodd⟩), if_pos (.inr ⟨hhalf, hup⟩)]
      exact rel_chosen_self hnext hbelow
    · rw [if_neg (by simp [hhalf, hodd]), if_pos (.inr ⟨hhalf, hup⟩)]
      exact rel_chosen_of_halfway (htie.2 hhalf) (by omega)
  · have hbelow : ¬ x.Halfway (x.gridBelow e) := fun h => hhalf (htie.1 h.magnitude_eq)
    by_cases hup : (x.gridRatio e).2 < 2 * ((x.gridRatio e).1 % (x.gridRatio e).2)
    · rw [if_pos (.inl hup), if_pos (.inl hup)]
      exact rel_chosen_self hnext hbelow
    · rw [if_neg (by tauto), if_neg (by tauto)]
      exact rel_chosen_self hbelow hnext

/-! ### All grids -/

/-- A search that is related step by step has related results. -/
theorem rel_findSome? {α β γ : Type} {R : β → γ → Prop} {f : α → Option β} {g : α → Option γ}
    (h : ∀ a, Option.Rel R (f a) (g a)) (as : List α) :
    Option.Rel R (as.findSome? f) (as.findSome? g) := by
  induction as with
  | nil => exact .none
  | cons a as ih =>
      have ha := h a
      rw [List.findSome?_cons, List.findSome?_cons]
      generalize f a = b at ha
      generalize g a = c at ha
      cases ha with
      | some hbc => exact .some hbc
      | none => exact ih

/-- **The two rules for ties** choose the same shortest decimal, or neighbours with the number
halfway, of which the lower one is even. -/
theorem chosen_shortest (x : Binary64) : x.Chosen (x.shortest .toEven) (x.shortest .up) := by
  have hfound := rel_findSome? (fun step : Nat => x.chosen_nearestOnGrid? (x.gridBound - step))
    (List.range 21)
  unfold shortest
  generalize (List.range 21).findSome? _ = even at hfound ⊢
  generalize (List.range 21).findSome? _ = up at hfound ⊢
  cases hfound with
  | some hchosen => exact hchosen
  | none => exact .inl ⟨rfl, not_halfway_of_le x.value_exact.ge⟩

end Binary64

end BlockSheet.Decimal
