import Mathlib
import BlockSheet.Text.Alphanumeric
import BlockSheet.Text.Case

/-!
# Lower-case forms

What the tables of characters say of each other. A character is its own lower-case form, or it is a
letter whose form is made of characters that are no capitals and their own forms
(`lowercase_cases`). Neither half is a matter of course: there are capitals without another form,
such as the double-struck ones, and title-case letters, which have another form and are no capitals.

A table has some thousand members, so tables are not compared member by member. A set of code points
is a number with these bits (`codeMask`, `rangeMask`), and how two sets are to each other is read
off the bits that they have in common.
-/

namespace BlockSheet.Text

/-! ### Sets of code points as numbers -/

/-- The number that has the bits of the given numbers. -/
def codeMask (codes : List Nat) : Nat := codes.foldr (fun n mask => 1 <<< n ||| mask) 0

/-- The number that has the bits of the given ranges, both ends included. -/
def rangeMask (ranges : List (Nat × Nat)) : Nat :=
  ranges.foldr (fun r mask => (1 <<< (r.2 + 1 - r.1) - 1) <<< r.1 ||| mask) 0

theorem testBit_codeMask (codes : List Nat) (n : Nat) :
    (codeMask codes).testBit n = true ↔ n ∈ codes := by
  induction codes with
  | nil => simp [codeMask]
  | cons c codes ih =>
      rw [codeMask, List.foldr_cons, ← codeMask, Nat.testBit_or, Bool.or_eq_true, ih,
        Nat.one_shiftLeft, Nat.testBit_two_pow, decide_eq_true_iff, List.mem_cons, eq_comm]

theorem testBit_rangeMask (ranges : List (Nat × Nat)) (n : Nat) :
    (rangeMask ranges).testBit n = true ↔ ∃ r ∈ ranges, r.1 ≤ n ∧ n ≤ r.2 := by
  induction ranges with
  | nil => simp [rangeMask]
  | cons r ranges ih =>
      have hrange : r.1 ≤ n ∧ n - r.1 < r.2 + 1 - r.1 ↔ r.1 ≤ n ∧ n ≤ r.2 := by omega
      rw [rangeMask, List.foldr_cons, ← rangeMask, Nat.testBit_or, Bool.or_eq_true, ih,
        Nat.one_shiftLeft, Nat.testBit_shiftLeft, Nat.testBit_two_pow_sub_one, Bool.and_eq_true,
        decide_eq_true_iff, decide_eq_true_iff, hrange, List.exists_mem_cons_iff]

/-- Numbers without common bits make sets without common members. -/
theorem not_mem_of_codeMask {xs ys : List Nat} (h : codeMask xs &&& codeMask ys = 0) {n : Nat}
    (hn : n ∈ xs) : n ∉ ys := by
  intro hn'
  have hbit : (codeMask xs &&& codeMask ys).testBit n = true := by
    rw [Nat.testBit_and, (testBit_codeMask xs n).2 hn, (testBit_codeMask ys n).2 hn', Bool.and_true]
  rw [h, Nat.zero_testBit] at hbit
  cases hbit

/-- A number all of whose bits lie in ranges makes a set within the ranges. -/
theorem exists_mem_of_codeMask {xs : List Nat} {ranges : List (Nat × Nat)}
    (h : codeMask xs &&& rangeMask ranges = codeMask xs) {n : Nat} (hn : n ∈ xs) :
    ∃ r ∈ ranges, r.1 ≤ n ∧ n ≤ r.2 := by
  have hbit := (testBit_codeMask xs n).2 hn
  rw [← h, Nat.testBit_and, Bool.and_eq_true] at hbit
  exact (testBit_rangeMask ranges n).1 hbit.2

/-! ### Members of the tables -/

/-- The members of a run, in order. -/
def Run.members (run : Run) : List Nat :=
  List.range' run.first ((run.last - run.first) / run.step + 1) run.step

theorem Run.mem_members {run : Run} {n : Nat} (h : run.contains n = true) : n ∈ run.members := by
  rw [contains, Bool.and_eq_true, Bool.and_eq_true, decide_eq_true_iff, decide_eq_true_iff,
    beq_iff_eq] at h
  obtain ⟨⟨hfirst, hlast⟩, hstep⟩ := h
  have hdistance := Nat.div_add_mod (n - run.first) run.step
  refine List.mem_range'.2 ⟨(n - run.first) / run.step, ?_, by omega⟩
  exact Nat.lt_succ_of_le (Nat.div_le_div_right (by omega))

/-- The capitals. -/
def uppercaseCodes : List Nat := uppercaseRuns.flatMap Run.members

theorem mem_uppercaseCodes {c : Char} (h : isUppercase c = true) : c.toNat ∈ uppercaseCodes := by
  obtain ⟨run, hrun, hcontains⟩ := List.any_eq_true.1 h
  exact List.mem_flatMap.2 ⟨run, hrun, Run.mem_members hcontains⟩

/-- The code points with another lower-case form, each with this form. -/
def loweringPairs : List (Nat × Nat) :=
  loweringRuns.flatMap fun entry =>
    entry.1.members.map fun n => (n, entry.2 + (n - entry.1.first))

theorem mem_loweringPairs {n : Nat} (h : lowerCode n ≠ n) : (n, lowerCode n) ∈ loweringPairs := by
  rw [lowerCode] at h ⊢
  cases hfind : loweringRuns.find? fun entry => entry.1.contains n with
  | none => exact absurd (by rw [hfind]) h
  | some entry =>
      have hcontains := List.find?_some hfind
      exact List.mem_flatMap.2 ⟨entry, List.mem_of_find?_eq_some hfind,
        List.mem_map.2 ⟨n, Run.mem_members hcontains, rfl⟩⟩

/-! ### What the tables have in common -/

/-- No lower-case form is a capital, or has another form itself. -/
theorem codeMask_forms :
    codeMask (loweringPairs.map Prod.snd) &&&
      codeMask (loweringPairs.map Prod.fst ++ uppercaseCodes) = 0 := by
  decide +kernel

/-- What has another form is a letter. -/
theorem codeMask_lowering :
    codeMask (loweringPairs.map Prod.fst) &&& rangeMask alphanumericRanges =
      codeMask (loweringPairs.map Prod.fst) := by
  decide +kernel

/-- Lower-case forms are characters. -/
theorem isValidChar_forms : ∀ n ∈ loweringPairs.map Prod.snd, n.isValidChar := by decide +kernel

/-! ### Characters -/

/-- A character in a row of code points has what each of them has. -/
@[elab_as_elim]
theorem char_of_forall_lt {motive : Char → Prop} {first count : Nat} {c : Char}
    (hc : first ≤ c.toNat ∧ c.toNat < first + count)
    (h : ∀ n < count, motive (Char.ofNat (first + n))) : motive c := by
  have hchar := h (c.toNat - first) (by omega)
  rwa [Nat.add_sub_cancel' hc.1, Char.ofNat_toNat] at hchar

/-- No capital, and its own lower-case form. -/
def IsLower (c : Char) : Prop := lowercase c = [c] ∧ isUppercase c = false

/-- A character that is in neither table. -/
theorem isLower_of_not_mem {c : Char} (h : c.toNat ∉ loweringPairs.map Prod.fst ++ uppercaseCodes) :
    IsLower c := by
  rw [List.mem_append, not_or] at h
  obtain ⟨hlowering, hupper⟩ := h
  have hdotted : c.toNat ≠ 0x130 := by
    intro heq
    rw [heq] at hupper
    exact absurd hupper (by decide +kernel)
  have hcode : lowerCode c.toNat = c.toNat := by
    by_contra hne
    exact hlowering (List.mem_map.2 ⟨_, mem_loweringPairs hne, rfl⟩)
  refine ⟨?_, eq_false_of_ne_true fun hc => hupper (mem_uppercaseCodes hc)⟩
  rw [lowercase, if_neg hdotted, hcode, Char.ofNat_toNat]

/-- **Lower case.** A character is its own lower-case form, or it is a letter or a digit and its
form consists of characters that are no capitals and have no other form. -/
theorem lowercase_cases (c : Char) :
    lowercase c = [c] ∨ isAlphanumeric c = true ∧ ∀ x ∈ lowercase c, IsLower x := by
  by_cases hdotted : c.toNat = 0x130
  · right
    rw [isAlphanumeric, inRanges, lowercase, if_pos hdotted, hdotted, List.forall_mem_cons,
      List.forall_mem_singleton]
    exact ⟨by decide +kernel, isLower_of_not_mem (by decide +kernel),
      isLower_of_not_mem (by decide +kernel)⟩
  · by_cases hcode : lowerCode c.toNat = c.toNat
    · left
      rw [lowercase, if_neg hdotted, hcode, Char.ofNat_toNat]
    · right
      have hpair := mem_loweringPairs hcode
      have hform : lowerCode c.toNat ∈ loweringPairs.map Prod.snd := List.mem_map_of_mem hpair
      refine ⟨?_, ?_⟩
      · obtain ⟨r, hr, hfirst, hlast⟩ :=
          exists_mem_of_codeMask codeMask_lowering (List.mem_map_of_mem hpair)
        rw [isAlphanumeric, inRanges, List.any_eq_true]
        exact ⟨r, hr, by simpa using ⟨hfirst, hlast⟩⟩
      · have hvalid := isValidChar_forms _ hform
        rw [lowercase, if_neg hdotted, List.forall_mem_singleton]
        refine isLower_of_not_mem ?_
        rw [Char.toNat_ofNat, if_pos hvalid]
        exact not_mem_of_codeMask codeMask_forms hform

end BlockSheet.Text
