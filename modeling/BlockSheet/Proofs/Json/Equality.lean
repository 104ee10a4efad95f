import Mathlib.Data.List.Forall2
import BlockSheet.Json.Value

/-!
# Equality of JSON values

`Value.equal` looks up the entries of one object in the other, which makes it a relation of its own:
it sees neither the order of keys nor the sign of a zero. What it says of values whose objects are
maps (`Value.DistinctKeys`):

* a value is equal to itself (`Value.equal_self`);
* equal objects have the same entries up to their order, each equal to its partner
  (`Fields.matched_of_equal`).
-/

namespace BlockSheet.Json

open Decimal (Binary64)

/-! ### Values whose objects are maps -/

/-- In no object within the value does a key occur twice. -/
inductive Value.DistinctKeys : Value → Prop
  | null : DistinctKeys .null
  | bool (b : Bool) : DistinctKeys (.bool b)
  | num (n : Number) : DistinctKeys (.num n)
  | str (s : String) : DistinctKeys (.str s)
  | arr {items : List Value} (hitems : ∀ item ∈ items, DistinctKeys item) :
    DistinctKeys (.arr items)
  /-- The keys of the object itself are distinct too. -/
  | obj {fields : List (String × Value)} (hkeys : Fields.Distinct fields)
    (hvalues : ∀ entry ∈ fields, DistinctKeys entry.2) : DistinctKeys (.obj fields)

/-- Do the two entries have the same key and equal values? -/
def SameEntry (e e' : String × Value) : Prop := e.1 = e'.1 ∧ e.2.equal e'.2 = true

namespace Fields

/-- In a map a key has the value that stands beside it. -/
theorem Distinct.get?_of_mem {fields : Fields} (h : fields.Distinct) {key : String} {value : Value}
    (hmem : (key, value) ∈ fields) : get? fields key = some value := by
  induction fields with
  | nil => cases hmem
  | cons entry fields ih =>
      rw [Distinct, keys, List.map_cons, List.nodup_cons] at h
      rw [get?_cons]
      rcases List.mem_cons.1 hmem with rfl | hmem
      · rw [if_pos rfl]
      · have hne : entry.1 ≠ key := by
          rintro rfl
          exact h.1 (List.mem_map.2 ⟨_, hmem, rfl⟩)
        rw [if_neg hne, ih h.2 hmem]

/-- A value that is found stands beside its key, and taking that entry away keeps what is found
under the other keys. -/
theorem split_of_get? {fields : Fields} {key : String} {value : Value}
    (h : get? fields key = some value) :
    ∃ before after, fields = before ++ (key, value) :: after ∧
      ∀ other, other ≠ key → get? (before ++ after) other = get? fields other := by
  induction fields with
  | nil => cases h
  | cons entry fields ih =>
      rw [get?_cons] at h
      by_cases hkey : entry.1 = key
      · obtain ⟨rfl⟩ : entry.2 = value := by simpa [hkey] using h
        subst hkey
        refine ⟨[], fields, rfl, fun other hother => ?_⟩
        rw [List.nil_append, get?_cons, if_neg (Ne.symm hother)]
      · rw [if_neg hkey] at h
        obtain ⟨before, after, rfl, hothers⟩ := ih h
        refine ⟨entry :: before, after, rfl, fun other hother => ?_⟩
        rw [List.cons_append, get?_cons, get?_cons, hothers other hother]

end Fields

/-- What a map holds under a key has maps only, if the map has. -/
theorem Value.DistinctKeys.of_get? {fields : Fields} (h : (Value.obj fields).DistinctKeys)
    {key : String} {value : Value} (hget : fields.get? key = some value) :
    value.DistinctKeys := by
  cases h with
  | obj _ hvalues =>
      obtain ⟨before, after, rfl, -⟩ := Fields.split_of_get? hget
      exact hvalues (key, value) (by simp)

/-! ### What equality says -/

theorem Number.equal_self (n : Number) : n.equal n = true := by
  cases n with
  | int n => exact beq_self_eq_true n
  | float x => rw [Number.equal, Binary64.numericEq, beq_self_eq_true, Bool.or_true]

theorem itemsEqual_iff {vs ws : List Value} :
    itemsEqual vs ws = true ↔ List.Forall₂ (fun v w => v.equal w = true) vs ws := by
  induction vs generalizing ws with
  | nil => cases ws <;> simp [itemsEqual]
  | cons v vs ih => cases ws <;> simp [itemsEqual, ih]

theorem fieldsWithin_iff {fs gs : List (String × Value)} :
    fieldsWithin fs gs = true ↔
      ∀ e ∈ fs, ∃ w, Fields.get? gs e.1 = some w ∧ e.2.equal w = true := by
  induction fs with
  | nil => simp [fieldsWithin]
  | cons e fs ih =>
      obtain ⟨key, v⟩ := e
      rw [fieldsWithin, Bool.and_eq_true, ih, List.forall_mem_cons]
      refine and_congr_left' ?_
      cases Fields.get? gs key <;> simp

theorem Value.equal_obj_iff {fs gs : Fields} :
    (Value.obj fs).equal (.obj gs) = true ↔
      fs.length = gs.length ∧
        ∀ e ∈ fs, ∃ w, Fields.get? gs e.1 = some w ∧ e.2.equal w = true := by
  rw [Value.equal, Bool.and_eq_true, beq_iff_eq, fieldsWithin_iff]

/-- **A value is equal to itself**, if the objects within it are maps. -/
theorem Value.equal_self {v : Value} (h : v.DistinctKeys) : v.equal v = true := by
  induction h with
  | null => rfl
  | bool b => exact beq_self_eq_true b
  | num n => exact n.equal_self
  | str s => exact beq_self_eq_true s
  | arr _ ih => exact itemsEqual_iff.2 (List.forall₂_same.2 ih)
  | obj hkeys _ ih =>
      exact equal_obj_iff.2 ⟨rfl, fun e he => ⟨e.2, hkeys.get?_of_mem he, ih e he⟩⟩

/-- The entries of two objects agree one by one, if those of the second are put in some order. -/
def Fields.Matched (fs gs : Fields) : Prop :=
  ∃ gs' : Fields, gs.Perm gs' ∧ List.Forall₂ SameEntry fs gs'

/-- **Equal objects have the same entries** up to their order, if the first one is a map. -/
theorem Fields.matched_of_equal {fs gs : Fields} (hkeys : fs.Distinct)
    (h : (Value.obj fs).equal (.obj gs) = true) : fs.Matched gs := by
  rw [Value.equal_obj_iff] at h
  obtain ⟨hlength, hwithin⟩ := h
  -- The partner of the first entry is taken out of the second object.
  induction fs generalizing gs with
  | nil =>
      obtain rfl : gs = [] := List.length_eq_zero_iff.1 hlength.symm
      exact ⟨[], .refl [], .nil⟩
  | cons e fs ih =>
      rw [Distinct, keys, List.map_cons, List.nodup_cons] at hkeys
      rw [List.forall_mem_cons] at hwithin
      obtain ⟨⟨w, hget, hw⟩, hrest⟩ := hwithin
      obtain ⟨before, after, rfl, hothers⟩ := split_of_get? hget
      have hlength' : fs.length = (before ++ after).length := by
        simp only [List.length_cons, List.length_append] at hlength ⊢
        omega
      have hwithin' : ∀ e' ∈ fs, ∃ w, get? (before ++ after) e'.1 = some w ∧
          e'.2.equal w = true := by
        intro e' he'
        have hne : e'.1 ≠ e.1 := fun heq => hkeys.1 (heq ▸ List.mem_map_of_mem he')
        rw [hothers _ hne]
        exact hrest e' he'
      obtain ⟨gs', hperm, hmatch⟩ := ih hkeys.2 hlength' hwithin'
      exact ⟨(e.1, w) :: gs', List.perm_middle.trans (hperm.cons _), .cons ⟨rfl, hw⟩ hmatch⟩

end BlockSheet.Json
