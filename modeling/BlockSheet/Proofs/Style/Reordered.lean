import Mathlib.Data.List.Perm.Basic
import BlockSheet.Proofs.Json.Equality
import BlockSheet.Proofs.Style.Scopes

/-!
# Style trees that are equal as values

Equality of values sees neither the order of keys nor the sign of a zero, but a sheet shows both.
Equal style trees need not compile to the same CSS, then. This module says how far apart the sheets
can be: the same declarations are read off both, in the same places, but for their order and the
signs of zeros (`sameReadings_of_equal`).
-/

namespace BlockSheet.Style

open Json (Value Number Fields SameEntry)
open Decimal (Binary64)

/-! ### Zeros without a sign -/

/-- The declaration with a zero in the place of a negative zero. -/
def Declaration.unsigned (d : Declaration) : Declaration :=
  if d.value = "-0" then { d with value := "0" } else d

/-- The reading with a zero in the place of a negative zero. -/
def Reading.unsigned (r : Reading) : Reading := { r with declaration := r.declaration.unsigned }

/-- A zero has no unit, and is written as one digit. -/
theorem numberValue_of_isZero {x : Binary64} (h : x.isZero = true) (property : String) :
    numberValue property (.float x) = if x.negative then ['-', '0'] else ['0'] := by
  have hzero : (Number.float x).isZero = true := h
  rw [numberValue, hzero]
  simp only [Bool.not_true, Bool.false_and, Bool.false_eq_true, if_false, numberChars,
    Decimal.Layout.write, h, if_true]
  cases x.negative <;> rfl

theorem unsigned_of_isZero {x : Binary64} (h : x.isZero = true) (property : String) :
    Declaration.unsigned ⟨property, String.ofList (numberValue property (.float x))⟩ =
      ⟨property, "0"⟩ := by
  rw [numberValue_of_isZero h]
  cases x.negative <;> rfl

/-- Equal numbers have the same declaration, but for the sign of a zero. -/
theorem unsigned_ofLeaf?_num_of_equal (escapes : Escapes) (key : String) {m n : Number}
    (h : m.equal n = true) :
    (Declaration.ofLeaf? escapes key (.num m)).map Declaration.unsigned =
      (Declaration.ofLeaf? escapes key (.num n)).map Declaration.unsigned := by
  cases m with
  | int m =>
      cases n with
      | int n => rw [beq_iff_eq.1 h]
      | float y => cases h
  | float x =>
      cases n with
      | int n => cases h
      | float y =>
          rcases Bool.or_eq_true_iff.1 h with hzero | heq
          · rw [Bool.and_eq_true] at hzero
            simp only [Declaration.ofLeaf?, leafValue?, Option.map_some,
              unsigned_of_isZero hzero.1, unsigned_of_isZero hzero.2]
          · rw [beq_iff_eq.1 heq]

/-- Equal leaves have the same declaration, but for the sign of a zero. -/
theorem unsigned_ofLeaf?_of_equal (escapes : Escapes) (key : String) {v w : Value}
    (h : v.equal w = true) :
    (Declaration.ofLeaf? escapes key v).map Declaration.unsigned =
      (Declaration.ofLeaf? escapes key w).map Declaration.unsigned := by
  cases v with
  | null => cases w <;> first | rfl | cases h
  | bool b =>
      cases w with
      | bool b' => rw [beq_iff_eq.1 h]
      | _ => cases h
  | num m =>
      cases w with
      | num n => exact unsigned_ofLeaf?_num_of_equal escapes key h
      | _ => cases h
  | str s =>
      cases w with
      | str t => rw [beq_iff_eq.1 h]
      | _ => cases h
  | arr items =>
      cases w with
      | arr items' => rfl
      | _ => cases h
  | obj fields =>
      cases w with
      | obj fields' => rfl
      | _ => cases h

/-! ### The same readings -/

/-- Are the readings the same but for their order and the signs of zeros? -/
def SameReadings (rs rs' : List Reading) : Prop :=
  (rs.map Reading.unsigned).Perm (rs'.map Reading.unsigned)

namespace SameReadings

theorem refl (rs : List Reading) : SameReadings rs rs := List.Perm.refl _

theorem append {rs rs' ts ts' : List Reading} (h : SameReadings rs rs')
    (h' : SameReadings ts ts') : SameReadings (rs ++ ts) (rs' ++ ts') := by
  rw [SameReadings, List.map_append, List.map_append]
  exact List.Perm.append h h'

/-- Matching entries may be read off one by one. -/
theorem flatMap_of_matched {fs gs : Fields} (hmatched : fs.Matched gs)
    {readings : String × Value → List Reading}
    (h : ∀ e ∈ fs, ∀ e', SameEntry e e' → SameReadings (readings e) (readings e')) :
    SameReadings (fs.flatMap readings) (gs.flatMap readings) := by
  obtain ⟨gs', hperm, hentries⟩ := hmatched
  have hordered : SameReadings (fs.flatMap readings) (gs'.flatMap readings) := by
    clear hperm
    induction hentries with
    | nil => exact .refl _
    | @cons e e' fs gs' he _ ih =>
        rw [List.forall_mem_cons] at h
        rw [List.flatMap_cons, List.flatMap_cons]
        exact (h.1 e' he).append (ih h.2)
  exact hordered.trans ((hperm.flatMap_right readings).map _).symm

end SameReadings

/-! ### Levels -/

theorem sheetReadings_flatMap {α : Type} (preludes : List String) (xs : List α)
    (sheet : α → List Css) :
    sheetReadings preludes (xs.flatMap sheet) =
      xs.flatMap fun x => sheetReadings preludes (sheet x) := by
  induction xs with
  | nil => rw [List.flatMap_nil, List.flatMap_nil, sheetReadings_nil]
  | cons x xs ih => rw [List.flatMap_cons, List.flatMap_cons, sheetReadings_append, ih]

namespace Compiler

/-- What is read off the rule of a level for one of its entries. -/
def ownReadings (c : Compiler) (preludes : List String) (selector : String)
    (entry : String × Value) : List Reading :=
  (Declaration.ofLeaf? c.escapes entry.1 entry.2).toList.map
    (⟨preludes, c.resolveSelector selector, ·⟩)

/-- A level is read entry by entry, first for what the entries nest, then for their own
declarations. -/
theorem sheetReadings_sheet (c : Compiler) (preludes : List String) (fields : Tree)
    (selector : String) :
    sheetReadings preludes (c.sheet fields selector) =
      fields.flatMap (fun e => sheetReadings preludes (c.entrySheet selector e.1 e.2)) ++
        fields.flatMap (c.ownReadings preludes selector) := by
  rw [sheet_eq, sheetReadings_append, sheetReadings_flatMap, sheetReadings_ownRule,
    ownDeclarations_classify_eq, List.map_flatMap]
  rfl

/-- The same is read off levels whose entries match, if that is so for what the entries nest. -/
theorem sameReadings_sheet_of_matched (c : Compiler) {fs gs : Fields} (hmatched : fs.Matched gs)
    (preludes : List String) (selector : String)
    (h : ∀ e ∈ fs, ∀ w, e.2.equal w = true → SameReadings
      (sheetReadings preludes (c.entrySheet selector e.1 e.2))
      (sheetReadings preludes (c.entrySheet selector e.1 w))) :
    SameReadings (sheetReadings preludes (c.sheet fs selector))
      (sheetReadings preludes (c.sheet gs selector)) := by
  rw [sheetReadings_sheet, sheetReadings_sheet]
  refine SameReadings.append (.flatMap_of_matched hmatched ?_) (.flatMap_of_matched hmatched ?_)
  · intro e he e' hsame
    obtain ⟨key, w⟩ := e'
    obtain ⟨rfl, hequal⟩ := hsame
    exact h e he w hequal
  · intro e _ e' hsame
    obtain ⟨key, w⟩ := e'
    obtain ⟨rfl, hequal⟩ := hsame
    have hleaf := congrArg Option.toList (unsigned_ofLeaf?_of_equal c.escapes e.1 hequal)
    rw [Option.toList_map, Option.toList_map] at hleaf
    rw [SameReadings, ownReadings, ownReadings, List.map_map, List.map_map]
    have hreading : Reading.unsigned ∘ Reading.mk preludes (c.resolveSelector selector) =
        Reading.mk preludes (c.resolveSelector selector) ∘ Declaration.unsigned := rfl
    rw [hreading, ← List.map_map, ← List.map_map, hleaf]

/-- A value that is equal to a leaf is a leaf. -/
theorem level?_eq_none_of_equal {v w : Value} (h : v.equal w = true) (hv : level? v = none) :
    level? w = none := by
  cases w with
  | arr items' => cases v <;> first | cases h | cases hv
  | obj fields' => cases v <;> first | cases h | cases hv
  | _ => rfl

/-- Leaves nest nothing. -/
theorem sameReadings_entrySheet_of_leaf (c : Compiler) {v w : Value} (hv : level? v = none)
    (hw : level? w = none) (preludes : List String) (selector key : String) :
    SameReadings (sheetReadings preludes (c.entrySheet selector key v))
      (sheetReadings preludes (c.entrySheet selector key w)) := by
  rw [entrySheet, entrySheet, hv, hw]
  exact .refl _

/-- The same is read off two scopes under one key, if it is read off their levels everywhere. -/
theorem sameReadings_entrySheet_of_level (c : Compiler) {v w : Value} {fs gs : Fields}
    (hv : level? v = some fs) (hw : level? w = some gs)
    (hlevel : ∀ preludes selector, SameReadings (sheetReadings preludes (c.sheet fs selector))
      (sheetReadings preludes (c.sheet gs selector)))
    (preludes : List String) (selector key : String) :
    SameReadings (sheetReadings preludes (c.entrySheet selector key v))
      (sheetReadings preludes (c.entrySheet selector key w)) := by
  rw [entrySheet, entrySheet, hv, hw]
  simp only
  cases breakpoint? key with
  | some breakpoint =>
      rw [sheetReadings_wrap, sheetReadings_wrap]
      exact hlevel _ _
  | none =>
      cases isSupportsKey key with
      | true =>
          rw [if_pos rfl, if_pos rfl, sheetReadings_wrap, sheetReadings_wrap]
          exact hlevel _ _
      | false => exact hlevel _ _

/-! ### Arrays as levels -/

/-- The items of equal arrays match under their indices. -/
theorem matched_indexed {items items' : List Value}
    (h : List.Forall₂ (fun v w => v.equal w = true) items items') (index : Nat) :
    Fields.Matched (indexed index items) (indexed index items') := by
  refine ⟨_, .refl _, ?_⟩
  induction h generalizing index with
  | nil => exact .nil
  | cons hvalue _ ih => exact .cons ⟨rfl, hvalue⟩ (ih (index + 1))

/-! ### Equal trees -/

/-- Equal values nest the same readings in every place. -/
theorem sameReadings_entrySheet (c : Compiler) {v : Value} (hkeys : v.DistinctKeys) :
    ∀ w, v.equal w = true → ∀ preludes selector key,
      SameReadings (sheetReadings preludes (c.entrySheet selector key v))
        (sheetReadings preludes (c.entrySheet selector key w)) := by
  induction hkeys with
  | null => exact fun w h => c.sameReadings_entrySheet_of_leaf rfl (level?_eq_none_of_equal h rfl)
  | bool b => exact fun w h => c.sameReadings_entrySheet_of_leaf rfl (level?_eq_none_of_equal h rfl)
  | num n => exact fun w h => c.sameReadings_entrySheet_of_leaf rfl (level?_eq_none_of_equal h rfl)
  | str s => exact fun w h => c.sameReadings_entrySheet_of_leaf rfl (level?_eq_none_of_equal h rfl)
  | @arr items _ ih =>
      intro w h
      cases w with
      | arr items' =>
          have hmatched := matched_indexed (Json.itemsEqual_iff.1 h) 0
          refine c.sameReadings_entrySheet_of_level rfl rfl fun preludes selector => ?_
          exact c.sameReadings_sheet_of_matched hmatched preludes selector fun e he w hw =>
            ih e.2 (mem_of_mem_indexed he) w hw preludes selector e.1
      | _ => cases h
  | @obj fields hkeys _ ih =>
      intro w h
      cases w with
      | obj fields' =>
          have hmatched := Fields.matched_of_equal hkeys h
          refine c.sameReadings_entrySheet_of_level rfl rfl fun preludes selector => ?_
          exact c.sameReadings_sheet_of_matched hmatched preludes selector fun e he w hw =>
            ih e he w hw preludes selector e.1
      | _ => cases h

/-- **Equal style trees show the same declarations**, in the same places, but for their order and
the signs of zeros. -/
theorem sameReadings_of_equal (c : Compiler) {tree tree' : Tree}
    (hkeys : (Value.obj tree).DistinctKeys) (h : (Value.obj tree).equal (.obj tree') = true)
    (ancestor : String) :
    SameReadings (sheetReadings [] (c.sheet tree ancestor))
      (sheetReadings [] (c.sheet tree' ancestor)) := by
  cases hkeys with
  | obj hdistinct hvalues =>
      exact c.sameReadings_sheet_of_matched (Fields.matched_of_equal hdistinct h) [] ancestor
        fun e he w hw => c.sameReadings_entrySheet (hvalues e he) w hw [] ancestor e.1

end Compiler

end BlockSheet.Style
