import BlockSheet.Proofs.Style.Decoded
import BlockSheet.Proofs.Text.Case
import BlockSheet.Proofs.Text.Pattern
import BlockSheet.Style.Declaration

/-!
# Normal forms of declarations

A declaration that was made of a string may be given back as a property and a string, as by an
editor that shows what it has written. It then makes the same declaration
(`Declaration.ofLeaf?_again`). Four things are done to the text, and each has to be stable on what
all of them together leave behind.

* **Names.** What is put in lower case has no capitals but those without another form. Such a
  capital follows a hyphen already, unless what precedes it is no letter and no digit, and then that
  stands there still (`dashedFrom_again`).
* **Values.** A unit is added to digits, dots and minus signs only, so neither the unit nor the
  `!important` behind it completes a code, and a value with a unit takes no other
  (`completed_cases`).
-/

namespace BlockSheet.Style

open Text (isAlphanumeric isUppercase lowercase IsLower lowercase_cases)

/-! ### Names -/

/-- A name is put in dash-case behind any characters that stay as they are; the last one of them is
what then precedes it. -/
theorem dashedFrom_append {front : List Char} (hfront : ∀ x ∈ front, IsLower x)
    (previous : Option Char) (name : List Char) :
    dashedFrom previous (front ++ name) =
      front ++ dashedFrom (front.getLast?.or previous) name := by
  induction front generalizing previous with
  | nil => rfl
  | cons x front ih =>
      rw [List.forall_mem_cons] at hfront
      obtain ⟨hform, hupper⟩ := hfront.1
      have hlast : (x :: front).getLast?.or previous = front.getLast?.or (some x) := by
        rw [List.getLast?_cons]
        cases front.getLast? <;> rfl
      rw [List.cons_append, dashedFrom, hform, hupper, ih hfront.2, hlast]
      rfl

/-- A hyphen stays, and nothing is put between it and what follows. -/
theorem dashedFrom_hyphen (previous : Option Char) (name : List Char) :
    dashedFrom previous ('-' :: name) = '-' :: dashedFrom (some '-') name := by
  have hform : lowercase '-' = ['-'] := by decide +kernel
  have hupper : isUppercase '-' = false := by decide +kernel
  rw [dashedFrom, hform, hupper]
  rfl

/-- A lower-case form stays, if it is no capital or stands behind no letter or digit. What is then
in front of the rest is a letter or a digit only if the character was. -/
theorem exists_dashedFrom_lowercase {previous : Option Char} {c : Char}
    (hc : isUppercase c = true → previous.any isAlphanumeric = false) (name : List Char) :
    ∃ previous', (previous'.any isAlphanumeric = true → isAlphanumeric c = true) ∧
      dashedFrom previous (lowercase c ++ name) = lowercase c ++ dashedFrom previous' name := by
  rcases lowercase_cases c with hform | ⟨halnum, hlower⟩
  · refine ⟨some c, id, ?_⟩
    have hhyphen : (isUppercase c && previous.any isAlphanumeric) = false := by
      cases hupper : isUppercase c with
      | false => rfl
      | true => rw [hc hupper, Bool.and_false]
    rw [hform, List.singleton_append, dashedFrom, hform, hhyphen]
    rfl
  · exact ⟨_, fun _ => halnum, dashedFrom_append hlower previous name⟩

/-- **A name in dash-case stays as it is.** What stands in front of it must not be a letter or a
digit where it was none at first. -/
theorem dashedFrom_again {previous previous' : Option Char}
    (hprevious : previous'.any isAlphanumeric = true → previous.any isAlphanumeric = true)
    (name : List Char) :
    dashedFrom previous' (dashedFrom previous name) = dashedFrom previous name := by
  induction name generalizing previous previous' with
  | nil => rfl
  | cons c name ih =>
      rw [dashedFrom, List.append_assoc]
      cases hhyphen : isUppercase c && previous.any isAlphanumeric with
      | true =>
          have hc : isUppercase c = true → (some '-').any isAlphanumeric = false :=
            fun _ => by decide +kernel
          obtain ⟨next, hnext, h⟩ := exists_dashedFrom_lowercase hc (dashedFrom (some c) name)
          rw [if_pos rfl, List.singleton_append, dashedFrom_hyphen, h, ih hnext]
      | false =>
          have hc : isUppercase c = true → previous'.any isAlphanumeric = false := by
            intro hupper
            rw [hupper, Bool.true_and] at hhyphen
            exact eq_false_of_ne_true fun h => by simp [hprevious h] at hhyphen
          obtain ⟨next, hnext, h⟩ := exists_dashedFrom_lowercase hc (dashedFrom (some c) name)
          rw [if_neg Bool.false_ne_true, List.nil_append, h, ih hnext]

theorem dashed_again (name : String) : dashed (dashed name) = dashed name := by
  rw [dashed, dashed, String.toList_ofList, dashedFrom_again id]

/-! ### Codes in values -/

/-- A text without the letter that begins the codes holds none. -/
theorem valueChars_of_not_mem (escapes : Escapes) {text : List Char} (h : 'u' ∉ text) :
    escapes.valueChars text = text := by
  cases escapes with
  | plain => rfl
  | legacy =>
      refine decodeCodes_eq_self fun k _ hoccurs => h (hoccurs.subset ?_)
      rw [k.spelling_eq]
      exact List.mem_cons_self

/-- A decoded value is decoded. -/
theorem valueChars_again (escapes : Escapes) (text : List Char) :
    escapes.valueChars (escapes.valueChars text) = escapes.valueChars text := by
  cases escapes with
  | plain => rfl
  | legacy => exact decodeCodes_eq_self fun k hk => not_infix_decodeCodes hk text

/-! ### Units -/

/-- A decoded value with its unit, which goes in front of an `!important` at the end. -/
def completed (decoded : List Char) : List Char :=
  match Text.before? importantEnd decoded with
  | some bare => withUnit bare ++ importantEnd
  | none => withUnit decoded

theorem stringValue_eq (escapes : Escapes) (s : List Char) :
    stringValue escapes s = completed (escapes.valueChars s) := rfl

theorem withUnit_cases (value : List Char) :
    withUnit value = value ∨
      (∀ c ∈ value, isNumeric c = true) ∧ withUnit value = value ++ pixels := by
  rw [withUnit]
  cases hall : value.all isNumeric with
  | false => exact .inl rfl
  | true => exact .inr ⟨List.all_eq_true.1 hall, rfl⟩

/-- A value with a unit takes no other. -/
theorem withUnit_append_pixels (value : List Char) :
    withUnit (value ++ pixels) = value ++ pixels := by
  have hunit : (value ++ pixels).all isNumeric = false := by
    rw [List.all_append, Bool.and_eq_false_iff]
    exact .inr (by decide)
  rw [withUnit, hunit]
  rfl

/-- **A completed value** is the value itself, or a bare number with its unit, be it important or
not. -/
theorem completed_cases (decoded : List Char) :
    completed decoded = decoded ∨ ∃ bare, (∀ c ∈ bare, isNumeric c = true) ∧
      (completed decoded = bare ++ pixels ∨
        completed decoded = bare ++ pixels ++ importantEnd) := by
  rw [completed]
  cases hend : Text.before? importantEnd decoded with
  | none =>
      rcases withUnit_cases decoded with h | ⟨hbare, h⟩
      · exact .inl h
      · exact .inr ⟨decoded, hbare, .inl h⟩
  | some bare =>
      dsimp only
      rcases withUnit_cases bare with h | ⟨hbare, h⟩
      · exact .inl (by rw [h, Text.before?_eq_some.1 hend])
      · exact .inr ⟨bare, hbare, .inr (by rw [h])⟩

/-- A bare number with its unit does not end in `!important`. -/
theorem before?_importantEnd_pixels (bare : List Char) :
    Text.before? importantEnd (bare ++ pixels) = none := by
  rw [Text.before?_eq_none_iff]
  rintro ⟨front, h⟩
  have hlast := congrArg List.getLast? h
  have hpixels : pixels.getLast? = some 'x' := rfl
  have himportant : importantEnd.getLast? = some 't' := by decide
  rw [List.getLast?_append, List.getLast?_append, hpixels, himportant, Option.some_or,
    Option.some_or] at hlast
  exact absurd (Option.some.inj hlast) (by decide)

theorem completed_again (decoded : List Char) :
    completed (completed decoded) = completed decoded := by
  rcases completed_cases decoded with h | ⟨bare, -, h | h⟩
  · rw [h, h]
  · rw [h, completed, before?_importantEnd_pixels]
    exact withUnit_append_pixels bare
  · rw [h, completed, Text.before?_eq_some.2 rfl]
    exact congrArg (· ++ importantEnd) (withUnit_append_pixels bare)

/-- A completed value is still decoded. -/
theorem valueChars_completed (escapes : Escapes) (text : List Char) :
    escapes.valueChars (completed (escapes.valueChars text)) =
      completed (escapes.valueChars text) := by
  have hpixels : 'u' ∉ pixels := by decide
  have himportant : 'u' ∉ importantEnd := by decide
  rcases completed_cases (escapes.valueChars text) with h | ⟨bare, hbare, h⟩
  · rw [h, valueChars_again]
  · have hbare' : 'u' ∉ bare := fun hmem => absurd (hbare _ hmem) (by decide)
    refine valueChars_of_not_mem escapes ?_
    rcases h with h | h <;> simp [h, hbare', hpixels, himportant]

/-! ### Declarations -/

/-- **Normal forms.** A string makes a declaration, and the declaration given back as a property and
a string makes itself. Its property is in dash-case and its value is decoded. -/
theorem Declaration.ofLeaf?_again (escapes : Escapes) (property s : String) :
    ∃ d, ofLeaf? escapes property (.str s) = some d ∧
      ofLeaf? escapes d.property (.str d.value) = some d ∧
      dashed d.property = d.property ∧ escapes.decodeValue d.value = d.value := by
  have hvalue : escapes.valueChars (stringValue escapes s.toList) =
      stringValue escapes s.toList := by rw [stringValue_eq, valueChars_completed]
  refine ⟨⟨dashed property, String.ofList (stringValue escapes s.toList)⟩, rfl, ?_,
    dashed_again property, ?_⟩
  · rw [ofLeaf?, leafValue?, Option.map_some, dashed_again, String.toList_ofList,
      stringValue_eq escapes (stringValue _ _), hvalue, stringValue_eq, completed_again]
  · rw [Escapes.decodeValue, String.toList_ofList, hvalue]

end BlockSheet.Style
