import BlockSheet.Proofs.Decimal.Notation
import BlockSheet.Proofs.Style.Normalized

/-!
# Units

Which values of properties get a unit, seen from three sides.

* A string gets one if its decoded value is made of digits, points and minus signs
  (`withUnit_eq`).
* An `!important` at the end does not matter for that (`Declaration.ofLeaf?_important`). No code
  reaches across the blank in front of it, so a text is decoded up to there as if it ended there.
* Of a number it does not matter whether it is given as such or as a string that holds its text
  (`Declaration.ofLeaf?_numberText`): a text without an exponent is a bare number.
-/

namespace BlockSheet.Style

open Json (Value Number)
open Decimal (Numeral Layout isDigit isDigit_of_mem_digits integer)

/-! ### Bare numbers -/

theorem isNumeric_iff {c : Char} : isNumeric c = true ↔ isDigit c = true ∨ c = '.' ∨ c = '-' := by
  unfold isNumeric
  simp [or_assoc]

theorem isNumeric_iff_mem {c : Char} : isNumeric c = true ↔ c ∈ "0123456789.-".toList := by
  constructor
  · intro h
    rcases isNumeric_iff.1 h with hdigit | rfl | rfl
    · rw [isDigit, Bool.and_eq_true, decide_eq_true_iff, decide_eq_true_iff] at hdigit
      have hcode : 48 ≤ c.toNat ∧ c.toNat < 48 + 10 := ⟨hdigit.1, Nat.lt_succ_of_le hdigit.2⟩
      refine Text.char_of_forall_lt hcode ?_
      decide
    · decide
    · decide
  · have hall : "0123456789.-".toList.all isNumeric = true := by decide
    exact List.all_eq_true.1 hall c

/-- A unit is added to digits, points and minus signs. -/
theorem withUnit_eq (value : List Char) :
    withUnit value =
      if ∀ c ∈ value, c ∈ "0123456789.-".toList then value ++ pixels else value := by
  unfold withUnit
  simp only [List.all_eq_true, isNumeric_iff_mem]

/-! ### Important values -/

/-- Codes are decoded in parts, if the parts are divided by a character that occurs in none. -/
theorem decodeCodes_append_cons {codes : List LegacyCode} {b : Char}
    (hb : ∀ k ∈ codes, b ∉ k.spelling) (front back : List Char) :
    decodeCodes codes (front ++ b :: back) =
      decodeCodes codes front ++ b :: decodeCodes codes back := by
  induction codes generalizing front back with
  | nil => rfl
  | cons k codes ih =>
      rw [List.forall_mem_cons] at hb
      -- The divider is still there for the codes that are decoded after this one.
      have hscan := Text.replace_append_cons k.spelling_ne_nil hb.1 [k.char] front back
      rw [decodeCodes_cons, hscan, ih hb.2, ← decodeCodes_cons, ← decodeCodes_cons]

theorem valueChars_append_importantEnd (escapes : Escapes) (text : List Char) :
    escapes.valueChars (text ++ importantEnd) = escapes.valueChars text ++ importantEnd := by
  cases escapes with
  | plain => rfl
  | legacy =>
      have hblank : ∀ k ∈ valueCodes, ' ' ∉ k.spelling := by decide
      have hend : importantEnd = ' ' :: "!important".toList := by decide
      have hrest : decodeCodes valueCodes "!important".toList = "!important".toList :=
        valueChars_of_not_mem .legacy (by decide)
      show decodeCodes valueCodes _ = decodeCodes valueCodes text ++ importantEnd
      rw [hend, decodeCodes_append_cons hblank, hrest]

theorem completed_append_importantEnd (bare : List Char) :
    completed (bare ++ importantEnd) = withUnit bare ++ importantEnd := by
  unfold completed
  rw [Text.before?_eq_some.2 rfl]

theorem completed_of_not_suffix {decoded : List Char} (h : ¬ importantEnd <:+ decoded) :
    completed decoded = withUnit decoded := by
  unfold completed
  rw [Text.before?_eq_none_iff.2 h]

/-- **Importance and units.** A string whose decoded value does not end in `!important` has this
value, with a unit if it is a bare number. The string with an `!important` behind it has the same
property, and the same value with an `!important` behind it. -/
theorem Declaration.ofLeaf?_important (escapes : Escapes) (property s : String)
    (h : ¬ " !important".toList <:+ (escapes.decodeValue s).toList) :
    ∃ value, ofLeaf? escapes property (.str s) = some ⟨dashed property, value⟩ ∧
      ofLeaf? escapes property (.str (s ++ " !important")) =
        some ⟨dashed property, value ++ " !important"⟩ ∧
      value =
        if ∀ c ∈ (escapes.decodeValue s).toList, c ∈ "0123456789.-".toList then
          escapes.decodeValue s ++ "px"
        else escapes.decodeValue s := by
  have hend : ¬ importantEnd <:+ escapes.valueChars s.toList := by
    intro hsuffix
    refine h ?_
    show importantEnd <:+ (String.ofList (escapes.valueChars s.toList)).toList
    rwa [String.toList_ofList]
  have hvalue : stringValue escapes s.toList = withUnit (escapes.valueChars s.toList) := by
    rw [stringValue_eq, completed_of_not_suffix hend]
  have himportant : stringValue escapes (s ++ " !important").toList =
      withUnit (escapes.valueChars s.toList) ++ importantEnd := by
    rw [String.toList_append]
    show stringValue escapes (s.toList ++ importantEnd) = _
    rw [stringValue_eq, valueChars_append_importantEnd, completed_append_importantEnd]
  refine ⟨String.ofList (withUnit (escapes.valueChars s.toList)), ?_, ?_, ?_⟩
  · rw [ofLeaf?, leafValue?, hvalue, Option.map_some]
  · rw [ofLeaf?, leafValue?, himportant, Option.map_some, String.ofList_append]
    rfl
  · rw [Escapes.decodeValue, String.toList_ofList, withUnit_eq]
    split
    · rw [String.ofList_append]
      rfl
    · rfl

/-- A zero between two codes, which is no bare number before its decoding nor after it. -/
theorem Declaration.ofLeaf?_important_quoted :
    ¬ " !important".toList <:+ (Escapes.legacy.decodeValue "u00270u0027").toList ∧
      ∃ value, ofLeaf? .legacy "content" (.str "u00270u0027") = some ⟨dashed "content", value⟩ ∧
        ofLeaf? .legacy "content" (.str ("u00270u0027" ++ " !important")) =
          some ⟨dashed "content", value ++ " !important"⟩ ∧
        value =
          if ∀ c ∈ (Escapes.legacy.decodeValue "u00270u0027").toList,
              c ∈ "0123456789.-".toList then
            Escapes.legacy.decodeValue "u00270u0027" ++ "px"
          else Escapes.legacy.decodeValue "u00270u0027" := by
  have h : ¬ " !important".toList <:+ (Escapes.legacy.decodeValue "u00270u0027").toList := by
    decide +kernel
  exact ⟨h, ofLeaf?_important .legacy "content" "u00270u0027" h⟩

/-! ### Numbers as strings -/

theorem isNumeric_of_mem_integer {n : ℤ} {c : Char} (hc : c ∈ integer n) : isNumeric c = true := by
  rw [isNumeric_iff]
  cases n with
  | ofNat n => exact .inl (isDigit_of_mem_digits hc)
  | negSucc n =>
      rcases List.mem_cons.1 hc with rfl | hc
      · exact .inr (.inr rfl)
      · exact .inl (isDigit_of_mem_digits hc)

/-- The text of a number is a bare number, unless there is an exponent in it. -/
theorem isNumeric_of_mem_numberChars {n : Number} (he : 'e' ∉ numberChars n) {c : Char}
    (hc : c ∈ numberChars n) : isNumeric c = true := by
  cases n with
  | int n => exact isNumeric_of_mem_integer hc
  | float x =>
      have htext : (cssLayout.numeralOf x).chars = numberChars (.float x) :=
        Layout.chars_numeralOf cssLayout x
      rw [← htext] at he hc
      have hexponent : (cssLayout.numeralOf x).exponent = none := by
        rw [Numeral.mem_chars_iff_isSome_exponent] at he
        simpa using he
      exact isNumeric_iff.2 (Numeral.mem_chars_of_exponent_eq_none hexponent hc)

/-- A string that holds a bare number gets a unit. -/
theorem stringValue_of_isNumeric (escapes : Escapes) {text : List Char}
    (h : ∀ c ∈ text, isNumeric c = true) : stringValue escapes text = text ++ pixels := by
  have hcode : 'u' ∉ text := fun hmem => absurd (h _ hmem) (by decide)
  have hend : ¬ importantEnd <:+ text := by
    intro hsuffix
    exact absurd (h '!' (hsuffix.subset (by decide))) (by decide)
  rw [stringValue_eq, valueChars_of_not_mem escapes hcode, completed_of_not_suffix hend, withUnit,
    if_pos (List.all_eq_true.2 h)]

/-- **Numbers and their texts.** A number that is not zero and has no exponent in its text makes
the same declaration of a property in pixels as the string that holds the text. -/
theorem Declaration.ofLeaf?_numberText (escapes : Escapes) {property : String}
    (hproperty : isPixelProperty (dashed property) = true) {n : Number}
    (hzero : n.isZero = false) (hexponent : 'e' ∉ numberChars n) :
    ∃ d, ofLeaf? escapes property (.num n) = some d ∧
      ofLeaf? escapes property (.str (String.ofList (numberChars n))) = some d := by
  refine ⟨⟨dashed property, String.ofList (numberChars n ++ pixels)⟩, ?_, ?_⟩
  · rw [ofLeaf?, leafValue?, numberValue, hzero, hproperty]
    rfl
  · have hnumeric : ∀ c ∈ numberChars n, isNumeric c = true :=
      fun _ => isNumeric_of_mem_numberChars hexponent
    rw [ofLeaf?, leafValue?, String.toList_ofList, stringValue_of_isNumeric escapes hnumeric,
      Option.map_some]

/-- The float `-0.000001`, which is close to the numbers with an exponent. -/
theorem Declaration.ofLeaf?_numberText_negative :
    isPixelProperty (dashed "marginTop") = true ∧
      (Number.float ⟨true, 4722366482869645, -72, by decide⟩).isZero = false ∧
      'e' ∉ numberChars (.float ⟨true, 4722366482869645, -72, by decide⟩) ∧
      ∃ d, ofLeaf? .legacy "marginTop"
          (.num (.float ⟨true, 4722366482869645, -72, by decide⟩)) = some d ∧
        ofLeaf? .legacy "marginTop" (.str (String.ofList
          (numberChars (.float ⟨true, 4722366482869645, -72, by decide⟩)))) = some d := by
  have hproperty : isPixelProperty (dashed "marginTop") = true := by decide +kernel
  have hexponent : 'e' ∉ numberChars (.float ⟨true, 4722366482869645, -72, by decide⟩) := by
    decide +kernel
  exact ⟨hproperty, rfl, hexponent, ofLeaf?_numberText .legacy hproperty rfl hexponent⟩

end BlockSheet.Style
