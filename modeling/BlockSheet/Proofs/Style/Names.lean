import BlockSheet.Proofs.Style.Normalized

/-!
# Spellings of property names

A property may be named in dash-case or in camelCase, where the hyphens are left out and the letters
behind them are capitals (`camelCased`). Putting the second spelling in dash-case gives the first
one, so the two make the same declarations (`Declaration.ofLeaf?_camelCase`).

Where a word begins is seen from one character and the one in front of it: a capital begins a word
because a letter or a digit precedes it. What precedes it is looked up in the name as it was given,
so that words of one letter, whose capital precedes the next one, are told apart as well.
-/

namespace BlockSheet.Style

open Text (isAlphanumeric isUppercase lowercase IsLower)

/-! ### Characters of names -/

/-- A character of a word: one of `a` to `z` and `0` to `9`. -/
def IsWordChar (c : Char) : Prop := c.isLower = true ∨ c.isDigit = true

instance (c : Char) : Decidable (IsWordChar c) := inferInstanceAs (Decidable (_ ∨ _))

theorem toNat_of_isLower {c : Char} (hc : c.isLower = true) : 97 ≤ c.toNat ∧ c.toNat < 97 + 26 := by
  unfold Char.isLower at hc
  rw [Bool.and_eq_true, decide_eq_true_iff, decide_eq_true_iff] at hc
  exact ⟨hc.1, Nat.lt_succ_of_le hc.2⟩

theorem toNat_of_isDigit {c : Char} (hc : c.isDigit = true) : 48 ≤ c.toNat ∧ c.toNat < 48 + 10 := by
  unfold Char.isDigit at hc
  rw [Bool.and_eq_true, decide_eq_true_iff, decide_eq_true_iff] at hc
  exact ⟨hc.1, Nat.lt_succ_of_le hc.2⟩

/-- The characters of words are letters and digits, and their own lower-case forms. -/
theorem IsWordChar.facts {c : Char} (hc : IsWordChar c) : IsLower c ∧ isAlphanumeric c = true := by
  unfold IsLower
  rcases hc with hc | hc
  · refine Text.char_of_forall_lt (toNat_of_isLower hc) ?_
    decide +kernel
  · refine Text.char_of_forall_lt (toNat_of_isDigit hc) ?_
    decide +kernel

/-- The capital of a letter is a capital, and has the letter as its lower-case form. -/
theorem toUpper_facts {c : Char} (hc : c.isLower = true) :
    isUppercase c.toUpper = true ∧ lowercase c.toUpper = [c] ∧
      isAlphanumeric c.toUpper = true := by
  refine Text.char_of_forall_lt (toNat_of_isLower hc) ?_
  decide +kernel

/-! ### Names -/

/-- Leave out each hyphen and put the letter behind it in upper case. -/
def camelCased : List Char → List Char
  | [] => []
  | '-' :: c :: name => c.toUpper :: camelCased name
  | c :: name => c :: camelCased name

/-- A word that may stand behind a hyphen: it begins with a letter. -/
def IsLaterWord : List Char → Prop
  | [] => False
  | c :: word => c.isLower = true ∧ ∀ x ∈ word, IsWordChar x

/-- A name in dash-case. -/
structure DashedName where
  /-- The first word, which may begin with a digit. -/
  first : List Char
  others : List (List Char)
  first_ne_nil : first ≠ []
  isWordChar_first : ∀ c ∈ first, IsWordChar c
  isLaterWord_others : ∀ word ∈ others, IsLaterWord word

namespace DashedName

/-- The name: its words, joined by hyphens. -/
def text (name : DashedName) : String :=
  String.ofList (Text.joined ['-'] (name.first :: name.others))

def camelCase (name : DashedName) : String := String.ofList (camelCased name.text.toList)

end DashedName

theorem camelCased_hyphen (c : Char) (name : List Char) :
    camelCased ('-' :: c :: name) = c.toUpper :: camelCased name := rfl

/-- Words stay as they are. -/
theorem camelCased_append {word : List Char} (hword : '-' ∉ word) (name : List Char) :
    camelCased (word ++ name) = word ++ camelCased name := by
  induction word with
  | nil => rfl
  | cons c word ih =>
      rw [List.mem_cons, not_or] at hword
      have hc : ∀ c' name', c = '-' → word ++ name = c' :: name' → False :=
        fun _ _ heq _ => hword.1 heq.symm
      rw [List.cons_append, camelCased, ih hword.2, List.cons_append]
      exact hc

theorem not_mem_of_isWordChar {word : List Char} (hword : ∀ c ∈ word, IsWordChar c) :
    '-' ∉ word := fun hmem => absurd (hword '-' hmem) (by decide)

/-! ### Words put back -/

/-- A letter or a digit precedes what stands behind a word, also if the word is empty. -/
theorem any_getLast?_or {previous : Option Char} {word : List Char}
    (hword : ∀ c ∈ word, IsWordChar c)
    (hprevious : word = [] → previous.any isAlphanumeric = true) :
    (word.getLast?.or previous).any isAlphanumeric = true := by
  cases hlast : word.getLast? with
  | none => exact hprevious (List.getLast?_eq_none_iff.1 hlast)
  | some c => exact (hword c (List.mem_of_getLast? hlast)).facts.2

theorem dashedFrom_word {word : List Char} (hword : ∀ c ∈ word, IsWordChar c)
    (previous : Option Char) (name : List Char) :
    dashedFrom previous (word ++ camelCased name) =
      word ++ dashedFrom (word.getLast?.or previous) (camelCased name) :=
  dashedFrom_append (fun c hc => (hword c hc).facts.1) previous _

/-- Behind a letter or a digit, each capital begins a word. -/
theorem dashedFrom_camelCased_others {others : List (List Char)}
    (hothers : ∀ word ∈ others, IsLaterWord word) {previous : Option Char}
    (hprevious : previous.any isAlphanumeric = true) :
    dashedFrom previous (camelCased (others.flatMap ('-' :: ·))) = others.flatMap ('-' :: ·) := by
  induction others generalizing previous with
  | nil => rfl
  | cons word others ih =>
      rw [List.forall_mem_cons] at hothers
      cases word with
      | nil => exact hothers.1.elim
      | cons c word =>
          obtain ⟨⟨hc, hword⟩, hothers⟩ := hothers
          obtain ⟨hupper, hform, halnum⟩ := toUpper_facts hc
          -- In a word of one letter its capital is what precedes the next word.
          have hbehind : (word.getLast?.or (some c.toUpper)).any isAlphanumeric = true :=
            any_getLast?_or hword fun _ => halnum
          rw [List.flatMap_cons, List.cons_append, List.cons_append, camelCased_hyphen,
            camelCased_append (not_mem_of_isWordChar hword), dashedFrom, hupper, hprevious, hform,
            dashedFrom_word hword, ih hothers hbehind]
          rfl

/-- **Dash-case undoes camelCase.** -/
theorem DashedName.dashed_camelCase (name : DashedName) : dashed name.camelCase = name.text := by
  have hwords := name.isWordChar_first
  have hbehind : (name.first.getLast?.or none).any isAlphanumeric = true :=
    any_getLast?_or hwords fun hnil => absurd hnil name.first_ne_nil
  unfold dashed camelCase text
  rw [String.toList_ofList, String.toList_ofList, Text.joined_cons,
    camelCased_append (not_mem_of_isWordChar hwords), dashedFrom_word hwords,
    dashedFrom_camelCased_others name.isLaterWord_others hbehind]

/-- **Spellings of a property.** A name in camelCase is put in dash-case by going back to the name
that it was made of, and both make the same declaration of any value. -/
theorem Declaration.ofLeaf?_camelCase (name : DashedName) :
    dashed name.camelCase = name.text ∧ ∀ escapes value,
      ofLeaf? escapes name.camelCase value = ofLeaf? escapes name.text value := by
  have htext : dashed name.text = name.text := by
    rw [← name.dashed_camelCase]
    exact dashed_again name.camelCase
  refine ⟨name.dashed_camelCase, ?_⟩
  intro escapes value
  unfold ofLeaf?
  rw [name.dashed_camelCase, htext]

example : ∃ name : DashedName, name.text = "grid2-a-b-col" ∧ name.camelCase = "grid2ABCol" :=
  ⟨⟨"grid2".toList, ["a".toList, "b".toList, "col".toList], by decide, by simp [IsWordChar],
    by simp [IsLaterWord, IsWordChar]⟩, by decide, by decide⟩

end BlockSheet.Style
