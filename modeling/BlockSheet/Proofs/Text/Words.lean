import BlockSheet.Text.Blank
import BlockSheet.Proofs.Text.Pattern

/-!
# Words of a text

A blank belongs to no word, so the words of a text are those in front of a blank followed by those
behind it (`words_append_cons`). Everything else about words comes from this equation and from what
a text without blanks is: a single word, if it is not empty (`words_of_isWord`). In particular words
that are joined with single spaces are read back as they were (`words_joined`).
-/

namespace BlockSheet.Text

/-- The text is a word: it is not empty and holds no blank. -/
structure IsWord (word : List Char) : Prop where
  ne_nil : word ≠ []
  not_blank : ∀ c ∈ word, isBlank c = false

/-! ### Pieces between blanks -/

theorem splitAtBlanks_ne_nil (text : List Char) : splitAtBlanks text ≠ [] := by
  cases text with
  | nil => exact List.cons_ne_nil _ _
  | cons c text =>
      rw [splitAtBlanks]
      split
      · exact List.cons_ne_nil _ _
      · split <;> exact List.cons_ne_nil _ _

/-- In front of a blank a piece ends. -/
theorem splitAtBlanks_blank {b : Char} (hb : isBlank b = true) (text : List Char) :
    splitAtBlanks (b :: text) = [] :: splitAtBlanks text := by
  rw [splitAtBlanks, if_pos hb]

/-- A character that is no blank goes to the front of the first piece. -/
theorem splitAtBlanks_cons {c : Char} (hc : isBlank c = false) {text piece : List Char}
    {pieces : List (List Char)} (h : splitAtBlanks text = piece :: pieces) :
    splitAtBlanks (c :: text) = (c :: piece) :: pieces := by
  rw [splitAtBlanks, hc, h]
  rfl

/-- A text is cut apart at a blank. -/
theorem splitAtBlanks_append_cons {b : Char} (hb : isBlank b = true) (front back : List Char) :
    splitAtBlanks (front ++ b :: back) = splitAtBlanks front ++ splitAtBlanks back := by
  induction front with
  | nil => exact splitAtBlanks_blank hb back
  | cons c front ih =>
      cases hc : isBlank c with
      | true => rw [List.cons_append, splitAtBlanks_blank hc, splitAtBlanks_blank hc, ih,
          List.cons_append]
      | false =>
          obtain ⟨piece, pieces, hfront⟩ := List.exists_cons_of_ne_nil (splitAtBlanks_ne_nil front)
          rw [hfront, List.cons_append] at ih
          rw [List.cons_append, splitAtBlanks_cons hc ih, splitAtBlanks_cons hc hfront,
            List.cons_append]

/-- A text without blanks is one piece. -/
theorem splitAtBlanks_eq_singleton {text : List Char} (h : ∀ c ∈ text, isBlank c = false) :
    splitAtBlanks text = [text] := by
  induction text with
  | nil => rw [splitAtBlanks]
  | cons c text ih =>
      rw [List.forall_mem_cons] at h
      exact splitAtBlanks_cons h.1 (ih h.2)

theorem not_blank_of_mem_splitAtBlanks {text : List Char} :
    ∀ piece ∈ splitAtBlanks text, ∀ c ∈ piece, isBlank c = false := by
  induction text with
  | nil => simp [splitAtBlanks]
  | cons c text ih =>
      cases hc : isBlank c with
      | true => simpa [splitAtBlanks_blank hc] using ih
      | false =>
          obtain ⟨piece, pieces, htext⟩ := List.exists_cons_of_ne_nil (splitAtBlanks_ne_nil text)
          rw [htext, List.forall_mem_cons] at ih
          rw [splitAtBlanks_cons hc htext, List.forall_mem_cons, List.forall_mem_cons]
          exact ⟨⟨hc, ih.1⟩, ih.2⟩

/-! ### Words -/

theorem isWord_of_mem_words {text word : List Char} (h : word ∈ words text) : IsWord word := by
  rw [words, List.mem_filter] at h
  exact ⟨by simpa using h.2, not_blank_of_mem_splitAtBlanks word h.1⟩

/-- **Words are told apart by blanks**: those of a text are those in front of a blank and those
behind it. -/
theorem words_append_cons {b : Char} (hb : isBlank b = true) (front back : List Char) :
    words (front ++ b :: back) = words front ++ words back := by
  rw [words, splitAtBlanks_append_cons hb, List.filter_append, words, words]

theorem words_of_isWord {word : List Char} (h : IsWord word) : words word = [word] := by
  rw [words, splitAtBlanks_eq_singleton h.not_blank]
  simp [h.ne_nil]

/-- Words that are joined with single spaces are the words of the joined text. -/
theorem words_joined {texts : List (List Char)} (h : ∀ text ∈ texts, IsWord text) :
    words (joined [' '] texts) = texts := by
  induction texts with
  | nil => rfl
  | cons text texts ih =>
      rw [List.forall_mem_cons] at h
      cases texts with
      | nil => exact words_of_isWord h.1
      | cons next texts =>
          rw [joined_cons_cons, List.append_assoc, List.singleton_append,
            words_append_cons (by decide), words_of_isWord h.1, ih h.2, List.singleton_append]

end BlockSheet.Text
