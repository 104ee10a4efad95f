import BlockSheet.Text.Pattern

/-!
# Patterns as parts of lists

What the pattern functions say in the vocabulary of lists: a text that begins with a pattern has it
as a prefix (`startsWith_iff`), and a text in which it occurs has it as an infix (`contains_iff`).
For `replace` there is one equation for each step of its scan, so that no proof about a replacement
has to look at how the scan is written. A character that the pattern lacks divides a text into parts
that are scanned apart (`replace_append_cons`).

A text is cut at the first character with a property in one way only (`cut_inj`), so what is written
up to a delimiter that it does not hold can be read back.

A text that spells a character by a pattern (`replaceChar`) has occurrences of the pattern for this
character, and no others than the text had before, if the pattern does not repeat its first
character. Hence replacing the pattern by the character undoes the spelling (`replace_replaceChar`).
-/

namespace BlockSheet.Text

/-! ### Occurrences -/

theorem startsWith_iff {pattern text : List Char} :
    startsWith pattern text = true ↔ pattern <+: text := by
  rw [startsWith, Option.isSome_iff_exists]
  constructor
  · rintro ⟨rest, h⟩
    exact ⟨rest, (after?_eq_some.1 h).symm⟩
  · rintro ⟨rest, rfl⟩
    exact ⟨rest, after?_append pattern rest⟩

theorem before?_eq_none_iff {pattern text : List Char} :
    before? pattern text = none ↔ ¬ pattern <:+ text := by
  rw [Option.eq_none_iff_forall_ne_some]
  constructor
  · rintro h ⟨front, hfront⟩
    exact h front (before?_eq_some.2 hfront.symm)
  · intro h front hfront
    exact h ⟨front, (before?_eq_some.1 hfront).symm⟩

theorem contains_iff {pattern text : List Char} :
    contains pattern text = true ↔ pattern <:+: text := by
  induction text with
  | nil => rw [contains, startsWith_iff, List.prefix_nil, List.infix_nil]
  | cons c text ih => rw [contains, Bool.or_eq_true, startsWith_iff, ih, List.infix_cons_iff]

theorem contains_eq_false_iff {pattern text : List Char} :
    contains pattern text = false ↔ ¬ pattern <:+: text := by
  rw [← contains_iff, Bool.not_eq_true]

/-- An occurrence does not begin in a text that lacks its first character. -/
theorem infix_of_infix_append {first : Char} {others front text : List Char}
    (hfront : first ∉ front) (h : first :: others <:+: front ++ text) :
    first :: others <:+: text := by
  induction front with
  | nil => exact h
  | cons c front ih =>
      rw [List.mem_cons, not_or] at hfront
      rcases List.infix_cons_iff.1 h with hprefix | hoccurs
      · exact absurd (List.cons_prefix_cons.1 hprefix).1 hfront.1
      · exact ih hfront.2 hoccurs

/-- A beginning of two texts that ends with `c` lies within the first one, or its last part is a
beginning of the second. -/
theorem concat_prefix_append {α : Type} {front xs ys : List α} {c : α}
    (h : front ++ [c] <+: xs ++ ys) :
    front ++ [c] <+: xs ∨ ∃ back, front = xs ++ back ∧ back ++ [c] <+: ys := by
  rcases List.prefix_or_prefix_of_prefix h (List.prefix_append xs ys) with hwithin | ⟨tail, htail⟩
  · exact .inl hwithin
  · rcases List.eq_nil_or_concat tail with rfl | ⟨back, d, rfl⟩
    · exact .inl ⟨[], by rw [← htail, List.append_nil, List.append_nil]⟩
    · rw [List.concat_eq_append, ← List.append_assoc] at htail
      obtain ⟨rfl, -⟩ := List.append_inj' htail rfl
      rw [List.append_assoc, List.prefix_append_right_inj] at h
      exact .inr ⟨back, rfl, h⟩

/-! ### Delimiters and separators -/

/-- **A text is cut at its first delimiter** in one way only. -/
theorem cut_inj {α : Type} {p : α → Prop} {xs ys us vs : List α} {a b : α}
    (hxs : ∀ x ∈ xs, ¬ p x) (hys : ∀ y ∈ ys, ¬ p y) (ha : p a) (hb : p b)
    (h : xs ++ a :: us = ys ++ b :: vs) : xs = ys ∧ a = b ∧ us = vs := by
  induction xs generalizing ys with
  | nil =>
      cases ys with
      | nil => exact ⟨rfl, List.cons.inj h⟩
      | cons y ys => exact absurd ((List.cons.inj h).1 ▸ ha) (hys y List.mem_cons_self)
  | cons x xs ih =>
      cases ys with
      | nil => exact absurd ((List.cons.inj h).1 ▸ hb) (hxs x List.mem_cons_self)
      | cons y ys =>
          rw [List.forall_mem_cons] at hxs hys
          obtain ⟨rfl, htail⟩ := List.cons.inj h
          obtain ⟨rfl, hrest⟩ := ih hxs.2 hys.2 htail
          exact ⟨rfl, hrest⟩

/-- Behind its first part a joined text has the separator and the next part, time and again. -/
theorem joined_cons (separator : Char) (part : List Char) (parts : List (List Char)) :
    joined [separator] (part :: parts) = part ++ parts.flatMap (separator :: ·) := by
  induction parts generalizing part with
  | nil => rw [joined_singleton, List.flatMap_nil, List.append_nil]
  | cons next parts ih =>
      rw [joined_cons_cons, ih, List.flatMap_cons, List.append_assoc, List.singleton_append,
        List.cons_append]

theorem joined_append (separator : List Char) {xs ys : List (List Char)} (hxs : xs ≠ [])
    (hys : ys ≠ []) :
    joined separator (xs ++ ys) = joined separator xs ++ separator ++ joined separator ys := by
  obtain ⟨y, ys, rfl⟩ := List.exists_cons_of_ne_nil hys
  induction xs with
  | nil => exact absurd rfl hxs
  | cons x xs ih =>
      cases xs with
      | nil => rw [List.singleton_append, joined_cons_cons, joined_singleton]
      | cons next xs =>
          rw [List.cons_append, List.cons_append, joined_cons_cons, ← List.cons_append,
            ih (List.cons_ne_nil _ _), joined_cons_cons]
          simp only [List.append_assoc]

/-- Strings are joined as the library joins them. -/
theorem join_eq_intercalate (separator : String) (texts : List String) :
    join separator texts = separator.intercalate texts := by
  rw [← String.toList_inj, join, String.toList_ofList, String.toList_intercalate]
  generalize texts.map String.toList = parts
  fun_induction joined separator.toList parts with
  | case1 => rfl
  | case2 text => rw [List.intercalate_singleton]
  | case3 text next texts ih => rw [List.intercalate_cons_cons, ih]

/-- Texts that are not empty are joined to an empty text only if there are none. -/
theorem join_eq_empty_iff (separator : String) {texts : List String}
    (h : ∀ text ∈ texts, text ≠ "") : join separator texts = "" ↔ texts = [] := by
  constructor
  · intro hjoin
    cases texts with
    | nil => rfl
    | cons text texts =>
        have hnil : joined separator.toList ((text :: texts).map String.toList) = [] := by
          rw [← String.toList_ofList (l := joined _ _), ← join, hjoin]
          rfl
        have htext : text.toList = [] := by
          cases texts with
          | nil => simpa using hnil
          | cons next texts =>
              rw [List.map_cons, List.map_cons, joined_cons_cons] at hnil
              exact (List.append_eq_nil_iff.1 (List.append_eq_nil_iff.1 hnil).1).1
        exact absurd (String.toList_eq_nil_iff.1 htext) (h text List.mem_cons_self)
  · rintro rfl
    rfl

/-- **Joining in parts**: two joined texts are joined to the text of all, where an empty one of the
two counts for nothing. -/
theorem join_append (separator : String) {xs ys : List String} (hxs : ∀ x ∈ xs, x ≠ "")
    (hys : ∀ y ∈ ys, y ≠ "") :
    join separator (xs ++ ys) =
      join separator ([join separator xs, join separator ys].filter fun text => text ≠ "") := by
  have hsingle : ∀ text, join separator [text] = text := by
    intro text
    rw [join, List.map_singleton, joined_singleton, String.ofList_toList]
  have hempty : join separator [] = "" := rfl
  by_cases hx : xs = []
  · by_cases hy : ys = []
    · simp [hx, hy, hempty]
    · have hjoin := mt (join_eq_empty_iff separator hys).1 hy
      simp [hx, hempty, hjoin, hsingle]
  · have hjoin := mt (join_eq_empty_iff separator hxs).1 hx
    by_cases hy : ys = []
    · simp [hy, hempty, hjoin, hsingle]
    · have hjoin' := mt (join_eq_empty_iff separator hys).1 hy
      have hboth : [join separator xs, join separator ys].filter (fun text => text ≠ "") =
          [join separator xs, join separator ys] := by simp [hjoin, hjoin']
      rw [hboth]
      simp only [join, List.map_append, List.map_cons, List.map_nil, String.toList_ofList,
        joined_cons_cons, joined_singleton]
      rw [joined_append separator.toList (by simpa using hx) (by simpa using hy)]

/-! ### Replacement, step by step -/

@[simp] theorem replace_cons_nil (first : Char) (others new : List Char) :
    replace (first :: others) new [] = [] := by
  rw [replace, substitute]

/-- The scan puts the new text in the place of an occurrence and goes on behind it. -/
theorem replace_append {pattern : List Char} (hpattern : pattern ≠ []) (new text : List Char) :
    replace pattern new (pattern ++ text) = new ++ replace pattern new text := by
  cases pattern with
  | nil => exact absurd rfl hpattern
  | cons first others =>
      have hstart : startsWith (first :: others) (first :: (others ++ text)) = true :=
        startsWith_iff.2 ⟨text, rfl⟩
      rw [List.cons_append, replace, substitute, if_pos hstart, List.drop_left]
      rfl

/-- Where no occurrence begins, the scan keeps the character. -/
theorem replace_cons_of_not_prefix {pattern : List Char} {c : Char} {text : List Char}
    (h : ¬ pattern <+: c :: text) (new : List Char) :
    replace pattern new (c :: text) = c :: replace pattern new text := by
  cases pattern with
  | nil => exact absurd (List.nil_prefix) h
  | cons first others =>
      have hstart : ¬ startsWith (first :: others) (c :: text) = true :=
        fun hstart => h (startsWith_iff.1 hstart)
      rw [replace, substitute, if_neg hstart]
      rfl

/-- The scan keeps a text without occurrences. -/
theorem replace_eq_self {pattern text : List Char} (hpattern : pattern ≠ [])
    (h : ¬ pattern <:+: text) (new : List Char) : replace pattern new text = text := by
  induction text with
  | nil =>
      obtain ⟨first, others, rfl⟩ := List.exists_cons_of_ne_nil hpattern
      exact replace_cons_nil first others new
  | cons c text ih =>
      rw [List.infix_cons_iff, not_or] at h
      have hkeep := replace_cons_of_not_prefix h.1 new
      rw [hkeep, ih h.2]

/-- The scan keeps a text that lacks the first character of the pattern. -/
theorem replace_append_of_not_mem {first : Char} {front : List Char} (hfront : first ∉ front)
    (others new text : List Char) :
    replace (first :: others) new (front ++ text) =
      front ++ replace (first :: others) new text := by
  induction front with
  | nil => rfl
  | cons c front ih =>
      rw [List.mem_cons, not_or] at hfront
      have hprefix : ¬ first :: others <+: c :: (front ++ text) :=
        fun hprefix => hfront.1 (List.cons_prefix_cons.1 hprefix).1
      rw [List.cons_append, replace_cons_of_not_prefix hprefix, ih hfront.2, List.cons_append]

/-- Induction along the scan: a text is empty, or an occurrence of the pattern begins it, or it has
a first character at which none begins. -/
@[elab_as_elim]
theorem scan_induction {pattern : List Char} (hpattern : pattern ≠ [])
    {motive : List Char → Prop} (nil : motive [])
    (occurrence : ∀ text, motive text → motive (pattern ++ text))
    (keep : ∀ c text, ¬ pattern <+: c :: text → motive text → motive (c :: text))
    (text : List Char) : motive text := by
  induction hn : text.length using Nat.strongRecOn generalizing text with
  | ind n ih =>
      cases text with
      | nil => exact nil
      | cons c text =>
          by_cases hprefix : pattern <+: c :: text
          · obtain ⟨rest, hrest⟩ := hprefix
            have hpos := List.length_pos_iff.2 hpattern
            have hlength := congrArg List.length hrest
            rw [List.length_append] at hlength
            rw [← hrest]
            exact occurrence rest (ih rest.length (by omega) rest rfl)
          · rw [List.length_cons] at hn
            exact keep c text hprefix (ih text.length (by omega) text rfl)

/-- A beginning without a character ends in front of it. -/
theorem prefix_of_prefix_append_cons {pattern front back : List Char} {b : Char}
    (hb : b ∉ pattern) (h : pattern <+: front ++ b :: back) : pattern <+: front := by
  induction front generalizing pattern with
  | nil =>
      cases pattern with
      | nil => exact List.prefix_refl []
      | cons p pattern =>
          rw [List.nil_append, List.cons_prefix_cons] at h
          exact absurd (h.1 ▸ List.mem_cons_self) hb
  | cons c front ih =>
      cases pattern with
      | nil => exact List.nil_prefix
      | cons p pattern =>
          rw [List.cons_append, List.cons_prefix_cons] at h
          rw [List.cons_prefix_cons]
          exact ⟨h.1, ih (fun hmem => hb (List.mem_cons_of_mem p hmem)) h.2⟩

/-- **The scan in parts**: no occurrence reaches across a character that the pattern lacks. -/
theorem replace_append_cons {pattern : List Char} (hpattern : pattern ≠ []) {b : Char}
    (hb : b ∉ pattern) (new front back : List Char) :
    replace pattern new (front ++ b :: back) =
      replace pattern new front ++ b :: replace pattern new back := by
  have hwithin : ∀ text, pattern <+: text ++ b :: back → pattern <+: text :=
    fun _ => prefix_of_prefix_append_cons hb
  induction front using scan_induction hpattern with
  | nil =>
      obtain ⟨first, others, rfl⟩ := List.exists_cons_of_ne_nil hpattern
      have hkeep : ¬ first :: others <+: b :: back := mt (hwithin []) (by simp)
      rw [List.nil_append, replace_cons_of_not_prefix hkeep, replace_cons_nil, List.nil_append]
  | occurrence front ih =>
      rw [List.append_assoc, replace_append hpattern, replace_append hpattern, ih,
        List.append_assoc]
  | keep c front hc ih =>
      have hkeep : ¬ pattern <+: c :: (front ++ b :: back) := mt (hwithin (c :: front)) hc
      rw [List.cons_append, replace_cons_of_not_prefix hkeep, replace_cons_of_not_prefix hc, ih,
        List.cons_append]

/-! ### Characters that are spelled by a pattern -/

theorem replaceChar_cons_self (char : Char) (new text : List Char) :
    replaceChar char new (char :: text) = new ++ replaceChar char new text := by
  simp [replaceChar]

theorem replaceChar_cons_of_ne {char c : Char} (h : c ≠ char) (new text : List Char) :
    replaceChar char new (c :: text) = c :: replaceChar char new text := by
  simp [replaceChar, h]

section Spelling

variable {char first : Char} {others front text : List Char}

/-- A beginning without the first character of the spelling is older than the spelling. -/
theorem prefix_of_prefix_replaceChar (hfront : first ∉ front)
    (h : front <+: replaceChar char (first :: others) text) : front <+: text := by
  induction front generalizing text with
  | nil => exact List.nil_prefix
  | cons p front ih =>
      rw [List.mem_cons, not_or] at hfront
      cases text with
      | nil => exact h
      | cons c text =>
          by_cases hc : c = char
          · rw [hc, replaceChar_cons_self, List.cons_append, List.cons_prefix_cons] at h
            exact absurd h.1.symm hfront.1
          · rw [replaceChar_cons_of_ne hc, List.cons_prefix_cons] at h
            rw [List.cons_prefix_cons]
            exact ⟨h.1, ih hfront.2 h.2⟩

/-- Where the scan meets a character that is not spelled, an occurrence is older than the
spelling. -/
theorem prefix_of_prefix_cons_replaceChar {c : Char} (hfront : first ∉ front)
    (h : first :: front <+: c :: replaceChar char (first :: others) text) :
    first :: front <+: c :: text := by
  rw [List.cons_prefix_cons] at h ⊢
  exact ⟨h.1, prefix_of_prefix_replaceChar hfront h.2⟩

/-- An occurrence that is not one of the spelling is older than the spelling. -/
theorem infix_of_infix_replaceChar (hfront : first ∉ front) (hothers : first ∉ others)
    (hne : ∀ rest, ¬ front <+: others ++ rest)
    (h : first :: front <:+: replaceChar char (first :: others) text) :
    first :: front <:+: text := by
  induction text with
  | nil => exact h
  | cons c text ih =>
      by_cases hc : c = char
      · rw [hc, replaceChar_cons_self, List.cons_append, List.infix_cons_iff,
          List.cons_prefix_cons] at h
        rcases h with h | h
        · exact absurd h.2 (hne _)
        · exact (ih (infix_of_infix_append hothers h)).trans (List.suffix_cons c text).isInfix
      · rw [replaceChar_cons_of_ne hc, List.infix_cons_iff] at h
        rw [List.infix_cons_iff]
        exact h.imp (prefix_of_prefix_cons_replaceChar hfront) ih

/-- An occurrence that has no character in common with the spelling is older than the spelling. -/
theorem infix_of_infix_replaceChar_of_disjoint {pattern : List Char}
    (hdisjoint : ∀ c ∈ first :: others, c ∉ pattern)
    (h : pattern <:+: replaceChar char (first :: others) text) : pattern <:+: text := by
  induction text with
  | nil => exact h
  | cons c text ih =>
      by_cases hc : c = char
      · rw [hc, replaceChar_cons_self] at h
        cases pattern with
        | nil => exact List.nil_infix
        | cons p pattern =>
            have hp : p ∉ first :: others := fun hmem => hdisjoint p hmem List.mem_cons_self
            exact List.infix_cons (ih (infix_of_infix_append hp h))
      · have hchars := replaceChar_cons_of_ne hc (first :: others) text
        rw [hchars, List.infix_cons_iff, ← hchars] at h
        have hfirst := hdisjoint first List.mem_cons_self
        rw [List.infix_cons_iff]
        exact h.imp (prefix_of_prefix_replaceChar hfirst) ih

/-- **Undoing a spelling**: the occurrences of the pattern are those of the spelled character. -/
theorem replace_replaceChar (hothers : first ∉ others) (h : ¬ first :: others <:+: text) :
    replace (first :: others) [char] (replaceChar char (first :: others) text) = text := by
  induction text with
  | nil => simp
  | cons c text ih =>
      rw [List.infix_cons_iff, not_or] at h
      by_cases hc : c = char
      · rw [hc, replaceChar_cons_self, replace_append (List.cons_ne_nil _ _), ih h.2,
          List.singleton_append]
      · rw [replaceChar_cons_of_ne hc, replace_cons_of_not_prefix, ih h.2]
        exact mt (prefix_of_prefix_cons_replaceChar hothers) h.1

end Spelling

end BlockSheet.Text
