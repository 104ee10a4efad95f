import BlockSheet.Style.Compiler
import BlockSheet.Proofs.Text.Pattern

/-!
# Texts with legacy codes

A legacy export spells some characters of a text as codes. `Spelled codes s t` says that `s` is such
a spelling of `t`: character by character the same, but for characters of `codes` that `s` gives as
their codes. Characters of the text itself may look like parts of codes, and even like whole ones.

The codes are made so that none of this is ever ambiguous. Each begins with `u`, holds no other `u`
and none of the characters that stand for codes; so two codes never overlap, and no code is
completed by what stands next to it. Main statements:

* decoding does not see in which spelling it gets a text (`Spelled.decodeCodes_eq`);
* composing a selector out of a spelled parent and a spelled key gives a spelling of what is
  composed out of the parent and the key themselves (`spelled_composeSelector`).
-/

namespace BlockSheet.Style

open Text (replace)

/-! ### Codes -/

namespace LegacyCode

/-- The part of a code behind its `u`. -/
def digits (code : LegacyCode) : List Char := code.spelling.tail

theorem spelling_eq (code : LegacyCode) : code.spelling = 'u' :: code.digits := by
  cases code <;> rfl

theorem u_not_mem_digits (code : LegacyCode) : 'u' ∉ code.digits := by
  cases code <;> decide

theorem char_ne_u (code : LegacyCode) : code.char ≠ 'u' := by
  cases code <;> decide

theorem char_not_mem_digits (code other : LegacyCode) : code.char ∉ other.digits := by
  cases code <;> cases other <;> decide

theorem spelling_ne_nil (code : LegacyCode) : code.spelling ≠ [] := by
  rw [spelling_eq]
  exact List.cons_ne_nil _ _

/-- Codes are of one length, so a text begins with at most one of them. -/
theorem eq_of_prefix_spelling {code other : LegacyCode} {text : List Char}
    (h : code.spelling <+: other.spelling ++ text) : code = other := by
  have hlength : code.spelling.length = other.spelling.length := by
    cases code <;> cases other <;> rfl
  have heq : code.spelling = other.spelling :=
    (List.prefix_of_prefix_length_le h (List.prefix_append _ _)
      (Nat.le_of_eq hlength)).eq_of_length hlength
  cases code <;> cases other <;> first | rfl | exact absurd heq (by decide)

/-- A text of characters other than `u` and those of a code begins with the code only if that is its
first character and the rest of the code follows. -/
theorem spelling_prefix_cons_iff {code : LegacyCode} {c : Char} {text : List Char} :
    code.spelling <+: c :: text ↔ c = 'u' ∧ code.digits <+: text := by
  rw [spelling_eq, List.cons_prefix_cons, eq_comm]

/-- Looking for one code passes over another. -/
theorem replace_spelling_append {code other : LegacyCode} (hne : code ≠ other)
    (new text : List Char) :
    replace code.spelling new (other.spelling ++ text) =
      other.spelling ++ replace code.spelling new text := by
  have hprefix : ¬ code.spelling <+: 'u' :: (other.digits ++ text) := by
    intro h
    rw [← List.cons_append, ← spelling_eq] at h
    exact hne (eq_of_prefix_spelling h)
  have hrest := Text.replace_append_of_not_mem other.u_not_mem_digits code.digits new text
  rw [← spelling_eq] at hrest
  rw [other.spelling_eq, List.cons_append, Text.replace_cons_of_not_prefix hprefix, hrest,
    List.cons_append]

/-- What is said of texts that spell some codes is said of the codes. -/
theorem forall_iff_of_map_eq {texts : List String} {codes : List LegacyCode}
    (h : texts.map String.toList = codes.map spelling) {P : List Char → Prop} :
    (∀ text ∈ texts, P text.toList) ↔ ∀ k ∈ codes, P k.spelling := by
  have htexts : (∀ text ∈ texts, P text.toList) ↔ ∀ chars ∈ texts.map String.toList, P chars := by
    rw [List.forall_mem_map]
  rw [htexts, h, List.forall_mem_map]

end LegacyCode

/-! ### Decoding -/

/-- To look for a code before it is replaced makes no difference. -/
theorem LegacyCode.replace_of_contains (k : LegacyCode) (text : List Char) :
    (if Text.contains k.spelling text then replace k.spelling [k.char] text else text) =
      replace k.spelling [k.char] text := by
  split
  · rfl
  · next hfree =>
    exact (Text.replace_eq_self k.spelling_ne_nil (mt Text.contains_iff.2 hfree) _).symm

theorem foldl_replace_eq_self {codes : List LegacyCode} {text : List Char}
    (h : ∀ k ∈ codes, ¬ k.spelling <:+: text) :
    codes.foldl (fun text code => replace code.spelling [code.char] text) text = text := by
  induction codes with
  | nil => rfl
  | cons k codes ih =>
      rw [List.forall_mem_cons] at h
      rw [List.foldl_cons, Text.replace_eq_self k.spelling_ne_nil h.1]
      exact ih h.2

/-- **Decoding** replaces the codes one after the other; to look for them first makes no
difference. -/
theorem decodeCodes_eq_foldl (codes : List LegacyCode) (text : List Char) :
    decodeCodes codes text =
      codes.foldl (fun text code => replace code.spelling [code.char] text) text := by
  rw [decodeCodes]
  split
  · simp only [LegacyCode.replace_of_contains]
  · next hnone =>
    refine (foldl_replace_eq_self fun k hk hoccurs => hnone ?_).symm
    exact List.any_eq_true.2 ⟨k, hk, Text.contains_iff.2 hoccurs⟩

/-- Where no code occurs there is nothing to decode. -/
theorem decodeCodes_eq_self {codes : List LegacyCode} {text : List Char}
    (h : ∀ k ∈ codes, ¬ k.spelling <:+: text) : decodeCodes codes text = text := by
  rw [decodeCodes_eq_foldl, foldl_replace_eq_self h]

theorem decodeCodes_cons (k : LegacyCode) (codes : List LegacyCode) (text : List Char) :
    decodeCodes (k :: codes) text = decodeCodes codes (replace k.spelling [k.char] text) := by
  rw [decodeCodes_eq_foldl, decodeCodes_eq_foldl, List.foldl_cons]

/-! ### Spellings of a text -/

/-- `Spelled codes s t`: the text `s` spells `t`, with some characters of `codes` as codes. -/
inductive Spelled (codes : List LegacyCode) : List Char → List Char → Prop
  | nil : Spelled codes [] []
  /-- A character stands for itself. -/
  | keep (c : Char) {s t : List Char} (h : Spelled codes s t) : Spelled codes (c :: s) (c :: t)
  /-- A character is given as its code. -/
  | code {k : LegacyCode} (hk : k ∈ codes) {s t : List Char} (h : Spelled codes s t) :
    Spelled codes (k.spelling ++ s) (k.char :: t)

namespace Spelled

variable {codes : List LegacyCode} {s t : List Char}

theorem refl (codes : List LegacyCode) (t : List Char) : Spelled codes t t := by
  induction t with
  | nil => exact .nil
  | cons c t ih => exact .keep c ih

theorem append {s' t' : List Char} (h : Spelled codes s t) (h' : Spelled codes s' t') :
    Spelled codes (s ++ s') (t ++ t') := by
  induction h with
  | nil => exact h'
  | keep c _ ih => exact .keep c ih
  | code hk _ ih =>
      rw [List.append_assoc]
      exact .code hk ih

/-- Without codes every character stands for itself. -/
theorem eq_of_nil (h : Spelled [] s t) : s = t := by
  induction h with
  | nil => rfl
  | keep c _ ih => rw [ih]
  | code hk => exact absurd hk List.not_mem_nil

theorem ne_nil (h : Spelled codes s t) (ht : t ≠ []) : s ≠ [] := by
  cases h with
  | nil => exact ht
  | keep c h => exact List.cons_ne_nil _ _
  | @code k hk s t h => exact List.append_ne_nil_of_left_ne_nil k.spelling_ne_nil s

/-- What the first character of a spelling is. -/
theorem cons_left {c : Char} (h : Spelled codes (c :: s) t) :
    (∃ t', t = c :: t' ∧ Spelled codes s t') ∨ ∃ k ∈ codes, k.spelling <+: c :: s := by
  generalize hs : c :: s = spelling at h
  cases h with
  | nil => cases hs
  | keep d h =>
      obtain ⟨rfl, rfl⟩ := List.cons.inj hs
      exact Or.inl ⟨_, rfl, h⟩
  | code hk h => exact Or.inr ⟨_, hk, List.prefix_append _ _⟩

/-- A spelling that begins without a `u` begins like the text. -/
theorem append_left {front : List Char} (hfront : 'u' ∉ front)
    (h : Spelled codes (front ++ s) t) : ∃ t', t = front ++ t' ∧ Spelled codes s t' := by
  induction front generalizing t with
  | nil => exact ⟨t, rfl, h⟩
  | cons c front ih =>
      rw [List.mem_cons, not_or] at hfront
      rcases h.cons_left with ⟨rest, rfl, hrest⟩ | ⟨k, -, hprefix⟩
      · obtain ⟨t', rfl, ht'⟩ := ih hfront.2 hrest
        exact ⟨t', rfl, ht'⟩
      · exact absurd (LegacyCode.spelling_prefix_cons_iff.1 hprefix).1.symm hfront.1

/-- A text that begins without characters of codes begins like its spelling. -/
theorem append_right {front : List Char} (hfront : ∀ k : LegacyCode, k.char ∉ front)
    (h : Spelled codes s (front ++ t)) : ∃ s', s = front ++ s' ∧ Spelled codes s' t := by
  induction front generalizing s with
  | nil => exact ⟨s, rfl, h⟩
  | cons c front ih =>
      have hrest : ∀ k : LegacyCode, k.char ∉ front :=
        fun k hk => hfront k (List.mem_cons_of_mem c hk)
      cases h with
      | keep _ htail =>
          obtain ⟨s', rfl, hs'⟩ := ih hrest htail
          exact ⟨s', rfl, hs'⟩
      | @code k _ _ _ _ => exact absurd List.mem_cons_self (hfront k)

/-- The digits of a code stand at the same places in a text and in its spelling. -/
theorem digits_prefix_iff (h : Spelled codes s t) (k : LegacyCode) :
    k.digits <+: s ↔ k.digits <+: t := by
  constructor
  · rintro ⟨rest, rfl⟩
    obtain ⟨t', rfl, -⟩ := h.append_left k.u_not_mem_digits
    exact List.prefix_append _ _
  · rintro ⟨rest, rfl⟩
    obtain ⟨s', rfl, -⟩ := h.append_right fun j => j.char_not_mem_digits k
    exact List.prefix_append _ _

/-- A code that a spelling does not use occurs in it only where it occurs in the text. -/
theorem spelling_infix_of_not_mem (h : Spelled codes s t) {k : LegacyCode} (hk : k ∉ codes)
    (hoccurs : k.spelling <:+: s) : k.spelling <:+: t := by
  induction h with
  | nil => exact hoccurs
  | keep c h ih =>
      rcases List.infix_cons_iff.1 hoccurs with hprefix | hoccurs
      · rw [LegacyCode.spelling_prefix_cons_iff, h.digits_prefix_iff,
          ← LegacyCode.spelling_prefix_cons_iff] at hprefix
        exact hprefix.isInfix
      · exact List.infix_cons (ih hoccurs)
  | @code j hj s t h ih =>
      rw [j.spelling_eq, List.cons_append] at hoccurs
      rcases List.infix_cons_iff.1 hoccurs with hprefix | hoccurs
      · rw [← List.cons_append, ← j.spelling_eq] at hprefix
        exact absurd (LegacyCode.eq_of_prefix_spelling hprefix ▸ hj) hk
      · rw [k.spelling_eq] at hoccurs ih ⊢
        exact List.infix_cons (ih (Text.infix_of_infix_append j.u_not_mem_digits hoccurs))

/-- Decoding one code brings a spelling nearer to the text, in which the code may occur too. -/
theorem replace_spelling {k : LegacyCode} (h : Spelled (k :: codes) s t) :
    Spelled codes (replace k.spelling [k.char] s) (replace k.spelling [k.char] t) := by
  -- An occurrence in the text is passed in one step, so the induction is on the length.
  induction hn : t.length using Nat.strongRecOn generalizing s t with
  | ind n ih =>
      cases h with
      | nil =>
          rw [k.spelling_eq, Text.replace_cons_nil]
          exact .nil
      | @keep c s t h =>
          by_cases hprefix : k.spelling <+: c :: t
          · obtain ⟨rfl, t, rfl⟩ := LegacyCode.spelling_prefix_cons_iff.1 hprefix
            obtain ⟨s, rfl, hrest⟩ := h.append_right fun j => j.char_not_mem_digits k
            rw [← List.cons_append, ← List.cons_append, ← k.spelling_eq,
              Text.replace_append k.spelling_ne_nil, Text.replace_append k.spelling_ne_nil]
            have hshorter : t.length < n := by
              rw [← hn, List.length_cons, List.length_append]
              omega
            exact .keep k.char (ih t.length hshorter hrest rfl)
          · have hprefix' : ¬ k.spelling <+: c :: s := by
              rwa [LegacyCode.spelling_prefix_cons_iff, h.digits_prefix_iff,
                ← LegacyCode.spelling_prefix_cons_iff]
            rw [Text.replace_cons_of_not_prefix hprefix, Text.replace_cons_of_not_prefix hprefix']
            exact .keep c (ih t.length (by simp [← hn]) h rfl)
      | @code j hj s t h =>
          have hprefix : ¬ k.spelling <+: j.char :: t :=
            fun hprefix => j.char_ne_u (LegacyCode.spelling_prefix_cons_iff.1 hprefix).1
          have hrest := ih t.length (by simp [← hn]) h rfl
          rw [Text.replace_cons_of_not_prefix hprefix]
          by_cases hjk : k = j
          · subst hjk
            rw [Text.replace_append k.spelling_ne_nil]
            exact .keep k.char hrest
          · rw [LegacyCode.replace_spelling_append hjk]
            exact .code ((List.mem_cons.1 hj).resolve_left (Ne.symm hjk)) hrest

/-- **Decoding does not see the spelling**: a text and each of its spellings decode to the same. -/
theorem decodeCodes_eq (h : Spelled codes s t) : decodeCodes codes s = decodeCodes codes t := by
  induction codes generalizing s t with
  | nil => exact h.eq_of_nil
  | cons k codes ih =>
      rw [decodeCodes_cons, decodeCodes_cons]
      exact ih h.replace_spelling

end Spelled

/-! ### Encoding -/

/-- A character as it is given in an export: as its code, if it has one among `codes`. -/
def encodeChar (codes : List LegacyCode) (c : Char) : List Char :=
  match codes.find? fun k => k.char == c with
  | some k => k.spelling
  | none => [c]

/-- A text as it is given in an export. -/
def encodeChars (codes : List LegacyCode) (text : List Char) : List Char :=
  text.flatMap (encodeChar codes)

@[simp] theorem encodeChars_nil (codes : List LegacyCode) : encodeChars codes [] = [] := rfl

theorem encodeChars_cons (codes : List LegacyCode) (c : Char) (text : List Char) :
    encodeChars codes (c :: text) = encodeChar codes c ++ encodeChars codes text := rfl

/-- A character is encoded as one of the codes, or kept. -/
theorem encodeChar_cases (codes : List LegacyCode) (c : Char) :
    (∃ k ∈ codes, k.char = c ∧ encodeChar codes c = k.spelling) ∨ encodeChar codes c = [c] := by
  rw [encodeChar]
  cases hfind : codes.find? fun k => k.char == c with
  | none => exact Or.inr rfl
  | some k =>
      have hchar : k.char = c := by simpa using List.find?_some hfind
      exact Or.inl ⟨k, List.mem_of_find?_eq_some hfind, hchar, rfl⟩

theorem spelled_encodeChar (codes : List LegacyCode) (c : Char) :
    Spelled codes (encodeChar codes c) [c] := by
  rcases encodeChar_cases codes c with ⟨k, hk, rfl, hcode⟩ | hkeep
  · have h := Spelled.code hk .nil
    rwa [List.append_nil, ← hcode] at h
  · rw [hkeep]
    exact .keep c .nil

theorem spelled_encodeChars (codes : List LegacyCode) (text : List Char) :
    Spelled codes (encodeChars codes text) text := by
  induction text with
  | nil => exact .nil
  | cons c text ih => exact (spelled_encodeChar codes c).append ih

/-- A text without characters of codes is not changed. -/
theorem encodeChars_eq_self {codes : List LegacyCode} {text : List Char}
    (h : ∀ k : LegacyCode, k.char ∉ text) : encodeChars codes text = text := by
  induction text with
  | nil => rfl
  | cons c text ih =>
      have hrest : ∀ k : LegacyCode, k.char ∉ text :=
        fun k hk => h k (List.mem_cons_of_mem c hk)
      rw [encodeChars_cons, ih hrest]
      rcases encodeChar_cases codes c with ⟨k, -, rfl, -⟩ | hkeep
      · exact absurd List.mem_cons_self (h k)
      · rw [hkeep, List.singleton_append]

/-! ### Keys -/

/-- The codes of a key: those of a selector, and that of a parent reference. -/
def keyCodes : List LegacyCode := .ampersand :: selectorCodes

theorem mem_keyCodes (code : LegacyCode) : code ∈ keyCodes := by cases code <;> decide

theorem encodeChar_ampersand : encodeChar keyCodes '&' = LegacyCode.ampersand.spelling := rfl

theorem encodeChar_of_ne_ampersand {c : Char} (hc : c ≠ '&') :
    encodeChar keyCodes c = encodeChar selectorCodes c := by
  have hfirst : (LegacyCode.ampersand.char == c) = false := beq_eq_false_iff_ne.2 (Ne.symm hc)
  rw [encodeChar, encodeChar, keyCodes, List.find?_cons, hfirst]

theorem ampersand_not_mem_selectorCodes : LegacyCode.ampersand ∉ selectorCodes := by decide

theorem ampersand_not_mem_encodeChars (key : List Char) : '&' ∉ encodeChars keyCodes key := by
  rw [encodeChars, List.mem_flatMap]
  rintro ⟨c, -, hc⟩
  rcases encodeChar_cases keyCodes c with ⟨k, -, -, hcode⟩ | hkeep
  · rw [hcode] at hc
    cases k <;> exact absurd hc (by decide)
  · rw [hkeep, List.mem_singleton] at hc
    subst hc
    exact absurd hkeep (by decide)

/-- Without parent references a key is spelled in the codes of selectors. -/
theorem encodeChars_keyCodes_of_not_mem {key : List Char} (h : '&' ∉ key) :
    encodeChars keyCodes key = encodeChars selectorCodes key := by
  induction key with
  | nil => rfl
  | cons c key ih =>
      rw [List.mem_cons, not_or] at h
      rw [encodeChars_cons, encodeChars_cons, encodeChar_of_ne_ampersand (Ne.symm h.1), ih h.2]

/-- The encoded parent references of an encoded key are its parent references. -/
theorem infix_encodeChars_iff {key : List Char}
    (hfree : ¬ LegacyCode.ampersand.spelling <:+: key) :
    LegacyCode.ampersand.spelling <:+: encodeChars keyCodes key ↔ '&' ∈ key := by
  constructor
  · intro hoccurs
    by_cases hmem : '&' ∈ key
    · exact hmem
    · rw [encodeChars_keyCodes_of_not_mem hmem] at hoccurs
      exact absurd ((spelled_encodeChars selectorCodes key).spelling_infix_of_not_mem
        ampersand_not_mem_selectorCodes hoccurs) hfree
  · intro hmem
    obtain ⟨front, rest, rfl⟩ := List.append_of_mem hmem
    refine ⟨encodeChars keyCodes front, encodeChars keyCodes rest, ?_⟩
    simp [encodeChars, encodeChar_ampersand]

/-- A parent in the place of the encoded references of an encoded key: all other characters stay
encoded, and nothing else is taken for a reference. -/
theorem replace_encodeChars {key : List Char} (hfree : ¬ LegacyCode.ampersand.spelling <:+: key)
    (parent : List Char) :
    replace LegacyCode.ampersand.spelling parent (encodeChars keyCodes key) =
      key.flatMap fun c => if c = '&' then parent else encodeChar selectorCodes c := by
  induction key with
  | nil =>
      rw [LegacyCode.ampersand.spelling_eq, encodeChars_nil, Text.replace_cons_nil]
      rfl
  | cons c key ih =>
      have hkey : ¬ LegacyCode.ampersand.spelling <:+: key :=
        fun hoccurs => hfree (List.infix_cons hoccurs)
      rw [encodeChars_cons, List.flatMap_cons]
      by_cases hc : c = '&'
      · rw [if_pos hc, hc, encodeChar_ampersand,
          Text.replace_append LegacyCode.ampersand.spelling_ne_nil, ih hkey]
      · rw [if_neg hc, encodeChar_of_ne_ampersand hc]
        rcases encodeChar_cases selectorCodes c with ⟨k, hk, -, hcode⟩ | hkeep
        · have hne : LegacyCode.ampersand ≠ k :=
            fun heq => ampersand_not_mem_selectorCodes (heq ▸ hk)
          rw [hcode, LegacyCode.replace_spelling_append hne, ih hkey]
        · have hprefix : ¬ LegacyCode.ampersand.spelling <+: c :: encodeChars keyCodes key := by
            rw [LegacyCode.spelling_prefix_cons_iff,
              (spelled_encodeChars keyCodes key).digits_prefix_iff,
              ← LegacyCode.spelling_prefix_cons_iff]
            exact fun hprefix => hfree hprefix.isInfix
          rw [hkeep, List.singleton_append, Text.replace_cons_of_not_prefix hprefix, ih hkey,
            List.singleton_append]

/-! ### Composed selectors -/

section Compose

variable (escape : Bool) {ancestor key : String}

/-- Where a key refers to its parent, the ancestor takes the place of the references. -/
theorem toList_composeSelector_of_mem (hne : ancestor ≠ "") (hmem : '&' ∈ key.toList) :
    (Compiler.composeSelector ⟨.legacy, escape⟩ ancestor key).toList =
      Text.replaceChar '&' ancestor.toList key.toList := by
  have hancestor : ¬ ancestor.isEmpty = true := by simpa using hne
  have hkey : key.toList.contains '&' = true := by simpa using hmem
  rw [Compiler.composeSelector, if_neg hancestor, if_pos hkey, String.toList_ofList]

/-- Encoded references give way to the ancestor where there are no others. -/
theorem toList_composeSelector_of_encoded (hne : ancestor ≠ "") (hmem : '&' ∉ key.toList)
    (hoccurs : LegacyCode.ampersand.spelling <:+: key.toList) :
    (Compiler.composeSelector ⟨.legacy, escape⟩ ancestor key).toList =
      replace LegacyCode.ampersand.spelling ancestor.toList key.toList := by
  have hancestor : ¬ ancestor.isEmpty = true := by simpa using hne
  have hkey : ¬ key.toList.contains '&' = true := by simpa using hmem
  rw [Compiler.composeSelector, if_neg hancestor, if_neg hkey, Escapes.substituteParent?,
    Escapes.parentChars?, if_pos (Text.contains_iff.2 hoccurs)]
  exact String.toList_ofList

/-- A key without references becomes a descendant. -/
theorem toList_composeSelector_of_no_reference (hne : ancestor ≠ "") (hmem : '&' ∉ key.toList)
    (hoccurs : ¬ LegacyCode.ampersand.spelling <:+: key.toList) :
    (Compiler.composeSelector ⟨.legacy, escape⟩ ancestor key).toList =
      ancestor.toList ++ ' ' :: key.toList := by
  have hancestor : ¬ ancestor.isEmpty = true := by simpa using hne
  have hkey : ¬ key.toList.contains '&' = true := by simpa using hmem
  have hcode : ¬ Text.contains LegacyCode.ampersand.spelling key.toList = true :=
    fun hcode => hoccurs (Text.contains_iff.1 hcode)
  rw [Compiler.composeSelector, if_neg hancestor, if_neg hkey, Escapes.substituteParent?,
    Escapes.parentChars?, if_neg hcode]
  simp

end Compose

/-- A key as it is given in an export. -/
def encodeKey (key : String) : String := String.ofList (encodeChars keyCodes key.toList)

@[simp] theorem toList_encodeKey (key : String) :
    (encodeKey key).toList = encodeChars keyCodes key.toList := by
  rw [encodeKey, String.toList_ofList]

/-- Replacing parent references character by character keeps spellings. -/
theorem spelled_flatMap_parent {parent' parent : List Char}
    (h : Spelled selectorCodes parent' parent) (key : List Char) :
    Spelled selectorCodes
      (key.flatMap fun c => if c = '&' then parent' else encodeChar selectorCodes c)
      (Text.replaceChar '&' parent key) := by
  induction key with
  | nil => exact .nil
  | cons c key ih =>
      rw [Text.replaceChar, List.flatMap_cons, List.flatMap_cons]
      refine Spelled.append ?_ ih
      by_cases hc : c = '&'
      · rwa [if_pos hc, if_pos hc]
      · rw [if_neg hc, if_neg hc]
        exact spelled_encodeChar selectorCodes c

theorem ne_empty_of_spelled {codes : List LegacyCode} {s t : String}
    (h : Spelled codes s.toList t.toList) (ht : t ≠ "") : s ≠ "" := by
  have hchars := h.ne_nil (by simpa using ht)
  simpa using hchars

/-- **Composing keeps spellings**: out of a spelled parent and an encoded key comes a spelling of
what the parent and the key give. -/
theorem spelled_composeSelector (escape : Bool) {parent' parent key : String}
    (hparent : Spelled selectorCodes parent'.toList parent.toList) (hne : parent ≠ "")
    (hfree : ¬ LegacyCode.ampersand.spelling <:+: key.toList) :
    Spelled selectorCodes
      (Compiler.composeSelector ⟨.legacy, escape⟩ parent' (encodeKey key)).toList
      (Compiler.composeSelector ⟨.legacy, escape⟩ parent key).toList := by
  have hne' := ne_empty_of_spelled hparent hne
  have hplain : '&' ∉ (encodeKey key).toList := by
    rw [toList_encodeKey]
    exact ampersand_not_mem_encodeChars key.toList
  by_cases hmem : '&' ∈ key.toList
  · have hcode : LegacyCode.ampersand.spelling <:+: (encodeKey key).toList := by
      rw [toList_encodeKey, infix_encodeChars_iff hfree]
      exact hmem
    rw [toList_composeSelector_of_encoded escape hne' hplain hcode, toList_encodeKey,
      replace_encodeChars hfree, toList_composeSelector_of_mem escape hne hmem]
    exact spelled_flatMap_parent hparent key.toList
  · have hcode : ¬ LegacyCode.ampersand.spelling <:+: (encodeKey key).toList := by
      rw [toList_encodeKey, infix_encodeChars_iff hfree]
      exact hmem
    rw [toList_composeSelector_of_no_reference escape hne' hplain hcode, toList_encodeKey,
      encodeChars_keyCodes_of_not_mem hmem,
      toList_composeSelector_of_no_reference escape hne hmem hfree]
    exact hparent.append (.keep ' ' (spelled_encodeChars selectorCodes key.toList))

/-- A selector under a parent is not empty. -/
theorem composeSelector_ne_empty (escape : Bool) {parent key : String} (hne : parent ≠ "")
    (hfree : ¬ LegacyCode.ampersand.spelling <:+: key.toList) :
    Compiler.composeSelector ⟨.legacy, escape⟩ parent key ≠ "" := by
  intro hempty
  have hchars := congrArg String.toList hempty
  by_cases hmem : '&' ∈ key.toList
  · rw [toList_composeSelector_of_mem escape hne hmem, Text.replaceChar,
      String.toList_empty, List.flatMap_eq_nil_iff] at hchars
    have hparent := hchars '&' hmem
    rw [if_pos rfl] at hparent
    exact hne (by simpa using hparent)
  · rw [toList_composeSelector_of_no_reference escape hne hmem hfree, String.toList_empty] at hchars
    simp at hchars

/-- The spelling of a selector makes no difference to the rule that it heads. -/
theorem resolveSelector_eq_of_spelled (escape : Bool) {s t : String}
    (h : Spelled selectorCodes s.toList t.toList) :
    Compiler.resolveSelector ⟨.legacy, escape⟩ s =
      Compiler.resolveSelector ⟨.legacy, escape⟩ t := by
  have hdecoded : Escapes.legacy.decodeSelector s = Escapes.legacy.decodeSelector t :=
    congrArg String.ofList h.decodeCodes_eq
  rw [Compiler.resolveSelector, Compiler.resolveSelector, hdecoded]

end BlockSheet.Style
