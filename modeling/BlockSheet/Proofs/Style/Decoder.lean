import Mathlib.Data.List.Perm.Basic
import Mathlib.Data.Set.List
import BlockSheet.Proofs.Style.Decoded

/-!
# Decoding as an operation on texts

Of all the texts that a text spells, one holds none of the codes, and decoding gives that one
(`decodeCodes_eq_iff`). So the result depends on nothing but the text and the set of codes: not on
the order in which the codes are replaced, not on whether one looks for a code before replacing it,
and not on which of its characters a text gives as codes. All this is what makes decoding undo an
export (`soundDecoder_legacy`).
-/

namespace BlockSheet.Style

open Text (replace)

variable {codes codes' : List LegacyCode} {s t u : List Char}

/-! ### Spellings of spellings -/

theorem LegacyCode.char_not_mem_spelling (code other : LegacyCode) :
    code.char ∉ other.spelling := by
  cases code <;> cases other <;> decide

namespace Spelled

theorem mono (hcodes : codes ⊆ codes') (h : Spelled codes s t) : Spelled codes' s t := by
  induction h with
  | nil => exact .nil
  | keep c _ ih => exact .keep c ih
  | code hk _ ih => exact .code (hcodes hk) ih

/-- A spelling of a spelling is one: the characters of a code do not have codes themselves. -/
theorem trans (h : Spelled codes s t) (h' : Spelled codes t u) : Spelled codes s u := by
  induction h' generalizing s with
  | nil => exact h
  | keep c _ ih =>
      cases h with
      | keep _ h => exact .keep c (ih h)
      | code hk h => exact .code hk (ih h)
  | @code k hk t u _ ih =>
      obtain ⟨s, rfl, hrest⟩ := h.append_right fun j => j.char_not_mem_spelling k
      exact .code hk (ih hrest)

end Spelled

/-! ### The decoded text -/

/-- A text spells what decoding makes of it. -/
theorem spelled_decodeCodes (codes : List LegacyCode) (text : List Char) :
    Spelled codes text (decodeCodes codes text) := by
  induction codes generalizing text with
  | nil => exact .refl [] text
  | cons k codes ih =>
      have hfirst : Spelled (k :: codes) text (replace k.spelling [k.char] text) :=
        (spelled_replace k text).mono (by simp)
      rw [decodeCodes_cons]
      exact hfirst.trans ((ih _).mono (List.subset_cons_self k codes))

/-- **The decoded text** is the only text without codes that a text spells. -/
theorem decodeCodes_eq_iff :
    decodeCodes codes s = t ↔ Spelled codes s t ∧ ∀ k ∈ codes, ¬ k.spelling <:+: t := by
  constructor
  · rintro rfl
    exact ⟨spelled_decodeCodes codes s, fun k hk => not_infix_decodeCodes hk s⟩
  · rintro ⟨hspelled, hfree⟩
    rw [hspelled.decodeCodes_eq, decodeCodes_eq_self hfree]

/-- The order of the codes makes no difference, nor does a code that is given twice. -/
theorem decodeCodes_congr (h : ∀ k, k ∈ codes ↔ k ∈ codes') (text : List Char) :
    decodeCodes codes text = decodeCodes codes' text :=
  decodeCodes_eq_iff.2 ⟨(spelled_decodeCodes codes' text).mono fun k hk => (h k).2 hk,
    fun k hk => not_infix_decodeCodes ((h k).1 hk) text⟩

/-! ### Codes written out -/

/-- Some codes, each with the character that it stands for. -/
abbrev CodeTable := List (String × Char)

/-- `SpelledBy table s t`: the text `s` is `t` with any of the characters of a table given as their
codes. -/
inductive SpelledBy (table : CodeTable) : List Char → List Char → Prop
  | nil : SpelledBy table [] []
  /-- A character stands for itself. -/
  | keep (c : Char) {s t : List Char} (h : SpelledBy table s t) :
    SpelledBy table (c :: s) (c :: t)
  /-- A character is given as its code. -/
  | code {code : String} {c : Char} (hcode : (code, c) ∈ table) {s t : List Char}
    (h : SpelledBy table s t) : SpelledBy table (code.toList ++ s) (c :: t)

/-- The code with its character. -/
def LegacyCode.entry (k : LegacyCode) : String × Char := (String.ofList k.spelling, k.char)

theorem LegacyCode.entry_injective : Function.Injective LegacyCode.entry := by
  intro k j h
  have hchar : k.char = j.char := congrArg Prod.snd h
  cases k <;> cases j <;> first | rfl | exact absurd hchar (by decide)

theorem SpelledBy.spelled (h : SpelledBy (codes.map LegacyCode.entry) s t) :
    Spelled codes s t := by
  induction h with
  | nil => exact .nil
  | keep c _ ih => exact .keep c ih
  | code hcode _ ih =>
      obtain ⟨k, hk, hentry⟩ := List.mem_map.1 hcode
      obtain ⟨rfl, rfl⟩ := Prod.mk.inj hentry
      rw [String.toList_ofList]
      exact .code hk ih

/-- Entries of a table in any order are those of codes in that order. -/
theorem exists_map_entry {order : CodeTable} (h : order.Perm (codes.map LegacyCode.entry)) :
    ∃ order' : List LegacyCode, order'.Perm codes ∧ order'.map LegacyCode.entry = order := by
  have hentries : ∀ entry ∈ order, entry ∈ Set.range LegacyCode.entry := by
    intro entry hentry
    obtain ⟨k, -, hk⟩ := List.mem_map.1 (h.mem_iff.1 hentry)
    exact ⟨k, hk⟩
  obtain ⟨order', rfl⟩ : order ∈ Set.range (List.map LegacyCode.entry) := by
    rw [Set.range_list_map]
    exact hentries
  exact ⟨order', (List.map_perm_map_iff LegacyCode.entry_injective).1 h, rfl⟩

/-! ### Decoders -/

/-- What is to be expected of a decoder for some codes. -/
structure SoundDecoder (table : CodeTable) (decode : String → String) : Prop where
  /-- None of the codes is left. -/
  clean (text : String) : ∀ entry ∈ table, ¬ entry.1.toList <:+: (decode text).toList
  /-- The codes may be decoded in any order. -/
  anyOrder (text : String) : ∀ codes : List LegacyCode,
    (codes.map LegacyCode.entry).Perm table → (decode text).toList = decodeCodes codes text.toList
  /-- In any order, the codes are replaced one after the other. -/
  replaced (text : String) : ∀ order : CodeTable, order.Perm table →
    (decode text).toList =
      order.foldl (fun text entry => replace entry.1.toList [entry.2] text) text.toList
  /-- What is decoded stays as it is. -/
  again (text : String) : decode (decode text) = decode text
  /-- Whichever characters of a text are given as codes, the result is the same. -/
  spelled {spelling text : String} : SpelledBy table spelling.toList text.toList →
    decode spelling = decode text
  /-- If the text holds no code, it is the text itself. -/
  undoes {spelling text : String} : SpelledBy table spelling.toList text.toList →
    (∀ entry ∈ table, ¬ entry.1.toList <:+: text.toList) → decode spelling = text

/-- Decoding a given set of codes is sound, for every set of them. -/
theorem soundDecoder_decodeCodes (codes : List LegacyCode) :
    SoundDecoder (codes.map LegacyCode.entry) fun text =>
      String.ofList (decodeCodes codes text.toList) where
  clean text := by
    rw [List.forall_mem_map]
    intro k hk
    rw [LegacyCode.entry, String.toList_ofList, String.toList_ofList]
    exact not_infix_decodeCodes hk text.toList
  anyOrder text order horder := by
    have hperm := (List.map_perm_map_iff LegacyCode.entry_injective).1 horder
    rw [String.toList_ofList]
    exact decodeCodes_congr (fun k => hperm.symm.mem_iff) text.toList
  replaced text order horder := by
    obtain ⟨order', hperm, rfl⟩ := exists_map_entry horder
    have hcodes := decodeCodes_congr (fun k => hperm.symm.mem_iff (a := k)) text.toList
    rw [String.toList_ofList, hcodes, decodeCodes_eq_foldl, List.foldl_map]
    simp only [LegacyCode.entry, String.toList_ofList]
  again text := by
    rw [String.toList_ofList, decodeCodes_eq_self fun k hk => not_infix_decodeCodes hk text.toList]
  spelled hspelled := by rw [hspelled.spelled.decodeCodes_eq]
  undoes {spelling text} hspelled hfree := by
    rw [List.forall_mem_map] at hfree
    have hdecoded : decodeCodes codes spelling.toList = text.toList := by
      refine decodeCodes_eq_iff.2 ⟨hspelled.spelled, fun k hk => ?_⟩
      have hcode := hfree k hk
      rwa [LegacyCode.entry, String.toList_ofList] at hcode
    rw [hdecoded, String.ofList_toList]

/-- **Both decoders are sound**, the one for selectors and the one for values. -/
theorem soundDecoder_legacy :
    SoundDecoder [("u003e", '>'), ("u003c", '<'), ("u0022", '"'), ("u0027", '\x27')]
        Escapes.legacy.decodeSelector ∧
      SoundDecoder [("u0022", '"'), ("u0027", '\x27')] Escapes.legacy.decodeValue := by
  have hselector : selectorCodes.map LegacyCode.entry =
      [("u003e", '>'), ("u003c", '<'), ("u0022", '"'), ("u0027", '\x27')] := by rfl
  have hvalue : valueCodes.map LegacyCode.entry = [("u0022", '"'), ("u0027", '\x27')] := by rfl
  rw [← hselector, ← hvalue]
  exact ⟨soundDecoder_decodeCodes selectorCodes, soundDecoder_decodeCodes valueCodes⟩

/-- A code inside a code is decoded, and what is left of the outer one is none. -/
example : Escapes.legacy.decodeSelector "u00u003e3e" = "u00>3e" := by cbv

end BlockSheet.Style
