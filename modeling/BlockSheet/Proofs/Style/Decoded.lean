import BlockSheet.Proofs.Style.Emptiness
import BlockSheet.Proofs.Style.Escaped
import BlockSheet.Proofs.Style.Spelling

/-!
# Codes in selectors and conditions

Two kinds of text in a sheet decide what it applies to: the selectors of rules, and the conditions
of feature queries. This module says which legacy codes they may hold (`selectors_decoded`).

* A selector holds none. It is decoded as a whole, after all composing; decoding one kind of code
  leaves none of that kind behind and completes none of another, and entities complete none either.
* A condition is not decoded. The conditions of a sheet are the keys of the feature queries in the
  tree, letter by letter, so a code in such a key stays in the sheet
  (`not_forall_conditions_decoded`).
-/

namespace BlockSheet.Style

open Json (Value)
open Text (replace)

/-! ### What decoding leaves -/

/-- A text spells what decoding one code makes of it. -/
theorem spelled_replace (k : LegacyCode) (text : List Char) :
    Spelled [k] text (replace k.spelling [k.char] text) := by
  induction text using Text.scan_induction k.spelling_ne_nil with
  | nil =>
      rw [k.spelling_eq, Text.replace_cons_nil]
      exact .nil
  | occurrence text ih =>
      rw [Text.replace_append k.spelling_ne_nil]
      exact .code List.mem_cons_self ih
  | keep c text hprefix ih =>
      rw [Text.replace_cons_of_not_prefix hprefix]
      exact .keep c ih

/-- A code that occurs in a text occurs in each of its spellings: the characters of codes do not
complete one. -/
theorem Spelled.infix_left {codes : List LegacyCode} {s t : List Char} (h : Spelled codes s t)
    {k : LegacyCode} (hoccurs : k.spelling <:+: t) : k.spelling <:+: s := by
  induction h with
  | nil => exact hoccurs
  | keep c h ih =>
      rcases List.infix_cons_iff.1 hoccurs with hprefix | hoccurs
      · rw [LegacyCode.spelling_prefix_cons_iff, ← h.digits_prefix_iff,
          ← LegacyCode.spelling_prefix_cons_iff] at hprefix
        exact hprefix.isInfix
      · exact List.infix_cons (ih hoccurs)
  | @code j hj s t h ih =>
      rcases List.infix_cons_iff.1 hoccurs with hprefix | hoccurs
      · exact absurd (LegacyCode.spelling_prefix_cons_iff.1 hprefix).1 j.char_ne_u
      · exact (ih hoccurs).trans (List.suffix_append j.spelling s).isInfix

/-- Decoding a code leaves no occurrence of it. -/
theorem not_infix_replace (k : LegacyCode) (text : List Char) :
    ¬ k.spelling <:+: replace k.spelling [k.char] text := by
  induction text using Text.scan_induction k.spelling_ne_nil with
  | nil =>
      rw [k.spelling_eq, Text.replace_cons_nil, List.infix_nil]
      exact List.cons_ne_nil _ _
  | occurrence text ih =>
      rw [Text.replace_append k.spelling_ne_nil, List.singleton_append, List.infix_cons_iff]
      rintro (hstart | hoccurs)
      · exact k.char_ne_u (LegacyCode.spelling_prefix_cons_iff.1 hstart).1
      · exact ih hoccurs
  | keep c text hprefix ih =>
      rw [Text.replace_cons_of_not_prefix hprefix, List.infix_cons_iff]
      rintro (hdecoded | hoccurs)
      · -- The digits of the code are untouched, so it was there before.
        rw [LegacyCode.spelling_prefix_cons_iff, ← (spelled_replace k text).digits_prefix_iff,
          ← LegacyCode.spelling_prefix_cons_iff] at hdecoded
        exact hprefix hdecoded
      · exact ih hoccurs

/-- Decoding completes no code, be it one that is decoded or not. -/
theorem infix_of_infix_decodeCodes {codes : List LegacyCode} {k : LegacyCode} {text : List Char}
    (h : k.spelling <:+: decodeCodes codes text) : k.spelling <:+: text := by
  induction codes generalizing text with
  | nil => exact h
  | cons j codes ih =>
      rw [decodeCodes_cons] at h
      exact (spelled_replace j text).infix_left (ih h)

/-- **Decoding leaves none of the codes that are decoded.** -/
theorem not_infix_decodeCodes {codes : List LegacyCode} {k : LegacyCode} (hk : k ∈ codes)
    (text : List Char) : ¬ k.spelling <:+: decodeCodes codes text := by
  induction codes generalizing text with
  | nil => exact absurd hk List.not_mem_nil
  | cons j codes ih =>
      rw [decodeCodes_cons]
      rcases List.mem_cons.1 hk with rfl | hk
      · exact mt infix_of_infix_decodeCodes (not_infix_replace k text)
      · exact ih hk _

/-- Entities complete no code. -/
theorem infix_of_infix_escapeSelector {k : LegacyCode} {selector : String}
    (h : k.spelling <:+: (escapeSelector selector).toList) : k.spelling <:+: selector.toList := by
  have hgreater : ∀ c ∈ greaterEntity, c ∉ k.spelling := by
    cases k <;> simp [greaterEntity, LegacyCode.spelling]
  have hless : ∀ c ∈ lessEntity, c ∉ k.spelling := by
    cases k <;> simp [lessEntity, LegacyCode.spelling]
  rw [escapeSelector, String.toList_ofList, flatMap_entityChars] at h
  exact Text.infix_of_infix_replaceChar_of_disjoint hless
    (Text.infix_of_infix_replaceChar_of_disjoint hgreater h)

/-- No code of those that are decoded in selectors occurs in the text. -/
def Decoded (text : String) : Prop :=
  ∀ code ∈ ["u003e", "u003c", "u0022", "u0027"], Text.contains code.toList text.toList = false

instance (text : String) : Decidable (Decoded text) :=
  inferInstanceAs (Decidable (∀ code ∈ ["u003e", "u003c", "u0022", "u0027"], _))

theorem decoded_iff {text : String} :
    Decoded text ↔ ∀ code ∈ selectorCodes, ¬ code.spelling <:+: text.toList := by
  have hspellings : ["u003e", "u003c", "u0022", "u0027"].map String.toList =
      selectorCodes.map LegacyCode.spelling := by decide
  unfold Decoded
  rw [LegacyCode.forall_iff_of_map_eq hspellings (P := (Text.contains · text.toList = false))]
  simp only [Text.contains_eq_false_iff]

/-- What heads a rule is decoded, whatever has been composed. -/
theorem decoded_resolveSelector (escape : Bool) (selector : String) :
    Decoded (Compiler.resolveSelector ⟨.legacy, escape⟩ selector) := by
  have hdecoded : ∀ code ∈ selectorCodes,
      ¬ code.spelling <:+: (Escapes.legacy.decodeSelector selector).toList := by
    intro code hcode
    rw [Escapes.decodeSelector, String.toList_ofList]
    exact not_infix_decodeCodes hcode selector.toList
  refine decoded_iff.2 fun code hcode => ?_
  rw [Compiler.resolveSelector]
  cases escape with
  | true => exact mt infix_of_infix_escapeSelector (hdecoded code hcode)
  | false => exact hdecoded code hcode

/-- The selectors of a sheet, at any depth, are what heads rules. -/
theorem Compiler.compositional_selectors (c : Compiler) {P : String → Prop}
    (hP : ∀ composed, P (c.resolveSelector composed)) :
    c.Compositional fun sheet => ∀ selector ∈ sheetSelectors sheet, P selector where
  nil := by simp [sheetSelectors]
  rule selector d ds := by simpa [sheetSelectors, Css.selectors] using hP selector
  group prelude css sheet h := by simpa [sheetSelectors, Css.selectors] using h
  append a b ha hb := by
    rw [sheetSelectors_append, List.forall_mem_append]
    exact ⟨ha, hb⟩

/-! ### Conditions -/

mutual

/-- The preludes of the groups of a piece, at any depth, in order. -/
def Css.preludes : Css → List String
  | .rule _ _ => []
  | .group prelude body => prelude :: sheetPreludes body

/-- The preludes of the groups of a sheet, at any depth, in order. -/
def sheetPreludes : List Css → List String
  | [] => []
  | css :: sheet => css.preludes ++ sheetPreludes sheet

end

/-- The conditions of the feature queries of a sheet, at any depth, in order. -/
def sheetConditions (sheet : List Css) : List String :=
  (sheetPreludes sheet).filter isSupportsKey

mutual

/-- The keys of the feature queries within a value that hold a leaf to put out, at any depth. -/
def conditionsWithin : Value → List String
  | .obj fields => treeConditions fields
  | .arr items => itemConditions items
  | _ => []

/-- The keys of the feature queries of a style tree that hold a leaf to put out, at any depth, each
in front of those within it. -/
def treeConditions : List (String × Value) → List String
  | [] => []
  | (key, value) :: fields =>
    (if isSupportsKey key && isScope value && holdsLeaf value then [key] else []) ++
      conditionsWithin value ++ treeConditions fields

/-- The keys of such feature queries within the items of an array. -/
def itemConditions : List Value → List String
  | [] => []
  | value :: values => conditionsWithin value ++ itemConditions values

end

/-- The index of an item is no key of a feature query. -/
theorem isSupportsKey_index (n : Nat) :
    isSupportsKey (String.ofList (Decimal.digits n)) = false := by
  cases hsupports : isSupportsKey (String.ofList (Decimal.digits n)) with
  | false => rfl
  | true =>
      rw [isSupportsKey, String.toList_ofList, Text.startsWith_iff] at hsupports
      have hmem : '@' ∈ Decimal.digits n := hsupports.subset (by decide)
      exact absurd (Decimal.isDigit_of_mem_digits hmem) (by decide)

theorem treeConditions_indexed (index : Nat) (items : List Value) :
    treeConditions (indexed index items) = itemConditions items := by
  induction items generalizing index with
  | nil => rw [indexed, treeConditions, itemConditions]
  | cons value values ih =>
      rw [indexed, treeConditions, itemConditions, ih, isSupportsKey_index]
      rfl

theorem conditionsWithin_of_level {value : Value} {fields : Tree}
    (h : Compiler.level? value = some fields) : conditionsWithin value = treeConditions fields := by
  cases value with
  | arr items =>
      obtain rfl := Option.some.inj h
      rw [conditionsWithin, treeConditions_indexed]
  | obj fields' =>
      obtain rfl := Option.some.inj h
      rw [conditionsWithin]
  | _ => cases h

theorem conditionsWithin_of_leaf {value : Value} (h : Compiler.level? value = none) :
    conditionsWithin value = [] := by
  cases value with
  | arr items => cases h
  | obj fields => cases h
  | _ => simp [conditionsWithin]

theorem sheetPreludes_eq_flatMap (sheet : List Css) :
    sheetPreludes sheet = sheet.flatMap Css.preludes := by
  induction sheet with
  | nil => rw [sheetPreludes, List.flatMap_nil]
  | cons css sheet ih => rw [sheetPreludes, ih, List.flatMap_cons]

@[simp] theorem sheetConditions_nil : sheetConditions [] = [] := by
  simp [sheetConditions, sheetPreludes]

@[simp] theorem sheetConditions_append (a b : List Css) :
    sheetConditions (a ++ b) = sheetConditions a ++ sheetConditions b := by
  simp [sheetConditions, sheetPreludes_eq_flatMap]

/-- A prelude around a sheet that is not empty comes in front of the conditions of the sheet, if it
is a condition. -/
theorem sheetConditions_wrap {prelude : String} {sheet : List Css} (h : sheet ≠ []) :
    sheetConditions (Compiler.wrap prelude sheet) =
      (if isSupportsKey prelude then [prelude] else []) ++ sheetConditions sheet := by
  cases sheet with
  | nil => exact absurd rfl h
  | cons css sheet =>
      have hwrap : Compiler.wrap prelude (css :: sheet) = [.group prelude (css :: sheet)] := rfl
      rw [hwrap, sheetConditions, sheetConditions, sheetPreludes, Css.preludes, sheetPreludes,
        List.append_nil, List.filter_cons]
      cases isSupportsKey prelude <;> rfl

/-- The prelude of a wrapper is a condition only if the wrapper is a feature query, and then it is
the key itself. -/
theorem condition_of_wrapperPrelude? {key prelude : String}
    (h : wrapperPrelude? key = some prelude) :
    (if isSupportsKey prelude then [prelude] else []) =
      if isSupportsKey key then [key] else [] := by
  rw [wrapperPrelude?_eq] at h
  cases hbreakpoint : breakpoint? key with
  | some breakpoint =>
      obtain ⟨rest, hrest, -⟩ := Option.map_eq_some_iff.1 hbreakpoint
      have hkey : isSupportsKey key = false := by
        rw [isSupportsKey, Text.after?_eq_some.1 hrest]
        rfl
      have hprelude : isSupportsKey (Compiler.mediaPrelude breakpoint) = false := by
        rw [isSupportsKey, Compiler.mediaPrelude, String.toList_append]
        rfl
      simp only [hbreakpoint, Option.elim_some, Option.some.injEq] at h
      rw [← h, hkey, hprelude]
      rfl
  | none =>
      cases hsupports : isSupportsKey key with
      | true =>
          simp only [hbreakpoint, hsupports, if_true, Option.elim_none, Option.some.injEq] at h
          rw [← h, hsupports]
      | false => simp [hbreakpoint, hsupports] at h

namespace Compiler

variable (c : Compiler)

/-- The rule of a level has no condition. -/
theorem sheetConditions_ownRule (selector : String) (nodes : List Node) :
    sheetConditions (c.ownRule selector nodes) = [] := by
  unfold ownRule
  cases c.ownDeclarations nodes with
  | nil => exact sheetConditions_nil
  | cons d ds => simp [sheetConditions, sheetPreludes, Css.preludes]

theorem sheetConditions_sheet_of_scopes {fields : Tree} {selector : String}
    (h : ∀ e ∈ fields, sheetConditions (c.entrySheet selector e.1 e.2) =
      (if isSupportsKey e.1 && isScope e.2 && holdsLeaf e.2 then [e.1] else []) ++
        conditionsWithin e.2) :
    sheetConditions (c.sheet fields selector) = treeConditions fields := by
  rw [sheet_eq, sheetConditions_append, sheetConditions_ownRule, List.append_nil]
  induction fields with
  | nil => simp [treeConditions]
  | cons e fields ih =>
      rw [List.forall_mem_cons] at h
      rw [List.flatMap_cons, sheetConditions_append, h.1, ih h.2, treeConditions]

/-- The conditions of what an entry puts out are its key, if it is a feature query that holds a leaf
to put out, and those of the feature queries within it. -/
theorem sheetConditions_entrySheet (value : Value) :
    ∀ selector key, sheetConditions (c.entrySheet selector key value) =
      (if isSupportsKey key && isScope value && holdsLeaf value then [key] else []) ++
        conditionsWithin value := by
  induction value using level_induction with
  | step value ih =>
      intro selector key
      cases hlevel : level? value with
      | none => simp [c.entrySheet_of_leaf hlevel, conditionsWithin_of_leaf hlevel,
          isScope_of_level?, hlevel]
      | some fields =>
          have hsheet : ∀ selector,
              sheetConditions (c.sheet fields selector) = conditionsWithin value := by
            intro selector
            rw [conditionsWithin_of_level hlevel]
            exact c.sheetConditions_sheet_of_scopes
              fun e he => ih fields hlevel e he selector e.1
          have hscope : isScope value = true := by simp [isScope_of_level?, hlevel]
          rw [c.entrySheet_of_level hlevel, hscope, Bool.and_true]
          cases hprelude : wrapperPrelude? key with
          | none =>
              have hkey := (isSelectorKey_eq_true_iff.1
                (wrapperPrelude?_eq_none_iff.1 hprelude)).2
              simp [hkey, hsheet]
          | some prelude =>
              have hempty : c.sheet fields selector = [] ↔ holdsLeaf value = false := by
                rw [sheet_eq_nil_iff, holdsLeaf_of_level hlevel]
              cases hleaf : holdsLeaf value with
              | true =>
                  have hne : c.sheet fields selector ≠ [] := by simp [hempty, hleaf]
                  rw [Bool.and_true, ← condition_of_wrapperPrelude? hprelude,
                    sheetConditions_wrap hne, hsheet]
              | false =>
                  -- Below a key that is left out there is no condition either.
                  have hnil := hempty.2 hleaf
                  rw [Bool.and_false, ← hsheet selector, hnil]
                  rfl

/-- The conditions of a sheet are the keys of the feature queries with a leaf to put out. -/
theorem sheetConditions_sheet (tree : Tree) (ancestor : String) :
    sheetConditions (c.sheet tree ancestor) = treeConditions tree :=
  c.sheetConditions_sheet_of_scopes fun e _ => c.sheetConditions_entrySheet e.2 ancestor e.1

/-- **Selectors are decoded, conditions are not.** No selector of a sheet holds a code, whatever the
tree and the ancestor hold. The conditions are the keys of the feature queries with a leaf to put
out, letter by letter and in order: a condition holds a code exactly if the key does. -/
theorem selectors_decoded (escape : Bool) (tree : Tree) (ancestor : String) :
    (∀ selector ∈ sheetSelectors (sheet ⟨.legacy, escape⟩ tree ancestor), Decoded selector) ∧
      sheetConditions (sheet ⟨.legacy, escape⟩ tree ancestor) = treeConditions tree :=
  ⟨(compositional_selectors _ (decoded_resolveSelector escape)).sheet tree ancestor,
    sheetConditions_sheet _ tree ancestor⟩

/-- A feature query that asks for quotes, as an export gives it. -/
def quotedQuery : Tree := [("@supports (content: u0022xu0022)", .obj [("color", .str "red")])]

/-- There are sheets with codes in their conditions. -/
theorem not_forall_conditions_decoded :
    ¬ ∀ (tree : Tree) (ancestor : String) (escape : Bool),
      ∀ condition ∈ sheetConditions (sheet ⟨.legacy, escape⟩ tree ancestor), Decoded condition := by
  intro h
  have hmem : "@supports (content: u0022xu0022)" ∈
      sheetConditions (sheet ⟨.legacy, true⟩ quotedQuery ".a") := by
    rw [sheetConditions_sheet]
    decide
  exact absurd (h quotedQuery ".a" true _ hmem) (by decide)

end Compiler

end BlockSheet.Style
