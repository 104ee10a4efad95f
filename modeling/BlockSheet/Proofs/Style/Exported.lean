import BlockSheet.Proofs.Style.Scopes
import BlockSheet.Proofs.Style.Spelling

/-!
# Exported style trees

An export gives the special characters of a style tree as codes: those of the keys of selector
scopes, and the quotes of string values (`exportedTree`). The keys of wrappers and of properties
stay as they are. This module proves that the compiler does not notice (`compile_exportedTree`): a
tree and its export compile to the same CSS.

The codes of a key are resolved at different times, parent references at every level and all others
at the leaves. What carries the induction is therefore not that the selectors are the same but that
each selector of the export is a spelling of the selector of the tree; only where it heads a rule do
the two become one (`resolveSelector_eq_of_spelled`). There must be an ancestor, since without one
the keys of the outermost scopes are not searched for parent references.
-/

namespace BlockSheet.Style

open Json (Value)

/-! ### The export -/

/-- A character of a string value in an export: a quote is given as its code. -/
def exportedValueChar (c : Char) : List Char :=
  if c = '"' then "u0022".toList
  else if c = '\x27' then "u0027".toList
  else [c]

/-- A character of the key of a selector scope in an export. -/
def exportedKeyChar (c : Char) : List Char :=
  if c = '&' then "u0026".toList
  else if c = '>' then "u003e".toList
  else if c = '<' then "u003c".toList
  else exportedValueChar c

/-- The key of an entry in an export: that of a selector scope is encoded. -/
def exportedKey (key : String) (value : Value) : String :=
  if isScope value && isSelectorKey key then String.ofList (key.toList.flatMap exportedKeyChar)
  else key

/-- A string value in an export: its quotes are encoded. -/
def exportedString (s : String) : String := String.ofList (s.toList.flatMap exportedValueChar)

mutual

/-- A value in an export. -/
def exportedValue : Value → Value
  | .null => .null
  | .bool b => .bool b
  | .num n => .num n
  | .str s => .str (exportedString s)
  | .arr items => .arr (exportedItems items)
  | .obj fields => .obj (exportedTree fields)

/-- A style tree in an export. -/
def exportedTree : List (String × Value) → List (String × Value)
  | [] => []
  | (key, value) :: fields => (exportedKey key value, exportedValue value) :: exportedTree fields

/-- The items of an array in an export. -/
def exportedItems : List Value → List Value
  | [] => []
  | value :: values => exportedValue value :: exportedItems values

end

/-! ### Trees without codes -/

/-- No code occurs in the text. -/
def FreeOfCodes (text : String) : Prop :=
  ∀ code ∈ ["u0026", "u003e", "u003c", "u0022", "u0027"],
    Text.contains code.toList text.toList = false

mutual

/-- No key in the value holds a code. -/
def KeysFreeOfCodes : Value → Prop
  | .arr items => ItemKeysFreeOfCodes items
  | .obj fields => TreeFreeOfCodes fields
  | _ => True

/-- No key of the style tree, at any depth, holds a code. -/
def TreeFreeOfCodes : List (String × Value) → Prop
  | [] => True
  | (key, value) :: fields => FreeOfCodes key ∧ KeysFreeOfCodes value ∧ TreeFreeOfCodes fields

/-- No key in the items holds a code. -/
def ItemKeysFreeOfCodes : List Value → Prop
  | [] => True
  | value :: values => KeysFreeOfCodes value ∧ ItemKeysFreeOfCodes values

end

instance (text : String) : Decidable (FreeOfCodes text) :=
  inferInstanceAs (Decidable (∀ code ∈ ["u0026", "u003e", "u003c", "u0022", "u0027"], _))

/-! ### Characters and codes -/

theorem freeOfCodes_iff {text : String} :
    FreeOfCodes text ↔ ∀ code : LegacyCode, ¬ code.spelling <:+: text.toList := by
  have hspellings : ["u0026", "u003e", "u003c", "u0022", "u0027"].map String.toList =
      keyCodes.map LegacyCode.spelling := by decide
  unfold FreeOfCodes
  rw [LegacyCode.forall_iff_of_map_eq hspellings (P := (Text.contains · text.toList = false))]
  exact ⟨fun h code => Text.contains_eq_false_iff.1 (h code (mem_keyCodes code)),
    fun h code _ => Text.contains_eq_false_iff.2 (h code)⟩

theorem exportedValueChar_eq (c : Char) : exportedValueChar c = encodeChar valueCodes c := by
  unfold exportedValueChar
  by_cases hdouble : c = '"'
  · subst hdouble
    rfl
  · by_cases hsingle : c = '\x27'
    · subst hsingle
      rfl
    · rw [if_neg hdouble, if_neg hsingle]
      simp [encodeChar, valueCodes, LegacyCode.char, Ne.symm hdouble, Ne.symm hsingle]

theorem exportedKeyChar_eq (c : Char) : exportedKeyChar c = encodeChar keyCodes c := by
  unfold exportedKeyChar
  by_cases hampersand : c = '&'
  · subst hampersand
    rfl
  · by_cases hgreater : c = '>'
    · subst hgreater
      rfl
    · by_cases hless : c = '<'
      · subst hless
        rfl
      · -- The codes that are left are those of values.
        rw [if_neg hampersand, if_neg hgreater, if_neg hless, exportedValueChar_eq]
        simp [encodeChar, keyCodes, selectorCodes, valueCodes, LegacyCode.char,
          Ne.symm hampersand, Ne.symm hgreater, Ne.symm hless]

theorem exportedString_eq (s : String) :
    exportedString s = String.ofList (encodeChars valueCodes s.toList) := by
  rw [exportedString, encodeChars, funext exportedValueChar_eq]

theorem exportedKey_eq (key : String) (value : Value) :
    exportedKey key value = if isScope value && isSelectorKey key then encodeKey key else key := by
  rw [exportedKey, encodeKey, encodeChars, funext exportedKeyChar_eq]

/-! ### Keys -/

/-- Encoding a key does not make it the key of a breakpoint. -/
theorem breakpoint?_encodeKey {key : String} (h : breakpoint? key = none) :
    breakpoint? (encodeKey key) = none := by
  cases henc : breakpoint? (encodeKey key) with
  | none => rfl
  | some breakpoint =>
      obtain ⟨rest, hrest, -⟩ := Option.map_eq_some_iff.1 henc
      have hspelled := spelled_encodeChars keyCodes key.toList
      rw [← toList_encodeKey, Text.after?_eq_some.1 hrest] at hspelled
      obtain ⟨rest', hkey, -⟩ := hspelled.append_left (by decide)
      rw [breakpoint?, hkey, Text.after?_append] at h
      cases h

/-- Encoding a key does not make it a feature query. -/
theorem isSupportsKey_encodeKey {key : String} (h : isSupportsKey key = false) :
    isSupportsKey (encodeKey key) = false := by
  cases henc : isSupportsKey (encodeKey key) with
  | false => rfl
  | true =>
      obtain ⟨rest, hrest⟩ := Text.startsWith_iff.1 henc
      have hspelled := spelled_encodeChars keyCodes key.toList
      -- There is a `u` in the beginning of a feature query, but no code begins with `up`.
      have hparts : supportsStart.toList ++ rest =
          ['@', 's'] ++ 'u' :: (['p', 'p', 'o', 'r', 't', 's'] ++ rest) := rfl
      rw [← toList_encodeKey, ← hrest, hparts] at hspelled
      obtain ⟨tail, hkey, htail⟩ := hspelled.append_left (by decide)
      rcases htail.cons_left with ⟨tail, rfl, hafter⟩ | ⟨k, -, hcode⟩
      · obtain ⟨tail, rfl, -⟩ := hafter.append_left (by decide)
        have hstart : supportsStart.toList <+: key.toList := by
          rw [hkey]
          exact ⟨tail, rfl⟩
        rw [isSupportsKey, Text.startsWith_iff.2 hstart] at h
        cases h
      · obtain ⟨end', hend⟩ := hcode
        cases k <;> cases hend

/-- The index of an item holds no character that has a code, and no part of a code. -/
theorem u_not_mem_digits (n : Nat) : 'u' ∉ Decimal.digits n :=
  fun h => absurd (Decimal.isDigit_of_mem_digits h) (by decide)

theorem char_not_mem_digits (k : LegacyCode) (n : Nat) : k.char ∉ Decimal.digits n := by
  intro h
  have hdigit := Decimal.isDigit_of_mem_digits h
  cases k <;> exact absurd hdigit (by decide)

theorem freeOfCodes_index (n : Nat) : FreeOfCodes (String.ofList (Decimal.digits n)) := by
  refine freeOfCodes_iff.2 fun code => ?_
  rw [String.toList_ofList, code.spelling_eq]
  rintro ⟨front, rest, heq⟩
  refine u_not_mem_digits n ?_
  rw [← heq]
  simp

/-- The index of an item is the same in an export. -/
theorem exportedKey_index (n : Nat) (value : Value) :
    exportedKey (String.ofList (Decimal.digits n)) value = String.ofList (Decimal.digits n) := by
  have hencode : encodeKey (String.ofList (Decimal.digits n)) =
      String.ofList (Decimal.digits n) := by
    rw [encodeKey, String.toList_ofList, encodeChars_eq_self fun k => char_not_mem_digits k n]
  rw [exportedKey_eq, hencode, ite_self]

theorem exportedTree_indexed (index : Nat) (items : List Value) :
    exportedTree (indexed index items) = indexed index (exportedItems items) := by
  induction items generalizing index with
  | nil => rw [indexed, exportedTree, exportedItems, indexed]
  | cons value values ih =>
      rw [indexed, exportedTree, exportedItems, indexed, exportedKey_index, ih]

/-! ### Leaves -/

/-- A leaf has the same declaration in an export, and an entry that is a scope has none in both. -/
theorem ofLeaf?_exported (key : String) (value : Value) :
    Declaration.ofLeaf? .legacy (exportedKey key value) (exportedValue value) =
      Declaration.ofLeaf? .legacy key value := by
  cases value with
  | null => rfl
  | bool b => rfl
  | num n => rfl
  | str s =>
      have hvalue : stringValue .legacy (encodeChars valueCodes s.toList) =
          stringValue .legacy s.toList := by
        rw [stringValue, stringValue, Escapes.valueChars, Escapes.valueChars,
          (spelled_encodeChars valueCodes s.toList).decodeCodes_eq]
      have hkey : exportedKey key (.str s) = key := rfl
      rw [hkey, exportedValue, exportedString_eq, Declaration.ofLeaf?, Declaration.ofLeaf?,
        leafValue?, leafValue?, String.toList_ofList, hvalue]
  | arr items =>
      rw [exportedValue, Declaration.ofLeaf?, Declaration.ofLeaf?]
      simp only [leafValue?, Option.map_none]
  | obj fields =>
      rw [exportedValue, Declaration.ofLeaf?, Declaration.ofLeaf?]
      simp only [leafValue?, Option.map_none]

/-- A level has the same declarations of its own in an export. -/
theorem ownDeclarations_exportedTree (escape : Bool) (fields : Tree) :
    Compiler.ownDeclarations ⟨.legacy, escape⟩ (classify (exportedTree fields)) =
      Compiler.ownDeclarations ⟨.legacy, escape⟩ (classify fields) := by
  induction fields with
  | nil => rw [exportedTree]
  | cons entry fields ih =>
      obtain ⟨key, value⟩ := entry
      have hhead : Compiler.ownDeclarations ⟨.legacy, escape⟩
          (classifyEntry (exportedKey key value) (exportedValue value)) =
            Compiler.ownDeclarations ⟨.legacy, escape⟩ (classifyEntry key value) := by
        rw [Compiler.ownDeclarations_classifyEntry, Compiler.ownDeclarations_classifyEntry]
        exact congrArg Option.toList (ofLeaf?_exported key value)
      rw [exportedTree, classify, classify, Compiler.ownDeclarations_append,
        Compiler.ownDeclarations_append, hhead, ih]

/-! ### Levels -/

/-- The ancestors of a level and of its export: the one spells the other. -/
structure SpelledAncestor (ancestor' ancestor : String) : Prop where
  spelled : Spelled selectorCodes ancestor'.toList ancestor.toList
  ne_empty : ancestor ≠ ""

section Levels

variable (escape : Bool) {ancestor' ancestor : String}

theorem SpelledAncestor.compose (h : SpelledAncestor ancestor' ancestor) {key : String}
    (hkey : FreeOfCodes key) :
    SpelledAncestor (Compiler.composeSelector ⟨.legacy, escape⟩ ancestor' (encodeKey key))
      (Compiler.composeSelector ⟨.legacy, escape⟩ ancestor key) :=
  ⟨spelled_composeSelector escape h.spelled h.ne_empty (freeOfCodes_iff.1 hkey _),
    composeSelector_ne_empty escape h.ne_empty (freeOfCodes_iff.1 hkey _)⟩

/-- A level compiles to the same sheet in an export if its scopes do. -/
theorem sheet_exportedTree_of_scopes (h : SpelledAncestor ancestor' ancestor) {fields : Tree}
    (hscopes : ((exportedTree fields).flatMap fun entry =>
        Compiler.entrySheet ⟨.legacy, escape⟩ ancestor' entry.1 entry.2) =
      fields.flatMap fun entry =>
        Compiler.entrySheet ⟨.legacy, escape⟩ ancestor entry.1 entry.2) :
    Compiler.sheet ⟨.legacy, escape⟩ (exportedTree fields) ancestor' =
      Compiler.sheet ⟨.legacy, escape⟩ fields ancestor := by
  rw [Compiler.sheet_eq, Compiler.sheet_eq, hscopes, Compiler.ownRule, Compiler.ownRule,
    ownDeclarations_exportedTree, resolveSelector_eq_of_spelled escape h.spelled]

/-- A scope puts out the same sheet in an export, if its level does under spelled ancestors. -/
theorem entrySheet_exported_of_level {key : String} {value : Value} {fields : Tree}
    (h : SpelledAncestor ancestor' ancestor) (hkey : FreeOfCodes key)
    (hvalue : Compiler.level? value = some fields)
    (hexported : Compiler.level? (exportedValue value) = some (exportedTree fields))
    (hlevel : ∀ {ancestor' ancestor : String}, SpelledAncestor ancestor' ancestor →
      Compiler.sheet ⟨.legacy, escape⟩ (exportedTree fields) ancestor' =
        Compiler.sheet ⟨.legacy, escape⟩ fields ancestor) :
    Compiler.entrySheet ⟨.legacy, escape⟩ ancestor' (exportedKey key value)
        (exportedValue value) =
      Compiler.entrySheet ⟨.legacy, escape⟩ ancestor key value := by
  have hscope : isScope value = true := by
    cases value <;> first | rfl | cases hvalue
  rw [Compiler.entrySheet, Compiler.entrySheet, hvalue, hexported, exportedKey_eq, hscope,
    Bool.true_and]
  cases hselector : isSelectorKey key with
  | true =>
      obtain ⟨hbreakpoint, hsupports⟩ := isSelectorKey_eq_true_iff.1 hselector
      have hcomposed := hlevel (h.compose escape hkey)
      simp only [if_true, breakpoint?_encodeKey hbreakpoint, isSupportsKey_encodeKey hsupports,
        hbreakpoint, hsupports, Bool.false_eq_true, if_false, hcomposed]
  | false =>
      simp only [Bool.false_eq_true, if_false, hlevel h]
      cases hbreakpoint : breakpoint? key with
      | some breakpoint => rfl
      | none =>
          have hsupports : isSupportsKey key = true := by
            simpa [isSelectorKey_eq, hbreakpoint] using hselector
          simp only [hsupports, if_true]

end Levels

mutual

/-- An entry puts out the same sheet in an export. -/
theorem entrySheet_exported (escape : Bool) {ancestor' ancestor key : String}
    (h : SpelledAncestor ancestor' ancestor) (hkey : FreeOfCodes key) :
    ∀ value : Value, KeysFreeOfCodes value →
      Compiler.entrySheet ⟨.legacy, escape⟩ ancestor' (exportedKey key value)
          (exportedValue value) =
        Compiler.entrySheet ⟨.legacy, escape⟩ ancestor key value
  | .null, _ => rfl
  | .bool _, _ => rfl
  | .num _, _ => rfl
  | .str _, _ => rfl
  | .arr items, hfree => by
      rw [KeysFreeOfCodes] at hfree
      refine entrySheet_exported_of_level escape h hkey rfl ?_ fun h' => ?_
      · rw [exportedValue, exportedTree_indexed]
        rfl
      · refine sheet_exportedTree_of_scopes escape h' ?_
        rw [exportedTree_indexed]
        exact scopes_exportedItems escape h' 0 items hfree
  | .obj fields, hfree => by
      rw [KeysFreeOfCodes] at hfree
      refine entrySheet_exported_of_level escape h hkey rfl ?_ fun h' => ?_
      · rw [exportedValue]
        rfl
      · exact sheet_exportedTree_of_scopes escape h' (scopes_exportedTree escape h' fields hfree)

/-- The scopes of a level put out the same sheets in an export. -/
theorem scopes_exportedTree (escape : Bool) {ancestor' ancestor : String}
    (h : SpelledAncestor ancestor' ancestor) :
    ∀ fields : List (String × Value), TreeFreeOfCodes fields →
      ((exportedTree fields).flatMap fun entry =>
          Compiler.entrySheet ⟨.legacy, escape⟩ ancestor' entry.1 entry.2) =
        fields.flatMap fun entry =>
          Compiler.entrySheet ⟨.legacy, escape⟩ ancestor entry.1 entry.2
  | [], _ => by rw [exportedTree, List.flatMap_nil, List.flatMap_nil]
  | (key, value) :: fields, hfree => by
      rw [TreeFreeOfCodes] at hfree
      rw [exportedTree, List.flatMap_cons, List.flatMap_cons,
        entrySheet_exported escape h hfree.1 value hfree.2.1,
        scopes_exportedTree escape h fields hfree.2.2]

/-- The scopes of a level that is an array put out the same sheets in an export. -/
theorem scopes_exportedItems (escape : Bool) {ancestor' ancestor : String}
    (h : SpelledAncestor ancestor' ancestor) (index : Nat) :
    ∀ items : List Value, ItemKeysFreeOfCodes items →
      ((indexed index (exportedItems items)).flatMap fun entry =>
          Compiler.entrySheet ⟨.legacy, escape⟩ ancestor' entry.1 entry.2) =
        (indexed index items).flatMap fun entry =>
          Compiler.entrySheet ⟨.legacy, escape⟩ ancestor entry.1 entry.2
  | [], _ => by rw [exportedItems, indexed, List.flatMap_nil, List.flatMap_nil]
  | value :: values, hfree => by
      rw [ItemKeysFreeOfCodes] at hfree
      have hhead := entrySheet_exported escape h (freeOfCodes_index index) value hfree.1
      rw [exportedKey_index] at hhead
      rw [exportedItems, indexed, indexed, List.flatMap_cons, List.flatMap_cons, hhead,
        scopes_exportedItems escape h (index + 1) values hfree.2]

end

/-- **The compiler does not notice an export.** A style tree whose keys hold no code compiles to the
same CSS as its export, under every ancestor and with and without escaping. -/
theorem compile_exportedTree (escape : Bool) (tree : Tree) (ancestor : String)
    (hancestor : ancestor ≠ "") (hfree : TreeFreeOfCodes tree) :
    compile (exportedTree tree) ancestor escape = compile tree ancestor escape := by
  have hsame : SpelledAncestor ancestor ancestor := ⟨.refl _ _, hancestor⟩
  rw [compile, compile, Compiler.compile, Compiler.compile,
    sheet_exportedTree_of_scopes escape hsame (scopes_exportedTree escape hsame tree hfree)]

/-- A tree with references at two depths, with a beginning of a code next to a character that has
one, and with quotes in a value. -/
def quotingTree : Tree :=
  [("&u00 > .b['x']", .obj [
    ("content", .str "\"u00'"),
    ("media_sm", .obj [(".c &", .obj [("color", .str "red")])])])]

/-- The export of the tree, which differs from it at every depth. -/
def quotedTree : Tree :=
  [("u0026u00 u003e .b[u0027xu0027]", .obj [
    ("content", .str "u0022u00u0027"),
    ("media_sm", .obj [(".c u0026", .obj [("color", .str "red")])])])]

/-- The export of the tree compiles to the CSS of the tree. -/
theorem compile_exportedTree_quoting : ".a" ≠ "" ∧ TreeFreeOfCodes quotingTree ∧
    exportedTree quotingTree = quotedTree ∧
    compile quotedTree ".a" true = compile quotingTree ".a" true := by
  have hfree : TreeFreeOfCodes quotingTree := by
    simp only [quotingTree, TreeFreeOfCodes, KeysFreeOfCodes]
    decide
  have hexport : exportedTree quotingTree = quotedTree := by rfl
  have hcompile := compile_exportedTree true quotingTree ".a" (by decide) hfree
  rw [hexport] at hcompile
  exact ⟨by decide, hfree, hexport, hcompile⟩

end BlockSheet.Style
