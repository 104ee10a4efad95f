import BlockSheet.Proofs.Style.Levels
import BlockSheet.Proofs.Text.Pattern

/-!
# Leaves of a style tree and declarations of its sheet

A style tree is an ordered description of declarations: each leaf stands in scopes, whose keys give
it a chain of wrappers and a selector. A sheet says the same in another form: each declaration
stands in a rule, and the rule in groups. This module reads both off in order, `Compiler.leaves`
from the tree and `sheetReadings` from the sheet, and proves that compiling keeps the sequence
(`sheet_reads_leaves`).

The two sides meet level by level. What is read off the scopes of a level are the leaves below them
(`readings_scopes`), and what is read off its own rule are the leaves of the level itself
(`readings_ownRule`).
-/

namespace BlockSheet.Style

open Json (Value)

/-! ### Reading a sheet -/

/-- A declaration with its surroundings: the preludes of the groups around it, from outside in, and
the selector of its rule. -/
structure Reading where
  preludes : List String
  selector : String
  declaration : Declaration

mutual

/-- The declarations of a piece of a sheet in output order, below some preludes. -/
def Css.readings (preludes : List String) : Css → List Reading
  | .rule selector ds => ds.map (⟨preludes, selector, ·⟩)
  | .group prelude body => sheetReadings (preludes ++ [prelude]) body

/-- The declarations of a sheet in output order, below some preludes. -/
def sheetReadings (preludes : List String) : List Css → List Reading
  | [] => []
  | css :: sheet => css.readings preludes ++ sheetReadings preludes sheet

end

@[simp] theorem sheetReadings_nil (preludes : List String) : sheetReadings preludes [] = [] := by
  rw [sheetReadings]

@[simp] theorem sheetReadings_append (preludes : List String) (a b : List Css) :
    sheetReadings preludes (a ++ b) = sheetReadings preludes a ++ sheetReadings preludes b := by
  induction a with
  | nil => rw [List.nil_append, sheetReadings_nil, List.nil_append]
  | cons css a ih =>
      rw [List.cons_append, sheetReadings, sheetReadings, ih, List.append_assoc]

/-- A prelude that is put around a sheet joins the chain of all that is read in it; that the empty
sheet gets none makes no difference. -/
theorem sheetReadings_wrap (preludes : List String) (prelude : String) (sheet : List Css) :
    sheetReadings preludes (Compiler.wrap prelude sheet) =
      sheetReadings (preludes ++ [prelude]) sheet := by
  cases sheet with
  | nil => rw [Compiler.wrap, sheetReadings_nil, sheetReadings_nil]
  | cons css sheet =>
      rw [Compiler.wrap, sheetReadings, Css.readings, sheetReadings_nil, List.append_nil]
      exact fun h => nomatch h

/-! ### Keys of scopes -/

theorem isSupportsKey_eq (key : String) :
    isSupportsKey key = decide ("@supports".toList <+: key.toList) := by
  rw [Bool.eq_iff_iff, isSupportsKey, Text.startsWith_iff, decide_eq_true_iff]
  rfl

theorem breakpoint?_eq_ite (key : String) :
    breakpoint? key =
      if "media_".toList <+: key.toList then some (String.ofList (key.toList.drop 6))
      else none := by
  by_cases hstart : "media_".toList <+: key.toList
  · obtain ⟨rest, hkey⟩ := hstart
    have hafter : Text.after? mediaStart.toList ("media_".toList ++ rest) = some rest :=
      Text.after?_append _ rest
    have hdrop : ("media_".toList ++ rest).drop 6 = rest := rfl
    rw [if_pos ⟨rest, hkey⟩, breakpoint?, ← hkey, hafter, hdrop, Option.map_some]
  · rw [if_neg hstart, breakpoint?, Option.map_eq_none_iff, Option.eq_none_iff_forall_ne_some]
    exact fun rest hrest => hstart ⟨rest, (Text.after?_eq_some.1 hrest).symm⟩

/-! ### Reading a tree -/

/-- Where something stands in a style tree: the preludes of the wrappers around it, from outside in,
and the selector that is composed for it. -/
structure Place where
  preludes : List String
  selector : String

/-- The place behind the key of a scope. The key of a wrapper, which begins with `media_` or
`@supports`, extends the chain and keeps the selector; any other key composes the selector. -/
def Place.enter (c : Compiler) (place : Place) (key : String) : Place :=
  if "media_".toList <+: key.toList then
    let breakpoint := String.ofList (key.toList.drop 6)
    { place with preludes := place.preludes ++ [Compiler.mediaPrelude breakpoint] }
  else if "@supports".toList <+: key.toList then
    { place with preludes := place.preludes ++ [key] }
  else { place with selector := c.composeSelector place.selector key }

/-- A leaf of a style tree in its place. -/
structure Leaf where
  place : Place
  key : String
  value : Value

/-- Is the value an object or an array? -/
def isScope : Value → Bool
  | .arr _ | .obj _ => true
  | _ => false

/-- Does a leaf of this value produce nothing? -/
def isDropped : Value → Bool
  | .null | .bool false => true
  | _ => false

/-- The leaves among the entries of a level, in the order of their keys. -/
def Place.ownLeaves (place : Place) (fields : Tree) : List Leaf :=
  (fields.filter fun entry => !isScope entry.2 && !isDropped entry.2).map fun entry =>
    ⟨place, entry.1, entry.2⟩

/-- The items of an array as the entries of a level, keyed by their indices. -/
def indexed (index : Nat) : List Value → Tree
  | [] => []
  | value :: values => (String.ofList (Decimal.digits index), value) :: indexed (index + 1) values

namespace Compiler

mutual

/-- The leaves of a scope whose key has been entered: those below its own scopes, then those of the
level itself. -/
def scopeLeaves (c : Compiler) (place : Place) : Value → List Leaf
  | .obj fields => c.nestedLeaves place fields ++ place.ownLeaves fields
  | .arr items => c.nestedItems place 0 items ++ place.ownLeaves (indexed 0 items)
  | _ => []

/-- The leaves below the scopes of a level, in the order of the keys. -/
def nestedLeaves (c : Compiler) (place : Place) : List (String × Value) → List Leaf
  | [] => []
  | (key, value) :: fields =>
    c.scopeLeaves (place.enter c key) value ++ c.nestedLeaves place fields

/-- The leaves below the items of an array. -/
def nestedItems (c : Compiler) (place : Place) (index : Nat) : List Value → List Leaf
  | [] => []
  | value :: values =>
    c.scopeLeaves (place.enter c (String.ofList (Decimal.digits index))) value ++
      c.nestedItems place (index + 1) values

end

/-- The leaves of a style tree under an ancestor selector, without the dropped ones: at every level
first all below the scopes, then those of the level itself. -/
def leaves (c : Compiler) (tree : Tree) (ancestor : String) : List Leaf :=
  c.scopeLeaves ⟨[], ancestor⟩ (.obj tree)

/-- What is to be read off a sheet for a leaf. -/
def reading? (c : Compiler) (leaf : Leaf) : Option Reading :=
  (Declaration.ofLeaf? c.escapes leaf.key leaf.value).map fun d =>
    ⟨leaf.place.preludes, c.resolveSelector leaf.place.selector, d⟩

/-! ### Levels that are arrays -/

@[simp] theorem classify_indexed (index : Nat) (items : List Value) :
    classify (indexed index items) = classifyItems index items := by
  induction items generalizing index with
  | nil => rw [indexed, classify, classifyItems]
  | cons value values ih => rw [indexed, classify, classifyItems, ih]

/-! ### The leaves of a level itself -/

/-- Exactly `null` and `false` drop out: any other value but a scope has a declaration. -/
theorem ofLeaf?_isSome (c : Compiler) (key : String) (value : Value) :
    (Declaration.ofLeaf? c.escapes key value).isSome = (!isScope value && !isDropped value) := by
  cases value with
  | null => rfl
  | bool b => cases b <;> rfl
  | num n => rfl
  | str s => rfl
  | arr items => rfl
  | obj fields => rfl

theorem ownDeclarations_classifyEntry (c : Compiler) (key : String) (value : Value) :
    c.ownDeclarations (classifyEntry key value) =
      (Declaration.ofLeaf? c.escapes key value).toList := by
  -- Whatever kind of scope the key makes, it is no leaf.
  have hscope : ∀ children, c.ownDeclaration? (Node.ofScope key children) = none := by
    intro children
    rw [Node.ofScope]
    cases breakpoint? key with
    | some breakpoint => rfl
    | none => cases h : isSupportsKey key <;> rfl
  cases value with
  | null => rfl
  | bool b => cases b <;> rfl
  | num n => rfl
  | str s => rfl
  | arr items => rw [classifyEntry, ownDeclarations, List.filterMap_cons_none (hscope _)]; rfl
  | obj fields => rw [classifyEntry, ownDeclarations, List.filterMap_cons_none (hscope _)]; rfl

/-- The declarations of a level are those of its leaves, none of which lacks one. -/
theorem ownDeclarations_classify (c : Compiler) (place : Place) (fields : Tree) :
    (c.ownDeclarations (classify fields)).map some =
      (place.ownLeaves fields).map fun leaf =>
        Declaration.ofLeaf? c.escapes leaf.key leaf.value := by
  induction fields with
  | nil => rfl
  | cons entry fields ih =>
      obtain ⟨key, value⟩ := entry
      have hhead := c.ownDeclarations_classifyEntry key value
      have hsome := c.ofLeaf?_isSome key value
      rw [Place.ownLeaves] at ih ⊢
      rw [ownDeclarations] at ih hhead ⊢
      rw [classify, List.filterMap_append, List.map_append, hhead, ih, List.filter_cons]
      cases hd : Declaration.ofLeaf? c.escapes key value with
      | none =>
          rw [hd] at hsome
          rw [if_neg (by simp [← hsome])]
          rfl
      | some d =>
          rw [hd] at hsome
          rw [if_pos (by simp [← hsome]), List.map_cons, List.map_cons, hd]
          rfl

/-- What is read off the rule of a level are the declarations of the level itself. -/
theorem sheetReadings_ownRule (c : Compiler) (preludes : List String) (selector : String)
    (nodes : List Node) :
    sheetReadings preludes (c.ownRule selector nodes) =
      (c.ownDeclarations nodes).map (⟨preludes, c.resolveSelector selector, ·⟩) := by
  rw [ownRule]
  cases c.ownDeclarations nodes with
  | nil => rfl
  | cons d ds => rw [sheetReadings, Css.readings, sheetReadings_nil, List.append_nil]

/-- What is read off the rule of a level are the leaves of the level itself. -/
theorem readings_ownRule (c : Compiler) (place : Place) (fields : Tree) :
    (sheetReadings place.preludes (c.ownRule place.selector (classify fields))).map some =
      (place.ownLeaves fields).map c.reading? := by
  -- The declarations become readings on both sides, all in the one place of the level.
  have hleaves := congrArg
    (List.map (Option.map (Reading.mk place.preludes (c.resolveSelector place.selector))))
    (c.ownDeclarations_classify place fields)
  rw [List.map_map, List.map_map] at hleaves
  rw [sheetReadings_ownRule, List.map_map]
  refine hleaves.trans (List.map_congr_left fun leaf hleaf => ?_)
  obtain ⟨entry, -, rfl⟩ := List.mem_map.1 hleaf
  rfl

/-! ### The leaves below the scopes of a level -/

/-- A scope shows what its level shows in the place behind its key. -/
theorem readings_scopeSheet (c : Compiler) (place : Place) (key : String) (children : List Node) :
    sheetReadings place.preludes (c.scopeSheet place.selector (Node.ofScope key children)) =
      sheetReadings (place.enter c key).preludes
        (c.accumulate children (place.enter c key).selector) := by
  rw [Node.ofScope, Place.enter, breakpoint?_eq_ite, isSupportsKey_eq]
  by_cases hmedia : "media_".toList <+: key.toList
  · rw [if_pos hmedia, if_pos hmedia]
    exact sheetReadings_wrap _ _ _
  · rw [if_neg hmedia, if_neg hmedia]
    by_cases hsupports : "@supports".toList <+: key.toList
    · rw [if_pos hsupports, decide_eq_true hsupports]
      exact sheetReadings_wrap _ _ _
    · rw [if_neg hsupports, decide_eq_false hsupports]
      rfl

/-- Reading a level, given what is read off its scopes. -/
theorem readings_accumulate (c : Compiler) (place : Place) (fields : Tree) {below : List Leaf}
    (hbelow : (sheetReadings place.preludes
      ((classify fields).flatMap (c.scopeSheet place.selector))).map some =
        below.map c.reading?) :
    (sheetReadings place.preludes (c.accumulate (classify fields) place.selector)).map some =
      (below ++ place.ownLeaves fields).map c.reading? := by
  rw [accumulate_eq, sheetReadings_append, List.map_append, List.map_append, hbelow,
    readings_ownRule]

mutual

theorem readings_entry (c : Compiler) (place : Place) (key : String) : ∀ value : Value,
    (sheetReadings place.preludes
      ((classifyEntry key value).flatMap (c.scopeSheet place.selector))).map some =
        (c.scopeLeaves (place.enter c key) value).map c.reading?
  | .null => rfl
  | .bool false => rfl
  | .bool true => rfl
  | .num _ => rfl
  | .str _ => rfl
  | .arr items => by
      have hitems := readings_items c (place.enter c key) 0 items
      rw [← classify_indexed] at hitems
      have hlevel := c.readings_accumulate _ _ hitems
      rw [classifyEntry, List.flatMap_singleton, readings_scopeSheet, scopeLeaves,
        ← classify_indexed, hlevel]
  | .obj fields => by
      have hfields := readings_scopes c (place.enter c key) fields
      rw [classifyEntry, List.flatMap_singleton, readings_scopeSheet, scopeLeaves,
        c.readings_accumulate _ _ hfields]

/-- What is read off the scopes of a level are the leaves below them. -/
theorem readings_scopes (c : Compiler) (place : Place) : ∀ fields : List (String × Value),
    (sheetReadings place.preludes
      ((classify fields).flatMap (c.scopeSheet place.selector))).map some =
        (c.nestedLeaves place fields).map c.reading?
  | [] => by rw [classify, nestedLeaves, List.flatMap_nil, sheetReadings_nil]; rfl
  | (key, value) :: fields => by
      rw [classify, nestedLeaves, List.flatMap_append, sheetReadings_append, List.map_append,
        List.map_append, readings_entry c place key value, readings_scopes c place fields]

theorem readings_items (c : Compiler) (place : Place) (index : Nat) : ∀ items : List Value,
    (sheetReadings place.preludes
      ((classifyItems index items).flatMap (c.scopeSheet place.selector))).map some =
        (c.nestedItems place index items).map c.reading?
  | [] => by rw [classifyItems, nestedItems, List.flatMap_nil, sheetReadings_nil]; rfl
  | value :: values => by
      rw [classifyItems, nestedItems, List.flatMap_append, sheetReadings_append, List.map_append,
        List.map_append, readings_entry c place _ value,
        readings_items c place (index + 1) values]

end

/-! ### The output of a tree -/

/-- The entries of a scope as a level. -/
def level? : Value → Option Tree
  | .obj fields => some fields
  | .arr items => some (indexed 0 items)
  | _ => none

/-- What an entry of a level puts in front of the rule of the level: the sheet of the level that it
nests, wrapped or under a composed selector. -/
def entrySheet (c : Compiler) (selector key : String) (value : Value) : List Css :=
  match level? value with
  | none => []
  | some fields =>
    match breakpoint? key with
    | some breakpoint => wrap (mediaPrelude breakpoint) (c.sheet fields selector)
    | none =>
      if isSupportsKey key then wrap key (c.sheet fields selector)
      else c.sheet fields (c.composeSelector selector key)

theorem scopeSheet_classifyEntry (c : Compiler) (selector key : String) (value : Value) :
    (classifyEntry key value).flatMap (c.scopeSheet selector) =
      c.entrySheet selector key value := by
  have hscope : ∀ fields : Tree, c.scopeSheet selector (Node.ofScope key (classify fields)) =
      match breakpoint? key with
      | some breakpoint => wrap (mediaPrelude breakpoint) (c.sheet fields selector)
      | none =>
        if isSupportsKey key then wrap key (c.sheet fields selector)
        else c.sheet fields (c.composeSelector selector key) := by
    intro fields
    rw [Node.ofScope]
    cases breakpoint? key with
    | some breakpoint => rfl
    | none => cases isSupportsKey key <;> rfl
  cases value with
  | null => rfl
  | bool b => cases b <;> rfl
  | num n => rfl
  | str s => rfl
  | arr items =>
      rw [classifyEntry, List.flatMap_singleton, ← classify_indexed, hscope]
      rfl
  | obj fields =>
      rw [classifyEntry, List.flatMap_singleton, hscope]
      rfl

/-- The output of a level in terms of the levels nested in it. -/
theorem sheet_eq (c : Compiler) (tree : Tree) (selector : String) :
    c.sheet tree selector =
      tree.flatMap (fun entry => c.entrySheet selector entry.1 entry.2) ++
        c.ownRule selector (classify tree) := by
  have hscopes : ∀ fields : Tree, (classify fields).flatMap (c.scopeSheet selector) =
      fields.flatMap fun entry => c.entrySheet selector entry.1 entry.2 := by
    intro fields
    induction fields with
    | nil => rfl
    | cons entry fields ih =>
        rw [classify, List.flatMap_append, scopeSheet_classifyEntry, ih, List.flatMap_cons]
  rw [sheet, accumulate_eq, hscopes]

/-- **Compiling keeps the leaves.** What is read off the sheet of a style tree are its leaves, each
once, in its place and in order. A level adds at most one rule of its own, which stands under its
selector and behind all that its scopes put out. -/
theorem sheet_reads_leaves (c : Compiler) (tree : Tree) (ancestor : String) :
    (sheetReadings [] (c.sheet tree ancestor)).map some =
        (c.leaves tree ancestor).map c.reading? ∧
      ∃ own : List Css,
        c.sheet tree ancestor =
          tree.flatMap (fun entry => c.entrySheet ancestor entry.1 entry.2) ++ own ∧
        own.length ≤ 1 ∧
        ∀ css ∈ own, ∃ ds, css = .rule (c.resolveSelector ancestor) ds := by
  refine ⟨?_, c.ownRule ancestor (classify tree), c.sheet_eq tree ancestor,
    c.length_ownRule_le ancestor (classify tree), ?_⟩
  · rw [leaves, scopeLeaves]
    exact c.readings_accumulate ⟨[], ancestor⟩ tree (c.readings_scopes ⟨[], ancestor⟩ tree)
  · intro css hcss
    rw [ownRule] at hcss
    cases hds : c.ownDeclarations (classify tree) with
    | nil => simp [hds] at hcss
    | cons d ds =>
        rw [hds] at hcss
        exact ⟨d :: ds, List.mem_singleton.1 hcss⟩

end Compiler

end BlockSheet.Style
