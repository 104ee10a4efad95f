import Mathlib.Data.List.Forall2
import BlockSheet.Proofs.Style.Levels
import BlockSheet.Proofs.Text.Pattern

/-!
# The stored form of a sheet

A style tree compiles to two sheets: one to be shown, and one to be stored, in which the comparison
characters of selectors are entities. They differ in nothing but their selectors
(`sheet_escape`): rules that are apart in one are apart in the other, since a level has one rule in
both, and what a scope composes is the same text before the entities are written.

A stored selector holds no comparison character, and it shows the selector that it was made from,
unless that held an entity already (`unescapeSelector_escapeSelector`).
-/

namespace BlockSheet.Style

/-! ### Selectors of a sheet -/

mutual

/-- A piece of a sheet in which every selector is changed, at any depth, and nothing else. -/
def Css.mapSelectors (f : String → String) : Css → Css
  | .rule selector declarations => .rule (f selector) declarations
  | .group prelude body => .group prelude (mapSelectors f body)

/-- A sheet in which every selector is changed, at any depth, and nothing else. -/
def mapSelectors (f : String → String) : List Css → List Css
  | [] => []
  | css :: sheet => css.mapSelectors f :: mapSelectors f sheet

end

mutual

/-- The selectors of the rules of a piece, at any depth, in order. -/
def Css.selectors : Css → List String
  | .rule selector _ => [selector]
  | .group _ body => sheetSelectors body

/-- The selectors of the rules of a sheet, at any depth, in order. -/
def sheetSelectors : List Css → List String
  | [] => []
  | css :: sheet => css.selectors ++ sheetSelectors sheet

end

@[simp] theorem mapSelectors_nil (f : String → String) : mapSelectors f [] = [] := by
  rw [mapSelectors]

@[simp] theorem mapSelectors_append (f : String → String) (a b : List Css) :
    mapSelectors f (a ++ b) = mapSelectors f a ++ mapSelectors f b := by
  induction a with
  | nil => simp
  | cons css a ih => simp [mapSelectors, ih]

@[simp] theorem sheetSelectors_append (a b : List Css) :
    sheetSelectors (a ++ b) = sheetSelectors a ++ sheetSelectors b := by
  induction a with
  | nil => simp [sheetSelectors]
  | cons css a ih => simp [sheetSelectors, ih]

@[simp] theorem mapSelectors_wrap (f : String → String) (prelude : String) (sheet : List Css) :
    mapSelectors f (Compiler.wrap prelude sheet) =
      Compiler.wrap prelude (mapSelectors f sheet) := by
  cases sheet with
  | nil => simp [Compiler.wrap]
  | cons css sheet => simp [Compiler.wrap, mapSelectors, Css.mapSelectors]

mutual

/-- The selectors of a changed piece are the changed selectors. -/
theorem Css.selectors_mapSelectors (f : String → String) : ∀ css : Css,
    (css.mapSelectors f).selectors = css.selectors.map f
  | .rule selector declarations => by rw [Css.mapSelectors, Css.selectors, Css.selectors]; rfl
  | .group prelude body => by
      rw [Css.mapSelectors, Css.selectors, Css.selectors, sheetSelectors_mapSelectors f body]

theorem sheetSelectors_mapSelectors (f : String → String) : ∀ sheet : List Css,
    sheetSelectors (mapSelectors f sheet) = (sheetSelectors sheet).map f
  | [] => by rw [mapSelectors, sheetSelectors]; rfl
  | css :: sheet => by
      rw [mapSelectors, sheetSelectors, sheetSelectors, Css.selectors_mapSelectors f css,
        sheetSelectors_mapSelectors f sheet, List.map_append]

end

/-! ### Entities -/

/-- The entity of the greater-than sign. -/
def greaterEntity : List Char := ['&', 'g', 't', ';']

/-- The entity of the less-than sign. -/
def lessEntity : List Char := ['&', 'l', 't', ';']

/-- Show the comparison characters of a stored selector: first those of one kind, then those of the
other. -/
def unescapeSelector (selector : String) : String :=
  String.ofList (Text.replace lessEntity ['<'] (Text.replace greaterEntity ['>'] selector.toList))

/-- The entities may be written for one kind of character after the other, too. -/
theorem flatMap_entityChars (text : List Char) :
    text.flatMap entityChars =
      Text.replaceChar '>' greaterEntity (Text.replaceChar '<' lessEntity text) := by
  have hchar : ∀ c, entityChars c =
      Text.replaceChar '>' greaterEntity (Text.replaceChar '<' lessEntity [c]) := by
    intro c
    by_cases hless : c = '<'
    · rw [hless]
      decide
    · by_cases hgreater : c = '>'
      · rw [hgreater]
        decide
      · simp [entityChars, Text.replaceChar, hless, hgreater]
  induction text with
  | nil => rfl
  | cons c text ih =>
      rw [List.flatMap_cons, ih, hchar, ← Text.replaceChar_append, ← Text.replaceChar_append,
        List.singleton_append]

/-- **A stored selector shows the selector** that it was made from, if that held no entity. -/
theorem unescapeSelector_escapeSelector {selector : String}
    (hgreater : ¬ greaterEntity <:+: selector.toList) (hless : ¬ lessEntity <:+: selector.toList) :
    unescapeSelector (escapeSelector selector) = selector := by
  -- Writing the entities of one kind makes none of the other kind.
  have hgreater' : ¬ greaterEntity <:+: Text.replaceChar '<' lessEntity selector.toList := by
    intro h
    exact hgreater (Text.infix_of_infix_replaceChar (by decide) (by decide) (by simp) h)
  rw [unescapeSelector, escapeSelector, String.toList_ofList, flatMap_entityChars, greaterEntity,
    Text.replace_replaceChar (by decide) hgreater', lessEntity,
    Text.replace_replaceChar (by decide) hless, String.ofList_toList]

/-- No comparison character is left in a stored selector. -/
theorem not_mem_escapeSelector (selector : String) :
    '<' ∉ (escapeSelector selector).toList ∧ '>' ∉ (escapeSelector selector).toList := by
  have hchar : ∀ c, '<' ∉ entityChars c ∧ '>' ∉ entityChars c := by
    intro c
    unfold entityChars
    split
    · decide
    · split
      · decide
      · next hgreater hless => exact ⟨by simpa using Ne.symm hless, by simpa using Ne.symm hgreater⟩
  rw [escapeSelector, String.toList_ofList]
  simp [hchar]

namespace Compiler

/-! ### The two compilers -/

variable (escapes : Escapes)

/-- Both compilers give the leaves of a level the same declarations. -/
theorem ownDeclarations_escape (nodes : List Node) :
    ownDeclarations ⟨escapes, true⟩ nodes = ownDeclarations ⟨escapes, false⟩ nodes := by
  have hown : ownDeclaration? ⟨escapes, true⟩ = ownDeclaration? ⟨escapes, false⟩ := by
    funext node
    cases node <;> rfl
  rw [ownDeclarations, ownDeclarations, hown]

/-- The rule of a level has the escaped selector. -/
theorem ownRule_escape (selector : String) (nodes : List Node) :
    ownRule ⟨escapes, true⟩ selector nodes =
      mapSelectors escapeSelector (ownRule ⟨escapes, false⟩ selector nodes) := by
  rw [ownRule, ownRule, ownDeclarations_escape]
  cases ownDeclarations ⟨escapes, false⟩ nodes with
  | nil => simp
  | cons d ds => simp [mapSelectors, Css.mapSelectors, resolveSelector]

theorem accumulate_escape_of_scopes {selector : String} {nodes : List Node}
    (hscopes : nodes.flatMap (scopeSheet ⟨escapes, true⟩ selector) =
      mapSelectors escapeSelector (nodes.flatMap (scopeSheet ⟨escapes, false⟩ selector))) :
    accumulate ⟨escapes, true⟩ nodes selector =
      mapSelectors escapeSelector (accumulate ⟨escapes, false⟩ nodes selector) := by
  rw [accumulate_eq, accumulate_eq, hscopes, ownRule_escape, mapSelectors_append]

mutual

/-- A scope composes the same selectors for both compilers. -/
theorem scopeSheet_escape (selector : String) : ∀ node : Node,
    scopeSheet ⟨escapes, true⟩ selector node =
      mapSelectors escapeSelector (scopeSheet ⟨escapes, false⟩ selector node)
  | .media breakpoint children => by
      rw [scopeSheet, scopeSheet, mapSelectors_wrap,
        accumulate_escape_of_scopes escapes (scopes_escape selector children)]
  | .supports condition children => by
      rw [scopeSheet, scopeSheet, mapSelectors_wrap,
        accumulate_escape_of_scopes escapes (scopes_escape selector children)]
  | .selector key children => by
      have hcompose : composeSelector ⟨escapes, true⟩ selector key =
          composeSelector ⟨escapes, false⟩ selector key := rfl
      rw [scopeSheet, scopeSheet, hcompose,
        accumulate_escape_of_scopes escapes (scopes_escape _ children)]
  | .leaf property value => by rw [scopeSheet, scopeSheet, mapSelectors_nil]

theorem scopes_escape (selector : String) : ∀ nodes : List Node,
    nodes.flatMap (scopeSheet ⟨escapes, true⟩ selector) =
      mapSelectors escapeSelector (nodes.flatMap (scopeSheet ⟨escapes, false⟩ selector))
  | [] => by rw [List.flatMap_nil, List.flatMap_nil, mapSelectors_nil]
  | node :: nodes => by
      rw [List.flatMap_cons, List.flatMap_cons, mapSelectors_append,
        scopeSheet_escape selector node, scopes_escape selector nodes]

end

/-- **The two sheets of a tree** have the same rules and groups, with the same preludes and
declarations in the same order. Selector by selector, the stored form has no comparison characters,
and shows the other one again if that holds no entity. -/
theorem sheet_escape (tree : Tree) (ancestor : String) :
    sheet ⟨escapes, true⟩ tree ancestor =
        mapSelectors escapeSelector (sheet ⟨escapes, false⟩ tree ancestor) ∧
      List.Forall₂
        (fun stored shown : String =>
          '<' ∉ stored.toList ∧ '>' ∉ stored.toList ∧
            (¬ greaterEntity <:+: shown.toList → ¬ lessEntity <:+: shown.toList →
              unescapeSelector stored = shown))
        (sheetSelectors (sheet ⟨escapes, true⟩ tree ancestor))
        (sheetSelectors (sheet ⟨escapes, false⟩ tree ancestor)) := by
  have hsheet : sheet ⟨escapes, true⟩ tree ancestor =
      mapSelectors escapeSelector (sheet ⟨escapes, false⟩ tree ancestor) :=
    accumulate_escape_of_scopes escapes (scopes_escape escapes ancestor (classify tree))
  refine ⟨hsheet, ?_⟩
  rw [hsheet, sheetSelectors_mapSelectors, List.forall₂_map_left_iff, List.forall₂_same]
  intro selector _
  obtain ⟨hless, hgreater⟩ := not_mem_escapeSelector selector
  exact ⟨hless, hgreater, unescapeSelector_escapeSelector⟩

end Compiler

end BlockSheet.Style
