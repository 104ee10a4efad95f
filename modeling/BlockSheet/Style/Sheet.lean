import BlockSheet.Style.Declaration

/-!
# Sheets

Compiled CSS before it becomes text: rules, and groups of rules behind a prelude such as
`@media …`. `render` writes a list of them with single blanks between the parts.
-/

namespace BlockSheet.Style

/-- A piece of a sheet. -/
inductive Css
  /-- Declarations under a selector. -/
  | rule (selector : String) (declarations : List Declaration)
  /-- A prelude that wraps other pieces. -/
  | group (prelude : String) (body : List Css)
  deriving Inhabited

mutual

def Css.chars : Css → List Char
  | .rule selector declarations =>
    selector.toList ++ [' ', '\x7b'] ++ declarations.flatMap (fun d => ' ' :: d.chars) ++
      [' ', '\x7d']
  | .group prelude body =>
    prelude.toList ++ [' ', '\x7b', ' '] ++ Text.joined [' '] (cssTexts body) ++ [' ', '\x7d']

def cssTexts : List Css → List (List Char)
  | [] => []
  | css :: sheet => css.chars :: cssTexts sheet

end

theorem cssTexts_eq_map (sheet : List Css) : cssTexts sheet = sheet.map Css.chars := by
  induction sheet with
  | nil => rfl
  | cons css sheet ih => simp [cssTexts, ih]

def renderChars (sheet : List Css) : List Char := Text.joined [' '] (cssTexts sheet)

def render (sheet : List Css) : String := String.ofList (renderChars sheet)

end BlockSheet.Style
