import BlockSheet.Text.Blank
import BlockSheet.Text.Pattern

/-!
# Variables in CSS

CSS is compiled with variable tokens `#{ghostkitvar:<name>}` where a breakpoint condition belongs;
the condition is put in when the CSS is shown, so a change of breakpoints never touches stored
styles.

* `variableToken`, `breakpointToken`: the tokens;
* `Resolver`: what is known about variables;
* `resolveVariables`: put the texts of all known variables in the places of their tokens.
-/

namespace BlockSheet

open Text (after? isBlank)

/-! ## Tokens -/

def tokenStart : List Char := "#\x7bghostkitvar:".toList

def tokenEnd : Char := '\x7d'

/-- The characters of a variable token. -/
def variableChars (name : List Char) : List Char := tokenStart ++ name ++ [tokenEnd]

def variableToken (name : String) : String := String.ofList (variableChars name.toList)

/-- The variable that holds the condition of a breakpoint. -/
def breakpointVariable (breakpoint : String) : String := "media_" ++ breakpoint

/-- The token that stands for the condition of a breakpoint. -/
def breakpointToken (breakpoint : String) : String :=
  variableToken (breakpointVariable breakpoint)

/-! ## Resolution -/

/-- The text of a variable, where it is known. -/
abbrev Resolver := String → Option String

/-- May a character be part of a variable name inside a token? -/
def isNameChar (c : Char) : Bool := c != tokenEnd && !isBlank c

/-- The token at the beginning of a text, as its name and what follows it. A token has a name, which
ends with the first closing brace and holds no blank. -/
def token? (text : List Char) : Option (List Char × List Char) :=
  match after? tokenStart text with
  | none => none
  | some rest =>
    let name := rest.takeWhile isNameChar
    match rest.dropWhile isNameChar with
    | c :: rest => if c = tokenEnd && !name.isEmpty then some (name, rest) else none
    | [] => none

/-- What follows a token is shorter than the text that begins with it. -/
theorem length_lt_of_token? {text name rest : List Char} (h : token? text = some (name, rest)) :
    rest.length < text.length := by
  unfold token? at h
  split at h
  · simp at h
  · next tail htail =>
    have hlen : text.length = tokenStart.length + tail.length := by
      rw [Text.after?_eq_some.1 htail, List.length_append]
    split at h
    · next c tail' hdrop =>
      dsimp only at h
      split at h
      · have hle := (List.dropWhile_sublist (p := isNameChar) (l := tail)).length_le
        rw [hdrop, List.length_cons] at hle
        obtain ⟨-, rfl⟩ := Prod.mk.injEq .. ▸ Option.some.injEq .. ▸ h
        omega
      · simp at h
    · simp at h

/-- Put the text of every known variable in the place of its tokens. The scan goes from left to
right and continues behind a token; a token of an unknown variable stays. -/
def resolveChars (resolver : Resolver) (text : List Char) : List Char :=
  match _h : token? text with
  | some (name, rest) =>
    ((resolver (String.ofList name)).map String.toList).getD (variableChars name) ++
      resolveChars resolver rest
  | none =>
    match text with
    | [] => []
    | c :: rest => c :: resolveChars resolver rest
termination_by text.length
decreasing_by
  · exact length_lt_of_token? ‹_›
  · simp

/-- `resolveChars` on strings. -/
def resolveVariables (css : String) (resolver : Resolver) : String :=
  String.ofList (resolveChars resolver css.toList)

end BlockSheet
