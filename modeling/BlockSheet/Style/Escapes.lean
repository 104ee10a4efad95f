import BlockSheet.Text.Pattern

/-!
# Escapes in selectors and values

Two conventions for characters that CSS text must not carry as they are.

* **Legacy codes.** A style tree that went through an XML export spells `&`, `>`, `<`, `"` and `'`
  as the bare codes `u0026`, `u003e`, `u003c`, `u0022` and `u0027`. `Escapes` says whether a tree
  may hold such codes; decoding replaces them one kind after the other.
* **Entities.** Compiled CSS that is stored in an HTML attribute spells the comparison characters of
  a selector as entities (`escapeSelector`).
-/

namespace BlockSheet.Style

open Text (replace contains)

/-! ## Legacy codes -/

/-- A character that a legacy export spells as a code. -/
inductive LegacyCode
  | ampersand
  | greaterThan
  | lessThan
  | doubleQuote
  | singleQuote
  deriving DecidableEq

namespace LegacyCode

def spelling : LegacyCode → List Char
  | ampersand => ['u', '0', '0', '2', '6']
  | greaterThan => ['u', '0', '0', '3', 'e']
  | lessThan => ['u', '0', '0', '3', 'c']
  | doubleQuote => ['u', '0', '0', '2', '2']
  | singleQuote => ['u', '0', '0', '2', '7']

/-- The character that the code stands for. -/
def char : LegacyCode → Char
  | ampersand => '&'
  | greaterThan => '>'
  | lessThan => '<'
  | doubleQuote => '"'
  | singleQuote => '\x27'

end LegacyCode

/-- Replace the given codes by their characters, one kind after the other. A text that holds none of
them is left as it is, and so is one that does not hold the kind whose turn it is. -/
def decodeCodes (codes : List LegacyCode) (text : List Char) : List Char :=
  if codes.any fun code => contains code.spelling text then
    codes.foldl (fun text code =>
      if contains code.spelling text then replace code.spelling [code.char] text else text) text
  else text

/-- The codes that are decoded in a selector. The ampersand is not among them: it refers to the
parent and is resolved while selectors are composed. -/
def selectorCodes : List LegacyCode := [.greaterThan, .lessThan, .doubleQuote, .singleQuote]

/-- The codes that are decoded in a value: the quotes. -/
def valueCodes : List LegacyCode := [.doubleQuote, .singleQuote]

/-- May a style tree hold legacy codes? -/
inductive Escapes
  /-- The tree may have been exported, and its codes are decoded. -/
  | legacy
  /-- The tree has never been exported; what looks like a code is text. -/
  | plain
  deriving DecidableEq

namespace Escapes

/-- Decode a composed selector, before it heads a rule. -/
def selectorChars : Escapes → List Char → List Char
  | legacy, text => decodeCodes selectorCodes text
  | plain, text => text

/-- Decode a string value. -/
def valueChars : Escapes → List Char → List Char
  | legacy, text => decodeCodes valueCodes text
  | plain, text => text

/-- Put `parent` in the place of every encoded parent reference, where there is one. -/
def parentChars? : Escapes → List Char → List Char → Option (List Char)
  | legacy, key, parent =>
    if contains LegacyCode.ampersand.spelling key then
      some (replace LegacyCode.ampersand.spelling parent key)
    else none
  | plain, _, _ => none

def decodeSelector (escapes : Escapes) (selector : String) : String :=
  String.ofList (escapes.selectorChars selector.toList)

def decodeValue (escapes : Escapes) (value : String) : String :=
  String.ofList (escapes.valueChars value.toList)

def substituteParent? (escapes : Escapes) (key parent : String) : Option String :=
  (escapes.parentChars? key.toList parent.toList).map String.ofList

end Escapes

/-! ## Entities -/

/-- The entity of a comparison character; any other character stands for itself. -/
def entityChars (c : Char) : List Char :=
  if c = '>' then ['&', 'g', 't', ';']
  else if c = '<' then ['&', 'l', 't', ';']
  else [c]

/-- Spell the comparison characters of a selector as entities. -/
def escapeSelector (selector : String) : String :=
  String.ofList (selector.toList.flatMap entityChars)

end BlockSheet.Style
