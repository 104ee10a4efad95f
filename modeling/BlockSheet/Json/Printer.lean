import BlockSheet.Decimal.Layout
import BlockSheet.Json.Value
import BlockSheet.Text.Hex
import BlockSheet.Text.Pattern

/-!
# Compact JSON text

Values are written without blanks and with their keys in order. The pieces `stringText`,
`arrayText` and `objectText` serve every type that is exchanged as JSON.
-/

namespace BlockSheet.Json

open Decimal (Layout digits integer)
open Text (hexDigit joined)

/-- JSON numbers are positional from `10 ^ -5` to below `10 ^ 16`, an integral float keeps a `.0`,
and of two equally near shortest decimals the even one is written. -/
def numberLayout : Layout := ⟨-5, 15, true, .toEven⟩

def Number.chars : Number → List Char
  | .int n => integer n.val
  | .float x => numberLayout.write x

def Number.text (n : Number) : String := String.ofList n.chars

/-- A character inside a string: the quote, the backslash and the control characters are escaped,
those with a short escape by it and the others by their code. -/
def escapeChar (c : Char) : List Char :=
  if c = '"' then ['\\', '"']
  else if c = '\\' then ['\\', '\\']
  else if c = '\x08' then ['\\', 'b']
  else if c = '\x0c' then ['\\', 'f']
  else if c = '\n' then ['\\', 'n']
  else if c = '\r' then ['\\', 'r']
  else if c = '\t' then ['\\', 't']
  else if c.toNat < 32 then ['\\', 'u', '0', '0', hexDigit (c.toNat / 16), hexDigit c.toNat]
  else [c]

/-- A string in quotes. -/
def stringText (s : String) : List Char := '"' :: (s.toList.flatMap escapeChar ++ ['"'])

def arrayText (items : List (List Char)) : List Char := '[' :: (joined [','] items ++ [']'])

/-- An object whose values are written already. -/
def objectText (entries : List (String × List Char)) : List Char :=
  '{' :: (joined [','] (entries.map fun e => stringText e.1 ++ ':' :: e.2) ++ ['}'])

mutual

def Value.chars : Value → List Char
  | .null => "null".toList
  | .bool true => "true".toList
  | .bool false => "false".toList
  | .num n => n.chars
  | .str s => stringText s
  | .arr items => arrayText (itemTexts items)
  | .obj fields => objectText (fieldTexts fields)

def itemTexts : List Value → List (List Char)
  | [] => []
  | v :: vs => v.chars :: itemTexts vs

/-- The entries of an object with the texts of their values. -/
def fieldTexts : List (String × Value) → List (String × List Char)
  | [] => []
  | (key, v) :: fields => (key, v.chars) :: fieldTexts fields

end

theorem itemTexts_eq_map (vs : List Value) : itemTexts vs = vs.map Value.chars := by
  induction vs with
  | nil => rfl
  | cons v vs ih => simp [itemTexts, ih]

theorem fieldTexts_eq_map (fields : List (String × Value)) :
    fieldTexts fields = fields.map fun e => (e.1, e.2.chars) := by
  induction fields with
  | nil => rfl
  | cons e fields ih => simp [fieldTexts, ih]

def Value.text (v : Value) : String := String.ofList v.chars

def Fields.text (fields : Fields) : String := (Value.obj fields).text

end BlockSheet.Json
