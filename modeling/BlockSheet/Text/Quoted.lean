import BlockSheet.Text.Hex
import BlockSheet.Text.Printable

/-!
# Quoted text in messages

A string inside a message is put in double quotes, and what a reader could not see is spelled out:
the quote, the backslash and the common control characters by a short escape; other characters
without a visible form, and combining marks, by their code.
-/

namespace BlockSheet.Text

/-- A character by its code. -/
def codeEscape (c : Char) : List Char := ['\\', 'u', '\x7b'] ++ hexDigits c.toNat ++ ['\x7d']

/-- A character inside the quotes. -/
def quoteChar (c : Char) : List Char :=
  if c = '\x00' then ['\\', '0']
  else if c = '\t' then ['\\', 't']
  else if c = '\r' then ['\\', 'r']
  else if c = '\n' then ['\\', 'n']
  else if c = '\\' then ['\\', '\\']
  else if c = '"' then ['\\', '"']
  else if isCombining c || !isPrintable c then codeEscape c
  else [c]

/-- A string in quotes, as messages show it. -/
def quoted (s : String) : String := String.ofList ('"' :: (s.toList.flatMap quoteChar ++ ['"']))

end BlockSheet.Text
