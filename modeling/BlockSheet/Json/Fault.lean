import BlockSheet.Json.Printer
import BlockSheet.Text.Quoted

/-!
# What can be wrong with a JSON text

* `Cause`: the reason why a text is refused, with its wording in `Cause.message`;
* `Fault`: a cause together with the place where it was found. A reader knows only the rest of the
  text, so the place is given by the number of bytes that are still unread there;
* `Error`: a cause with its line and column, as the reader of a whole text reports it.
-/

namespace BlockSheet.Json

/-- What stood in the text where something else was expected. -/
inductive Found
  | null
  | boolean (b : Bool)
  | number (n : Number)
  | string (s : String)
  | sequence
  | map

/-- What was expected. -/
inductive Expected
  | string
  | boolean
  | map
  | sequence
  /-- An unsigned integer of 32 bits. -/
  | word32
  /-- An unsigned integer of 64 bits. -/
  | word64
  /-- A record of a given name. -/
  | record (name : String)

/-- The reasons to refuse a text. -/
inductive Cause
  | eofInValue
  | eofInList
  | eofInObject
  | eofInString
  | expectedValue
  | expectedIdent
  | expectedColon
  | expectedListCommaOrEnd
  | expectedObjectCommaOrEnd
  | trailingComma
  | keyMustBeString
  | trailingCharacters
  | invalidNumber
  | numberOutOfRange
  | controlCharacter
  | invalidEscape
  | loneLeadingSurrogate
  | unexpectedEndOfHexEscape
  | recursionLimit
  | invalidType (found : Found) (expected : Expected)
  | invalidValue (found : Found) (expected : Expected)
  /-- A record written as an array stops in front of a required field. -/
  | invalidLength (length : Nat) (name : String) (fields : Nat)
  | missingField (field : String)
  | duplicateField (field : String)

/-! ## Wording -/

/-- How a message names what was found. -/
def Found.text : Found → String
  | .null => "null"
  | .boolean b => "boolean `" ++ (if b then "true" else "false") ++ "`"
  | .number (.int n) => "integer `" ++ (Number.int n).text ++ "`"
  | .number (.float x) => "floating point `" ++ (Number.float x).text ++ "`"
  | .string s => "string " ++ Text.quoted s
  | .sequence => "sequence"
  | .map => "map"

/-- How a message names what was expected. -/
def Expected.text : Expected → String
  | .string => "a string"
  | .boolean => "a boolean"
  | .map => "a map"
  | .sequence => "a sequence"
  | .word32 => "u32"
  | .word64 => "usize"
  | .record name => "struct " ++ name

def Cause.message : Cause → String
  | eofInValue => "EOF while parsing a value"
  | eofInList => "EOF while parsing a list"
  | eofInObject => "EOF while parsing an object"
  | eofInString => "EOF while parsing a string"
  | expectedValue => "expected value"
  | expectedIdent => "expected ident"
  | expectedColon => "expected `:`"
  | expectedListCommaOrEnd => "expected `,` or `]`"
  | expectedObjectCommaOrEnd => "expected `,` or `\x7d`"
  | trailingComma => "trailing comma"
  | keyMustBeString => "key must be a string"
  | trailingCharacters => "trailing characters"
  | invalidNumber => "invalid number"
  | numberOutOfRange => "number out of range"
  | controlCharacter => "control character (\\u0000-\\u001F) found while parsing a string"
  | invalidEscape => "invalid escape"
  | loneLeadingSurrogate => "lone leading surrogate in hex escape"
  | unexpectedEndOfHexEscape => "unexpected end of hex escape"
  | recursionLimit => "recursion limit exceeded"
  | invalidType found expected => "invalid type: " ++ found.text ++ ", expected " ++ expected.text
  | invalidValue found expected => "invalid value: " ++ found.text ++ ", expected " ++ expected.text
  | invalidLength length name fields =>
    "invalid length " ++ toString length ++ ", expected struct " ++ name ++ " with " ++
      toString fields ++ " elements"
  | missingField field => "missing field `" ++ field ++ "`"
  | duplicateField field => "duplicate field `" ++ field ++ "`"

/-! ## Places -/

/-- The length of a text in bytes. -/
def bytes (text : List Char) : Nat := text.foldr (fun c n => c.utf8Size + n) 0

/-- A cause and the number of bytes behind the place where it was found. -/
structure Fault where
  cause : Cause
  unread : Nat

namespace Fault

/-- The place is in front of the rest. -/
def here (cause : Cause) (rest : List Char) : Fault := ⟨cause, bytes rest⟩

/-- The place is behind the first byte of the rest, or at the end of the text. -/
def next (cause : Cause) (rest : List Char) : Fault := ⟨cause, bytes rest - 1⟩

end Fault

/-- A cause with its place: the line, counted from one, and the number of bytes between the last
line break in front of the place and the place itself. -/
structure Error where
  cause : Cause
  line : Nat
  column : Nat

/-- The line and the column of a byte offset, counted on from a line and a column. -/
def position (line column : Nat) : Nat → List Char → Nat × Nat
  | offset, [] => (line, column + offset)
  | offset, c :: text =>
    if offset < c.utf8Size then (line, column + offset)
    else if c = '\n' then position (line + 1) 0 (offset - c.utf8Size) text
    else position line (column + c.utf8Size) (offset - c.utf8Size) text

/-- The report of a fault that a reader met in `text`. -/
def Fault.locate (fault : Fault) (text : List Char) : Error :=
  let (line, column) := position 1 0 (bytes text - fault.unread) text
  ⟨fault.cause, line, column⟩

/-- The report as text. -/
def Error.message (e : Error) : String :=
  e.cause.message ++ " at line " ++ toString e.line ++ " column " ++ toString e.column

end BlockSheet.Json
