import BlockSheet.Json.Fault

/-!
# The words of a JSON text

A `Reader` takes a text and gives what it read together with the rest, or a fault. This module
reads the parts that hold no other values:

* `skipBlanks`: the blanks between words;
* `keyword`: the words `null`, `true` and `false`;
* `stringBody`: a string behind its opening quote;
* `number`: a number.
-/

namespace BlockSheet.Json

open Decimal (isDigit digitValue ofDigits ofDigitsFrom Binary64)

/-- Reads something from the beginning of a text. -/
abbrev Reader (α : Type) := List Char → Except Fault (α × List Char)

/-- The blanks of JSON: space, tab, line feed and carriage return. -/
def isBlank (c : Char) : Bool := c == ' ' || c == '\n' || c == '\t' || c == '\r'

/-- The text from its first character on that is not a blank. -/
def skipBlanks (text : List Char) : List Char := text.dropWhile isBlank

/-- The rest of a keyword whose first letter has been read. A wrong letter counts as read. -/
def keyword {α : Type} (value : α) : List Char → Reader α
  | [], rest => .ok (value, rest)
  | _ :: _, [] => .error (.here .eofInValue [])
  | letter :: letters, c :: rest =>
    if c = letter then keyword value letters rest else .error (.next .expectedIdent (c :: rest))

/-! ## Strings -/

/-- The value of a hexadecimal digit of either case. -/
def hexValue? (c : Char) : Option Nat :=
  if isDigit c then some (digitValue c)
  else if 'a' ≤ c && c ≤ 'f' then some (c.toNat - 'a'.toNat + 10)
  else if 'A' ≤ c && c ≤ 'F' then some (c.toNat - 'A'.toNat + 10)
  else none

/-- Four hexadecimal digits. They are taken as four bytes, so fewer bytes than that mean that the
text has ended. -/
def hexCode (text : List Char) : Except Fault (Nat × List Char) :=
  let refused : Except Fault (Nat × List Char) :=
    if bytes text < 4 then .error (.here .eofInString [])
    else .error ⟨.invalidEscape, bytes text - 4⟩
  match text with
  | a :: b :: c :: d :: rest =>
    match hexValue? a, hexValue? b, hexValue? c, hexValue? d with
    | some a, some b, some c, some d => .ok (((a * 16 + b) * 16 + c) * 16 + d, rest)
    | _, _, _, _ => refused
  | _ => refused

/-- Is the code the second half of a pair that stands for one character? -/
def isTrailingSurrogate (code : Nat) : Bool := 0xDC00 ≤ code && code ≤ 0xDFFF

/-- Is the code the first half of such a pair? -/
def isLeadingSurrogate (code : Nat) : Bool := 0xD800 ≤ code && code ≤ 0xDBFF

/-- The second half of a pair, which must be a code escape too. -/
def trailingHalf (leading : Nat) : Reader Char
  | [] => .error (.here .eofInString [])
  | '\\' :: [] => .error (.here .eofInString [])
  | '\\' :: 'u' :: rest => do
    let (code, rest) ← hexCode rest
    if isTrailingSurrogate code then
      .ok (Char.ofNat (0x10000 + (leading - 0xD800) * 0x400 + (code - 0xDC00)), rest)
    else .error (.here .loneLeadingSurrogate rest)
  | '\\' :: rest => .error (.next .unexpectedEndOfHexEscape rest)
  | rest => .error (.next .unexpectedEndOfHexEscape rest)

/-- A character given by its code, behind the letter `u`. -/
def codeEscape (text : List Char) : Except Fault (Char × List Char) := do
  let (code, rest) ← hexCode text
  if isTrailingSurrogate code then .error (.here .loneLeadingSurrogate rest)
  else if isLeadingSurrogate code then trailingHalf code rest
  else .ok (Char.ofNat code, rest)

/-- The character that an escape letter stands for. -/
def shortEscape? (c : Char) : Option Char :=
  match c with
  | '"' => some '"'
  | '\\' => some '\\'
  | '/' => some '/'
  | 'b' => some '\x08'
  | 'f' => some '\x0c'
  | 'n' => some '\n'
  | 'r' => some '\r'
  | 't' => some '\t'
  | _ => none

/-- An escaped character, behind the backslash. -/
def escaped : Reader Char
  | [] => .error (.here .eofInString [])
  | c :: rest =>
    match shortEscape? c with
    | some char => .ok (char, rest)
    | none => if c = 'u' then codeEscape rest else .error (.next .invalidEscape (c :: rest))

/-- The characters of a string up to its closing quote. Each step takes at least one character of
the text and one of `room`, a text that is at least as long; when `room` is used up, so is the
text. -/
def stringChars : (room : List Char) → Reader (List Char)
  | [], _ => .error (.here .eofInString [])
  | _ :: _, [] => .error (.here .eofInString [])
  | _ :: room, c :: rest =>
    if c = '"' then .ok ([], rest)
    else if c = '\\' then do
      let (char, rest) ← escaped rest
      let (chars, rest) ← stringChars room rest
      .ok (char :: chars, rest)
    else if c.toNat < 32 then .error (.here .controlCharacter rest)
    else do
      let (chars, rest) ← stringChars room rest
      .ok (c :: chars, rest)

/-- A string behind its opening quote. -/
def stringBody : Reader String := fun text => do
  let (chars, rest) ← stringChars text text
  .ok (String.ofList chars, rest)

/-! ## Numbers -/

/-- Exponents up to this one are read; a greater one decides the number by itself. -/
def greatestExponent : Nat := Nat.pow 2 31 - 1

/-- The digits of an exponent. `none` is an exponent that is too great, and the rest then starts
behind the digit that made it so. -/
def exponentDigits (read : Nat) : List Char → Option Nat × List Char
  | [] => (some read, [])
  | c :: rest =>
    if isDigit c then
      let next := 10 * read + digitValue c
      if greatestExponent < next then (none, rest) else exponentDigits next rest
    else (some read, c :: rest)

/-- The float of a decimal, where there is one. -/
def floatNumber (negative : Bool) (significand : Nat) (exponent : Int) : Reader Number :=
  fun rest =>
  match Binary64.ofDecimal? negative significand exponent with
  | some x => .ok (.float x, rest)
  | none => .error (.here .numberOutOfRange rest)

/-- The exponent of a number, behind the letter `e`, for a significand with `places` decimal places.
An exponent beyond all bounds makes the number zero or puts it out of range. -/
def exponentTail (negative : Bool) (significand places : Nat) (text : List Char) :
    Except Fault (Number × List Char) :=
  let (sign, text) : Int × List Char :=
    match text with
    | '+' :: rest => (1, rest)
    | '-' :: rest => (-1, rest)
    | _ => (1, text)
  match text with
  | [] => .error (.here .eofInValue [])
  | c :: rest =>
    if isDigit c then
      match exponentDigits (digitValue c) rest with
      | (some exponent, rest) => floatNumber negative significand (sign * exponent - places) rest
      | (none, rest) =>
        if significand ≠ 0 ∧ sign = 1 then .error (.here .numberOutOfRange rest)
        else .ok (.float (.zero negative), rest.dropWhile isDigit)
    else .error (.next .invalidNumber text)

/-- The decimal places of a number, behind the point, for an integral part already read. -/
def fractionTail (negative : Bool) (whole : Nat) (text : List Char) :
    Except Fault (Number × List Char) :=
  let places := text.takeWhile isDigit
  let rest := text.dropWhile isDigit
  let significand := ofDigitsFrom whole places
  if places.isEmpty then
    .error (if rest.isEmpty then .next .eofInValue rest else .next .invalidNumber rest)
  else
    match rest with
    | 'e' :: rest | 'E' :: rest => exponentTail negative significand places.length rest
    | _ => floatNumber negative significand (-places.length) rest

/-- The number of an integral literal: an integer where 64 bits hold it, else a float. A negative
zero is a float, since an integer has no such value. -/
def wholeNumber (negative : Bool) (whole : Nat) : Reader Number := fun rest =>
  match (if negative && whole == 0 then none
    else Integer.ofInt? (if negative then -whole else whole)) with
  | some n => .ok (.int n, rest)
  | none => floatNumber negative whole 0 rest

/-- What follows the integral part of a number. -/
def numberTail (negative : Bool) (whole : Nat) (text : List Char) :
    Except Fault (Number × List Char) :=
  match text with
  | '.' :: rest => fractionTail negative whole rest
  | 'e' :: rest | 'E' :: rest => exponentTail negative whole 0 rest
  | _ => wholeNumber negative whole text

/-- A number behind its sign. A leading zero stands alone. -/
def magnitude (negative : Bool) (text : List Char) : Except Fault (Number × List Char) :=
  match text with
  | [] => .error (.here .eofInValue [])
  | c :: rest =>
    if c = '0' then
      if (rest.takeWhile isDigit).isEmpty then numberTail negative 0 rest
      else .error (.next .invalidNumber rest)
    else if isDigit c then
      numberTail negative (ofDigits (text.takeWhile isDigit)) (text.dropWhile isDigit)
    else .error (.next .invalidNumber text)

/-- A number, at its sign or its first digit. -/
def number : Reader Number := fun text =>
  match text with
  | '-' :: rest => magnitude true rest
  | _ => magnitude false text

end BlockSheet.Json
