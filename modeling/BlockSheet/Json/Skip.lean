import BlockSheet.Json.Lexeme

/-!
# Passing over a value

The value of an unknown field is checked for its form and then dropped. The check is coarser than
reading: nesting has no limit, code escapes need not form characters, and a number is not
evaluated, so none is out of range.
-/

namespace BlockSheet.Json

/-! ## Strings and numbers -/

/-- Pass over the rest of a string behind its opening quote. A control character is refused in
front of it. `room` is a bound as in `stringChars`. -/
def skipString : (room : List Char) → List Char → Except Fault (List Char)
  | [], _ => .error (.here .eofInString [])
  | _ :: _, [] => .error (.here .eofInString [])
  | _ :: room, c :: rest =>
    if c = '"' then .ok rest
    else if c = '\\' then
      match rest with
      | [] => .error (.here .eofInString [])
      | letter :: rest =>
        if (shortEscape? letter).isSome then skipString room rest
        else if letter = 'u' then do
          let (_, rest) ← hexCode rest
          skipString room rest
        else .error (.next .invalidEscape (letter :: rest))
    else if c.toNat < 32 then .error (.here .controlCharacter (c :: rest))
    else skipString room rest

/-- Pass over an exponent behind the letter `e`. -/
def skipExponent (text : List Char) : Except Fault (List Char) :=
  let text :=
    match text with
    | '+' :: rest | '-' :: rest => rest
    | _ => text
  match text with
  | [] => .error (.here .invalidNumber [])
  | c :: rest =>
    if Decimal.isDigit c then .ok (rest.dropWhile Decimal.isDigit)
    else .error (.next .invalidNumber text)

/-- Pass over what follows the integral part of a number. -/
def skipNumberTail (text : List Char) : Except Fault (List Char) :=
  match text with
  | '.' :: rest =>
    if (rest.takeWhile Decimal.isDigit).isEmpty then .error (.next .invalidNumber rest)
    else
      match rest.dropWhile Decimal.isDigit with
      | 'e' :: rest | 'E' :: rest => skipExponent rest
      | rest => .ok rest
  | 'e' :: rest | 'E' :: rest => skipExponent rest
  | _ => .ok text

/-- Pass over a number behind its sign. -/
def skipMagnitude (text : List Char) : Except Fault (List Char) :=
  match text with
  | [] => .error (.here .invalidNumber [])
  | c :: rest =>
    if c = '0' then
      if (rest.takeWhile Decimal.isDigit).isEmpty then skipNumberTail rest
      else .error (.next .invalidNumber rest)
    else if Decimal.isDigit c then skipNumberTail (rest.dropWhile Decimal.isDigit)
    else .error (.next .invalidNumber text)

/-! ## Values -/

/-- An open bracket. -/
inductive Frame
  | list
  | object

/-- What the check expects next: a value, a key, or what follows a value. -/
inductive Expecting
  | value
  | key
  | follower

/-- Pass over a value: `frames` are the brackets that are open, the innermost first. Two steps in a
row read at least one character, so twice the length of the text bounds the number of steps. -/
def skipFrom : Nat → List Frame → Expecting → List Char → Except Fault (List Char)
  | 0, _, _, _ => .error (.next .eofInValue [])
  | steps + 1, frames, .value, text =>
    match skipBlanks text with
    | [] => .error (.next .eofInValue [])
    | 'n' :: rest => do
      let (_, rest) ← keyword () ['u', 'l', 'l'] rest
      skipFrom steps frames .follower rest
    | 't' :: rest => do
      let (_, rest) ← keyword () ['r', 'u', 'e'] rest
      skipFrom steps frames .follower rest
    | 'f' :: rest => do
      let (_, rest) ← keyword () ['a', 'l', 's', 'e'] rest
      skipFrom steps frames .follower rest
    | '"' :: rest => do
      let rest ← skipString rest rest
      skipFrom steps frames .follower rest
    | '-' :: rest => do
      let rest ← skipMagnitude rest
      skipFrom steps frames .follower rest
    | '[' :: rest =>
      match skipBlanks rest with
      | [] => .error (.next .eofInList [])
      | ']' :: rest => skipFrom steps frames .follower rest
      | rest => skipFrom steps (.list :: frames) .value rest
    | '\x7b' :: rest =>
      match skipBlanks rest with
      | [] => .error (.next .eofInObject [])
      | '\x7d' :: rest => skipFrom steps frames .follower rest
      | rest => skipFrom steps (.object :: frames) .key rest
    | c :: rest =>
      if Decimal.isDigit c then do
        let rest ← skipMagnitude (c :: rest)
        skipFrom steps frames .follower rest
      else .error (.next .expectedValue (c :: rest))
  | steps + 1, frames, .key, text =>
    match skipBlanks text with
    | [] => .error (.next .eofInObject [])
    | '"' :: rest => do
      let rest ← skipString rest rest
      match skipBlanks rest with
      | [] => .error (.next .eofInObject [])
      | ':' :: rest => skipFrom steps frames .value rest
      | rest => .error (.next .expectedColon rest)
    | rest => .error (.next .keyMustBeString rest)
  | _ + 1, [], .follower, text => .ok text
  | steps + 1, .list :: frames, .follower, text =>
    match skipBlanks text with
    | [] => .error (.next .eofInList [])
    | ',' :: rest => skipFrom steps (.list :: frames) .value rest
    | ']' :: rest => skipFrom steps frames .follower rest
    | rest => .error (.next .expectedListCommaOrEnd rest)
  | steps + 1, .object :: frames, .follower, text =>
    match skipBlanks text with
    | [] => .error (.next .eofInObject [])
    | ',' :: rest => skipFrom steps (.object :: frames) .key rest
    | '\x7d' :: rest => skipFrom steps frames .follower rest
    | rest => .error (.next .expectedObjectCommaOrEnd rest)

/-- Pass over one value. -/
def skipValue (text : List Char) : Except Fault (List Char) :=
  skipFrom (2 * text.length + 2) [] .value text

end BlockSheet.Json
