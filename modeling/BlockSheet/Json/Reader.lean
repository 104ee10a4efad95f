import BlockSheet.Json.Lexeme

/-!
# Reading JSON

Readers for arrays, objects and whole values.

* `listOf`, `objectOf`: an array of things that a given reader reads, and an object whose entries a
  given step takes up;
* `value`: any value, nested at most as deeply as its first argument allows;
* `parseWith`: a whole text.

A reader that opens a bracket gets the readers for what stands inside as an `Option`: `none` says
that nesting has come to its limit, and opening the bracket is a fault.
-/

namespace BlockSheet.Json

/-! ## Arrays -/

/-- The items of an array behind the first one, up to the closing bracket. Each step takes at least
one character of the text and one of `room`, a text that is at least as long; when `room` is used
up, so is the text. -/
def moreItems {α : Type} (item : Reader α) : (room : List Char) → Reader (List α)
  | [], _ => .error (.next .eofInList [])
  | _ :: room, text =>
    match skipBlanks text with
    | [] => .error (.next .eofInList [])
    | ']' :: rest => .ok ([], rest)
    | ',' :: rest =>
      match skipBlanks rest with
      | [] => .error (.next .eofInValue [])
      | ']' :: rest => .error (.next .trailingComma (']' :: rest))
      | rest => do
        let (x, rest) ← item rest
        let (xs, rest) ← moreItems item room rest
        .ok (x :: xs, rest)
    | rest => .error (.next .expectedListCommaOrEnd rest)

/-- The items of an array behind its opening bracket. -/
def items {α : Type} (item : Reader α) (text : List Char) : Except Fault (List α × List Char) :=
  match skipBlanks text with
  | [] => .error (.next .eofInList [])
  | ']' :: rest => .ok ([], rest)
  | rest => do
    let (x, rest) ← item rest
    let (xs, rest) ← moreItems item rest rest
    .ok (x :: xs, rest)

/-! ## Objects -/

/-- Takes up an entry: from what was collected so far and the key just read, with the rest of the
text behind the key. -/
abbrev EntryStep (σ : Type) := σ → String → Reader σ

def colon : Reader Unit := fun text =>
  match skipBlanks text with
  | [] => .error (.next .eofInObject [])
  | ':' :: rest => .ok ((), rest)
  | rest => .error (.next .expectedColon rest)

/-- The entries of an object behind the first one, up to the closing brace, with a bound as in
`moreItems`. -/
def moreEntries {σ : Type} (entry : EntryStep σ) : (room : List Char) → σ → Reader σ
  | [], _, _ => .error (.next .eofInObject [])
  | _ :: room, acc, text =>
    match skipBlanks text with
    | [] => .error (.next .eofInObject [])
    | '\x7d' :: rest => .ok (acc, rest)
    | ',' :: rest =>
      match skipBlanks rest with
      | [] => .error (.next .eofInValue [])
      | '"' :: rest => do
        let (key, rest) ← stringBody rest
        let (acc, rest) ← entry acc key rest
        moreEntries entry room acc rest
      | '\x7d' :: rest => .error (.next .trailingComma ('\x7d' :: rest))
      | rest => .error (.next .keyMustBeString rest)
    | rest => .error (.next .expectedObjectCommaOrEnd rest)

/-- The entries of an object behind its opening brace. -/
def entries {σ : Type} (entry : EntryStep σ) (start : σ) (text : List Char) :
    Except Fault (σ × List Char) :=
  match skipBlanks text with
  | [] => .error (.next .eofInObject [])
  | '\x7d' :: rest => .ok (start, rest)
  | '"' :: rest => do
    let (key, rest) ← stringBody rest
    let (acc, rest) ← entry start key rest
    moreEntries entry rest acc rest
  | rest => .error (.next .keyMustBeString rest)

/-- Enter a value under its key: a repeated key keeps its first position and takes its last
value. -/
def fieldEntry (value : Reader Value) : EntryStep Fields := fun fields key text => do
  let (_, rest) ← colon text
  let (v, rest) ← value rest
  .ok (fields.insert key v, rest)

/-! ## Values -/

/-- A value whose nested values `inner` reads. -/
def valueWith (inner : Option (Reader Value)) : Reader Value := fun text =>
  match skipBlanks text with
  | [] => .error (.next .eofInValue [])
  | 'n' :: rest => keyword .null ['u', 'l', 'l'] rest
  | 't' :: rest => keyword (.bool true) ['r', 'u', 'e'] rest
  | 'f' :: rest => keyword (.bool false) ['a', 'l', 's', 'e'] rest
  | '"' :: rest => do
    let (s, rest) ← stringBody rest
    .ok (.str s, rest)
  | '[' :: rest =>
    match inner with
    | none => .error (.next .recursionLimit ('[' :: rest))
    | some inner => do
      let (vs, rest) ← items inner rest
      .ok (.arr vs, rest)
  | '\x7b' :: rest =>
    match inner with
    | none => .error (.next .recursionLimit ('\x7b' :: rest))
    | some inner => do
      let (fields, rest) ← entries (fieldEntry inner) [] rest
      .ok (.obj fields, rest)
  | c :: rest =>
    if c = '-' || Decimal.isDigit c then do
      let (n, rest) ← number (c :: rest)
      .ok (.num n, rest)
    else .error (.next .expectedValue (c :: rest))

/-- A value in which at most `depth` brackets are open at a time. -/
def value : Nat → Reader Value
  | 0 => valueWith none
  | depth + 1 => valueWith (some (value depth))

/-- The nesting that a text may have. -/
def nestingLimit : Nat := 127

/-! ## Whole texts -/

/-- Read a whole text: blanks alone may follow what the reader takes. -/
def parseWith {α : Type} (reader : Reader α) (text : String) : Except Error α :=
  match (do
    let (x, rest) ← reader text.toList
    match skipBlanks rest with
    | [] => Except.ok x
    | rest => .error (Fault.next .trailingCharacters rest)) with
  | .ok x => .ok x
  | .error fault => .error (fault.locate text.toList)

/-- Read a text as one value. -/
def Value.parse (text : String) : Except Error Value := parseWith (value nestingLimit) text

end BlockSheet.Json
