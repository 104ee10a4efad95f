import BlockSheet.Json.Reader
import BlockSheet.Json.Skip

/-!
# Records and other values of a fixed type

Readers for data whose type is known beforehand. A value of another type is refused with a note on
what was found and what was expected.

* `string`, `boolean`, `word32`, `word64`: single values;
* `fieldsOf`, `listOf`: objects taken as they are, and lists;
* `record`: a record, either as an object with named fields or as an array of its fields in order.
-/

namespace BlockSheet.Json

/-! ## Values of another type -/

/-- The fault of a value that is not of the expected type. What starts no value at all is a fault of
its own, and so is a malformed value. An array or an object is refused in front of its bracket. -/
def mismatch (expected : Expected) (text : List Char) : Fault :=
  let refused (found : Found) (rest : List Char) : Fault := .here (.invalidType found expected) rest
  let after (found : Found) (read : Except Fault (Unit × List Char)) : Fault :=
    match read with
    | .ok (_, rest) => refused found rest
    | .error fault => fault
  match skipBlanks text with
  | [] => .next .eofInValue []
  | 'n' :: rest => after .null (keyword () ['u', 'l', 'l'] rest)
  | 't' :: rest => after (.boolean true) (keyword () ['r', 'u', 'e'] rest)
  | 'f' :: rest => after (.boolean false) (keyword () ['a', 'l', 's', 'e'] rest)
  | '"' :: rest =>
    match stringBody rest with
    | .ok (s, rest) => refused (.string s) rest
    | .error fault => fault
  | '[' :: rest => refused .sequence ('[' :: rest)
  | '\x7b' :: rest => refused .map ('\x7b' :: rest)
  | c :: rest =>
    if c = '-' || Decimal.isDigit c then
      match number (c :: rest) with
      | .ok (n, rest) => refused (.number n) rest
      | .error fault => fault
    else .next .expectedValue (c :: rest)

/-! ## Single values -/

def string : Reader String := fun text =>
  match skipBlanks text with
  | '"' :: rest => stringBody rest
  | _ => .error (mismatch .string text)

def boolean : Reader Bool := fun text =>
  match skipBlanks text with
  | 't' :: rest => keyword true ['r', 'u', 'e'] rest
  | 'f' :: rest => keyword false ['a', 'l', 's', 'e'] rest
  | _ => .error (mismatch .boolean text)

/-- An integer of at least zero and below `bound`. -/
def natural (bound : Nat) (expected : Expected) : Reader { n : Nat // n < bound } := fun text =>
  match skipBlanks text with
  | c :: rest =>
    if c = '-' || Decimal.isDigit c then
      match number (c :: rest) with
      | .error fault => .error fault
      | .ok (.float x, rest) => .error (.here (.invalidType (.number (.float x)) expected) rest)
      | .ok (.int n, rest) =>
        if h : 0 ≤ n.val ∧ n.val.toNat < bound then .ok (⟨n.val.toNat, h.2⟩, rest)
        else .error (.here (.invalidValue (.number (.int n)) expected) rest)
    else .error (mismatch expected text)
  | [] => .error (mismatch expected text)

/-- An unsigned integer of 32 bits. -/
def word32 : Reader UInt32 := fun text => do
  let (n, rest) ← natural UInt32.size .word32 text
  .ok (UInt32.ofNatLT n.1 n.2, rest)

/-- An unsigned integer of 64 bits. -/
def word64 : Reader UInt64 := fun text => do
  let (n, rest) ← natural UInt64.size .word64 text
  .ok (UInt64.ofNatLT n.1 n.2, rest)

/-! ## Containers -/

/-- A list, whose items `inner` reads. -/
def listOf {α : Type} (inner : Option (Reader α)) : Reader (List α) := fun text =>
  match skipBlanks text with
  | '[' :: rest =>
    match inner with
    | none => .error (.next .recursionLimit ('[' :: rest))
    | some inner => items inner rest
  | _ => .error (mismatch .sequence text)

/-- An object, whose entries `inner` takes up one after the other. -/
def objectOf {σ : Type} (inner : Option (EntryStep σ)) (start : σ) : Reader σ := fun text =>
  match skipBlanks text with
  | '\x7b' :: rest =>
    match inner with
    | none => .error (.next .recursionLimit ('\x7b' :: rest))
    | some inner => entries inner start rest
  | _ => .error (mismatch .map text)

/-- An object with any entries, in which at most `depth` brackets are open at a time. -/
def fields : Nat → Reader Fields
  | 0 => objectOf none []
  | depth + 1 => objectOf (some (fieldEntry (value depth))) []

/-! ## Records -/

/-- How a record is read. A field value is tagged with its field, so that one type `φ` holds the
values of all fields; `build` puts them together, or names the first required field that is
missing. -/
structure RecordShape (φ α : Type) where
  name : String
  fields : List (String × Reader φ)
  build : List φ → Except String α

namespace RecordShape

variable {φ α : Type}

/-- The reader of a field. -/
def reader? (shape : RecordShape φ α) (field : String) : Option (Reader φ) :=
  shape.fields.lookup field

/-- A reader whose result is tagged with its field. -/
def tagged {β : Type} (tag : β → φ) (reader : Reader β) : Reader φ := fun text => do
  let (x, rest) ← reader text
  .ok (tag x, rest)

/-- Where a record is left after a fault of its own: behind the blanks, and behind the closing brace
if that is next. -/
def leave (cause : Cause) (text : List Char) : Fault :=
  match skipBlanks text with
  | '\x7d' :: rest => .here cause rest
  | rest => .here cause rest

/-- Take up a named field. An unknown one is passed over; a second value for a field is refused
before it is read. The names of the fields present are kept beside their values. -/
def field (shape : RecordShape φ α) : EntryStep (List (String × φ)) := fun present key text =>
  match shape.reader? key with
  | none => do
    let (_, rest) ← colon text
    let rest ← skipValue rest
    .ok (present, rest)
  | some reader =>
    if (present.lookup key).isSome then .error (leave (.duplicateField key) text)
    else do
      let (_, rest) ← colon text
      let (x, rest) ← reader rest
      .ok (present ++ [(key, x)], rest)

/-- A record as an object, behind the opening brace. -/
def fromObject (shape : RecordShape φ α) (text : List Char) : Except Fault (α × List Char) := do
  let (present, rest) ← entries shape.field [] text
  match shape.build (present.map Prod.snd) with
  | .ok x => .ok (x, rest)
  | .error missing => .error (.here (.missingField missing) rest)

/-- The fields of a record as an array, in order: the array may end early, but holds nothing behind
the last field. -/
def elements : List (String × Reader φ) → Bool → Reader (List φ)
  | [], _, text =>
    match skipBlanks text with
    | [] => .error (.next .eofInList [])
    | ']' :: rest => .ok ([], rest)
    | ',' :: rest =>
      match skipBlanks rest with
      | ']' :: rest => .error (.next .trailingComma (']' :: rest))
      | rest => .error (.next .trailingCharacters rest)
    | rest => .error (.next .trailingCharacters rest)
  | (_, reader) :: readers, first, text =>
    match skipBlanks text with
    | [] => .error (.next .eofInList [])
    | ']' :: rest => .ok ([], rest)
    | c :: rest =>
      if first then do
        let (x, rest) ← reader (c :: rest)
        let (xs, rest) ← elements readers false rest
        .ok (x :: xs, rest)
      else if c = ',' then
        match skipBlanks rest with
        | [] => .error (.next .eofInValue [])
        | ']' :: rest => .error (.next .trailingComma (']' :: rest))
        | rest => do
          let (x, rest) ← reader rest
          let (xs, rest) ← elements readers false rest
          .ok (x :: xs, rest)
      else .error (.next .expectedListCommaOrEnd (c :: rest))

/-- A record as an array, behind the opening bracket. -/
def fromArray (shape : RecordShape φ α) (text : List Char) : Except Fault (α × List Char) := do
  let (present, rest) ← elements shape.fields true text
  match shape.build present with
  | .ok x => .ok (x, rest)
  | .error missing =>
    let index := (shape.fields.map Prod.fst).idxOf missing
    .error (.here (.invalidLength index shape.name shape.fields.length) rest)

end RecordShape

/-- A record of the given name, whose shape `inner` gives where nesting allows a bracket. -/
def record {φ α : Type} (name : String) (inner : Option (RecordShape φ α)) : Reader α := fun text =>
  match skipBlanks text with
  | '\x7b' :: rest =>
    match inner with
    | none => .error (.next .recursionLimit ('\x7b' :: rest))
    | some shape => shape.fromObject rest
  | '[' :: rest =>
    match inner with
    | none => .error (.next .recursionLimit ('[' :: rest))
    | some shape => shape.fromArray rest
  | _ => .error (mismatch (.record name) text)

end BlockSheet.Json
