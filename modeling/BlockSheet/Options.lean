import BlockSheet.Breakpoints
import BlockSheet.Error
import BlockSheet.Json.Record

/-!
# Options

The settings of the library, which a host sends as JSON. Every field has a standard value, so a host
sends only what it wants to change.

* `StyleOptions`, `StyleOptions.standard`: the settings;
* `StyleOptions.validate`: settings under which identities can be given out;
* `StyleOptions.text`, `StyleOptions.parse`: writing and reading;
* `StyleOptions.fromJson`: settings from outside, read and validated.
-/

namespace BlockSheet

open Json (Reader EntryStep RecordShape objectText stringText)

/-- The settings. -/
structure StyleOptions where
  /-- Are the comparison characters of selectors written as entities? -/
  escape : Bool
  /-- How many ids are drawn for a block before uniqueness is given up. -/
  idRetryBudget : UInt32
  /-- How long a drawn id is. -/
  idLength : UInt64
  /-- The widths of the breakpoints. -/
  mediaSizes : MediaSizes
  deriving DecidableEq

/-- The number of draws where no other is set. -/
def standardRetryBudget : UInt32 := 10

/-- The length of an id where no other is set. -/
def standardIdLength : UInt64 := 6

namespace StyleOptions

/-- The settings that hold where nothing is set. -/
def standard : StyleOptions := ⟨true, standardRetryBudget, standardIdLength, .standard⟩

/-- At least one draw, and ids of one to twelve characters. -/
def validate (o : StyleOptions) : Except OptionFault Unit :=
  if o.idRetryBudget = 0 then .error .noRetryBudget
  else if o.idLength = 0 ∨ 12 < o.idLength then .error (.idLength o.idLength.toNat)
  else .ok ()

/-! ## Writing -/

/-- The text of breakpoint widths. -/
def sizesChars (sizes : MediaSizes) : List Char :=
  objectText (sizes.entries.map fun e => (e.1, Decimal.digits e.2.toNat))

def chars (o : StyleOptions) : List Char :=
  objectText [
    ("escape", (Json.Value.bool o.escape).chars),
    ("idRetryBudget", Decimal.digits o.idRetryBudget.toNat),
    ("idLength", Decimal.digits o.idLength.toNat),
    ("mediaSizes", sizesChars o.mediaSizes)]

def text (o : StyleOptions) : String := String.ofList o.chars

/-! ## Reading -/

/-- Enter a width under its name. -/
def sizeEntry : EntryStep MediaSizes := fun sizes name text => do
  let (_, rest) ← Json.colon text
  let (width, rest) ← Json.word32 rest
  .ok (sizes.insert name width, rest)

def sizesReader : Reader MediaSizes := Json.objectOf (some sizeEntry) .empty

/-- The value of a field. -/
inductive Field
  | escape (b : Bool)
  | idRetryBudget (n : UInt32)
  | idLength (n : UInt64)
  | mediaSizes (sizes : MediaSizes)

/-- Put the settings together. Given widths replace the standard ones as a whole. -/
def ofFields? (present : List Field) : Except String StyleOptions :=
  .ok {
    escape := (present.findSome? fun | .escape b => some b | _ => none).getD standard.escape
    idRetryBudget :=
      (present.findSome? fun | .idRetryBudget n => some n | _ => none).getD standard.idRetryBudget
    idLength := (present.findSome? fun | .idLength n => some n | _ => none).getD standard.idLength
    mediaSizes :=
      (present.findSome? fun | .mediaSizes sizes => some sizes | _ => none).getD
        standard.mediaSizes }

/-- How the settings are read. -/
def shape : RecordShape Field StyleOptions where
  name := "StyleOptions"
  fields := [
    ("escape", RecordShape.tagged .escape Json.boolean),
    ("idRetryBudget", RecordShape.tagged .idRetryBudget Json.word32),
    ("idLength", RecordShape.tagged .idLength Json.word64),
    ("mediaSizes", RecordShape.tagged .mediaSizes sizesReader)]
  build := ofFields?

/-- Read a text as settings, valid or not. -/
def parse (text : String) : Except Json.Error StyleOptions :=
  Json.parseWith (Json.record "StyleOptions" (some shape)) text

/-- Settings from outside: read and validated. -/
def fromJson (text : String) : Except StyleError StyleOptions :=
  match parse text with
  | .error cause => .error (.invalidJson .options cause)
  | .ok o =>
    match o.validate with
    | .error fault => .error (.invalidOptions fault)
    | .ok () => .ok o

end StyleOptions

end BlockSheet
