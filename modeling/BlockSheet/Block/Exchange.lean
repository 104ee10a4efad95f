import BlockSheet.Block.Basic
import BlockSheet.Json.Printer
import BlockSheet.Json.Record

/-!
# Blocks as JSON

Writing and reading of blocks, documents, identities and style attributes. Written fields come in a
fixed order. Of a block only the name is required when it is read, of an identity every field, of
style attributes none.
-/

namespace BlockSheet

open Json (Value Fields Reader RecordShape stringText arrayText objectText)

/-! ## Blocks -/

mutual

def Block.chars : Block → List Char
  | ⟨clientId, name, attributes, inner⟩ =>
    objectText [
      ("clientId", stringText clientId),
      ("name", stringText name),
      ("attributes", (Value.obj attributes).chars),
      ("innerBlocks", arrayText (blockTexts inner))]

def blockTexts : List Block → List (List Char)
  | [] => []
  | b :: blocks => b.chars :: blockTexts blocks

end

theorem blockTexts_eq_map (blocks : List Block) : blockTexts blocks = blocks.map Block.chars := by
  induction blocks with
  | nil => rfl
  | cons b blocks ih => simp [blockTexts, ih]

def Block.text (b : Block) : String := String.ofList b.chars

def Document.text (document : Document) : String := String.ofList (arrayText (blockTexts document))

namespace Block

/-- The value of a field of a block. -/
inductive Field
  | clientId (s : String)
  | name (s : String)
  | attributes (fields : Fields)
  | innerBlocks (blocks : List Block)

def ofFields? (present : List Field) : Except String Block :=
  match present.findSome? fun | .name s => some s | _ => none with
  | none => .error "name"
  | some name => .ok {
      clientId := (present.findSome? fun | .clientId s => some s | _ => none).getD ""
      name := name
      attributes := (present.findSome? fun | .attributes fs => some fs | _ => none).getD []
      innerBlocks := (present.findSome? fun | .innerBlocks bs => some bs | _ => none).getD [] }

/-- How a block is read, given the readers of its attributes and of its inner blocks. -/
def shape (attributes : Reader Fields) (innerBlocks : Reader (List Block)) :
    RecordShape Field Block where
  name := "Block"
  fields := [
    ("clientId", RecordShape.tagged .clientId Json.string),
    ("name", RecordShape.tagged .name Json.string),
    ("attributes", RecordShape.tagged .attributes attributes),
    ("innerBlocks", RecordShape.tagged .innerBlocks innerBlocks)]
  build := ofFields?

/-- A block in which at most `depth` brackets are open at a time. Its own bracket counts, and so
does that of the list of its inner blocks. -/
def reader : Nat → Reader Block
  | 0 => Json.record "Block" (none : Option (RecordShape Field Block))
  | 1 => Json.record "Block" (some (shape (Json.fields 0) (Json.listOf none)))
  | depth + 2 =>
    Json.record "Block"
      (some (shape (Json.fields (depth + 1)) (Json.listOf (some (reader depth)))))

def parse (text : String) : Except Json.Error Block :=
  Json.parseWith (reader Json.nestingLimit) text

end Block

namespace Document

/-- A document in which at most `depth` brackets are open at a time. -/
def reader : Nat → Reader Document
  | 0 => Json.listOf none
  | depth + 1 => Json.listOf (some (Block.reader depth))

def parse (text : String) : Except Json.Error Document :=
  Json.parseWith (reader Json.nestingLimit) text

end Document

/-- Read a text as an object with any fields. -/
def Attributes.parse (text : String) : Except Json.Error Attributes :=
  Json.parseWith (Json.fields Json.nestingLimit) text

/-! ## Identities -/

namespace Identity

def chars (identity : Identity) : List Char :=
  objectText [("id", stringText identity.id), ("className", stringText identity.className)]

def text (identity : Identity) : String := String.ofList identity.chars

/-- The value of a field of an identity. -/
inductive Field
  | id (s : String)
  | className (s : String)

def ofFields? (present : List Field) : Except String Identity :=
  match present.findSome? fun | .id s => some s | _ => none with
  | none => .error "id"
  | some id =>
    match present.findSome? fun | .className s => some s | _ => none with
    | none => .error "className"
    | some className => .ok ⟨id, className⟩

def shape : RecordShape Field Identity where
  name := "BlockIdentity"
  fields := [
    ("id", RecordShape.tagged .id Json.string),
    ("className", RecordShape.tagged .className Json.string)]
  build := ofFields?

def parse (text : String) : Except Json.Error Identity :=
  Json.parseWith (Json.record "BlockIdentity" (some shape)) text

end Identity

/-! ## Style attributes -/

namespace StyleAttributes

def chars (state : StyleAttributes) : List Char :=
  objectText [
    ("id", stringText state.id),
    ("className", stringText state.className),
    ("styles", (Value.obj state.styles).chars)]

def text (state : StyleAttributes) : String := String.ofList state.chars

/-- The value of a field of style attributes. -/
inductive Field
  | id (s : String)
  | className (s : String)
  | styles (tree : Style.Tree)

def ofFields? (present : List Field) : Except String StyleAttributes :=
  .ok {
    id := (present.findSome? fun | .id s => some s | _ => none).getD ""
    className := (present.findSome? fun | .className s => some s | _ => none).getD ""
    styles := (present.findSome? fun | .styles tree => some tree | _ => none).getD [] }

/-- How style attributes are read, given the reader of their style tree. -/
def shape (styles : Reader Fields) : RecordShape Field StyleAttributes where
  name := "StyleAttributes"
  fields := [
    ("id", RecordShape.tagged .id Json.string),
    ("className", RecordShape.tagged .className Json.string),
    ("styles", RecordShape.tagged .styles styles)]
  build := ofFields?

def parse (text : String) : Except Json.Error StyleAttributes :=
  Json.parseWith
    (Json.record "StyleAttributes" (some (shape (Json.fields (Json.nestingLimit - 1))))) text

end StyleAttributes

end BlockSheet
