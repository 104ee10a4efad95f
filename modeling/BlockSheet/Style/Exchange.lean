import BlockSheet.Json.Printer
import BlockSheet.Json.Record
import BlockSheet.Style.Declaration

/-!
# Declarations as JSON

A declaration is an object with the fields `property` and `value`, both of which are required when
it is read.
-/

namespace BlockSheet.Style.Declaration

open Json (RecordShape stringText objectText)

/-- The text of a declaration as JSON. -/
def jsonChars (d : Declaration) : List Char :=
  objectText [("property", stringText d.property), ("value", stringText d.value)]

def jsonText (d : Declaration) : String := String.ofList d.jsonChars

/-- The value of a field of a declaration. -/
inductive Field
  | property (s : String)
  | value (s : String)

def ofFields? (present : List Field) : Except String Declaration :=
  match present.findSome? fun | .property s => some s | _ => none with
  | none => .error "property"
  | some property =>
    match present.findSome? fun | .value s => some s | _ => none with
    | none => .error "value"
    | some value => .ok ⟨property, value⟩

def shape : RecordShape Field Declaration where
  name := "Declaration"
  fields := [
    ("property", RecordShape.tagged .property Json.string),
    ("value", RecordShape.tagged .value Json.string)]
  build := ofFields?

def parse (text : String) : Except Json.Error Declaration :=
  Json.parseWith (Json.record "Declaration" (some shape)) text

end BlockSheet.Style.Declaration
