import BlockSheet.Decimal.Layout
import BlockSheet.Json.Value
import BlockSheet.Style.Escapes
import BlockSheet.Style.Property

/-!
# Declarations

A leaf of a style tree becomes a CSS declaration (`Declaration.ofLeaf?`): the property in dash-case,
legacy codes of the value decoded, and `px` added where a bare number is a length.

* A number gets its unit from the property; zero needs none.
* A string gets it from its characters: digits, dots and minus signs only, whatever the property.
  An `!important` at the end is kept apart from that test.
-/

namespace BlockSheet.Style

open Json (Value Number)
open Decimal (Layout integer)

/-- A CSS declaration. -/
structure Declaration where
  property : String
  value : String
  deriving DecidableEq

namespace Declaration

def chars (d : Declaration) : List Char :=
  d.property.toList ++ [':', ' '] ++ d.value.toList ++ [';']

def text (d : Declaration) : String := String.ofList d.chars

end Declaration

/-! ## Numbers -/

/-- CSS numbers are positional from `10 ^ -6` to below `10 ^ 21`, an integral number has no point,
and of two equally near shortest decimals the upper one is written. -/
def cssLayout : Layout := ⟨-6, 20, false, .up⟩

def numberChars : Number → List Char
  | .int n => integer n.val
  | .float x => cssLayout.write x

def pixels : List Char := ['p', 'x']

/-- The value of a number as that of a property. -/
def numberValue (property : String) (n : Number) : List Char :=
  if !n.isZero && isPixelProperty property then numberChars n ++ pixels else numberChars n

/-! ## Strings -/

/-- The end of a value that overrides other rules. -/
def importantEnd : List Char := " !important".toList

/-- Does a character occur in bare numbers? -/
def isNumeric (c : Char) : Bool := Decimal.isDigit c || c == '.' || c == '-'

/-- Add the unit to a value that is made of digits, dots and minus signs only; the empty value is
one. -/
def withUnit (value : List Char) : List Char :=
  if value.all isNumeric then value ++ pixels else value

def stringValue (escapes : Escapes) (s : List Char) : List Char :=
  let decoded := escapes.valueChars s
  match Text.before? importantEnd decoded with
  | some bare => withUnit bare ++ importantEnd
  | none => withUnit decoded

/-! ## Leaves -/

/-- The value of a leaf of the given property. `null` and `false` have none, and scopes are no
leaves. -/
def leafValue? (escapes : Escapes) (property : String) : Value → Option (List Char)
  | .null | .bool false | .arr _ | .obj _ => none
  | .bool true => some "true".toList
  | .num n => some (numberValue property n)
  | .str s => some (stringValue escapes s.toList)

def Declaration.ofLeaf? (escapes : Escapes) (property : String) (value : Value) :
    Option Declaration :=
  (leafValue? escapes (dashed property) value).map fun text =>
    ⟨dashed property, String.ofList text⟩

end BlockSheet.Style
