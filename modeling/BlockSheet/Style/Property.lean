import BlockSheet.Text.Alphanumeric
import BlockSheet.Text.Case

/-!
# Property names

* `dashed`: the dash-case spelling of a property name;
* `isPixelProperty`: the properties whose bare numbers are lengths in pixels.
-/

namespace BlockSheet.Style

open Text (isAlphanumeric isUppercase lowercase)

/-- Put a name in lower case and a hyphen in front of every capital that follows a letter or a digit
of the name as it was, so a run of capitals splits letter by letter. `previous` is the character in
front. -/
def dashedFrom (previous : Option Char) : List Char → List Char
  | [] => []
  | c :: name =>
    (if isUppercase c && previous.any isAlphanumeric then ['-'] else []) ++ lowercase c ++
      dashedFrom (some c) name

/-- The dash-case spelling: `marginTop` is `margin-top`, and a dashed name stays as it is. -/
def dashed (name : String) : String := String.ofList (dashedFrom none name.toList)

/-- The properties whose bare numeric values are lengths in pixels. -/
def pixelProperties : List String := [
  "border-top-width", "border-right-width", "border-bottom-width", "border-left-width",
  "border-width", "border-bottom-left-radius", "border-bottom-right-radius",
  "border-top-left-radius", "border-top-right-radius", "border-radius",
  "bottom", "top", "left", "right",
  "font-size", "height", "width", "min-height", "min-width", "max-height", "max-width",
  "margin-left", "margin-right", "margin-top", "margin-bottom", "margin",
  "padding-left", "padding-right", "padding-top", "padding-bottom", "padding",
  "outline-width"]

/-- Is a bare number a length in pixels for this property? -/
def isPixelProperty (property : String) : Bool := pixelProperties.contains property

end BlockSheet.Style
