import BlockSheet.Decimal.Digits
import BlockSheet.Decimal.Shortest

/-!
# Layouts of decimal numbers

How the shortest decimal of a number is laid out as text. `Layout` holds the decisions of one
format: which magnitudes are written positionally, whether an integral number keeps a point, and
how a tie between two digits is broken. `Layout.write` lays a number out.
-/

namespace BlockSheet.Decimal

/-- The decisions of a number format. A number whose first digit stands at `10 ^ p` is written
positionally for `positionalFrom ≤ p ≤ positionalTo`, else in exponent form. -/
structure Layout where
  positionalFrom : Int
  positionalTo : Int
  /-- Is an integral number in positional form followed by `.0`? -/
  keepsPoint : Bool
  tie : Tie

/-- The exponent part: `e`, a sign that is always written, and the digits. -/
def exponentPart (p : Int) : List Char :=
  'e' :: (if p < 0 then '-' else '+') :: digits p.natAbs

namespace Layout

/-- Digits with the decimal point `exponent` places behind their end. -/
def positional (layout : Layout) (ds : List Char) (exponent : Int) : List Char :=
  if 0 ≤ exponent then
    ds ++ List.replicate exponent.toNat '0' ++ (if layout.keepsPoint then ['.', '0'] else [])
  else
    let places := (-exponent).toNat
    if places < ds.length then
      ds.take (ds.length - places) ++ '.' :: ds.drop (ds.length - places)
    else
      '0' :: '.' :: List.replicate (places - ds.length) '0' ++ ds

/-- Digits with the point behind the first one, and the exponent of that first digit. -/
def scientific (ds : List Char) (leading : Int) : List Char :=
  (match ds with
    | [] => []
    | [d] => [d]
    | d :: others => d :: '.' :: others) ++ exponentPart leading

/-- The text of a positive decimal. -/
def writeScientific (layout : Layout) (d : Scientific) : List Char :=
  let ds := digits d.significand
  let leading := d.exponent + ds.length - 1
  if layout.positionalFrom ≤ leading ∧ leading ≤ layout.positionalTo then
    layout.positional ds d.exponent
  else
    scientific ds leading

/-- The text of a number: a minus sign for a negative one (also for the negative zero) and the
shortest decimal of its magnitude. -/
def write (layout : Layout) (x : Binary64) : List Char :=
  (if x.negative then ['-'] else []) ++
    if x.isZero then layout.positional ['0'] 0
    else layout.writeScientific (x.shortest layout.tie)

end Layout

end BlockSheet.Decimal
