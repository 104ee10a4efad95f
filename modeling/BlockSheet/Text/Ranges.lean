/-!
# Classes of characters as ranges of code points

A class of the Unicode standard is a list of ranges, both ends included. A `Run` is a range of which
only every `step`-th code point belongs to the class, since upper and lower case letters often
alternate.
-/

namespace BlockSheet.Text

/-- Does the code point of the character lie in one of the ranges? -/
def inRanges (ranges : List (Nat × Nat)) (c : Char) : Bool :=
  ranges.any fun r => r.1 ≤ c.toNat && c.toNat ≤ r.2

/-- The code points `first`, `first + step`, … up to `last`. -/
structure Run where
  first : Nat
  last : Nat
  step : Nat

/-- Is the code point a member of the run? -/
def Run.contains (run : Run) (n : Nat) : Bool :=
  run.first ≤ n && n ≤ run.last && (n - run.first) % run.step == 0

end BlockSheet.Text
