/-!
# White space

The characters with the Unicode property White_Space, and the words that they separate. Class lists
and variable tokens use this class; the blanks of the JSON grammar are a class of their own.
-/

namespace BlockSheet.Text

/-- The property White_Space: the ASCII blanks, next line, no-break space, the ogham space, the
typographic spaces, the two separators, the narrow and the mathematical space, and the ideographic
space. The zero-width characters U+180E, U+200B and U+FEFF do not have it. -/
def isBlank (c : Char) : Bool :=
  let n := c.toNat
  (9 ≤ n && n ≤ 13) || n == 0x20 || n == 0x85 || n == 0xA0 || n == 0x1680 ||
    (0x2000 ≤ n && n ≤ 0x200A) || n == 0x2028 || n == 0x2029 || n == 0x202F || n == 0x205F ||
    n == 0x3000

/-- Cut a text at every blank; two neighbouring blanks enclose an empty piece. -/
def splitAtBlanks : List Char → List (List Char)
  | [] => [[]]
  | c :: text =>
    if isBlank c then [] :: splitAtBlanks text
    else
      match splitAtBlanks text with
      | [] => [[c]]
      | piece :: pieces => (c :: piece) :: pieces

/-- The words of a text: its maximal runs without blanks, in order. -/
def words (text : List Char) : List (List Char) :=
  (splitAtBlanks text).filter fun piece => !piece.isEmpty

end BlockSheet.Text
