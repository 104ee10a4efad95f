/-!
# Plain text patterns

Search and replacement of a fixed pattern in a text. A text is a `List Char` here, so that every
function is a recursion on its characters; the modules that own a text convert at their border.

* `after?` and `before?`: what is left of a text behind a given beginning, or in front of a given
  end;
* `contains`: does a pattern occur;
* `replace`: every occurrence, leftmost first and without overlaps, gives way to a new text;
* `joined`: texts one after the other with a separator in between.
-/

namespace BlockSheet.Text

/-! ## Beginnings and ends -/

/-- What follows `pattern` in a text that begins with it. -/
def after? : List Char → List Char → Option (List Char)
  | [], text => some text
  | _ :: _, [] => none
  | p :: pattern, c :: text => if p = c then after? pattern text else none

/-- A text begins with a pattern exactly when it is the pattern followed by the rest. -/
theorem after?_eq_some {pattern text rest : List Char} :
    after? pattern text = some rest ↔ text = pattern ++ rest := by
  induction pattern generalizing text with
  | nil => simp [after?]
  | cons p pattern ih =>
    cases text with
    | nil => simp [after?]
    | cons c text =>
      by_cases h : p = c
      · simp [after?, h, ih]
      · simp [after?, h, Ne.symm h]

@[simp] theorem after?_append (pattern rest : List Char) :
    after? pattern (pattern ++ rest) = some rest := after?_eq_some.2 rfl

/-- What stands in front of `pattern` in a text that ends with it. -/
def before? (pattern text : List Char) : Option (List Char) :=
  (after? pattern.reverse text.reverse).map List.reverse

/-- A text ends with a pattern exactly when it is the rest followed by the pattern. -/
theorem before?_eq_some {pattern text rest : List Char} :
    before? pattern text = some rest ↔ text = rest ++ pattern := by
  constructor
  · intro h
    obtain ⟨front, hfront, rfl⟩ := Option.map_eq_some_iff.1 h
    simpa using congrArg List.reverse (after?_eq_some.1 hfront)
  · rintro rfl
    simp [before?]

/-- Does the text begin with the pattern? -/
def startsWith (pattern text : List Char) : Bool := (after? pattern text).isSome

/-- Does the pattern occur anywhere in the text? -/
def contains (pattern : List Char) : List Char → Bool
  | [] => startsWith pattern []
  | c :: text => startsWith pattern (c :: text) || contains pattern text

/-! ## Replacement -/

/-- Replace every occurrence of the non-empty pattern `first :: others`. The scan goes from left
to right and continues behind an occurrence, so what a replacement writes is never searched. -/
def substitute (first : Char) (others new : List Char) : List Char → List Char
  | [] => []
  | c :: text =>
    if startsWith (first :: others) (c :: text) then
      new ++ substitute first others new (text.drop others.length)
    else
      c :: substitute first others new text
termination_by text => text.length

/-- Replace every occurrence of `pattern` by `new`. An empty pattern occurs in front of every
character and at the end. -/
def replace (pattern new text : List Char) : List Char :=
  match pattern with
  | [] => new ++ text.flatMap (· :: new)
  | first :: others => substitute first others new text

/-- Replace every occurrence of one character. -/
def replaceChar (char : Char) (new text : List Char) : List Char :=
  text.flatMap fun c => if c = char then new else [c]

@[simp] theorem replaceChar_nil (char : Char) (new : List Char) :
    replaceChar char new [] = [] := rfl

@[simp] theorem replaceChar_append (char : Char) (new s t : List Char) :
    replaceChar char new (s ++ t) = replaceChar char new s ++ replaceChar char new t := by
  simp [replaceChar]

/-! ## Joining -/

/-- The texts in order, with `separator` between neighbours. -/
def joined (separator : List Char) : List (List Char) → List Char
  | [] => []
  | [text] => text
  | text :: next :: texts => text ++ separator ++ joined separator (next :: texts)

@[simp] theorem joined_nil (separator : List Char) : joined separator [] = [] := rfl

@[simp] theorem joined_singleton (separator text : List Char) :
    joined separator [text] = text := rfl

@[simp] theorem joined_cons_cons (separator text next : List Char) (texts : List (List Char)) :
    joined separator (text :: next :: texts) =
      text ++ separator ++ joined separator (next :: texts) := rfl

/-- The strings in order, with `separator` between neighbours. -/
def join (separator : String) (texts : List String) : String :=
  String.ofList (joined separator.toList (texts.map String.toList))

end BlockSheet.Text
