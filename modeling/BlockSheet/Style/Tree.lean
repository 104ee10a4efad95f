import BlockSheet.Json.Value
import BlockSheet.Decimal.Digits
import BlockSheet.Text.Pattern

/-!
# Style trees

A style tree is a JSON object that describes CSS rules: scopes are nested objects, leaves are
property values, and the order of the keys is the order of the output. `classify` turns it into
nodes. The key of a scope decides its kind by its beginning alone, so no key is ever refused:

* `media_<breakpoint>`: rules for a breakpoint;
* `@supports…`: rules behind a feature query;
* any other key: a selector.
-/

namespace BlockSheet.Style

open Json (Value Fields)

/-- A tree of style rules. -/
abbrev Tree := Fields

/-- How the key of a breakpoint scope begins. -/
def mediaStart : String := "media_"

/-- How the key of a feature query begins. -/
def supportsStart : String := "@supports"

/-- The breakpoint that a key names. -/
def breakpoint? (key : String) : Option String :=
  (Text.after? mediaStart.toList key.toList).map String.ofList

/-- Is the key that of a breakpoint scope? -/
def isMediaKey (key : String) : Bool := Text.startsWith mediaStart.toList key.toList

/-- Is the key that of a feature query? -/
def isSupportsKey (key : String) : Bool := Text.startsWith supportsStart.toList key.toList

/-- A classified entry of a style tree. -/
inductive Node
  /-- Rules for a breakpoint, by its name without the beginning of the key. -/
  | media (breakpoint : String) (children : List Node)
  /-- Rules behind a feature query, with its whole text. -/
  | supports (condition : String) (children : List Node)
  /-- Rules of a nested selector. -/
  | selector (key : String) (children : List Node)
  /-- A property with its value. -/
  | leaf (property : String) (value : Value)

/-- The node of a scope: its key decides the kind. -/
def Node.ofScope (key : String) (children : List Node) : Node :=
  match breakpoint? key with
  | some breakpoint => .media breakpoint children
  | none => if isSupportsKey key then .supports key children else .selector key children

mutual

/-- The nodes of one entry: a `null` or `false` leaf is dropped, any other entry is one node. -/
def classifyEntry (key : String) : Value → List Node
  | .null => []
  | .bool false => []
  | .bool true => [.leaf key (.bool true)]
  | .num n => [.leaf key (.num n)]
  | .str s => [.leaf key (.str s)]
  | .arr items => [Node.ofScope key (classifyItems 0 items)]
  | .obj fields => [Node.ofScope key (classify fields)]

/-- The nodes of a style tree, in the order of its keys. -/
def classify : List (String × Value) → List Node
  | [] => []
  | (key, value) :: fields => classifyEntry key value ++ classify fields

/-- The nodes of an array, which is a scope keyed by the indices of its items. -/
def classifyItems (index : Nat) : List Value → List Node
  | [] => []
  | value :: values =>
    classifyEntry (String.ofList (Decimal.digits index)) value ++ classifyItems (index + 1) values

end

end BlockSheet.Style
