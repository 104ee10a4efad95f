import BlockSheet.Json.Value
import BlockSheet.Style.Tree

/-!
# Blocks

A document is a list of blocks, each of which may hold further blocks. This module has the data:

* `Block`: a block with its type name, its attributes and its inner blocks;
* `Identity`: the id and the class name that a styled block has in its document;
* `StyleAttributes`: the style state kept among the attributes of a block, and how it is read and
  written there.
-/

namespace BlockSheet

open Json (Value Fields)

/-! ## Blocks -/

abbrev Attributes := Fields

/-- A placed piece of content. -/
structure Block where
  /-- Names the block within an editor session; empty for a block outside of one. -/
  clientId : String
  /-- The name of the block type, with its namespace. -/
  name : String
  attributes : Attributes
  innerBlocks : List Block
  deriving Inhabited

/-- The blocks of a document at its top level. -/
abbrev Document := List Block

/-- The type of blocks that stand for a reusable block. -/
def reusableName : String := "core/block"

namespace Block

/-- A block without attributes and inner blocks. -/
def new (clientId name : String) : Block := ⟨clientId, name, [], []⟩

def withAttribute (b : Block) (name : String) (value : Value) : Block :=
  { b with attributes := b.attributes.insert name value }

def withInnerBlocks (b : Block) (innerBlocks : List Block) : Block :=
  { b with innerBlocks := innerBlocks }

/-- The reusable block that the block stands for: its number in the attribute `ref`. -/
def reference? (b : Block) : Option Nat :=
  if b.name = reusableName then (b.attributes.get? "ref").bind Value.nat? else none

end Block

/-! ## Identities -/

/-- The id of a block and the class name made from it. -/
structure Identity where
  id : String
  className : String
  deriving DecidableEq

/-- The class name of a block: the name of its type, with a hyphen for the first slash, and the id
behind a hyphen. -/
def classNameFor (blockName id : String) : String :=
  let start := blockName.toList.takeWhile (· ≠ '/')
  let rest := blockName.toList.dropWhile (· ≠ '/')
  let name := match rest with
    | [] => start
    | _ :: rest => start ++ '-' :: rest
  String.ofList (name ++ '-' :: id.toList)

namespace Identity

/-- The identity of a block without one. -/
def empty : Identity := ⟨"", ""⟩

/-- The identity that an id gives a block of some type. -/
def ofId (blockName id : String) : Identity := ⟨id, classNameFor blockName id⟩

def isEmpty (identity : Identity) : Bool := identity.id.isEmpty

def write (identity : Identity) (attributes : Attributes) : Attributes :=
  (attributes.insert "id" (.str identity.id)).insert "className" (.str identity.className)

end Identity

/-! ## Style state -/

/-- The style state of a block. -/
structure StyleAttributes where
  id : String
  className : String
  styles : Style.Tree

namespace StyleAttributes

def empty : StyleAttributes := ⟨"", "", []⟩

/-- The text of an attribute; empty where it is missing or no string. -/
def textOf (attributes : Attributes) (name : String) : String :=
  ((attributes.get? name).bind Value.string?).getD ""

/-- The style tree among the attributes; empty where it is missing or no object. -/
def treeOf (attributes : Attributes) : Style.Tree :=
  match attributes.get? "styles" with
  | some (.obj tree) => tree
  | _ => []

theorem textOf_insert (attributes : Attributes) (name : String) (value : Value) (other : String) :
    textOf (attributes.insert name value) other =
      if name = other then value.string?.getD "" else textOf attributes other := by
  rw [textOf, Fields.get?_insert]
  by_cases h : name = other <;> simp [h, textOf]

theorem treeOf_insert_of_ne {name : String} (h : name ≠ "styles") (attributes : Attributes)
    (value : Value) : treeOf (attributes.insert name value) = treeOf attributes := by
  rw [treeOf, Fields.get?_insert, if_neg h, treeOf]

/-- Read the style state. A part that is missing or of a wrong type counts as empty, since older
content stores cleared styles as an empty string. -/
def read (attributes : Attributes) : StyleAttributes :=
  ⟨textOf attributes "id", textOf attributes "className", treeOf attributes⟩

def write (state : StyleAttributes) (attributes : Attributes) : Attributes :=
  ((attributes.insert "id" (.str state.id)).insert "className" (.str state.className)).insert
    "styles" (.obj state.styles)

/-- A style state that was written is read back as it was. -/
@[simp] theorem read_write (state : StyleAttributes) (attributes : Attributes) :
    read (state.write attributes) = state := by
  simp [read, write, textOf_insert, treeOf, Value.string?]

/-- Writing an identity replaces the id and the class name, and keeps the tree. -/
@[simp] theorem read_write_identity (identity : Identity) (attributes : Attributes) :
    read (identity.write attributes) = ⟨identity.id, identity.className, treeOf attributes⟩ := by
  simp [read, Identity.write, textOf_insert, treeOf_insert_of_ne, Value.string?]

/-- Is any part of the state not empty? -/
def hasState (state : StyleAttributes) : Bool :=
  !state.id.isEmpty || !state.className.isEmpty || !state.styles.isEmpty

def identity (state : StyleAttributes) : Identity := ⟨state.id, state.className⟩

/-- Do two states agree? Style trees are compared as values, without regard to the order of their
keys. -/
def equal (s t : StyleAttributes) : Bool :=
  s.id == t.id && s.className == t.className && s.styles.equal t.styles

end StyleAttributes

def Block.styleAttributes (b : Block) : StyleAttributes := StyleAttributes.read b.attributes

end BlockSheet
