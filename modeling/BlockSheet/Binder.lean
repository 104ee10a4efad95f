import BlockSheet.Identity.Allocator
import BlockSheet.Style.Compiler

/-!
# Binding styles to blocks

A block type derives a style tree from the attributes of a block. Binding keeps the style state
among the attributes in line with that tree.

* Nothing is written while identity and tree agree with what is stored, so binding a second time
  changes nothing.
* An id is checked against the other blocks only when the block is mounted, which is when copies
  come into being.
* A block that derives no styles any more loses its style state.
* A callback that a block type does not have changes nothing: no styles, the selector of the class
  name, CSS as it was compiled.
-/

namespace BlockSheet

open Json (Value Fields)
open Style (Tree)

/-! ## Block types -/

/-- Where CSS is shown. -/
inductive Surface
  | editor
  | front
  deriving DecidableEq

/-- The style callbacks of a block type. -/
structure BlockType where
  name : String
  /-- The style tree for some attributes. -/
  styles? : Option (Attributes → Tree)
  /-- The selector in the place of the given one. -/
  selector? : Option (String → String)
  /-- The CSS in the place of the given one, which was compiled from a tree for some attributes. -/
  filter? : Option (String → Tree → Surface → Attributes → String)

namespace BlockType

def plain (name : String) : BlockType := ⟨name, none, none, none⟩

/-- The style tree for some attributes. -/
def customStyles (t : BlockType) (attributes : Attributes) : Tree :=
  match t.styles? with
  | some styles => styles attributes
  | none => []

/-- The selector under which the styles of a block stand. -/
def selector (t : BlockType) (base : String) : String :=
  match t.selector? with
  | some selector => selector base
  | none => base

/-- The CSS as it is shown. -/
def filterStyles (t : BlockType) (css : String) (tree : Tree) (surface : Surface)
    (attributes : Attributes) : String :=
  match t.filter? with
  | some filter => filter css tree surface attributes
  | none => css

end BlockType

/-- The known block types, the latest first. -/
structure Registry where
  types : List BlockType

namespace Registry

def empty : Registry := ⟨[]⟩

/-- The block type of a name: the latest one registered under it. -/
def find? (r : Registry) (name : String) : Option BlockType :=
  r.types.find? fun t => t.name == name

/-- Make a block type known, in the place of an older one of the same name. -/
def register (r : Registry) (t : BlockType) : Logged Registry :=
  let events := if (r.find? t.name).isSome then [.typeReplaced t.name] else []
  ⟨⟨t :: r.types⟩, events⟩

/-- The block type of a name, or one without callbacks. -/
def get (r : Registry) (name : String) : BlockType := (r.find? name).getD (.plain name)

end Registry

/-! ## Binding -/

/-- What binding does to the style state of a block. -/
inductive BindOutcome
  | unchanged
  | update (next : StyleAttributes)
  | clear

namespace BindOutcome

/-- The attributes that the outcome writes, if it writes any. -/
def written? (outcome : BindOutcome) (attributes : Attributes) : Option Attributes :=
  match outcome with
  | unchanged => none
  | update next => some (next.write attributes)
  | clear => some (StyleAttributes.empty.write attributes)

/-- The attributes after the outcome. -/
def apply (outcome : BindOutcome) (attributes : Attributes) : Attributes :=
  (outcome.written? attributes).getD attributes

/-- A block after the outcome. -/
def applyTo (outcome : BindOutcome) (b : Block) : Block :=
  { b with attributes := outcome.apply b.attributes }

end BindOutcome

def classSelector (className : String) : String := "." ++ className

namespace Allocator

/-- The style state that a block of some type is to have: its identity, and the derived tree under
the selector of its class name. -/
def boundState (identity : Identity) (t : BlockType) (tree : Tree) : StyleAttributes :=
  ⟨identity.id, identity.className,
    [(t.selector (classSelector identity.className), .obj tree)]⟩

/-- Bind a block of some type in its document. `mount` says that the block has just come into
being. -/
def bind (a : Allocator) (b : Block) (document : Document) (t : BlockType) (mount : Bool) :
    Logged BindOutcome :=
  let current := b.styleAttributes
  let tree := t.customStyles b.attributes
  if tree.isEmpty then
    if current.hasState then ⟨.clear, [.stylesLost b.clientId]⟩ else .pure .unchanged
  else
    (a.allocate b document mount).bind fun identity =>
      let next := boundState identity t tree
      if identity.isEmpty || next.equal current then .pure .unchanged
      else ⟨.update next, [.stylesChanged b.clientId]⟩

/-- Bind a block by the type that is registered for it; a block of an unknown type stays as it
is. -/
def bindRegistered (a : Allocator) (b : Block) (document : Document) (r : Registry)
    (mount : Bool) : Logged BindOutcome :=
  match r.find? b.name with
  | some t => a.bind b document t mount
  | none => .pure .unchanged

end Allocator

/-! ## Showing and saving -/

namespace Block

/-- The CSS of a block in the editor: unescaped, filtered for the editor, with the variables
resolved. There is none without styles or without a class name. -/
def liveStyles? (b : Block) (t : BlockType) (resolver : Resolver) : Option String :=
  let state := b.styleAttributes
  if state.className.isEmpty || state.styles.isEmpty then none
  else
    let css := Style.compile state.styles "" false
    some (resolveVariables (t.filterStyles css state.styles .editor b.attributes) resolver)

/-- The CSS of a block that is saved with its markup: escaped, its variables left as they are.
There is none without styles. -/
def exportStyles? (b : Block) (t : BlockType) : Option String :=
  let state := b.styleAttributes
  if state.styles.isEmpty then none
  else
    let css := Style.compile state.styles "" true
    some (t.filterStyles css state.styles .front b.attributes)

end Block

/-- Add words to a list without repetition, each at the end where it is new. -/
def addNew (classes new : List (List Char)) : List (List Char) :=
  new.foldl (fun classes c => if classes.contains c then classes else classes ++ [c]) classes

/-- The classes of both lists, each once, in the order in which they first occur. -/
def mergeClasses (existing : Option String) (extra : String) : String :=
  let words := Text.words (existing.getD "").toList ++ Text.words extra.toList
  String.ofList (Text.joined [' '] (addNew [] words))

/-- The attribute of a saved element that carries the CSS of its block. -/
def savedStyles : String := "data-ghostkit-styles"

/-- The attribute of a saved element that carries its classes. -/
def savedClasses : String := "className"

/-- The attributes of a saved element with the CSS of its block and its class added. Without styles
they stay as they are. -/
def saveProps (props : Fields) (b : Block) (t : BlockType) : Fields :=
  match b.exportStyles? t with
  | none => props
  | some css =>
    let props := props.insert savedStyles (.str css)
    let className := b.styleAttributes.className
    if className.isEmpty then props
    else
      let existing := (props.get? savedClasses).bind Value.string?
      props.insert savedClasses (.str (mergeClasses existing className))

/-! ## Transforming blocks -/

/-- The style state that a block takes over when it comes out of a transformation: that of the first
source, if it is the same instance and has styles. -/
def carriedState? (transformed : Block) (sources : List Block) : Option StyleAttributes :=
  match sources with
  | [] => none
  | source :: _ =>
    let state := source.styleAttributes
    if source.clientId = transformed.clientId ∧ !state.styles.isEmpty then some state else none

/-- A transformed block with the style state that it takes over. -/
def carryOver (transformed : Block) (sources : List Block) : Block :=
  match carriedState? transformed sources with
  | some state => { transformed with attributes := state.write transformed.attributes }
  | none => transformed

end BlockSheet
