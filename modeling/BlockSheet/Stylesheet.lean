import BlockSheet.Binder
import BlockSheet.Block.Exchange

/-!
# Stylesheets of documents

The persisted styles of all blocks of a document make the stylesheet of the page.

* **Order.** The CSS of a block comes in front of that of its inner blocks; the content of a
  reusable block stands where it is referred to.
* **Once per request.** A `ParseState` keeps what a request has collected: content that was
  collected before, and reusable blocks that were entered before, are passed over.
* **Cycles.** A reusable block is marked before it is entered, so one that contains itself is
  entered once.
-/

namespace BlockSheet

open Hash (Digest DigestFunction)

/-! ## Libraries and requests -/

/-- The content of reusable blocks by their numbers. -/
structure Library where
  entries : List (Nat × Document)

namespace Library

def empty : Library := ⟨[]⟩

/-- The content of a reusable block. -/
def find? (library : Library) (reference : Nat) : Option Document :=
  library.entries.lookup reference

end Library

/-- The digest of the text of a document, which stands for its content. -/
def contentDigest (digest : DigestFunction) (document : Document) : Digest := digest document.text

/-- What a request has collected so far. -/
structure ParseState where
  contents : List Digest
  references : List Nat

namespace ParseState

/-- Nothing has been collected. -/
def empty : ParseState := ⟨[], []⟩

/-- Was the content collected in this request? -/
def isContentParsed (state : ParseState) (digest : DigestFunction) (document : Document) : Bool :=
  state.contents.contains (contentDigest digest document)

/-- Was the reusable block entered in this request? -/
def isReusableParsed (state : ParseState) (reference : Nat) : Bool :=
  state.references.contains reference

end ParseState

/-! ## Gathering styled blocks -/

/-- What a walk has found: the reusable blocks that are marked, and the blocks with styles in
order. -/
structure Gathered where
  references : List Nat
  styled : List Block
  events : List Event

namespace Gathered

/-- Mark a reusable block as entered. -/
def mark (g : Gathered) (reference : Nat) : Gathered :=
  { g with references := reference :: g.references }

/-- Note that a reusable block is missing. -/
def miss (g : Gathered) (reference : Nat) : Gathered :=
  { g with events := g.events ++ [.reusableMissing reference] }

/-- Take up a block where it has styles. -/
def take (g : Gathered) (b : Block) : Gathered :=
  if b.styleAttributes.styles.isEmpty then g else { g with styled := g.styled ++ [b] }

/-- Take up the reusable block that a block stands for, unless it is marked already. -/
def expand (enter : Nat → Gathered → Gathered) (b : Block) (g : Gathered) : Gathered :=
  match b.reference? with
  | none => g
  | some reference =>
    if g.references.contains reference then g else enter reference (g.mark reference)

/-- Walk through blocks. For each one comes first the reusable block that it stands for, which
`enter` walks through, then the block itself, then its inner blocks. -/
def walk (enter : Nat → Gathered → Gathered) : Document → Gathered → Gathered
  | [], g => g
  | ⟨clientId, name, attributes, inner⟩ :: blocks, g =>
    let b : Block := ⟨clientId, name, attributes, inner⟩
    walk enter blocks (walk enter inner ((expand enter b g).take b))

/-- Walk through the content of a reusable block, within which at most `depth` others are entered
one inside the other. -/
def enter (library : Library) : Nat → Nat → Gathered → Gathered
  | 0, reference, g =>
    match library.find? reference with
    | none => g.miss reference
    | some _ => g
  | depth + 1, reference, g =>
    match library.find? reference with
    | none => g.miss reference
    | some blocks => walk (enter library depth) blocks g

/-- Walk through a document. Reusable blocks that are entered one inside the other are different
ones, so the size of the library bounds their depth. -/
def gather (library : Library) (document : Document) (g : Gathered) : Gathered :=
  walk (enter library library.entries.length) document g

end Gathered

/-! ## Collecting -/

/-- Collects the stylesheets of documents. -/
structure Collector where
  digest : DigestFunction
  library : Library
  resolver : Resolver
  /-- The block types whose filters are applied, if any are. -/
  registry : Option Registry

namespace Collector

/-- The CSS of a styled block on the page; there is none where it is empty before the variables are
resolved. -/
def blockCss? (c : Collector) (b : Block) : Option String :=
  let styles := b.styleAttributes.styles
  let compiled := Style.compile styles "" false
  let css :=
    match c.registry.bind fun r => r.find? b.name with
    | some t => t.filterStyles compiled styles .front b.attributes
    | none => compiled
  if css.isEmpty then none else some (resolveVariables css c.resolver)

/-- The stylesheet of a document, and the state of the request after it. There is none for an empty
document, nor for content that the request has collected before. -/
def collect (c : Collector) (document : Document) (state : ParseState) :
    Logged (Option String × ParseState) :=
  if document.isEmpty then .pure (none, state)
  else if state.isContentParsed c.digest document then ⟨(none, state), [.contentRepeated]⟩
  else
    let g := Gathered.gather c.library document ⟨state.references, [], []⟩
    let css := Text.join "\n" (g.styled.filterMap c.blockCss?)
    ⟨(some css, ⟨contentDigest c.digest document :: state.contents, g.references⟩), g.events⟩

end Collector

end BlockSheet
