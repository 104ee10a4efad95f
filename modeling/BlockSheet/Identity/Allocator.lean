import BlockSheet.Block.Traversal
import BlockSheet.Event
import BlockSheet.Hash.Sha256
import BlockSheet.Identity.ShortHash
import BlockSheet.Options

/-!
# Giving out identities

Every styled block gets an id, and from it the class name under which its CSS stands, so ids are to
be unique in a document.

* An id that is set stays, unless a recheck finds that another block holds it too.
* A new id is the first candidate of the generator that is not empty and that no other block holds.
  The number of candidates is bounded; when all fail the last one is used, with a warning.
* `Allocator.allocate` does this for one block, `Allocator.allocateDocument` for all blocks that
  hold an id already. There the first holder of an id keeps it and later holders get new ones.
-/

namespace BlockSheet

/-! ## Holders of ids -/

namespace Document

/-- The ids held in a document, each with the client id of its holder. A block without a client id
does not count as a holder. -/
def holders (document : Document) : List (String × String) :=
  document.preorder.filterMap fun b =>
    let id := b.styleAttributes.id
    if id.isEmpty || b.clientId.isEmpty then none else some (id, b.clientId)

/-- Is the id held by a block with another client id? -/
def isTaken (document : Document) (id clientId : String) : Bool :=
  document.holders.any fun holder => holder.1 == id && holder.2 != clientId

end Document

/-! ## Allocation -/

/-- Gives out identities. -/
structure Allocator where
  /-- The candidate for a client id in an attempt, the first attempt being zero. -/
  generate : String → Nat → String
  /-- How many candidates are tried for a block. -/
  retryBudget : Nat

namespace Allocator

/-- An allocator for some options, over a digest function. -/
def ofOptionsWith (digest : Hash.DigestFunction) (options : StyleOptions) : Allocator :=
  ⟨ShortHash.generate ⟨digest, options.idLength.toNat⟩, options.idRetryBudget.toNat⟩

/-- An allocator for some options. -/
def ofOptions (options : StyleOptions) : Allocator := ofOptionsWith Hash.Sha256.digest options

/-- The allocator of the standard options. -/
def standard : Allocator := ofOptions .standard

/-- Try `left` more candidates from an attempt on; `last` is the candidate before. -/
def drawFrom (a : Allocator) (document : Document) (clientId : String) :
    (left attempt : Nat) → (last : String) → Logged String
  | 0, _, last => ⟨last, [.budgetExhausted a.retryBudget clientId last]⟩
  | left + 1, attempt, _ =>
    let candidate := a.generate clientId attempt
    if !candidate.isEmpty && !document.isTaken candidate clientId then .pure candidate
    else a.drawFrom document clientId left (attempt + 1) candidate

/-- A new id for a client id in a document. -/
def draw (a : Allocator) (document : Document) (clientId : String) : Logged String :=
  a.drawFrom document clientId a.retryBudget 0 ""

/-- The stored identity, its class name made from the id where it is empty. -/
def keep (b : Block) : Identity :=
  let current := b.styleAttributes
  if current.className.isEmpty then .ofId b.name current.id else current.identity

/-- A new identity for a block; a block without a client id gets none. -/
def renew (a : Allocator) (b : Block) (document : Document) : Logged Identity :=
  if b.clientId.isEmpty then .pure .empty
  else (a.draw document b.clientId).map (.ofId b.name)

/-- The identity of a block in a document. With `recheck` an id that another block holds is given
up. -/
def allocate (a : Allocator) (b : Block) (document : Document) (recheck : Bool) :
    Logged Identity :=
  let id := b.styleAttributes.id
  if id.isEmpty then a.renew b document
  else if recheck && document.isTaken id b.clientId then
    (a.renew b document).after (.idShared b.clientId id)
  else .pure (keep b)

/-! ## Whole documents -/

/-- How far a recheck of a document has come. -/
structure Recheck where
  document : Document
  /-- The ids of the blocks that are done. -/
  claimed : List String
  /-- The number of blocks that got another identity. -/
  changed : Nat

/-- The identity of a block in a recheck. With `recheck` an id that an earlier block has claimed is
given up. -/
def reallocate (a : Allocator) (r : Recheck) (b : Block) (recheck : Bool) : Logged Identity :=
  let id := b.styleAttributes.id
  if recheck && r.claimed.contains id then
    ((a.draw r.document b.clientId).map (.ofId b.name)).after (.idRepeated b.clientId id)
  else a.allocate b r.document false

/-- Recheck the first block with a client id, and write its identity where it is another one. -/
def recheckBlock (a : Allocator) (recheck : Bool) (r : Recheck) (clientId : String) :
    Logged Recheck :=
  match r.document.find? clientId with
  | none => .pure r
  | some b =>
    (a.reallocate r b recheck).map fun identity =>
      let claimed := identity.id :: r.claimed
      if identity = b.styleAttributes.identity then { r with claimed := claimed }
      else {
        document := r.document.update clientId fun b =>
          { b with attributes := identity.write b.attributes }
        claimed := claimed
        changed := r.changed + 1 }

/-- Recheck the blocks with the given client ids, in order. -/
def recheckAll (a : Allocator) (recheck : Bool) : List String → Recheck → Logged Recheck
  | [], r => .pure r
  | clientId :: clientIds, r =>
    (a.recheckBlock recheck r clientId).bind (a.recheckAll recheck clientIds)

/-- Recheck every block of a document that has a client id and holds an id, in document order. The
answer has the document with the new identities and the number of blocks that got one. -/
def allocateDocument (a : Allocator) (document : Document) (recheck : Bool) :
    Logged (Document × Nat) :=
  let clientIds := document.holders.map Prod.snd
  (a.recheckAll recheck clientIds ⟨document, [], 0⟩).map fun r => (r.document, r.changed)

end Allocator

end BlockSheet
