import BlockSheet.Proofs.Block.Splice

/-!
# Documents and their blocks taken apart

A document consists of its outline and of what the blocks in it hold.

* `Document.outline` is the tree of blocks without their attributes. Two documents of one outline
  have the same blocks in the same places, under the same client ids and names.
* `Document.listing` is the list of all blocks, each without its inner blocks. The attributes of a
  block are found here and nowhere else.

A change to the attributes of a block leaves the outline as it is (`outline_update`), and exchanges
one block of the listing.
-/

namespace BlockSheet

/-- A block by itself, without its inner blocks. -/
def Block.alone (b : Block) : Block := { b with innerBlocks := [] }

namespace Document

variable {old new d d' : Document} {b b' : Block} {clientId : String}

/-! ### Outlines -/

/-- A document without the attributes of its blocks. -/
def outline : Document → Document
  | [] => []
  | ⟨clientId, name, _, inner⟩ :: blocks => ⟨clientId, name, [], outline inner⟩ :: outline blocks

@[simp] theorem outline_nil : outline [] = [] := by simp [outline]

theorem outline_cons (b : Block) (blocks : Document) :
    outline (b :: blocks) =
      ⟨b.clientId, b.name, [], outline b.innerBlocks⟩ :: outline blocks := by
  obtain ⟨_, _, _, _⟩ := b
  rw [outline]

@[simp] theorem outline_append (d d' : Document) :
    outline (d ++ d') = outline d ++ outline d' := by
  induction d with
  | nil => simp
  | cons b blocks ih => simp [outline_cons, ih]

/-- What is told of every block without a look at attributes and inner blocks can be read off the
outline. -/
theorem map_preorder_outline {α : Type} {f : Block → α}
    (hf : ∀ b attributes inner, f ⟨b.clientId, b.name, attributes, inner⟩ = f b) (d : Document) :
    d.outline.preorder.map f = d.preorder.map f := by
  induction d using Document.induction with
  | nil => simp
  | cons b blocks ihInner ihBlocks => simp [outline_cons, preorder_cons, hf, ihInner, ihBlocks]

/-- An edit that exchanges blocks for ones of the same outline keeps the outline. -/
theorem Spliced.outline_eq (h : Spliced old new d d') (hsame : new.outline = old.outline) :
    d'.outline = d.outline := by
  induction h with
  | here before after => simp [hsame]
  | inside before after _ ih => simp [outline_cons, ih]

/-- A change to attributes keeps the outline. -/
theorem outline_update {change : Block → Block}
    (hchange : ∀ b, ∃ attributes, change b = { b with attributes := attributes }) :
    (d.update clientId change).outline = d.outline := by
  cases hu : update? clientId change d with
  | none => rw [update, hu, Option.getD_none]
  | some d' =>
      obtain ⟨b, -, hspliced⟩ := spliced_of_update?_eq_some hu
      obtain ⟨attributes, hb⟩ := hchange b
      rw [update, hu, Option.getD_some]
      refine hspliced.outline_eq ?_
      rw [hb, outline_cons, outline_cons]

/-! ### Listings -/

/-- The blocks of a document in document order, each by itself. -/
def listing (d : Document) : List Block := d.preorder.map Block.alone

/-- Where a block gives way to one with the same inner blocks, one block of the listing is
exchanged. -/
theorem Spliced.listing_eq (h : Spliced [b] [b'] d d') (hinner : b'.innerBlocks = b.innerBlocks) :
    ∃ before after, d.listing = before ++ b.alone :: after ∧
      d'.listing = before ++ b'.alone :: after :=
  h.map_preorder_of_innerBlocks (fun _ _ => rfl) hinner

end Document

end BlockSheet
