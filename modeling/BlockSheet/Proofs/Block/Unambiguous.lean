import BlockSheet.Block.Exchange
import BlockSheet.Block.Traversal
import BlockSheet.Proofs.Json.Unambiguous

/-!
# Different documents have different texts

The text of a block has its fields in a fixed order, so it can be taken apart field by field, and a
document is the array of its blocks. Hence a document is known by its text
(`Document.text_injective`): two documents that differ anywhere, be it in the order of the keys
of some attributes or in a number that is an integer in one and a float in the other, have
different texts.
-/

namespace BlockSheet

open Json (Value Delimited stringText stringText_append_inj arrayText arrayText_append_inj
  objectText closes_cons)

namespace Block

/-- The text of a block begins with its brace. -/
theorem chars_start (b : Block) : ∃ c cs, b.chars = c :: cs ∧ c ≠ ']' := by
  obtain ⟨clientId, name, attributes, inner⟩ := b
  rw [chars]
  exact ⟨'\x7b', _, rfl, by decide⟩

/-- The text of a block with what follows it, cut at the values of its fields. -/
theorem chars_append (b : Block) (rest : List Char) :
    b.chars ++ rest =
      '\x7b' :: (stringText "clientId" ++ ':' :: (stringText b.clientId ++
        ',' :: (stringText "name" ++ ':' :: (stringText b.name ++
        ',' :: (stringText "attributes" ++ ':' :: ((Value.obj b.attributes).chars ++
        ',' :: (stringText "innerBlocks" ++ ':' :: (arrayText (b.innerBlocks.map Block.chars) ++
        '\x7d' :: rest)))))))) := by
  obtain ⟨clientId, name, attributes, inner⟩ := b
  rw [chars, blockTexts_eq_map]
  simp [objectText]

/-- A block is known by its text if its inner blocks are. -/
theorem delimited {b : Block} (hinner : ∀ c ∈ b.innerBlocks, Delimited Block.chars c) :
    Delimited Block.chars b := by
  intro b' s t _ _ h
  have hcomma : ∀ text, Json.Closes (',' :: text) := closes_cons (.inl rfl)
  rw [chars_append, chars_append] at h
  obtain ⟨-, h⟩ := stringText_append_inj (List.cons.inj h).2
  obtain ⟨hid, h⟩ := stringText_append_inj (List.cons.inj h).2
  obtain ⟨-, h⟩ := stringText_append_inj (List.cons.inj h).2
  obtain ⟨hname, h⟩ := stringText_append_inj (List.cons.inj h).2
  obtain ⟨-, h⟩ := stringText_append_inj (List.cons.inj h).2
  obtain ⟨hattributes, h⟩ :=
    Value.delimited (.obj b.attributes) (hcomma _) (hcomma _) (List.cons.inj h).2
  obtain ⟨-, h⟩ := stringText_append_inj (List.cons.inj h).2
  obtain ⟨hblocks, h⟩ := arrayText_append_inj chars_start hinner (List.cons.inj h).2
  refine ⟨?_, (List.cons.inj h).2⟩
  obtain ⟨clientId, name, attributes, inner⟩ := b
  obtain ⟨clientId', name', attributes', inner'⟩ := b'
  simp_all

end Block

namespace Document

theorem delimited (d : Document) : ∀ b ∈ d, Delimited Block.chars b := by
  induction d using Document.induction with
  | nil => exact List.forall_mem_nil _
  | cons b blocks ihinner ih => exact List.forall_mem_cons.2 ⟨Block.delimited ihinner, ih⟩

/-- **A document is known by its text.** -/
theorem text_injective : Function.Injective Document.text := by
  intro d d' h
  have hchars := congrArg String.toList h
  rw [text, text, String.toList_ofList, String.toList_ofList, blockTexts_eq_map,
    blockTexts_eq_map] at hchars
  exact (arrayText_append_inj Block.chars_start d.delimited (congrArg (· ++ []) hchars)).1

end Document

end BlockSheet
