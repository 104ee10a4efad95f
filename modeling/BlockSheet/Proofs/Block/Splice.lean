import BlockSheet.Block.Traversal

/-!
# Changing a document in one place

An edit of a document exchanges a run of blocks in one of its lists, at any depth: it inserts
blocks, removes them or puts others in their place (`Spliced`). In the list of all blocks in
document order such an edit is the exchange of one stretch, apart from the inner blocks that the
blocks around it hold (`Spliced.map_preorder`). Facts about blocks that do not look at inner blocks
carry over from one list to the other.

The update of the first block with a client id is the splice of that block alone
(`spliced_update`).
-/

namespace BlockSheet.Document

variable {old new : Document} {d d' : Document} {clientId : String} {b : Block}

/-- In one list of a document, at any depth, the blocks `old` give way to the blocks `new`. -/
inductive Spliced (old new : Document) : Document → Document → Prop
  /-- The list is the top level. -/
  | here (before after : Document) :
    Spliced old new (before ++ (old ++ after)) (before ++ (new ++ after))
  /-- The list lies within the inner blocks of a block. -/
  | inside (before after : Document) {b : Block} {inner : Document}
    (h : Spliced old new b.innerBlocks inner) :
    Spliced old new (before ++ b :: after) (before ++ { b with innerBlocks := inner } :: after)

/-- A block in front of the document makes no difference. -/
theorem Spliced.cons (b : Block) (h : Spliced old new d d') :
    Spliced old new (b :: d) (b :: d') := by
  cases h with
  | here before after => exact .here (b :: before) after
  | inside before after h => exact .inside (b :: before) after h

/-- What is told of every block in document order changes in one stretch only, if it does not
depend on inner blocks. -/
theorem Spliced.map_preorder {α : Type} {f : Block → α}
    (hf : ∀ b inner, f { b with innerBlocks := inner } = f b) (h : Spliced old new d d') :
    ∃ before after,
      d.preorder.map f = before ++ (old.preorder.map f ++ after) ∧
        d'.preorder.map f = before ++ (new.preorder.map f ++ after) := by
  induction h with
  | here before after =>
      exact ⟨before.preorder.map f, after.preorder.map f, by simp, by simp⟩
  | @inside before after b inner _ ih =>
      obtain ⟨before', after', hold, hnew⟩ := ih
      refine ⟨before.preorder.map f ++ f b :: before', after' ++ after.preorder.map f, ?_, ?_⟩
      · simp [preorder_cons, hold]
      · simp [preorder_cons, hnew, hf]

/-- Where a block gives way to one with the same inner blocks, only what is told of this block
changes. -/
theorem Spliced.map_preorder_of_innerBlocks {α : Type} {f : Block → α} {b' : Block}
    (hf : ∀ b inner, f { b with innerBlocks := inner } = f b) (h : Spliced [b] [b'] d d')
    (hinner : b'.innerBlocks = b.innerBlocks) :
    ∃ before after, d.preorder.map f = before ++ f b :: after ∧
      d'.preorder.map f = before ++ f b' :: after := by
  obtain ⟨before, after, hold, hnew⟩ := h.map_preorder hf
  rw [preorder_cons, List.map_cons] at hold hnew
  rw [hinner] at hnew
  exact ⟨before, _, hold, hnew⟩

/-! ### Searches by client id -/

theorem find?_eq_none_iff :
    d.find? clientId = none ↔ ∀ b ∈ d.preorder, b.clientId ≠ clientId := by
  simp [find?]

theorem find?_of_preorder {before after : List Block} (h : d.preorder = before ++ b :: after)
    (hbefore : ∀ c ∈ before, c.clientId ≠ clientId) (hb : b.clientId = clientId) :
    d.find? clientId = some b := by
  have hnone : before.find? (fun c => c.clientId == clientId) = none :=
    List.find?_eq_none.2 fun c hc => by simpa using hbefore c hc
  rw [find?, h, List.find?_append, hnone, Option.none_or,
    List.find?_cons_of_pos (by simpa using hb)]

/-! ### Updates by client id -/

/-- An update finds nothing exactly where no block has the client id. -/
theorem update?_eq_none_iff (change : Block → Block) :
    update? clientId change d = none ↔ d.find? clientId = none := by
  induction d using Document.induction with
  | nil => simp
  | cons b blocks ihInner ihBlocks =>
      rw [update?_cons, find?_cons]
      by_cases h : b.clientId = clientId
      · simp [h]
      · rw [if_neg h, if_neg h, Option.or_eq_none_iff, ← ihInner, ← ihBlocks]
        cases update? clientId change b.innerBlocks <;> simp

/-- An update changes the block that a search finds, in its place. -/
theorem spliced_of_update?_eq_some {change : Block → Block}
    (h : update? clientId change d = some d') :
    ∃ b, d.find? clientId = some b ∧ Spliced [b] [change b] d d' := by
  induction d using Document.induction generalizing d' with
  | nil => simp at h
  | cons b blocks ihInner ihBlocks =>
      rw [update?_cons] at h
      rw [find?_cons]
      by_cases hb : b.clientId = clientId
      · rw [if_pos hb] at h ⊢
        obtain rfl := Option.some.inj h
        exact ⟨b, rfl, .here [] blocks⟩
      · rw [if_neg hb] at h ⊢
        cases hinner : update? clientId change b.innerBlocks with
        | some inner =>
            rw [hinner] at h
            obtain rfl := Option.some.inj h
            obtain ⟨found, hfound, hspliced⟩ := ihInner hinner
            exact ⟨found, by rw [hfound, Option.some_or], .inside [] blocks hspliced⟩
        | none =>
            rw [hinner] at h
            obtain ⟨blocks', hblocks, rfl⟩ := Option.map_eq_some_iff.1 h
            obtain ⟨found, hfound, hspliced⟩ := ihBlocks hblocks
            rw [(update?_eq_none_iff change).1 hinner, Option.none_or]
            exact ⟨found, hfound, hspliced.cons b⟩

/-- The update of a block that is there. -/
theorem spliced_update (h : d.find? clientId = some b) (change : Block → Block) :
    Spliced [b] [change b] d (d.update clientId change) := by
  cases hu : update? clientId change d with
  | none => rw [(update?_eq_none_iff change).1 hu] at h; cases h
  | some d' =>
      obtain ⟨found, hfound, hspliced⟩ := spliced_of_update?_eq_some hu
      obtain rfl : found = b := Option.some.inj (hfound.symm.trans h)
      rwa [update, hu]

end BlockSheet.Document
