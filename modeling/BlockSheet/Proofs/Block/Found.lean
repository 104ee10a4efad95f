import BlockSheet.Proofs.Block.Outline

/-!
# Finding a block and changing it

A block is looked up in the list of all blocks, but it is changed in the tree: there the walk stops
at the first block with the client id, and the blocks around it are built anew on the way back. Both
mean the same block, also where blocks share a client id or have an empty one
(`update?_meets_find?`).

The inner blocks of a block follow it directly in document order (`innerBlocks_follow`). Hence the
blocks around the one at some place are told by their places (`Around`), and what happens to the
list of all blocks can be said place by place (`ChangedAt`).
-/

namespace BlockSheet

/-- A block with another name and other attributes. -/
def Block.revised (name : Block → String) (attributes : Block → Attributes) (b : Block) : Block :=
  { b with name := name b, attributes := attributes b }

@[simp] theorem Block.innerBlocks_revised (name : Block → String)
    (attributes : Block → Attributes) (b : Block) :
    (b.revised name attributes).innerBlocks = b.innerBlocks := rfl

/-- A block with the first one of a client id changed among its inner blocks. -/
def Block.rebuilt (clientId : String) (change : Block → Block) (b : Block) : Block :=
  { b with innerBlocks := Document.update b.innerBlocks clientId change }

namespace Document

variable {d d' : Document} {clientId : String} {change : Block → Block} {b c : Block}

/-! ### Shapes -/

/-- A document with nothing left but the tree of its blocks. -/
def skeleton : Document → Document
  | [] => []
  | ⟨_, _, _, inner⟩ :: blocks => ⟨"", "", [], skeleton inner⟩ :: skeleton blocks

@[simp] theorem skeleton_nil : skeleton [] = [] := by simp [skeleton]

theorem skeleton_cons (b : Block) (blocks : Document) :
    skeleton (b :: blocks) = ⟨"", "", [], skeleton b.innerBlocks⟩ :: skeleton blocks := by
  obtain ⟨_, _, _, _⟩ := b
  rw [skeleton]

@[simp] theorem skeleton_append (d d' : Document) :
    skeleton (d ++ d') = skeleton d ++ skeleton d' := by
  induction d with
  | nil => simp
  | cons b blocks ih => simp [skeleton_cons, ih]

/-- A block that gives way to one with the same inner blocks leaves the tree as it is. -/
theorem Spliced.skeleton_eq (h : Spliced [b] [c] d d') (hinner : c.innerBlocks = b.innerBlocks) :
    d'.skeleton = d.skeleton := by
  induction h with
  | here before after => simp [skeleton_cons, hinner]
  | inside before after _ ih => simp [skeleton_cons, ih]

/-! ### Inner blocks in document order -/

/-- **The inner blocks of a block follow it directly** in document order. -/
theorem innerBlocks_follow {before after : List Block} (h : d.preorder = before ++ c :: after) :
    preorder c.innerBlocks <+: after := by
  induction d using Document.induction generalizing before after with
  | nil => simp at h
  | cons b blocks ihInner ihBlocks =>
      rw [preorder_cons] at h
      cases before with
      | nil =>
          obtain ⟨rfl, rfl⟩ := List.cons.inj h
          exact List.prefix_append _ _
      | cons x before =>
          rcases List.append_eq_append_iff.1 (List.cons.inj h).2 with
            ⟨rest, -, hblocks⟩ | ⟨rest, hinner, hrest⟩
          · exact ihBlocks hblocks
          · cases rest with
            | nil =>
                have hfirst : preorder blocks = [] ++ c :: after := hrest.symm
                exact ihBlocks hfirst
            | cons y rest =>
                obtain ⟨rfl, rfl⟩ := List.cons.inj hrest
                exact (ihInner hinner).trans (List.prefix_append _ _)

theorem mem_preorder_of_innerBlocks {x : Block} (hc : c ∈ d.preorder)
    (hx : x ∈ preorder c.innerBlocks) : x ∈ d.preorder := by
  obtain ⟨before, after, h⟩ := List.append_of_mem hc
  rw [h]
  exact List.mem_append_right _ (List.mem_cons_of_mem _ ((innerBlocks_follow h).subset hx))

/-! ### The first block with a client id -/

/-- Where no inner block has the client id, nothing is built anew. -/
theorem rebuilt_eq_self (h : ∀ x ∈ preorder c.innerBlocks, x.clientId ≠ clientId)
    (change : Block → Block) : c.rebuilt clientId change = c := by
  have hnone := (update?_eq_none_iff change).2 (find?_eq_none_iff.2 h)
  rw [Block.rebuilt, update, hnone, Option.getD_none]
  cases c
  rfl

/-- The first block with the client id stands between the blocks `before` and `after`. It is
changed, the blocks in front of it are built anew, and those behind it stay. -/
structure Rewritten (d d' : Document) (clientId : String) (change : Block → Block)
    (before : List Block) (b : Block) (after : List Block) : Prop where
  old : d.preorder = before ++ b :: after
  new : d'.preorder = before.map (Block.rebuilt clientId change) ++ change b :: after
  hit : b.clientId = clientId
  missed : ∀ c ∈ before, c.clientId ≠ clientId

/-- **An update in document order.** -/
theorem rewritten_of_update?_eq_some (hinner : ∀ b, (change b).innerBlocks = b.innerBlocks)
    (h : update? clientId change d = some d') :
    ∃ before b after, Rewritten d d' clientId change before b after := by
  induction d using Document.induction generalizing d' with
  | nil => simp at h
  | cons b blocks ihInner ihBlocks =>
      rw [update?_cons] at h
      by_cases hb : b.clientId = clientId
      · rw [if_pos hb] at h
        obtain rfl := Option.some.inj h
        refine ⟨[], b, preorder b.innerBlocks ++ preorder blocks, preorder_cons b blocks, ?_, hb,
          List.forall_mem_nil _⟩
        rw [preorder_cons, hinner]
        rfl
      · rw [if_neg hb] at h
        cases hupdate : update? clientId change b.innerBlocks with
        | some inner =>
            rw [hupdate] at h
            obtain rfl := Option.some.inj h
            obtain ⟨before, found, after, hrewritten⟩ := ihInner hupdate
            have hrebuilt : b.rebuilt clientId change = { b with innerBlocks := inner } := by
              rw [Block.rebuilt, update, hupdate, Option.getD_some]
            refine ⟨b :: before, found, after ++ preorder blocks, ?_, ?_, hrewritten.hit,
              List.forall_mem_cons.2 ⟨hb, hrewritten.missed⟩⟩
            · simp [preorder_cons, hrewritten.old]
            · simp [preorder_cons, hrebuilt, hrewritten.new]
        | none =>
            rw [hupdate] at h
            obtain ⟨blocks', hblocks, rfl⟩ := Option.map_eq_some_iff.1 h
            obtain ⟨before, found, after, hrewritten⟩ := ihBlocks hblocks
            -- The first block is passed by with all that it holds: to build it anew is no change.
            have hfree := find?_eq_none_iff.1 ((update?_eq_none_iff change).1 hupdate)
            have hself : b.rebuilt clientId change = b := rebuilt_eq_self hfree change
            have hwithin : (preorder b.innerBlocks).map (Block.rebuilt clientId change) =
                preorder b.innerBlocks := by
              rw [List.map_congr_left fun c hc => rebuilt_eq_self (fun x hx => hfree x
                (mem_preorder_of_innerBlocks hc hx)) change, List.map_id']
            refine ⟨b :: (preorder b.innerBlocks ++ before), found, after, ?_, ?_, hrewritten.hit,
              List.forall_mem_cons.2 ⟨hb, List.forall_mem_append.2 ⟨hfree, hrewritten.missed⟩⟩⟩
            · simp [preorder_cons, hrewritten.old]
            · simp [preorder_cons, hself, hwithin, hrewritten.new]

/-! ### Changes in one place -/

/-- The block at place `j` of the document order is around the one at place `i`: the inner blocks
that follow it reach up to there. -/
def Around (d : Document) (j i : Nat) : Prop :=
  ∃ c, d.preorder[j]? = some c ∧ j < i ∧ i ≤ j + (preorder c.innerBlocks).length

/-- The documents differ in the block at place `i`, and in the inner blocks of the blocks around
it. -/
structure ChangedAt (d d' : Document) (i : Nat) (b b' : Block) : Prop where
  old : d.preorder[i]? = some b
  new : d'.preorder[i]? = some b'
  /-- In no other place does a block differ by itself. -/
  alone : ∀ j, j ≠ i → (d'.preorder[j]?).map Block.alone = (d.preorder[j]?).map Block.alone
  /-- A block that is not around the place does not differ at all. -/
  apart : ∀ j, j ≠ i → ¬ d.Around j i → d'.preorder[j]? = d.preorder[j]?
  shape : d'.skeleton = d.skeleton

namespace Rewritten

variable {before after : List Block}

/-- A block in front of the first one with the client id, and what becomes of it. -/
theorem getElem?_front (h : Rewritten d d' clientId change before b after) {j : Nat}
    (hj : j < before.length) :
    ∃ c, d.preorder[j]? = some c ∧ d'.preorder[j]? = some (c.rebuilt clientId change) ∧
      (¬ d.Around j before.length → c.rebuilt clientId change = c) := by
  obtain ⟨front, c, back, rfl, rfl⟩ :
      ∃ front c back, before = front ++ c :: back ∧ front.length = j :=
    ⟨before.take j, before[j], before.drop (j + 1), by simp, by simp; omega⟩
  have hplace : d.preorder[front.length]? = some c := by simp [h.old]
  refine ⟨c, hplace, by simp [h.new], fun haround => ?_⟩
  -- The inner blocks of this block end in front of the place, so none has the client id.
  have hwithin : preorder c.innerBlocks <+: back := by
    have hsplit : d.preorder = front ++ c :: (back ++ b :: after) := by
      rw [h.old, List.append_assoc, List.cons_append]
    refine List.prefix_of_prefix_length_le (innerBlocks_follow hsplit) (List.prefix_append _ _) ?_
    refine Nat.le_of_not_lt fun hlonger => haround ⟨c, hplace, hj, ?_⟩
    rw [List.length_append, List.length_cons]
    omega
  refine rebuilt_eq_self (fun x hx => h.missed x ?_) change
  exact List.mem_append_right _ (List.mem_cons_of_mem c (hwithin.subset hx))

/-- Behind the first block with the client id nothing changes. -/
theorem getElem?_back (h : Rewritten d d' clientId change before b after) {j : Nat}
    (hj : before.length < j) : d'.preorder[j]? = d.preorder[j]? := by
  obtain ⟨k, hk⟩ : ∃ k, j - before.length = k + 1 := ⟨j - before.length - 1, by omega⟩
  rw [h.old, h.new, List.getElem?_append_right (by simpa using Nat.le_of_lt hj),
    List.getElem?_append_right (Nat.le_of_lt hj), List.length_map, hk, List.getElem?_cons_succ,
    List.getElem?_cons_succ]

/-- The change told place by place. -/
theorem changedAt (h : Rewritten d d' clientId change before b after)
    (hshape : d'.skeleton = d.skeleton) : ChangedAt d d' before.length b (change b) := by
  refine ⟨by simp [h.old], by simp [h.new], fun j hj => ?_, fun j hj haround => ?_, hshape⟩
  · rcases Nat.lt_or_gt_of_ne hj with hj | hj
    · obtain ⟨c, hc, hc', -⟩ := h.getElem?_front hj
      rw [hc, hc']
      rfl
    · rw [h.getElem?_back hj]
  · rcases Nat.lt_or_gt_of_ne hj with hj | hj
    · obtain ⟨c, hc, hc', hself⟩ := h.getElem?_front hj
      rw [hc, hc', hself haround]
    · exact h.getElem?_back hj

end Rewritten

/-- **Reading and writing agree**, whatever client ids a document has. A change finds a block
exactly if a block has the client id, and it is the first one in document order, which is the one
that is looked up. With another name or other attributes for it, the list of all blocks differs in
this place alone, apart from the inner blocks of the blocks around it. -/
theorem update?_meets_find? (d : Document) (clientId : String) (name : Block → String)
    (attributes : Block → Attributes) :
    ((update? clientId (.revised name attributes) d).isSome = true ↔
        ∃ b ∈ d.preorder, b.clientId = clientId) ∧
      ∀ d', update? clientId (.revised name attributes) d = some d' →
        ∃ i b, ChangedAt d d' i b (b.revised name attributes) ∧ b.clientId = clientId ∧
          (∀ j < i, ∀ c, d.preorder[j]? = some c → c.clientId ≠ clientId) ∧
          d.find? clientId = some b := by
  refine ⟨?_, fun d' h => ?_⟩
  · rw [← Option.ne_none_iff_isSome, Ne, update?_eq_none_iff, find?_eq_none_iff]
    simp
  · obtain ⟨before, b, after, hrewritten⟩ :=
      rewritten_of_update?_eq_some (Block.innerBlocks_revised name attributes) h
    obtain ⟨_, -, hspliced⟩ := spliced_of_update?_eq_some h
    refine ⟨before.length, b, hrewritten.changedAt (hspliced.skeleton_eq rfl), hrewritten.hit,
      fun j hj c hc => ?_, find?_of_preorder hrewritten.old hrewritten.missed hrewritten.hit⟩
    rw [hrewritten.old, List.getElem?_append_left hj] at hc
    exact hrewritten.missed c (List.mem_of_getElem? hc)

/-- Two blocks of one client id, the first of which stands deeper, among blocks without one. -/
def twins (name : String) : Document :=
  [⟨"", "t/group", [], [⟨"", "t/text", [], []⟩, ⟨"a", name, [("id", .str "x")], []⟩]⟩,
    ⟨"a", "t/card", [], [⟨"", "t/text", [], []⟩]⟩]

/-- The one that stands deeper gets the new name. -/
theorem update?_meets_find?_twins :
    update? "a" (.revised (fun _ => "t/quote") Block.attributes) (twins "t/card") =
        some (twins "t/quote") ∧
      ∃ i b, ChangedAt (twins "t/card") (twins "t/quote") i b
          (b.revised (fun _ => "t/quote") Block.attributes) ∧ b.clientId = "a" ∧
        (∀ j < i, ∀ c, (twins "t/card").preorder[j]? = some c → c.clientId ≠ "a") ∧
        (twins "t/card").find? "a" = some b := by
  have hfound : update? "a" (.revised (fun _ => "t/quote") Block.attributes) (twins "t/card") =
      some (twins "t/quote") := by cbv
  exact ⟨hfound, (update?_meets_find? _ _ _ _).2 _ hfound⟩

end Document

end BlockSheet
