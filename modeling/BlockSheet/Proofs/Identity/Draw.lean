import BlockSheet.Identity.Allocator
import BlockSheet.Proofs.Block.Splice

/-!
# Drawing ids

What the allocator knows of a document are its labels: the client id of each block and the id that
the block holds, in document order. This module says in terms of labels when an id is taken
(`isTaken_eq_true_iff`) and what a draw gives (`draw_free`): an id that no other block holds, unless
the budget runs out, which an event tells. From that follows what becomes of the id of a single
block (`allocate_cases`).
-/

namespace BlockSheet

/-! ### Labels -/

/-- The client id of a block and the id that it holds. -/
structure Label where
  clientId : String
  id : String
  deriving DecidableEq

/-- Is it the label of a holder? A block without a client id is none, and neither is a block without
an id. -/
def Label.Holds (l : Label) : Prop := l.clientId ≠ "" ∧ l.id ≠ ""

instance (l : Label) : Decidable l.Holds := inferInstanceAs (Decidable (_ ∧ _))

/-- The label of a block. -/
def Block.label (b : Block) : Label := ⟨b.clientId, b.styleAttributes.id⟩

@[simp] theorem Block.clientId_label (b : Block) : b.label.clientId = b.clientId := rfl

@[simp] theorem Block.id_label (b : Block) : b.label.id = b.styleAttributes.id := rfl

namespace Document

/-- The labels of all blocks in document order. -/
def labels (d : Document) : List Label := d.preorder.map Block.label

@[simp] theorem labels_nil : labels [] = [] := by simp [labels]

theorem labels_cons (b : Block) (blocks : Document) :
    labels (b :: blocks) = b.label :: (labels b.innerBlocks ++ labels blocks) := by
  simp [labels, preorder_cons]

/-- No two blocks of the document share a client id, other than the empty one. -/
def DistinctClients (d : Document) : Prop :=
  d.preorder.Pairwise fun b c => b.clientId ≠ "" → b.clientId ≠ c.clientId

theorem distinctClients_iff (d : Document) :
    d.DistinctClients ↔ (d.labels.map Label.clientId).Pairwise fun c e => c ≠ "" → c ≠ e := by
  rw [DistinctClients, labels, List.map_map, List.pairwise_map]
  rfl

theorem DistinctClients.of_labels {d d' : Document} (hd : d.DistinctClients)
    (h : d'.labels.map Label.clientId = d.labels.map Label.clientId) : d'.DistinctClients := by
  rw [distinctClients_iff, h, ← distinctClients_iff]
  exact hd

/-- An edit in one place exchanges one stretch of the labels. -/
theorem Spliced.labels_eq {old new d d' : Document} (h : Spliced old new d d') :
    ∃ before after, d.labels = before ++ (old.labels ++ after) ∧
      d'.labels = before ++ (new.labels ++ after) :=
  h.map_preorder fun _ _ => rfl

/-- Where a block gives way to one with the same inner blocks, one label is exchanged. -/
theorem Spliced.labels_of_innerBlocks {b b' : Block} {d d' : Document}
    (h : Spliced [b] [b'] d d') (hinner : b'.innerBlocks = b.innerBlocks) :
    ∃ before after, d.labels = before ++ b.label :: after ∧
      d'.labels = before ++ b'.label :: after :=
  h.map_preorder_of_innerBlocks (fun _ _ => rfl) hinner

/-- The holders are the blocks whose labels say so. -/
theorem holders_eq (d : Document) :
    d.holders = (d.labels.filter fun l => l.Holds).map fun l => (l.id, l.clientId) := by
  rw [holders, labels]
  induction d.preorder with
  | nil => rfl
  | cons b blocks ih =>
      have hcond : (b.styleAttributes.id.isEmpty || b.clientId.isEmpty) =
          !decide b.label.Holds := by
        by_cases hclient : b.clientId = "" <;> by_cases hid : b.styleAttributes.id = "" <;>
          simp [Label.Holds, hclient, hid]
      rw [List.map_cons, List.filter_cons]
      by_cases hholds : b.label.Holds
      · rw [if_pos (by simpa using hholds), List.map_cons, ← ih]
        exact List.filterMap_cons_some (by simp only [hcond]; simp [hholds])
      · rw [if_neg (by simpa using hholds), ← ih]
        exact List.filterMap_cons_none (by simp only [hcond]; simp [hholds])

/-- The client ids of the holders. -/
theorem map_snd_holders (d : Document) :
    d.holders.map Prod.snd = (d.labels.filter fun l => l.Holds).map Label.clientId := by
  rw [holders_eq, List.map_map]
  rfl

/-- An id is taken if some holder with another client id holds it. -/
theorem isTaken_eq_true_iff (d : Document) (id clientId : String) :
    d.isTaken id clientId = true ↔ ∃ l ∈ d.labels, l.Holds ∧ l.id = id ∧ l.clientId ≠ clientId := by
  simp [isTaken, holders_eq]

theorem isTaken_eq_false_iff (d : Document) (id clientId : String) :
    d.isTaken id clientId = false ↔
      ∀ l ∈ d.labels, l.Holds → l.id = id → l.clientId = clientId := by
  rw [← Bool.not_eq_true, isTaken_eq_true_iff]
  simp only [not_exists, not_and, ne_eq, Decidable.not_not]

end Document

/-! ### Draws -/

/-- No draw among the events ran out of its budget. -/
def DrawsSucceeded (events : List Event) : Prop :=
  ∀ budget clientId id, Event.budgetExhausted budget clientId id ∉ events

@[simp] theorem drawsSucceeded_append (xs ys : List Event) :
    DrawsSucceeded (xs ++ ys) ↔ DrawsSucceeded xs ∧ DrawsSucceeded ys := by
  simp only [DrawsSucceeded, List.mem_append, not_or]
  exact ⟨fun h => ⟨fun _ _ _ => (h _ _ _).1, fun _ _ _ => (h _ _ _).2⟩,
    fun h _ _ _ => ⟨h.1 _ _ _, h.2 _ _ _⟩⟩

theorem DrawsSucceeded.tail {event : Event} {events : List Event}
    (h : DrawsSucceeded (event :: events)) : DrawsSucceeded events :=
  fun budget clientId id hmem => h budget clientId id (List.mem_cons_of_mem _ hmem)

theorem not_drawsSucceeded_exhausted (budget : Nat) (clientId id : String) :
    ¬ DrawsSucceeded [.budgetExhausted budget clientId id] :=
  fun h => h budget clientId id (List.mem_singleton_self _)

namespace Allocator

variable (a : Allocator) (d : Document) (clientId : String)

/-- A draw that has candidates left ends with one that is free, or with the event that none was. -/
theorem drawFrom_cases (left attempt : Nat) (last : String) :
    ((a.drawFrom d clientId left attempt last).events = [] ∧
        (a.drawFrom d clientId left attempt last).value ≠ "" ∧
        d.isTaken (a.drawFrom d clientId left attempt last).value clientId = false) ∨
      (a.drawFrom d clientId left attempt last).events =
        [.budgetExhausted a.retryBudget clientId
          (a.drawFrom d clientId left attempt last).value] := by
  induction left generalizing attempt last with
  | zero => exact Or.inr rfl
  | succ left ih =>
      rw [drawFrom]
      by_cases hfree : (!(a.generate clientId attempt).isEmpty &&
          !d.isTaken (a.generate clientId attempt) clientId) = true
      · rw [if_pos hfree]
        simp only [Bool.and_eq_true, Bool.not_eq_true', String.isEmpty_eq_false_iff] at hfree
        exact Or.inl ⟨rfl, hfree⟩
      · rw [if_neg hfree]
        exact ih (attempt + 1) (a.generate clientId attempt)

/-- **A draw that succeeds** gives an id that no other block holds, and reports nothing. -/
theorem draw_free (h : DrawsSucceeded (a.draw d clientId).events) :
    (a.draw d clientId).events = [] ∧ (a.draw d clientId).value ≠ "" ∧
      d.isTaken (a.draw d clientId).value clientId = false := by
  rw [draw] at h ⊢
  rcases a.drawFrom_cases d clientId a.retryBudget 0 "" with hfree | hexhausted
  · exact hfree
  · rw [hexhausted] at h
    exact absurd h (not_drawsSucceeded_exhausted _ _ _)

/-- A class name that is there is kept with the id. -/
theorem keep_of_className {b : Block} (h : b.styleAttributes.className ≠ "") :
    keep b = b.styleAttributes.identity := by
  rw [keep, if_neg (by simpa using h)]

/-- One that is missing is made from the id. -/
theorem keep_of_no_className {b : Block} (h : b.styleAttributes.className = "") :
    keep b = .ofId b.name b.styleAttributes.id := by
  rw [keep, if_pos (by simpa using h)]

@[simp] theorem id_keep (b : Block) : (keep b).id = b.styleAttributes.id := by
  by_cases h : b.styleAttributes.className = ""
  · rw [keep_of_no_className h]
    rfl
  · rw [keep_of_className h]
    rfl

/-- What an allocation does: it keeps the stored identity, whose id is then free if that was to be
checked, or gives a new one. -/
theorem allocate_eq_or (b : Block) (recheck : Bool) :
    ((a.allocate b d recheck).value = keep b ∧ b.styleAttributes.id ≠ "" ∧
        (recheck = true → d.isTaken b.styleAttributes.id b.clientId = false)) ∨
      ((a.allocate b d recheck).value = (a.renew b d).value ∧
        (a.renew b d).events ⊆ (a.allocate b d recheck).events) := by
  rw [allocate]
  by_cases hid : b.styleAttributes.id = ""
  · rw [if_pos (by simpa using hid)]
    exact Or.inr ⟨rfl, fun _ hmem => hmem⟩
  · rw [if_neg (by simpa using hid)]
    cases htaken : recheck && d.isTaken b.styleAttributes.id b.clientId with
    | true => exact Or.inr ⟨rfl, List.subset_cons_self _ _⟩
    | false =>
        refine Or.inl ⟨rfl, hid, fun hrecheck => ?_⟩
        rwa [hrecheck, Bool.true_and] at htaken

/-- What a new identity is when the draw for it succeeds: there is none for want of a client id, or
its id is one that no other block holds. -/
theorem renew_cases (b : Block) (h : DrawsSucceeded (a.renew b d).events) :
    ((a.renew b d).value = .empty ∧ b.clientId = "") ∨
      ((a.renew b d).value.id ≠ "" ∧ d.isTaken (a.renew b d).value.id b.clientId = false) := by
  rw [renew] at h ⊢
  by_cases hclient : b.clientId = ""
  · simp [hclient]
  · rw [if_neg (by simpa using hclient)] at h ⊢
    exact Or.inr (a.draw_free d b.clientId h).2

/-- What becomes of the id of a block when every draw succeeds: it stays, and is then held by no
other block if that was to be checked; or there is no id for want of a client id; or a new one is
drawn that no other block holds. -/
theorem allocate_cases (b : Block) (recheck : Bool)
    (h : DrawsSucceeded (a.allocate b d recheck).events) :
    ((a.allocate b d recheck).value = keep b ∧ b.styleAttributes.id ≠ "" ∧
        (recheck = true → d.isTaken b.styleAttributes.id b.clientId = false)) ∨
      ((a.allocate b d recheck).value = .empty ∧ b.clientId = "") ∨
      ((a.allocate b d recheck).value.id ≠ "" ∧
        d.isTaken (a.allocate b d recheck).value.id b.clientId = false) := by
  rcases a.allocate_eq_or d b recheck with hkept | ⟨hrenew, hevents⟩
  · exact Or.inl hkept
  · rw [hrenew]
    exact Or.inr (a.renew_cases d b fun budget clientId id hmem =>
      h budget clientId id (hevents hmem))

end Allocator

end BlockSheet
