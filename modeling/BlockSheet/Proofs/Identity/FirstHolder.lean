import BlockSheet.Proofs.Identity.Recheck

/-!
# First holders in a recheck

A recheck is to leave an id with its first holder. As long as draws succeed it does, for a draw
gives nothing that a block further down holds. A draw that runs out of its budget gives its last
candidate nevertheless, and claims it. When that is the id of a block further down, this block finds
its own id claimed when it comes up, and is redrawn although it was the first to hold it.

This module describes a run whatever becomes of its draws (`Passed`), and says exactly which first
holders keep their ids (`id_eq_iff_of_firstHolder`): all but those whose id an earlier block was
given by a draw that ran out. Of these only such keep it as run out at that very id themselves.
-/

namespace BlockSheet

/-! ### Runs in which draws may fail -/

/-- How labels change in a recheck, from the claimed ids on, with the events on the way. -/
inductive Passed (budget : Nat) : List String → List Label → List Label → List Event → Prop
  | nil {claimed : List String} : Passed budget claimed [] [] []
  /-- What is not the label of a holder stays. -/
  | skip {claimed : List String} {l : Label} {ls ls' : List Label} {events : List Event}
    (hl : ¬ l.Holds) (h : Passed budget claimed ls ls' events) :
    Passed budget claimed (l :: ls) (l :: ls') events
  /-- An id that is not claimed is kept, and claimed. -/
  | keep {claimed : List String} {l : Label} {ls ls' : List Label} {events : List Event}
    (hl : l.Holds) (hid : l.id ∉ claimed) (h : Passed budget (l.id :: claimed) ls ls' events) :
    Passed budget claimed (l :: ls) (l :: ls') events
  /-- A claimed id gives way to one that is not claimed and not held further down. -/
  | redraw {claimed : List String} {l : Label} {id : String} {ls ls' : List Label}
    {events : List Event} (hl : l.Holds) (hid : l.id ∈ claimed) (hclaimed : id ∉ claimed)
    (hrest : ∀ m ∈ ls, m.Holds → m.id ≠ id) (h : Passed budget (id :: claimed) ls ls' events) :
    Passed budget claimed (l :: ls) (⟨l.clientId, id⟩ :: ls')
      (.idRepeated l.clientId l.id :: events)
  /-- A claimed id gives way to the last candidate of a draw that runs out. -/
  | exhaust {claimed : List String} {l : Label} {id : String} {ls ls' : List Label}
    {events : List Event} (hl : l.Holds) (hid : l.id ∈ claimed)
    (h : Passed budget (id :: claimed) ls ls' events) :
    Passed budget claimed (l :: ls) (⟨l.clientId, id⟩ :: ls')
      (.idRepeated l.clientId l.id :: .budgetExhausted budget l.clientId id :: events)

namespace Passed

variable {budget : Nat} {claimed : List String} {l : Label} {ls ls' : List Label}
  {events : List Event}

theorem map_clientId (h : Passed budget claimed ls ls' events) :
    ls'.map Label.clientId = ls.map Label.clientId := by
  induction h with
  | nil => rfl
  | skip _ _ ih | keep _ _ _ ih | redraw _ _ _ _ _ ih | exhaust _ _ _ ih =>
      rw [List.map_cons, List.map_cons, ih]

/-- Draws are made for holders only. -/
theorem exists_holder (h : Passed budget claimed ls ls' events) {clientId id : String}
    (hevent : .budgetExhausted budget clientId id ∈ events) :
    ∃ m ∈ ls, m.Holds ∧ m.clientId = clientId := by
  induction h with
  | nil => cases hevent
  | skip _ _ ih | keep _ _ _ ih =>
      obtain ⟨m, hm, hfound⟩ := ih hevent
      exact ⟨m, List.mem_cons_of_mem _ hm, hfound⟩
  | redraw _ _ _ _ _ ih =>
      obtain ⟨m, hm, hfound⟩ := ih (by simpa using hevent)
      exact ⟨m, List.mem_cons_of_mem _ hm, hfound⟩
  | @exhaust _ l _ _ _ _ hl _ _ ih =>
      simp only [List.mem_cons, reduceCtorEq, false_or, Event.budgetExhausted.injEq,
        true_and] at hevent
      rcases hevent with ⟨rfl, -⟩ | hevent
      · exact ⟨l, List.mem_cons_self, hl, rfl⟩
      · obtain ⟨m, hm, hfound⟩ := ih hevent
        exact ⟨m, List.mem_cons_of_mem _ hm, hfound⟩

/-- Among distinct client ids no draw is made behind a label for its client id. -/
theorem not_mem_behind (h : Passed budget claimed ls ls' events)
    (hd : ((l :: ls).map Label.clientId).Pairwise fun c e => c ≠ "" → c ≠ e) (id : String) :
    .budgetExhausted budget l.clientId id ∉ events := by
  intro hevent
  obtain ⟨m, hm, hholds, heq⟩ := h.exists_holder hevent
  rw [List.map_cons, List.pairwise_cons] at hd
  exact hd.1 m.clientId (List.mem_map_of_mem hm) (heq ▸ hholds.1) heq.symm

/-- Was the id of the label at a position claimed from the start, or given to a label further in
front by a draw that ran out? -/
def Displaced (budget : Nat) (claimed : List String) (ls : List Label) (events : List Event)
    (k : Nat) (l : Label) : Prop :=
  l.id ∈ claimed ∨ ∃ m ∈ ls.take k, .budgetExhausted budget m.clientId l.id ∈ events

theorem displaced_succ (m : Label) (k : Nat) :
    Displaced budget claimed (m :: ls) events (k + 1) l ↔
      .budgetExhausted budget m.clientId l.id ∈ events ∨
        Displaced budget claimed ls events k l := by
  simp only [Displaced, List.take_succ_cons, List.mem_cons, exists_eq_or_imp]
  exact or_left_comm

theorem displaced_cons_claimed (id : String) (k : Nat) :
    Displaced budget (id :: claimed) ls events k l ↔
      l.id = id ∨ Displaced budget claimed ls events k l := by
  simp only [Displaced, List.mem_cons, or_assoc]

/-- Only the draws for the labels themselves count. -/
theorem displaced_congr {events' : List Event}
    (hsame : ∀ m ∈ ls, ∀ id, .budgetExhausted budget m.clientId id ∈ events' ↔
      .budgetExhausted budget m.clientId id ∈ events) (k : Nat) :
    Displaced budget claimed ls events' k l ↔ Displaced budget claimed ls events k l := by
  refine or_congr_right (exists_congr fun m => and_congr_right fun hm => ?_)
  exact hsame m (List.mem_of_mem_take hm) l.id

/-- **A holder that no other one precedes** has its id in the end if and only if it was not
displaced, or was given the same id by a draw that ran out. -/
theorem getElem?_of_first (h : Passed budget claimed ls ls' events)
    (hd : (ls.map Label.clientId).Pairwise fun c e => c ≠ "" → c ≠ e) {k : Nat}
    (hk : ls[k]? = some l) (hl : l.Holds) (hfirst : ∀ m ∈ ls.take k, m.Holds → m.id ≠ l.id) :
    ∃ l', ls'[k]? = some l' ∧
      (l'.id = l.id ↔ (Displaced budget claimed ls events k l →
        .budgetExhausted budget l.clientId l.id ∈ events)) := by
  -- With every label in front that is passed, its next id joins the claimed ones.
  induction h generalizing k with
  | nil => simp at hk
  | @skip _ m ls _ events hskip h ih =>
      cases k with
      | zero =>
          obtain rfl : m = l := by simpa using hk
          exact absurd hl hskip
      | succ k =>
          rw [displaced_succ, or_iff_right (h.not_mem_behind hd l.id)]
          exact ih hd.of_cons (by simpa using hk) fun m' hm' =>
            hfirst m' (by simpa using Or.inr hm')
  | @keep _ m ls _ events hm hid h ih =>
      cases k with
      | zero =>
          obtain rfl : m = l := by simpa using hk
          exact ⟨m, rfl, by simp [Displaced, hid]⟩
      | succ k =>
          have hne : m.id ≠ l.id := hfirst m (by simp) hm
          obtain ⟨l', hl', hiff⟩ := ih hd.of_cons (by simpa using hk) fun m' hm' =>
            hfirst m' (by simpa using Or.inr hm')
          rw [displaced_cons_claimed, or_iff_right hne.symm] at hiff
          rw [displaced_succ, or_iff_right (h.not_mem_behind hd l.id)]
          exact ⟨l', hl', hiff⟩
  | @redraw _ m id ls _ events hm hid hclaimed hrest h ih =>
      cases k with
      | zero =>
          obtain rfl : m = l := by simpa using hk
          have hne : id ≠ m.id := fun heq => hclaimed (heq ▸ hid)
          refine ⟨⟨m.clientId, id⟩, rfl, iff_of_false hne fun hown => ?_⟩
          have hevent := hown (.inl hid)
          exact h.not_mem_behind hd m.id (by simpa using hevent)
      | succ k =>
          have hmem : l ∈ ls := List.mem_of_getElem? (by simpa using hk)
          obtain ⟨l', hl', hiff⟩ := ih hd.of_cons (by simpa using hk) fun m' hm' =>
            hfirst m' (by simpa using Or.inr hm')
          rw [displaced_cons_claimed, or_iff_right (hrest l hmem hl)] at hiff
          have hsame : ∀ clientId id, .budgetExhausted budget clientId id ∈
              (.idRepeated m.clientId m.id :: events : List Event) ↔
                .budgetExhausted budget clientId id ∈ events := by simp
          rw [displaced_succ, hsame, or_iff_right (h.not_mem_behind hd l.id), hsame,
            displaced_congr fun m' _ => hsame m'.clientId]
          exact ⟨l', hl', hiff⟩
  | @exhaust _ m id ls _ events hm hid h ih =>
      cases k with
      | zero =>
          obtain rfl : m = l := by simpa using hk
          refine ⟨⟨m.clientId, id⟩, rfl, ?_⟩
          simp [Displaced, hid, h.not_mem_behind hd m.id, eq_comm]
      | succ k =>
          have hmem : l ∈ ls := List.mem_of_getElem? (by simpa using hk)
          obtain ⟨l', hl', hiff⟩ := ih hd.of_cons (by simpa using hk) fun m' hm' =>
            hfirst m' (by simpa using Or.inr hm')
          rw [displaced_cons_claimed] at hiff
          -- The draw for `m` is not one for a label behind it.
          have hsame : ∀ m' ∈ ls, ∀ id', .budgetExhausted budget m'.clientId id' ∈
              (.idRepeated m.clientId m.id :: .budgetExhausted budget m.clientId id :: events :
                List Event) ↔ .budgetExhausted budget m'.clientId id' ∈ events := by
            intro m' hm' id'
            rw [List.map_cons, List.pairwise_cons] at hd
            have hne : m.clientId ≠ m'.clientId := hd.1 _ (List.mem_map_of_mem hm') hm.1
            simp [hne.symm]
          have hfront : .budgetExhausted budget m.clientId l.id ∈
              (.idRepeated m.clientId m.id :: .budgetExhausted budget m.clientId id :: events :
                List Event) ↔ l.id = id := by
            simp [h.not_mem_behind hd l.id]
          rw [displaced_succ, hfront, displaced_congr hsame, hsame l hmem]
          exact ⟨l', hl', hiff⟩

end Passed

/-! ### The run of a recheck -/

namespace Allocator

variable (a : Allocator)

/-- The invariant of a recheck whose draws may fail, with the labels rewritten so far and those
still to come. -/
structure PassInv (r : Recheck) (before rest : List Label) : Prop where
  distinct : r.document.DistinctClients
  labels : r.document.labels = before ++ rest
  /-- Every claimed id that is not empty is held in the rewritten part. -/
  claimed : ∀ id ∈ r.claimed, id ≠ "" → ∃ l ∈ before, l.Holds ∧ l.id = id

theorem PassInv.skip {r : Recheck} {before rest : List Label} {l : Label}
    (h : PassInv r before (l :: rest)) : PassInv r (before ++ [l]) rest where
  distinct := h.distinct
  labels := by rw [h.labels, List.append_assoc, List.singleton_append]
  claimed id hid hne := by
    obtain ⟨m, hm, hfound⟩ := h.claimed id hid hne
    exact ⟨m, List.mem_append_left _ hm, hfound⟩

/-- A step keeps the invariant, whatever id the holder gets. -/
theorem PassInv.step {r r' : Recheck} {before rest : List Label} {l : Label} {id : String}
    (h : PassInv r before (l :: rest)) (hl : l.Holds)
    (hlabels : r'.document.labels = before ++ ⟨l.clientId, id⟩ :: rest)
    (hclaimed : r'.claimed = id :: r.claimed) :
    PassInv r' (before ++ [⟨l.clientId, id⟩]) rest where
  distinct := h.distinct.of_labels (by simp [hlabels, h.labels])
  labels := by rw [hlabels, List.append_assoc, List.singleton_append]
  claimed id' hid hne := by
    rw [hclaimed] at hid
    rcases List.mem_cons.1 hid with rfl | hid
    · exact ⟨⟨l.clientId, id'⟩, by simp, ⟨hl.1, hne⟩, rfl⟩
    · obtain ⟨m, hm, hfound⟩ := h.claimed id' hid hne
      exact ⟨m, List.mem_append_left _ hm, hfound⟩

/-- An id that is free for a holder is neither claimed nor held further down. -/
theorem PassInv.free {r : Recheck} {before rest : List Label} {l : Label} {id : String}
    (h : PassInv r before (l :: rest)) (hl : l.Holds) (hne : id ≠ "")
    (hfree : r.document.isTaken id l.clientId = false) :
    id ∉ r.claimed ∧ ∀ m ∈ rest, m.Holds → m.id ≠ id := by
  have hd := (Document.distinctClients_iff r.document).1 h.distinct
  rw [h.labels] at hd
  obtain ⟨hbefore, hafter⟩ := Document.clientId_ne_of_distinct hd hl.1
  rw [Document.isTaken_eq_false_iff, h.labels] at hfree
  constructor
  · intro hmem
    obtain ⟨m, hm, hholds, heq⟩ := h.claimed id hmem hne
    exact hbefore m hm (hfree m (List.mem_append_left _ hm) hholds heq)
  · intro m hm hholds heq
    exact hafter m hm (hfree m (by simp [hm]) hholds heq)

/-- The run of a recheck as far as labels go, whatever becomes of its draws. -/
theorem recheckAll_passed {r : Recheck} {before rest : List Label} (hinv : PassInv r before rest) :
    ∃ rest',
      (a.recheckAll true ((rest.filter fun l => l.Holds).map Label.clientId)
        r).value.document.labels = before ++ rest' ∧
      Passed a.retryBudget r.claimed rest rest'
        (a.recheckAll true ((rest.filter fun l => l.Holds).map Label.clientId) r).events := by
  induction rest generalizing r before with
  | nil => exact ⟨[], hinv.labels, .nil⟩
  | cons l rest ih =>
      by_cases hl : l.Holds
      -- The holder is rechecked next, and its label moves to the rewritten part.
      · rw [List.filter_cons_of_pos (by simpa using hl), List.map_cons, recheckAll,
          Logged.value_bind, Logged.events_bind]
        obtain ⟨hlabels, hclaimed, hevents⟩ :=
          a.recheckBlock_labels true hinv.distinct hinv.labels hl
        obtain ⟨rest', hrest', hrun⟩ := ih (hinv.step hl hlabels hclaimed)
        rw [hclaimed] at hrun
        refine ⟨_, hrest'.trans (List.append_assoc _ _ _), ?_⟩
        rw [nextId, Bool.true_and] at hevents hrun ⊢
        by_cases hid : l.id ∈ r.claimed
        · rw [if_pos (by simpa using hid)] at hevents hrun ⊢
          rw [hevents]
          rcases a.drawFrom_cases r.document l.clientId a.retryBudget 0 "" with
            ⟨hnone, hne, hfree⟩ | hexhausted
          · obtain ⟨hnew, hbehind⟩ := hinv.free hl hne hfree
            rw [Logged.events_after, draw, hnone]
            exact .redraw hl hid hnew hbehind hrun
          · rw [Logged.events_after, draw, hexhausted]
            exact .exhaust hl hid hrun
        · rw [if_neg (by simpa using hid)] at hevents hrun ⊢
          rw [hevents]
          exact .keep hl hid hrun
      · rw [List.filter_cons_of_neg (by simpa using hl)]
        obtain ⟨rest', hrest', hrun⟩ := ih hinv.skip
        exact ⟨l :: rest', by rw [hrest', List.append_assoc]; rfl, .skip hl hrun⟩

/-- The labels before and after the recheck of a document. -/
theorem allocateDocument_passed {d : Document} (hd : d.DistinctClients) :
    Passed a.retryBudget [] d.labels (a.allocateDocument d true).value.1.labels
      (a.allocateDocument d true).events := by
  have hinv : PassInv ⟨d, [], 0⟩ [] d.labels :=
    { distinct := hd
      labels := rfl
      claimed := fun id hid => absurd hid List.not_mem_nil }
  rw [allocateDocument, Document.map_snd_holders]
  obtain ⟨labels, hlabels, hrun⟩ := a.recheckAll_passed hinv
  rw [Logged.value_map, hlabels]
  exact hrun

end Allocator

/-! ### Which first holders keep their ids -/

/-- Was the id of the block at a position given to a block in front of it by a draw that ran out of
its budget? -/
def Document.Displaced (d : Document) (budget : Nat) (events : List Event) (k : Nat) (b : Block) :
    Prop :=
  ∃ c ∈ d.preorder.take k, .budgetExhausted budget c.clientId b.styleAttributes.id ∈ events

theorem Passed.displaced_labels_iff {d : Document} {budget : Nat} {events : List Event} {k : Nat}
    {b : Block} :
    Displaced budget [] d.labels events k b.label ↔ d.Displaced budget events k b := by
  simp [Displaced, Document.Displaced, Document.labels, ← List.map_take]

/-- **First holders.** In a recheck of a document with distinct client ids, whatever becomes of its
draws, the first holder of an id has this id afterwards if and only if it was not displaced, or was
given the same id once more by a draw that ran out. -/
theorem id_eq_iff_of_firstHolder (a : Allocator) (d : Document) (hd : d.DistinctClients) {k : Nat}
    {b : Block} (hk : d.preorder[k]? = some b) (hclient : b.clientId ≠ "")
    (hid : b.styleAttributes.id ≠ "") (hfirst : d.FirstHolder k b) :
    ∃ b', (a.allocateDocument d true).value.1.preorder[k]? = some b' ∧
      b'.clientId = b.clientId ∧
      (b'.styleAttributes.id = b.styleAttributes.id ↔
        (d.Displaced a.retryBudget (a.allocateDocument d true).events k b →
          .budgetExhausted a.retryBudget b.clientId b.styleAttributes.id ∈
            (a.allocateDocument d true).events)) := by
  have hrun := a.allocateDocument_passed hd
  have hlabel : d.labels[k]? = some b.label := by
    rw [Document.labels, List.getElem?_map, hk, Option.map_some]
  have hahead : ∀ m ∈ d.labels.take k, m.Holds → m.id ≠ b.label.id := by
    rw [Document.labels, ← List.map_take]
    intro m hm hholds
    obtain ⟨c, hc, rfl⟩ := List.mem_map.1 hm
    exact hfirst c hc hholds.1
  obtain ⟨l', hl', hiff⟩ :=
    hrun.getElem?_of_first ((Document.distinctClients_iff d).1 hd) hlabel ⟨hclient, hid⟩ hahead
  rw [Passed.displaced_labels_iff] at hiff
  have hclients := congrArg (·[k]?) hrun.map_clientId
  simp only [List.getElem?_map, hlabel, hl', Option.map_some, Option.some.injEq] at hclients
  rw [Document.labels, List.getElem?_map] at hl'
  obtain ⟨b', hb', rfl⟩ := Option.map_eq_some_iff.1 hl'
  exact ⟨b', hb', hclients, hiff⟩

/-- A block that holds as its id the client id of another one. -/
def borrower : Block := ⟨"c", "t/c", [("id", .str "b")], []⟩

/-- A block, a copy of it inside, and behind them the one whose id is the client id of the copy. -/
def pushedOut : Document :=
  [⟨"a", "t/a", [("id", .str "x")], [⟨"b", "t/a", [("id", .str "x")], []⟩]⟩, borrower]

/-- An allocator whose only candidate is the client id. -/
def echo : Allocator := ⟨fun clientId _ => clientId, 1⟩

theorem firstHolder_borrower :
    pushedOut.DistinctClients ∧ pushedOut.preorder[2]? = some borrower ∧
      pushedOut.FirstHolder 2 borrower := by
  have hids : borrower.styleAttributes.id = "b" ∧
      ∀ c n inner, (Block.mk c n [("id", .str "x")] inner).styleAttributes.id = "x" :=
    ⟨rfl, fun _ _ _ => rfl⟩
  refine ⟨?_, ?_, ?_⟩
  · simp [Document.DistinctClients, pushedOut, borrower, Document.preorder_cons]
  · simp [pushedOut, Document.preorder_cons]
  · simp [Document.FirstHolder, pushedOut, Document.preorder_cons, hids]

/-- The draw for the copy runs out at the id of the block behind. -/
theorem id_eq_iff_of_firstHolder_borrower :
    pushedOut.DistinctClients ∧ pushedOut.preorder[2]? = some borrower ∧
      borrower.clientId ≠ "" ∧ borrower.styleAttributes.id ≠ "" ∧
      pushedOut.FirstHolder 2 borrower ∧
      ∃ b', (echo.allocateDocument pushedOut true).value.1.preorder[2]? = some b' ∧
        b'.clientId = borrower.clientId ∧
        (b'.styleAttributes.id = borrower.styleAttributes.id ↔
          (pushedOut.Displaced echo.retryBudget (echo.allocateDocument pushedOut true).events 2
              borrower →
            .budgetExhausted echo.retryBudget borrower.clientId borrower.styleAttributes.id ∈
              (echo.allocateDocument pushedOut true).events)) := by
  obtain ⟨hd, hk, hfirst⟩ := firstHolder_borrower
  exact ⟨hd, hk, by decide, by decide, hfirst,
    id_eq_iff_of_firstHolder echo pushedOut hd hk (by decide) (by decide) hfirst⟩

/-- First holders do not always keep their ids, also when every draw has a candidate. -/
theorem not_forall_firstHolder_keeps :
    ¬ ∀ (a : Allocator) (d : Document), d.DistinctClients → 1 ≤ a.retryBudget →
      ∀ k b, d.preorder[k]? = some b → b.clientId ≠ "" → b.styleAttributes.id ≠ "" →
        d.FirstHolder k b →
        ∃ b', (a.allocateDocument d true).value.1.preorder[k]? = some b' ∧
          b'.styleAttributes.id = b.styleAttributes.id := by
  intro h
  obtain ⟨hd, hk, hfirst⟩ := firstHolder_borrower
  obtain ⟨b', hb', heq⟩ :=
    h echo pushedOut hd (by decide) 2 borrower hk (by decide) (by decide) hfirst
  have hids : (echo.allocateDocument pushedOut true).value.1.preorder.map
      (fun b => b.styleAttributes.id) = ["x", "b", "c"] := by
    cbv
  have hlast := congrArg (·[2]?) hids
  simp only [List.getElem?_map, hb', Option.map_some, heq] at hlast
  exact absurd hlast (by decide)

end BlockSheet
