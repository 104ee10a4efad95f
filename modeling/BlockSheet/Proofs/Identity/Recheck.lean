import Mathlib
import BlockSheet.Proofs.Identity.Step

/-!
# Rechecking whole documents

A recheck goes through the holders of a document in order and gives new ids to those whose id an
earlier one has claimed. All that matters for it is the list of labels, of which it has rewritten a
front part and not yet seen the rest (`recheckBlock_labels`).

While every draw succeeds the whole run is described by `Rechecked`: a holder keeps an id that is
not claimed yet, and gets in the place of a claimed one an id that is neither claimed nor was held
by anyone when the run began. The reason is an invariant of two parts. Every claimed id is held in
the front part; and every id that was held at the beginning is held still, by a first holder that
has kept it or has not come up yet. So a fresh draw, which avoids all that is held, avoids both.
-/

namespace BlockSheet

/-! ### Labels among distinct client ids -/

namespace Document

/-- Among distinct client ids the client id of a label is found in no other place. -/
theorem clientId_ne_of_distinct {before after : List Label} {l : Label}
    (h : ((before ++ l :: after).map Label.clientId).Pairwise fun c e => c ≠ "" → c ≠ e)
    (hl : l.clientId ≠ "") :
    (∀ m ∈ before, m.clientId ≠ l.clientId) ∧ ∀ m ∈ after, m.clientId ≠ l.clientId := by
  rw [List.map_append, List.map_cons, List.pairwise_append, List.pairwise_cons] at h
  obtain ⟨-, ⟨hafter, -⟩, hbefore⟩ := h
  constructor
  · intro m hm heq
    exact hbefore m.clientId (List.mem_map_of_mem hm) l.clientId List.mem_cons_self
      (heq ▸ hl) heq
  · intro m hm heq
    exact hafter m.clientId (List.mem_map_of_mem hm) hl heq.symm

end Document

/-! ### One step of a recheck -/

namespace Allocator

variable (a : Allocator) (recheck : Bool)

/-- The id that a recheck gives to a holder. -/
def nextId (r : Recheck) (l : Label) : Logged String :=
  if recheck && r.claimed.contains l.id then
    (a.draw r.document l.clientId).after (.idRepeated l.clientId l.id)
  else .pure l.id

theorem reallocate_eq_nextId (r : Recheck) {b : Block} (hid : b.styleAttributes.id ≠ "") :
    (a.reallocate r b recheck).value.id = (a.nextId recheck r b.label).value ∧
      (a.reallocate r b recheck).events = (a.nextId recheck r b.label).events := by
  rw [reallocate, nextId, Block.id_label]
  cases recheck && r.claimed.contains b.styleAttributes.id with
  | true => exact ⟨rfl, rfl⟩
  | false =>
      have hkeep : a.allocate b r.document false = .pure (keep b) := by
        rw [allocate, if_neg (by simpa using hid), Bool.false_and]
        rfl
      rw [if_neg Bool.false_ne_true, hkeep]
      exact ⟨id_keep b, rfl⟩

/-- **The step of a recheck.** The label of the holder gets its next id, which is then claimed, and
all other labels stay. -/
theorem recheckBlock_labels {r : Recheck} {before after : List Label} {l : Label}
    (hd : r.document.DistinctClients) (hlabels : r.document.labels = before ++ l :: after)
    (hl : l.Holds) :
    (a.recheckBlock recheck r l.clientId).value.document.labels =
        before ++ ⟨l.clientId, (a.nextId recheck r l).value⟩ :: after ∧
      (a.recheckBlock recheck r l.clientId).value.claimed =
        (a.nextId recheck r l).value :: r.claimed ∧
      (a.recheckBlock recheck r l.clientId).events = (a.nextId recheck r l).events := by
  rw [Document.labels_eq_listing] at hlabels
  obtain ⟨blocks, rest, hlisting, rfl, hrest⟩ := List.map_eq_append_iff.1 hlabels
  obtain ⟨b, blocks', rfl, rfl, rfl⟩ := List.map_eq_cons_iff.1 hrest
  obtain ⟨hstep, hclaimed, -, hevents⟩ := a.recheckBlock_listing recheck hd hlisting hl.1
  obtain ⟨hid, hsame⟩ := a.reallocate_eq_nextId recheck r hl.2
  rw [hid] at hclaimed
  refine ⟨?_, hclaimed, hevents.trans hsame⟩
  rw [Document.labels_eq_listing, Block.clientId_label, hstep, List.map_append, List.map_cons,
    Block.label_identify, hid]

end Allocator

/-! ### A whole run -/

/-- How the labels change in a recheck in which every draw succeeds, from the claimed ids on.
`given` are ids that must not be given out. -/
inductive Rechecked (given : List String) : List String → List Label → List Label → Prop
  | nil {claimed : List String} : Rechecked given claimed [] []
  /-- What is not the label of a holder stays. -/
  | skip {claimed : List String} {l : Label} {ls ls' : List Label} (hl : ¬ l.Holds)
    (h : Rechecked given claimed ls ls') : Rechecked given claimed (l :: ls) (l :: ls')
  /-- An id that is not claimed is kept, and claimed. -/
  | keep {claimed : List String} {l : Label} {ls ls' : List Label} (hl : l.Holds)
    (hid : l.id ∉ claimed) (h : Rechecked given (l.id :: claimed) ls ls') :
    Rechecked given claimed (l :: ls) (l :: ls')
  /-- A claimed id gives way to one that is neither claimed nor among the given ones. -/
  | redraw {claimed : List String} {l : Label} {id : String} {ls ls' : List Label} (hl : l.Holds)
    (hid : l.id ∈ claimed) (hne : id ≠ "") (hgiven : id ∉ given) (hclaimed : id ∉ claimed)
    (h : Rechecked given (id :: claimed) ls ls') :
    Rechecked given claimed (l :: ls) (⟨l.clientId, id⟩ :: ls')

namespace Rechecked

variable {given claimed : List String} {ls ls' : List Label}

theorem map_clientId (h : Rechecked given claimed ls ls') :
    ls'.map Label.clientId = ls.map Label.clientId := by
  induction h with
  | nil => rfl
  | skip _ _ ih => rw [List.map_cons, List.map_cons, ih]
  | keep _ _ _ ih => rw [List.map_cons, List.map_cons, ih]
  | redraw _ _ _ _ _ _ ih => rw [List.map_cons, List.map_cons, ih]

/-- No holder ends up with an id that was claimed before it came up. -/
theorem id_not_mem (h : Rechecked given claimed ls ls') : ∀ l ∈ ls', l.Holds → l.id ∉ claimed := by
  induction h with
  | nil => exact fun l hl => absurd hl List.not_mem_nil
  | skip hskip _ ih =>
      intro m hm hholds
      rcases List.mem_cons.1 hm with rfl | hm
      · exact absurd hholds hskip
      · exact ih m hm hholds
  | keep _ hid _ ih =>
      intro m hm hholds
      rcases List.mem_cons.1 hm with rfl | hm
      · exact hid
      · exact fun hmem => ih m hm hholds (List.mem_cons_of_mem _ hmem)
  | redraw _ _ _ _ hclaimed _ ih =>
      intro m hm hholds
      rcases List.mem_cons.1 hm with rfl | hm
      · exact hclaimed
      · exact fun hmem => ih m hm hholds (List.mem_cons_of_mem _ hmem)

/-- Afterwards no two holders share an id. -/
theorem pairwise_id_ne (h : Rechecked given claimed ls ls') :
    ls'.Pairwise fun l m => l.Holds → m.Holds → l.id ≠ m.id := by
  induction h with
  | nil => exact List.Pairwise.nil
  | skip hskip _ ih => exact List.pairwise_cons.2 ⟨fun m _ hl => absurd hl hskip, ih⟩
  | keep _ _ h ih =>
      refine List.pairwise_cons.2 ⟨fun m hm _ hholds heq => ?_, ih⟩
      exact h.id_not_mem m hm hholds (heq ▸ List.mem_cons_self)
  | redraw _ _ _ _ _ h ih =>
      refine List.pairwise_cons.2 ⟨fun m hm _ hholds heq => ?_, ih⟩
      exact h.id_not_mem m hm hholds (heq ▸ List.mem_cons_self)

/-- Is the id of the label at a position held further in front, or claimed from the start? -/
def Repeats (claimed : List String) (ls : List Label) (k : Nat) (l : Label) : Prop :=
  l.id ∈ claimed ∨ ∃ m ∈ ls.take k, m.Holds ∧ m.id = l.id

theorem repeats_zero (l m : Label) : Repeats claimed (m :: ls) 0 l ↔ l.id ∈ claimed := by
  simp [Repeats]

theorem repeats_succ (k : Nat) (l m : Label) :
    Repeats claimed (m :: ls) (k + 1) l ↔ m.Holds ∧ m.id = l.id ∨ Repeats claimed ls k l := by
  simp only [Repeats, List.take_succ_cons, List.mem_cons, exists_eq_or_imp]
  exact or_left_comm

theorem repeats_cons_claimed (id : String) (k : Nat) (l : Label) :
    Repeats (id :: claimed) ls k l ↔ l.id = id ∨ Repeats claimed ls k l := by
  simp only [Repeats, List.mem_cons, or_assoc]

/-- What becomes of a single holder: the first one of an id keeps it, and any later one gets an id
that is not among the given ones. -/
theorem getElem?_holds (h : Rechecked given claimed ls ls')
    (hgiven : ∀ l ∈ ls, l.Holds → l.id ∈ given) {k : Nat} {l : Label} (hk : ls[k]? = some l)
    (hl : l.Holds) :
    ∃ l', ls'[k]? = some l' ∧ (¬ Repeats claimed ls k l → l'.id = l.id) ∧
      (Repeats claimed ls k l → l'.id ≠ "" ∧ l'.id ∉ given) := by
  -- With every label in front that is passed, its next id joins the claimed ones.
  induction h generalizing k with
  | nil => simp at hk
  | @skip _ m _ _ hskip _ ih =>
      cases k with
      | zero =>
          obtain rfl : m = l := by simpa using hk
          exact absurd hl hskip
      | succ k =>
          rw [repeats_succ, or_iff_right fun hm => hskip hm.1]
          exact ih (fun l' hl' => hgiven l' (List.mem_cons_of_mem _ hl')) (by simpa using hk)
  | @keep _ m _ _ hm hid _ ih =>
      cases k with
      | zero =>
          obtain rfl : m = l := by simpa using hk
          exact ⟨m, rfl, fun _ => rfl, fun hrep => absurd ((repeats_zero m m).1 hrep) hid⟩
      | succ k =>
          have hih := ih (fun l' hl' => hgiven l' (List.mem_cons_of_mem _ hl'))
            (by simpa using hk)
          rw [repeats_cons_claimed, eq_comm] at hih
          rw [repeats_succ, and_iff_right hm]
          exact hih
  | @redraw claimed m id ls _ hm hid hne hnot _ _ ih =>
      cases k with
      | zero =>
          obtain rfl : m = l := by simpa using hk
          exact ⟨⟨m.clientId, id⟩, rfl, fun hrep => absurd ((repeats_zero m m).2 hid) hrep,
            fun _ => ⟨hne, hnot⟩⟩
      | succ k =>
          have hmem : l ∈ m :: ls := List.mem_of_getElem? hk
          have hfresh : l.id ≠ id := fun heq => hnot (heq ▸ hgiven l hmem hl)
          have hih := ih (fun l' hl' => hgiven l' (List.mem_cons_of_mem _ hl'))
            (by simpa using hk)
          rw [repeats_cons_claimed, or_iff_right hfresh] at hih
          -- The id of `m` was claimed before, so `m` in front makes nothing repeat that did not.
          have hclaimed : m.Holds ∧ m.id = l.id → Repeats claimed ls k l :=
            fun heq => Or.inl (heq.2 ▸ hid)
          rw [repeats_succ, or_iff_right_of_imp hclaimed]
          exact hih

end Rechecked

namespace Allocator

variable (a : Allocator)

/-- The invariant of a recheck, with the labels rewritten so far and those still to come. -/
structure RecheckInv (given : List String) (r : Recheck) (before rest : List Label) : Prop where
  distinct : r.document.DistinctClients
  labels : r.document.labels = before ++ rest
  /-- Every claimed id is held in the rewritten part. -/
  claimed : ∀ id ∈ r.claimed, ∃ l ∈ before, l.Holds ∧ l.id = id
  /-- Every given id is held still. -/
  given : ∀ id ∈ given, ∃ l ∈ before ++ rest, l.Holds ∧ l.id = id

/-- A label that is not a holder's moves to the rewritten part. -/
theorem RecheckInv.skip {given : List String} {r : Recheck} {before rest : List Label} {l : Label}
    (h : RecheckInv given r before (l :: rest)) : RecheckInv given r (before ++ [l]) rest where
  distinct := h.distinct
  labels := by rw [h.labels, List.append_assoc, List.singleton_append]
  claimed id hid := by
    obtain ⟨m, hm, hholds, heq⟩ := h.claimed id hid
    exact ⟨m, List.mem_append_left _ hm, hholds, heq⟩
  given id hid := by
    rw [List.append_assoc, List.singleton_append]
    exact h.given id hid

/-- A step in which the holder gets some id keeps the invariant, if the id that it had is not lost
by that. -/
theorem RecheckInv.step {given : List String} {r r' : Recheck} {before rest : List Label}
    {l : Label} {id : String} (h : RecheckInv given r before (l :: rest)) (hl : l.Holds)
    (hlabels : r'.document.labels = before ++ ⟨l.clientId, id⟩ :: rest)
    (hclaimed : r'.claimed = id :: r.claimed) (hne : id ≠ "")
    (hkept : id = l.id ∨ ∃ m ∈ before, m.Holds ∧ m.id = l.id) :
    RecheckInv given r' (before ++ [⟨l.clientId, id⟩]) rest where
  distinct := h.distinct.of_labels (by simp [hlabels, h.labels])
  labels := by rw [hlabels, List.append_assoc, List.singleton_append]
  claimed id' hid := by
    rw [hclaimed] at hid
    rcases List.mem_cons.1 hid with rfl | hid
    · exact ⟨⟨l.clientId, id'⟩, by simp, ⟨hl.1, hne⟩, rfl⟩
    · obtain ⟨m, hm, hholds, heq⟩ := h.claimed id' hid
      exact ⟨m, List.mem_append_left _ hm, hholds, heq⟩
  given id' hid := by
    obtain ⟨m, hm, hholds, rfl⟩ := h.given id' hid
    rw [List.append_assoc, List.singleton_append]
    rcases List.mem_append.1 hm with hm | hm
    · exact ⟨m, List.mem_append_left _ hm, hholds, rfl⟩
    rcases List.mem_cons.1 hm with rfl | hm
    -- Only the id of this label may have gone, and then it is held in front.
    · rcases hkept with rfl | ⟨n, hn, hnholds, hneq⟩
      · exact ⟨⟨m.clientId, m.id⟩, by simp, hl, rfl⟩
      · exact ⟨n, List.mem_append_left _ hn, hnholds, hneq⟩
    · exact ⟨m, by simp [hm], hholds, rfl⟩

/-- The id that a draw gives in the place of a claimed one is neither claimed nor given. -/
theorem RecheckInv.draw_fresh {given : List String} {r : Recheck} {before rest : List Label}
    {l : Label} (h : RecheckInv given r before (l :: rest)) (hl : l.Holds)
    (hid : l.id ∈ r.claimed)
    (hdraw : r.document.isTaken (a.draw r.document l.clientId).value l.clientId = false) :
    (a.draw r.document l.clientId).value ∉ given ∧
      (a.draw r.document l.clientId).value ∉ r.claimed := by
  have hd := (Document.distinctClients_iff r.document).1 h.distinct
  rw [h.labels] at hd
  obtain ⟨hbefore, hafter⟩ := Document.clientId_ne_of_distinct hd hl.1
  rw [Document.isTaken_eq_false_iff, h.labels] at hdraw
  have hclaimed : (a.draw r.document l.clientId).value ∉ r.claimed := by
    intro hmem
    obtain ⟨m, hm, hholds, heq⟩ := h.claimed _ hmem
    exact hbefore m hm (hdraw m (List.mem_append_left _ hm) hholds heq)
  refine ⟨fun hmem => ?_, hclaimed⟩
  obtain ⟨m, hm, hholds, heq⟩ := h.given _ hmem
  have hclient := hdraw m hm hholds heq
  rcases List.mem_append.1 hm with hm | hm
  · exact hbefore m hm hclient
  rcases List.mem_cons.1 hm with rfl | hm
  · exact hclaimed (heq ▸ hid)
  · exact hafter m hm hclient

/-- **The run of a recheck**, as far as labels go, while every draw succeeds. -/
theorem recheckAll_labels {given : List String} {r : Recheck} {before rest : List Label}
    (hinv : RecheckInv given r before rest)
    (hdraws : DrawsSucceeded
      (a.recheckAll true ((rest.filter fun l => l.Holds).map Label.clientId) r).events) :
    ∃ rest',
      (a.recheckAll true ((rest.filter fun l => l.Holds).map Label.clientId)
        r).value.document.labels = before ++ rest' ∧
      Rechecked given r.claimed rest rest' := by
  induction rest generalizing r before with
  | nil => exact ⟨[], hinv.labels, .nil⟩
  | cons l rest ih =>
      by_cases hl : l.Holds
      -- The holder is rechecked next, and its label moves to the rewritten part.
      · rw [List.filter_cons_of_pos (by simpa using hl), List.map_cons, recheckAll] at hdraws ⊢
        rw [Logged.events_bind, drawsSucceeded_append] at hdraws
        rw [Logged.value_bind]
        obtain ⟨hlabels, hclaimed, hevents⟩ :=
          a.recheckBlock_labels true hinv.distinct hinv.labels hl
        rw [nextId, Bool.true_and] at hlabels hclaimed hevents
        by_cases hid : l.id ∈ r.claimed
        · rw [if_pos (by simpa using hid)] at hlabels hclaimed hevents
          rw [hevents] at hdraws
          obtain ⟨-, hne, hfree⟩ := a.draw_free _ _ hdraws.1.tail
          obtain ⟨hgiven, hnew⟩ := hinv.draw_fresh a hl hid hfree
          obtain ⟨rest', hrest', hrun⟩ :=
            ih (hinv.step hl hlabels hclaimed hne (.inr (hinv.claimed _ hid))) hdraws.2
          refine ⟨_ :: rest', by rw [hrest', List.append_assoc]; rfl,
            .redraw hl hid hne hgiven hnew ?_⟩
          rwa [hclaimed] at hrun
        · rw [if_neg (by simpa using hid)] at hlabels hclaimed
          obtain ⟨rest', hrest', hrun⟩ :=
            ih (hinv.step hl hlabels hclaimed hl.2 (.inl rfl)) hdraws.2
          refine ⟨_ :: rest', by rw [hrest', List.append_assoc]; rfl, .keep hl hid ?_⟩
          rwa [hclaimed] at hrun
      · rw [List.filter_cons_of_neg (by simpa using hl)] at hdraws ⊢
        obtain ⟨rest', hrest', hrun⟩ := ih hinv.skip hdraws
        exact ⟨l :: rest', by rw [hrest', List.append_assoc]; rfl, .skip hl hrun⟩

/-- The labels before and after the recheck of a document, while every draw succeeds. The ids that
are not given out are those held before. -/
theorem allocateDocument_labels {d : Document} (hd : d.DistinctClients)
    (hdraws : DrawsSucceeded (a.allocateDocument d true).events) :
    Rechecked ((d.labels.filter fun l => l.Holds).map Label.id) [] d.labels
      (a.allocateDocument d true).value.1.labels := by
  have hinv : RecheckInv ((d.labels.filter fun l => l.Holds).map Label.id) ⟨d, [], 0⟩ [] d.labels :=
    { distinct := hd
      labels := rfl
      claimed := fun id hid => absurd hid List.not_mem_nil
      given := by
        intro id hid
        obtain ⟨l, hl, rfl⟩ := List.mem_map.1 hid
        exact ⟨l, (List.mem_filter.1 hl).1, by simpa using (List.mem_filter.1 hl).2, rfl⟩ }
  rw [allocateDocument, Document.map_snd_holders] at hdraws ⊢
  obtain ⟨labels, hlabels, hrun⟩ := a.recheckAll_labels hinv hdraws
  rw [Logged.value_map, hlabels]
  exact hrun

end Allocator

/-! ### What a recheck achieves -/

/-- Is the block at a position the first one with a client id that holds its id? -/
def Document.FirstHolder (d : Document) (k : Nat) (b : Block) : Prop :=
  ∀ c ∈ d.preorder.take k, c.clientId ≠ "" → c.styleAttributes.id ≠ b.styleAttributes.id

/-- What a recheck is to make of a document `d`, block by block in document order. -/
structure Document.UniquelyHeld (d d' : Document) : Prop where
  /-- The same blocks stand in the same order. -/
  clientIds : d'.preorder.map Block.clientId = d.preorder.map Block.clientId
  /-- No two blocks with client ids hold the same id. -/
  distinct : d'.preorder.Pairwise fun b c => b.clientId ≠ "" → c.clientId ≠ "" →
    b.styleAttributes.id ≠ "" → b.styleAttributes.id ≠ c.styleAttributes.id
  /-- The first holder of an id holds it still. -/
  first : ∀ k b, d.preorder[k]? = some b → b.clientId ≠ "" → b.styleAttributes.id ≠ "" →
    d.FirstHolder k b →
    ∃ b', d'.preorder[k]? = some b' ∧ b'.styleAttributes.id = b.styleAttributes.id
  /-- A later holder of an id holds another one, which no block with a client id held before. -/
  later : ∀ k b, d.preorder[k]? = some b → b.clientId ≠ "" → b.styleAttributes.id ≠ "" →
    ¬ d.FirstHolder k b →
    ∃ b', d'.preorder[k]? = some b' ∧ b'.styleAttributes.id ≠ "" ∧
      ∀ c ∈ d.preorder, c.clientId ≠ "" → c.styleAttributes.id ≠ b'.styleAttributes.id

/-- The first holder of an id is the one that repeats none. -/
theorem Rechecked.repeats_labels_iff {d : Document} {k : Nat} {b : Block}
    (hid : b.styleAttributes.id ≠ "") :
    Rechecked.Repeats [] d.labels k b.label ↔ ¬ d.FirstHolder k b := by
  rw [Repeats, Document.FirstHolder, Document.labels, ← List.map_take]
  simp only [List.not_mem_nil, false_or, List.mem_map, Classical.not_forall, ne_eq,
    Decidable.not_not]
  constructor
  · rintro ⟨m, ⟨c, hc, rfl⟩, hholds, heq⟩
    exact ⟨c, hc, hholds.1, heq⟩
  · rintro ⟨c, hc, hclient, heq⟩
    exact ⟨c.label, ⟨c, hc, rfl⟩, ⟨hclient, fun h => hid (heq ▸ h)⟩, heq⟩

/-- **A recheck makes ids unique.** In a document with distinct client ids, first holders keep their
ids and later holders get new ones that collide with nothing, whatever the generator and the budget
are, unless a draw runs out of it. -/
theorem uniquelyHeld_allocateDocument (a : Allocator) (d : Document) (hd : d.DistinctClients)
    (hdraws : DrawsSucceeded (a.allocateDocument d true).events) :
    d.UniquelyHeld (a.allocateDocument d true).value.1 := by
  have hrun := a.allocateDocument_labels hd hdraws
  have hgiven : ∀ l ∈ d.labels, l.Holds →
      l.id ∈ (d.labels.filter fun l => l.Holds).map Label.id := by
    intro l hl hholds
    exact List.mem_map_of_mem (List.mem_filter.2 ⟨hl, by simpa using hholds⟩)
  have hblock : ∀ k b, d.preorder[k]? = some b → b.clientId ≠ "" → b.styleAttributes.id ≠ "" →
      ∃ b', (a.allocateDocument d true).value.1.preorder[k]? = some b' ∧
        (d.FirstHolder k b → b'.styleAttributes.id = b.styleAttributes.id) ∧
        (¬ d.FirstHolder k b → b'.styleAttributes.id ≠ "" ∧
          b'.styleAttributes.id ∉ (d.labels.filter fun l => l.Holds).map Label.id) := by
    intro k b hk hclient hid
    have hlabel : d.labels[k]? = some b.label := by
      rw [Document.labels, List.getElem?_map, hk]
      rfl
    obtain ⟨l', hl', hfirst, hlater⟩ := hrun.getElem?_holds hgiven hlabel ⟨hclient, hid⟩
    rw [Document.labels, List.getElem?_map] at hl'
    obtain ⟨b', hb', rfl⟩ := Option.map_eq_some_iff.1 hl'
    rw [Rechecked.repeats_labels_iff hid] at hfirst hlater
    exact ⟨b', hb', fun h => hfirst fun hlate => hlate h, hlater⟩
  refine ⟨?_, ?_, ?_, ?_⟩
  · have hclients := hrun.map_clientId
    rwa [Document.labels, Document.labels, List.map_map, List.map_map] at hclients
  · have hpairs := hrun.pairwise_id_ne
    rw [Document.labels, List.pairwise_map] at hpairs
    refine hpairs.imp fun {b c} h hb hc hid heq => ?_
    exact h ⟨hb, hid⟩ ⟨hc, fun hempty => hid (heq.trans hempty)⟩ heq
  · intro k b hk hclient hid hfirst
    obtain ⟨b', hb', hkeeps, -⟩ := hblock k b hk hclient hid
    exact ⟨b', hb', hkeeps hfirst⟩
  · intro k b hk hclient hid hlater
    obtain ⟨b', hb', -, hnew⟩ := hblock k b hk hclient hid
    obtain ⟨hne, hnot⟩ := hnew hlater
    refine ⟨b', hb', hne, fun c hc hcclient heq => hnot ?_⟩
    rw [← heq] at hne ⊢
    exact hgiven c.label (List.mem_map_of_mem hc) ⟨hcclient, hne⟩

/-- Copies of one block at two levels, and a further block. -/
def nestedCopies : Document :=
  [⟨"g", "core/group", [("id", .str "x")], [⟨"a", "t/a", [("id", .str "x")], []⟩]⟩,
    ⟨"b", "t/b", [("id", .str "y")], []⟩]

/-- An allocator whose first candidate is always the same. -/
def stubborn : Allocator := ⟨fun clientId attempt => if attempt = 0 then "y" else clientId, 2⟩

/-- In the copies the inner block gives up its id, and passes over the id of the block behind. -/
theorem uniquelyHeld_nestedCopies :
    nestedCopies.DistinctClients ∧
      DrawsSucceeded (stubborn.allocateDocument nestedCopies true).events ∧
      nestedCopies.UniquelyHeld (stubborn.allocateDocument nestedCopies true).value.1 := by
  have hd : nestedCopies.DistinctClients := by
    simp [Document.DistinctClients, nestedCopies, Document.preorder_cons]
  have hevents : (stubborn.allocateDocument nestedCopies true).events =
      [.idRepeated "a" "x"] := by
    cbv
  have hdraws : DrawsSucceeded (stubborn.allocateDocument nestedCopies true).events := by
    simp [hevents, DrawsSucceeded]
  exact ⟨hd, hdraws, uniquelyHeld_allocateDocument stubborn nestedCopies hd hdraws⟩

end BlockSheet
