import BlockSheet.Proofs.Identity.Draw

/-!
# What an allocation gives

The identity that a block gets is determined by three things: the style state that the block holds,
whether another block of the document holds the same id, and the candidates of the generator. This
module says so without the search that finds it (`allocate_eq`):

* an id that is set stays, unless it is to be checked and is taken;
* without an id, or with one that is taken, a block that has a client id gets the first free
  candidate, and a block that has none gets nothing;
* where all candidates within the budget fail, the last one is used, and only that is warned of.

The specification has its own notion of a taken id (`Document.Taken`), which walks down the document
and uses no index. The search is accounted for by what a draw may give (`Drawn`): it remembers that
the attempts so far were not free, and which candidate was the last.
-/

namespace BlockSheet

theorem classNameFor_ne_empty (blockName id : String) : classNameFor blockName id ≠ "" := by
  intro hempty
  have hchars := congrArg String.toList hempty
  rw [classNameFor, String.toList_ofList] at hchars
  simp at hchars

/-! ### Ids of other blocks -/

namespace Document

/-- The block stands somewhere in the document: at its top level or within a block of it. -/
inductive Occurs (c : Block) : Document → Prop
  | here {d : Document} (hmem : c ∈ d) : Occurs c d
  | within {d : Document} {b : Block} (hmem : b ∈ d) (hinner : Occurs c b.innerBlocks) : Occurs c d

theorem Occurs.mem_preorder {c : Block} {d : Document} (h : d.Occurs c) : c ∈ d.preorder := by
  -- Whatever the walk meets within a block of a list, it meets in the whole list.
  have hstretch : ∀ {d : Document} {b : Block}, b ∈ d → ∀ x ∈ b :: preorder b.innerBlocks,
      x ∈ d.preorder := by
    intro d b hmem x hx
    obtain ⟨before, after, rfl⟩ := List.append_of_mem hmem
    rw [preorder_append, preorder_cons, ← List.cons_append]
    exact List.mem_append_right _ (List.mem_append_left _ hx)
  induction h with
  | here hmem => exact hstretch hmem c List.mem_cons_self
  | within hmem _ ih => exact hstretch hmem c (List.mem_cons_of_mem _ ih)

theorem occurs_of_mem_preorder {c : Block} : ∀ {d : Document}, c ∈ d.preorder → d.Occurs c := by
  intro d
  induction d using Document.induction with
  | nil => simp
  | cons b blocks ihinner ihblocks =>
      intro h
      simp only [preorder_cons, List.mem_cons, List.mem_append] at h
      rcases h with rfl | hinner | hblocks
      · exact .here List.mem_cons_self
      · exact .within List.mem_cons_self (ihinner hinner)
      · cases ihblocks hblocks with
        | here hmem => exact .here (List.mem_cons_of_mem b hmem)
        | within hmem hinner => exact .within (List.mem_cons_of_mem b hmem) hinner

/-- The walk through a document meets exactly the blocks that stand in it. -/
theorem mem_preorder_iff {c : Block} {d : Document} : c ∈ d.preorder ↔ d.Occurs c :=
  ⟨occurs_of_mem_preorder, Occurs.mem_preorder⟩

/-- The id is held by another block of the document, one whose client id is not empty and differs
from `clientId`. -/
def Taken (d : Document) (clientId id : String) : Prop :=
  ∃ c, d.Occurs c ∧ c.clientId ≠ "" ∧ c.clientId ≠ clientId ∧ c.styleAttributes.id = id

/-- The index of holders knows which ids are taken. -/
theorem isTaken_iff_taken {d : Document} {clientId id : String} (hid : id ≠ "") :
    d.isTaken id clientId = true ↔ d.Taken clientId id := by
  rw [isTaken_eq_true_iff, Taken]
  constructor
  · rintro ⟨l, hl, ⟨hsome, -⟩, hheld, hother⟩
    obtain ⟨c, hc, rfl⟩ := List.mem_map.1 hl
    exact ⟨c, mem_preorder_iff.1 hc, hsome, hother, hheld⟩
  · rintro ⟨c, hc, hsome, hother, rfl⟩
    exact ⟨c.label, List.mem_map_of_mem (mem_preorder_iff.2 hc), ⟨hsome, hid⟩, rfl, hother⟩

theorem isTaken_eq_false_iff_not_taken {d : Document} {clientId id : String} (hid : id ≠ "") :
    d.isTaken id clientId = false ↔ ¬ d.Taken clientId id := by
  rw [← isTaken_iff_taken hid, Bool.not_eq_true]

end Document

/-! ### Warnings -/

/-- Something among the events is worth a warning. -/
def Warned (events : List Event) : Prop := ∃ event ∈ events, event.isWarning = true

@[simp] theorem not_warned_nil : ¬ Warned [] := by simp [Warned]

@[simp] theorem warned_cons (event : Event) (events : List Event) :
    Warned (event :: events) ↔ event.isWarning = true ∨ Warned events := by
  simp [Warned]

namespace Allocator

variable (a : Allocator) (d : Document) (clientId : String)

/-! ### Draws -/

/-- The candidate of the attempt can be used: it is not empty, and no other block holds it. -/
def Free (attempt : Nat) : Prop :=
  a.generate clientId attempt ≠ "" ∧ ¬ d.Taken clientId (a.generate clientId attempt)

/-- The candidate of the attempt before; the first attempt has none before it. -/
def candidateBefore (clientId : String) : Nat → String
  | 0 => ""
  | attempt + 1 => a.generate clientId attempt

theorem free_iff (attempt : Nat) :
    a.Free d clientId attempt ↔ (!(a.generate clientId attempt).isEmpty &&
      !d.isTaken (a.generate clientId attempt) clientId) = true := by
  unfold Free
  simp only [Bool.and_eq_true, Bool.not_eq_true', String.isEmpty_eq_false_iff]
  exact and_congr_right fun hne => (Document.isTaken_eq_false_iff_not_taken hne).symm

/-- What a draw may give. -/
inductive Drawn : Logged String → Prop
  /-- The first free candidate, without a word. -/
  | free {attempt : Nat} (hbudget : attempt < a.retryBudget) (hfree : a.Free d clientId attempt)
    (hleast : ∀ earlier < attempt, ¬ a.Free d clientId earlier) :
    Drawn (.pure (a.generate clientId attempt))
  /-- The last candidate, if none is free within the budget. -/
  | exhausted (hnone : ∀ attempt < a.retryBudget, ¬ a.Free d clientId attempt) :
    Drawn ⟨a.candidateBefore clientId a.retryBudget,
      [.budgetExhausted a.retryBudget clientId (a.candidateBefore clientId a.retryBudget)]⟩

/-- The search behind attempts that were not free. -/
theorem drawn_drawFrom (left attempt : Nat) (hbudget : attempt + left = a.retryBudget)
    (hearlier : ∀ earlier < attempt, ¬ a.Free d clientId earlier) :
    a.Drawn d clientId
      (a.drawFrom d clientId left attempt (a.candidateBefore clientId attempt)) := by
  induction left generalizing attempt with
  | zero =>
      obtain rfl : attempt = a.retryBudget := by omega
      exact .exhausted hearlier
  | succ left ih =>
      rw [drawFrom]
      by_cases hfree : a.Free d clientId attempt
      · rw [if_pos ((a.free_iff d clientId attempt).1 hfree)]
        exact .free (by omega) hfree hearlier
      · rw [if_neg (mt (a.free_iff d clientId attempt).2 hfree)]
        refine ih (attempt + 1) (by omega) ?_
        intro earlier hless
        rcases Nat.lt_succ_iff_lt_or_eq.1 hless with hless | rfl
        · exact hearlier earlier hless
        · exact hfree

/-- **What a draw gives**: the first free candidate, or the last one after a warning. -/
theorem drawn_draw : a.Drawn d clientId (a.draw d clientId) :=
  a.drawn_drawFrom d clientId a.retryBudget 0 (Nat.zero_add _) fun _ h =>
    absurd h (Nat.not_lt_zero _)

namespace Drawn

variable {a d clientId} {drawn : Logged String}

/-- A draw warns exactly when there is no free candidate. -/
theorem warned_iff (h : a.Drawn d clientId drawn) :
    Warned drawn.events ↔ ∀ attempt < a.retryBudget, ¬ a.Free d clientId attempt := by
  cases h with
  | free hbudget hfree _ => simpa using ⟨_, hbudget, hfree⟩
  | exhausted hnone => simpa [Event.isWarning] using hnone

/-- The first free candidate is the one that is drawn. -/
theorem value_eq_of_least (h : a.Drawn d clientId drawn) {attempt : Nat}
    (hbudget : attempt < a.retryBudget) (hfree : a.Free d clientId attempt)
    (hleast : ∀ earlier < attempt, ¬ a.Free d clientId earlier) :
    drawn.value = a.generate clientId attempt := by
  cases h with
  | @free drawnAt _ hfree' hleast' =>
      obtain hless | rfl | hless := Nat.lt_trichotomy attempt drawnAt
      · exact absurd hfree (hleast' attempt hless)
      · rfl
      · exact absurd hfree' (hleast drawnAt hless)
  | exhausted hnone => exact absurd hfree (hnone attempt hbudget)

/-- Without a free candidate the last one is used. -/
theorem value_eq_of_none (h : a.Drawn d clientId drawn)
    (hnone : ∀ attempt < a.retryBudget, ¬ a.Free d clientId attempt) :
    drawn.value = a.candidateBefore clientId a.retryBudget := by
  cases h with
  | free hbudget hfree _ => exact absurd hfree (hnone _ hbudget)
  | exhausted _ => rfl

/-- What is drawn without a warning is not taken. -/
theorem not_taken (h : a.Drawn d clientId drawn) (hquiet : ¬ Warned drawn.events) :
    ¬ d.Taken clientId drawn.value := by
  cases h with
  | free _ hfree _ => exact hfree.2
  | exhausted _ => simp [Event.isWarning] at hquiet

/-- What is drawn is a candidate, unless there is no attempt for one. -/
theorem value_cases (h : a.Drawn d clientId drawn) :
    a.retryBudget = 0 ∧ drawn.value = "" ∨
      ∃ attempt, drawn.value = a.generate clientId attempt := by
  cases h with
  | @free attempt _ _ _ => exact Or.inr ⟨attempt, rfl⟩
  | exhausted _ =>
      cases hn : a.retryBudget with
      | zero => exact Or.inl ⟨rfl, rfl⟩
      | succ last => exact Or.inr ⟨last, rfl⟩

end Drawn

/-! ### Allocation -/

variable {d}

/-- The block keeps its id: there is one, and it is not to be checked or is free. -/
def Keeps (b : Block) (d : Document) (recheck : Bool) : Prop :=
  b.styleAttributes.id ≠ "" ∧
    (recheck = false ∨ ¬ d.Taken b.clientId b.styleAttributes.id)

theorem allocate_of_keeps {b : Block} {recheck : Bool} (h : Keeps b d recheck) :
    a.allocate b d recheck = .pure (keep b) := by
  obtain ⟨hid, hfree⟩ := h
  have hcheck : ¬ (recheck && d.isTaken b.styleAttributes.id b.clientId) = true := by
    rcases hfree with rfl | hfree
    · simp
    · simp [(Document.isTaken_eq_false_iff_not_taken hid).2 hfree]
  rw [allocate, if_neg (by simpa using hid), if_neg hcheck]

/-- A block that does not keep its id gets a new identity. That its id is shared is no warning. -/
theorem allocate_of_not_keeps {b : Block} {recheck : Bool} (h : ¬ Keeps b d recheck) :
    (a.allocate b d recheck).value = (a.renew b d).value ∧
      (Warned (a.allocate b d recheck).events ↔ Warned (a.renew b d).events) := by
  rw [allocate]
  by_cases hid : b.styleAttributes.id = ""
  · rw [if_pos (by simpa using hid)]
    exact ⟨rfl, Iff.rfl⟩
  · rw [if_neg (by simpa using hid)]
    cases hcheck : recheck && d.isTaken b.styleAttributes.id b.clientId with
    | true => exact ⟨rfl, by simp [Event.isWarning]⟩
    | false =>
        rw [Bool.and_eq_false_iff, Document.isTaken_eq_false_iff_not_taken hid] at hcheck
        exact absurd ⟨hid, hcheck⟩ h

theorem renew_of_clientId {b : Block} (hclient : b.clientId ≠ "") :
    a.renew b d = (a.draw d b.clientId).map (.ofId b.name) := by
  rw [renew, if_neg (by simpa using hclient)]

/-- A new identity that is not empty is the draw for the client id. -/
theorem renew_value_of_ne_empty {b : Block} (h : (a.renew b d).value.isEmpty = false) :
    (a.renew b d).value = .ofId b.name (a.draw d b.clientId).value ∧ b.clientId ≠ "" := by
  rw [renew] at h ⊢
  by_cases hclient : b.clientId = ""
  · rw [if_pos (by simpa using hclient)] at h
    cases h
  · rw [if_neg (by simpa using hclient)]
    exact ⟨rfl, hclient⟩

theorem className_keep_ne_empty (b : Block) : (keep b).className ≠ "" := by
  by_cases h : b.styleAttributes.className = ""
  · rw [keep_of_no_className h]
    exact classNameFor_ne_empty _ _
  · rwa [keep_of_className h]

/-- No identity with an id lacks a class name. -/
theorem className_allocate_ne_empty {b : Block} {recheck : Bool}
    (h : (a.allocate b d recheck).value.isEmpty = false) :
    (a.allocate b d recheck).value.className ≠ "" := by
  rcases a.allocate_eq_or d b recheck with ⟨hkeep, -, -⟩ | ⟨hrenew, -⟩
  · rw [hkeep]
    exact className_keep_ne_empty b
  · rw [hrenew] at h ⊢
    rw [(a.renew_value_of_ne_empty h).1]
    exact classNameFor_ne_empty _ _

/-- **What an allocation gives**, for every block and document. -/
theorem allocate_eq (a : Allocator) (b : Block) (d : Document) (recheck : Bool) :
    (Keeps b d recheck →
      (a.allocate b d recheck).value =
          ⟨b.styleAttributes.id,
            if b.styleAttributes.className = "" then classNameFor b.name b.styleAttributes.id
            else b.styleAttributes.className⟩ ∧
        ¬ Warned (a.allocate b d recheck).events) ∧
    (¬ Keeps b d recheck → b.clientId = "" →
      (a.allocate b d recheck).value = ⟨"", ""⟩ ∧ ¬ Warned (a.allocate b d recheck).events) ∧
    (¬ Keeps b d recheck → b.clientId ≠ "" →
      (∀ attempt < a.retryBudget, a.Free d b.clientId attempt →
          (∀ earlier < attempt, ¬ a.Free d b.clientId earlier) →
          (a.allocate b d recheck).value.id = a.generate b.clientId attempt) ∧
        ((∀ attempt < a.retryBudget, ¬ a.Free d b.clientId attempt) →
          (a.allocate b d recheck).value.id = a.candidateBefore b.clientId a.retryBudget) ∧
        (Warned (a.allocate b d recheck).events ↔
          ∀ attempt < a.retryBudget, ¬ a.Free d b.clientId attempt) ∧
        (a.allocate b d recheck).value.className =
          classNameFor b.name (a.allocate b d recheck).value.id ∧
        (¬ Warned (a.allocate b d recheck).events →
          ¬ d.Taken b.clientId (a.allocate b d recheck).value.id)) := by
  refine ⟨?_, ?_, ?_⟩
  · intro hkeeps
    rw [a.allocate_of_keeps hkeeps]
    refine ⟨?_, not_warned_nil⟩
    by_cases hclass : b.styleAttributes.className = "" <;>
      simp [keep, hclass, Identity.ofId, StyleAttributes.identity]
  · intro hkeeps hclient
    obtain ⟨hvalue, hwarned⟩ := a.allocate_of_not_keeps hkeeps
    rw [hvalue, hwarned, renew, if_pos (by simpa using hclient)]
    exact ⟨rfl, not_warned_nil⟩
  · intro hkeeps hclient
    obtain ⟨hvalue, hwarned⟩ := a.allocate_of_not_keeps hkeeps
    rw [hvalue, hwarned, a.renew_of_clientId hclient]
    have hdrawn := a.drawn_draw d b.clientId
    exact ⟨fun _ => hdrawn.value_eq_of_least, hdrawn.value_eq_of_none, hdrawn.warned_iff, rfl,
      hdrawn.not_taken⟩

/-- A block that was pasted with its id. -/
def pasted : Block := ⟨"b", "t/card", [("id", .str "x")], []⟩

/-- Its original stands within a group. -/
def pastedInto : Document :=
  [⟨"", "core/group", [], [⟨"a", "t/card", [("id", .str "x")], []⟩]⟩, pasted]

/-- The first candidate is empty and the second one is the id of the original. -/
def hesitant : Allocator :=
  ⟨fun _ attempt => if attempt = 0 then "" else if attempt = 1 then "x" else "y", 3⟩

/-- The pasted block keeps its id where that is not checked. Where it is, it gets the third
candidate, or the second one after a warning if there are only two attempts. A block without an id
and a client id gets nothing. -/
theorem allocate_pasted :
    (hesitant.allocate pasted pastedInto false).value = ⟨"x", "t-card-x"⟩ ∧
      (hesitant.allocate (.new "" "t/card") pastedInto true).value = ⟨"", ""⟩ ∧
      (hesitant.allocate pasted pastedInto true).value.id = "y" ∧
      Warned (Allocator.allocate ⟨hesitant.generate, 2⟩ pasted pastedInto true).events := by
  have hx : pastedInto.Taken "b" "x" :=
    ⟨_, .within List.mem_cons_self (.here List.mem_cons_self), by decide, by decide, rfl⟩
  have hy : ¬ pastedInto.Taken "b" "y" := by
    rintro ⟨c, hc, -, -, hid⟩
    rw [← Document.mem_preorder_iff] at hc
    simp only [pastedInto, pasted, Document.preorder_cons, Document.preorder_nil, List.append_nil,
      List.mem_append, List.mem_cons, List.not_mem_nil, or_false] at hc
    rcases hc with rfl | rfl | rfl <;> exact absurd hid (by decide)
  have hkeeps : Keeps pasted pastedInto false := ⟨by decide, .inl rfl⟩
  have hnew : ¬ Keeps (.new "" "t/card") pastedInto true := fun h => h.1 rfl
  have htaken : ¬ Keeps pasted pastedInto true := by
    rintro ⟨-, hunchecked | hfree⟩
    · cases hunchecked
    · exact hfree hx
  have hempty : ¬ hesitant.Free pastedInto "b" 0 := fun h => h.1 rfl
  have hshared : ¬ hesitant.Free pastedInto "b" 1 := fun h => h.2 hx
  have hfree : hesitant.Free pastedInto "b" 2 := ⟨by decide, hy⟩
  have hearlier : ∀ attempt < 2, ¬ hesitant.Free pastedInto "b" attempt := by
    intro attempt hless
    obtain rfl | rfl : attempt = 0 ∨ attempt = 1 := by omega
    · exact hempty
    · exact hshared
  obtain ⟨hkept, -, -⟩ := allocate_eq hesitant pasted pastedInto false
  obtain ⟨-, hnothing, -⟩ := allocate_eq hesitant (.new "" "t/card") pastedInto true
  obtain ⟨-, -, hdrawn⟩ := allocate_eq hesitant pasted pastedInto true
  obtain ⟨-, -, hlast⟩ := allocate_eq ⟨hesitant.generate, 2⟩ pasted pastedInto true
  refine ⟨(hkept hkeeps).1, (hnothing hnew rfl).1, ?_, ?_⟩
  · exact (hdrawn htaken (by decide)).1 2 (by decide) hfree hearlier
  · exact (hlast htaken (by decide)).2.2.1.2 hearlier

end Allocator

end BlockSheet
