import BlockSheet.Proofs.Binder.Outcome
import BlockSheet.Proofs.Identity.Recheck
import BlockSheet.Proofs.Identity.Reissue

/-!
# Editing sessions

In an editing session blocks are bound, edited, copied, removed and transformed in any order, and
the document is rechecked now and then (`Session.Step`). A copy keeps the id of its original, so two
blocks of the document may well share an id. Ids are looked at when blocks are mounted, and what has
to be unique are the ids of the mounted blocks alone: at no time do two of them share one
(`pairwise_id_ne_of_run`).

What is checked against what decides whether that holds. The id of a mounted block is compared with
the ids of all blocks, mounted or not, whenever it changes and when the block is mounted. A block
that is not mounted may take any id, but can be mounted only by a bind that checks it.
-/

namespace BlockSheet

/-- A document in an editing session, and the client ids of the blocks that have been mounted. -/
structure Session where
  document : Document
  mounted : List String

namespace Session

/-! ### Steps -/

/-- The mounted client ids after a bind. A block without a client id has none to add. -/
def mountedWith (s : Session) (b : Block) (mount : Bool) : List String :=
  if mount && !b.clientId.isEmpty then b.clientId :: s.mounted else s.mounted

/-- The mounted client ids after blocks are removed, with the blocks within them. -/
def mountedWithout (s : Session) (old : Document) : List String :=
  s.mounted.filter fun clientId => !(old.preorder.map Block.clientId).contains clientId

/-- The steps of a session, with their events. -/
inductive Step : Session → List Event → Session → Prop
  /-- A block is bound, and the outcome written into it. -/
  | bind (a : Allocator) (t : BlockType) (mount : Bool) {s : Session} {b : Block} {d' : Document}
    (h : Document.Spliced [b] [(a.bind b s.document t mount).value.applyTo b] s.document d') :
    Step s (a.bind b s.document t mount).events ⟨d', s.mountedWith b mount⟩
  /-- The attributes of a block change, other than those of the style state. -/
  | edit {s : Session} {b : Block} {attributes : Attributes} {d' : Document}
    (hkept : ∀ name ∈ ["id", "className", "styles"],
      attributes.get? name = b.attributes.get? name)
    (h : Document.Spliced [b] [{ b with attributes := attributes }] s.document d') :
    Step s [] ⟨d', s.mounted⟩
  /-- Blocks are inserted, new ones or copies, under client ids that are not in use. -/
  | insert {s : Session} {new d' : Document} (hdistinct : d'.DistinctClients)
    (hfresh : ∀ b ∈ new.preorder, b.clientId ∉ s.mounted)
    (h : Document.Spliced [] new s.document d') :
    Step s [] ⟨d', s.mounted⟩
  /-- Blocks are removed. -/
  | remove {s : Session} {old d' : Document} (h : Document.Spliced old [] s.document d') :
    Step s [] ⟨d', s.mountedWithout old⟩
  /-- A block gives way to one that comes without style state and takes over that of the old one. -/
  | transform {s : Session} {b new : Block} {d' : Document} (hclient : new.clientId = b.clientId)
    (hinner : new.innerBlocks = b.innerBlocks) (hempty : new.styleAttributes = ⟨"", "", []⟩)
    (h : Document.Spliced [b] [carryOver new [b]] s.document d') :
    Step s [] ⟨d', s.mounted⟩
  /-- All ids of the document are gone through. -/
  | recheck (a : Allocator) (force : Bool) {s : Session} :
    Step s (a.allocateDocument s.document force).events
      ⟨(a.allocateDocument s.document force).value.1, s.mounted⟩

/-- The runs of a session, with all their events. -/
inductive Run : Session → List Event → Session → Prop
  | refl (s : Session) : Run s [] s
  | snoc {s t u : Session} {events events' : List Event} (h : Run s events t)
    (hstep : Step t events' u) : Run s (events ++ events') u

end Session

/-! ### What a bind does to an id -/

namespace Allocator

variable (a : Allocator) (b : Block) (d : Document) (t : BlockType) (mount : Bool)

/-- **The id after a bind** in which every draw succeeds: there is none, or no other block holds it,
or it is the old one, which is not checked where the block is not mounted or has no client id. -/
theorem id_bind (h : DrawsSucceeded (a.bind b d t mount).events) :
    ((a.bind b d t mount).value.applyTo b).styleAttributes.id = "" ∨
      d.isTaken ((a.bind b d t mount).value.applyTo b).styleAttributes.id b.clientId = false ∨
      ((a.bind b d t mount).value.applyTo b).styleAttributes.id = b.styleAttributes.id ∧
        (mount = false ∨ b.clientId = "") := by
  cases ht : (t.customStyles b.attributes).isEmpty with
  | true =>
      have hcleared := (a.binds_bind b d t mount).styleAttributes_of_empty ht
      exact Or.inl (congrArg StyleAttributes.id hcleared)
  | false =>
      have hdraws : DrawsSucceeded (a.allocate b d mount).events := by
        rw [bind, if_neg (by simp [ht]), Logged.events_bind, drawsSucceeded_append] at h
        exact h.1
      have hbound := (a.binds_bind b d t mount).id_of_styles ht
      rcases a.allocate_cases d b mount hdraws with
        ⟨hkeep, hid, hfree⟩ | ⟨hnone, hclient⟩ | ⟨hid, hfree⟩
      · have hsame : ((a.bind b d t mount).value.applyTo b).styleAttributes.id =
            b.styleAttributes.id := by
          rcases hbound with hb | ⟨-, hb⟩
          · rw [hb, hkeep, id_keep]
          · rw [hb]
        rw [hsame]
        cases mount with
        | true => exact Or.inr (Or.inl (hfree rfl))
        | false => exact Or.inr (Or.inr ⟨rfl, Or.inl rfl⟩)
      · rcases hbound with hb | ⟨-, hb⟩
        · exact Or.inl (by rw [hb, hnone]; rfl)
        · exact Or.inr (Or.inr ⟨by rw [hb], Or.inr hclient⟩)
      · rcases hbound with hb | ⟨hempty, -⟩
        · exact Or.inr (Or.inl (hb ▸ hfree))
        · exact absurd hempty hid

end Allocator

/-! ### What a transformation does to a block -/

@[simp] theorem clientId_carryOver (b : Block) (sources : List Block) :
    (carryOver b sources).clientId = b.clientId := by
  rw [carryOver]
  cases carriedState? b sources <;> rfl

@[simp] theorem innerBlocks_carryOver (b : Block) (sources : List Block) :
    (carryOver b sources).innerBlocks = b.innerBlocks := by
  rw [carryOver]
  cases carriedState? b sources <;> rfl

/-- A block that comes without style state has the id of its source afterwards, or none. -/
theorem id_carryOver {b source : Block} (hempty : b.styleAttributes = ⟨"", "", []⟩) :
    (carryOver b [source]).styleAttributes.id = "" ∨
      (carryOver b [source]).styleAttributes.id = source.styleAttributes.id := by
  rw [carryOver, carriedState?]
  by_cases h : source.clientId = b.clientId ∧ !source.styleAttributes.styles.isEmpty
  · rw [if_pos h]
    exact Or.inr (congrArg StyleAttributes.id (StyleAttributes.read_write _ b.attributes))
  · rw [if_neg h]
    exact Or.inl (congrArg StyleAttributes.id hempty)

/-! ### The ids of mounted blocks -/

/-- Two labels hold different ids, if both belong to mounted blocks and there is an id. -/
def Apart (mounted : List String) (l m : Label) : Prop :=
  l.clientId ∈ mounted → m.clientId ∈ mounted → l.id ≠ "" → l.id ≠ m.id

theorem Apart.symm {mounted : List String} {l m : Label} (h : Apart mounted l m) :
    Apart mounted m l :=
  fun hm hl hid heq => h hl hm (heq ▸ hid) heq.symm

theorem Apart.mono {mounted mounted' : List String} {l m : Label}
    (hsub : ∀ clientId ∈ mounted', clientId ∈ mounted) (h : Apart mounted l m) :
    Apart mounted' l m :=
  fun hl hm => h (hsub _ hl) (hsub _ hm)

namespace Session

/-- The invariant of a session. -/
structure Inv (s : Session) : Prop where
  distinct : s.document.DistinctClients
  named : "" ∉ s.mounted
  apart : s.document.labels.Pairwise (Apart s.mounted)

/-- One block gives way to another one under its client id, and may be mounted by that. The id that
it comes to hold must be free, or the id that it held as a mounted block. -/
theorem Inv.replace {s : Session} {b b' : Block} {d' : Document} {mounted : List String}
    (hs : s.Inv) (h : Document.Spliced [b] [b'] s.document d') (hclient : b'.clientId = b.clientId)
    (hinner : b'.innerBlocks = b.innerBlocks) (hnamed : "" ∉ mounted)
    (hmounted : ∀ clientId ∈ mounted, clientId = b.clientId ∨ clientId ∈ s.mounted)
    (hid : b.clientId ∈ mounted → b'.styleAttributes.id = "" ∨
      s.document.isTaken b'.styleAttributes.id b.clientId = false ∨
      b'.styleAttributes.id = b.styleAttributes.id ∧ b.clientId ∈ s.mounted) :
    Inv ⟨d', mounted⟩ := by
  obtain ⟨before, after, hold, hnew⟩ := h.labels_of_innerBlocks hinner
  have hclients := (Document.distinctClients_iff s.document).1 hs.distinct
  have hpairs := hs.apart
  rw [hold] at hclients hpairs
  rw [List.pairwise_middle Apart.symm, List.pairwise_cons] at hpairs
  obtain ⟨hb, hothers⟩ := hpairs
  -- Among the other blocks none has the client id.
  have hne : ∀ m ∈ before ++ after, b.clientId ∈ mounted → m.clientId ≠ b.clientId := by
    intro m hm hmem
    obtain ⟨hbefore, hafter⟩ :=
      Document.clientId_ne_of_distinct hclients fun h => hnamed (h ▸ hmem)
    exact (List.mem_append.1 hm).elim (hbefore m) (hafter m)
  have hstill : ∀ m ∈ before ++ after, m.clientId ∈ mounted → m.clientId ∈ s.mounted := by
    intro m hm hmem
    rcases hmounted _ hmem with heq | hmem'
    · exact absurd heq (hne m hm (heq ▸ hmem))
    · exact hmem'
  refine ⟨hs.distinct.of_labels ?_, hnamed, ?_⟩
  · simp [hold, hnew, hclient]
  · rw [hnew, List.pairwise_middle Apart.symm, List.pairwise_cons]
    refine ⟨fun m hm hb' hmem hnonempty heq => ?_, ?_⟩
    · rw [Block.clientId_label, hclient] at hb'
      rw [Block.id_label] at hnonempty heq
      rcases hid hb' with hempty | hfree | ⟨hsame, hb''⟩
      · exact hnonempty hempty
      · rw [Document.isTaken_eq_false_iff, hold] at hfree
        have hholds : m.Holds :=
          ⟨fun h => hnamed (h ▸ hmem), fun h => hnonempty (heq.trans h)⟩
        have hmem' : m ∈ before ++ b.label :: after :=
          List.perm_middle.mem_iff.2 (List.mem_cons_of_mem _ hm)
        exact hne m hm hb' (hfree m hmem' hholds heq.symm)
      · rw [hsame] at hnonempty heq
        exact hb m hm hb'' (hstill m hm hmem) hnonempty heq
    · exact hothers.imp_of_mem fun hl hm h hlmem hmmem =>
        h (hstill _ hl hlmem) (hstill _ hm hmmem)

/-- Blocks come in under client ids that are not mounted. -/
theorem Inv.insert {s : Session} {new d' : Document} (hs : s.Inv) (hdistinct : d'.DistinctClients)
    (hfresh : ∀ b ∈ new.preorder, b.clientId ∉ s.mounted)
    (h : Document.Spliced [] new s.document d') : Inv ⟨d', s.mounted⟩ := by
  obtain ⟨before, after, hold, hnew⟩ := h.labels_eq
  have hlabels : ∀ l ∈ new.labels, l.clientId ∉ s.mounted := by
    intro l hl
    obtain ⟨b, hb, rfl⟩ := List.mem_map.1 hl
    exact hfresh b hb
  have hpairs := hs.apart
  rw [hold, Document.labels_nil, List.nil_append] at hpairs
  refine ⟨hdistinct, hs.named, ?_⟩
  -- The order makes no difference to pairs, so the new labels may as well come first.
  rw [hnew, (List.perm_append_comm_assoc _ _ _).pairwise_iff Apart.symm, List.pairwise_append]
  refine ⟨?_, hpairs, ?_⟩
  · exact List.pairwise_of_forall_mem_list fun l hl _ _ hmem => absurd hmem (hlabels l hl)
  · exact fun l hl _ _ hmem => absurd hmem (hlabels l hl)

/-- Blocks are taken away, and are mounted no longer. -/
theorem Inv.remove {s : Session} {old d' : Document} (hs : s.Inv)
    (h : Document.Spliced old [] s.document d') : Inv ⟨d', s.mountedWithout old⟩ := by
  obtain ⟨before, after, hold, hnew⟩ := h.labels_eq
  have hsub : d'.labels.Sublist s.document.labels := by
    rw [hold, hnew, Document.labels_nil, List.nil_append]
    exact (List.sublist_append_right _ _).append_left before
  have hmounted : ∀ clientId ∈ s.mountedWithout old, clientId ∈ s.mounted :=
    fun clientId hmem => (List.mem_filter.1 hmem).1
  refine ⟨?_, fun hmem => hs.named (hmounted _ hmem), ?_⟩
  · rw [Document.distinctClients_iff]
    exact ((Document.distinctClients_iff s.document).1 hs.distinct).sublist (hsub.map _)
  · exact (hs.apart.sublist hsub).imp (Apart.mono hmounted)

/-- A recheck of the document leaves every client id in its place. -/
theorem Inv.recheck {s : Session} (hs : s.Inv) (a : Allocator) (force : Bool)
    (hdraws : DrawsSucceeded (a.allocateDocument s.document force).events) :
    Inv ⟨(a.allocateDocument s.document force).value.1, s.mounted⟩ := by
  cases force with
  | false =>
      have hlabels := a.allocateDocument_false_labels hs.distinct
      exact ⟨hs.distinct.of_labels (by rw [hlabels]), hs.named, by rw [hlabels]; exact hs.apart⟩
  | true =>
      have hrun := a.allocateDocument_labels hs.distinct hdraws
      refine ⟨hs.distinct.of_labels hrun.map_clientId, hs.named, ?_⟩
      refine hrun.pairwise_id_ne.imp fun {l m} hne hl hm hid heq => ?_
      have hnamed : ∀ clientId ∈ s.mounted, clientId ≠ "" := fun _ h heq => hs.named (heq ▸ h)
      exact hne ⟨hnamed _ hl, hid⟩ ⟨hnamed _ hm, heq ▸ hid⟩ heq

theorem mem_mountedWith {s : Session} {b : Block} {mount : Bool} {clientId : String} :
    clientId ∈ s.mountedWith b mount ↔
      mount = true ∧ clientId = b.clientId ∧ clientId ≠ "" ∨ clientId ∈ s.mounted := by
  rw [mountedWith]
  by_cases hmount : (mount && !b.clientId.isEmpty) = true
  · rw [if_pos hmount]
    simp only [Bool.and_eq_true, Bool.not_eq_true', String.isEmpty_eq_false_iff] at hmount
    rw [List.mem_cons, and_iff_right hmount.1, and_iff_left_of_imp]
    exact fun heq => heq ▸ hmount.2
  · rw [if_neg hmount, or_iff_right]
    rintro ⟨hmount', rfl, hne⟩
    simp [hmount', hne] at hmount

/-- **One step** keeps the invariant, if every draw succeeds. -/
theorem Step.inv {s s' : Session} {events : List Event} (h : Step s events s') (hs : s.Inv)
    (hdraws : DrawsSucceeded events) : s'.Inv := by
  cases h with
  | bind a t mount h =>
      refine hs.replace h rfl rfl ?_ ?_ ?_
      · rw [mem_mountedWith]
        exact fun hmem => hmem.elim (fun hmem => hmem.2.2 rfl) hs.named
      · exact fun clientId hmem => (mem_mountedWith.1 hmem).imp_left fun hmem => hmem.2.1
      · intro hmem
        rcases a.id_bind _ s.document t mount hdraws with hempty | hfree | ⟨hsame, hunchecked⟩
        · exact Or.inl hempty
        · exact Or.inr (Or.inl hfree)
        · refine Or.inr (Or.inr ⟨hsame, ?_⟩)
          -- An id that was not checked belongs to a block that this step does not mount.
          rcases mem_mountedWith.1 hmem with ⟨rfl, -, hne⟩ | hmem
          · exact absurd hunchecked (by simp [hne])
          · exact hmem
  | @edit _ b attributes _ hkept h =>
      refine hs.replace h rfl rfl hs.named (fun _ hmem => Or.inr hmem) fun hmem => ?_
      have hid : ({ b with attributes := attributes } : Block).styleAttributes.id =
          b.styleAttributes.id := by
        simp only [Block.styleAttributes, StyleAttributes.read, StyleAttributes.textOf,
          hkept "id" (by simp)]
      exact Or.inr (Or.inr ⟨hid, hmem⟩)
  | insert hdistinct hfresh h => exact hs.insert hdistinct hfresh h
  | remove h => exact hs.remove h
  | transform hclient hinner hempty h =>
      refine hs.replace h ?_ ?_ hs.named (fun _ hmem => Or.inr hmem) fun hmem => ?_
      · rw [clientId_carryOver, hclient]
      · rw [innerBlocks_carryOver, hinner]
      · exact (id_carryOver hempty).imp_right fun hid => Or.inr ⟨hid, hmem⟩
  | recheck a force => exact hs.recheck a force hdraws

/-- A run keeps the invariant, if every draw succeeds. -/
theorem Run.inv {s s' : Session} {events : List Event} (h : Run s events s') (hs : s.Inv)
    (hdraws : DrawsSucceeded events) : s'.Inv := by
  induction h with
  | refl => exact hs
  | snoc _ hstep ih =>
      rw [drawsSucceeded_append] at hdraws
      exact hstep.inv (ih hdraws.1) hdraws.2

/-- **Mounted blocks hold different ids.** Whatever is done in a session that begins with distinct
client ids and no block mounted, no two mounted blocks share an id, unless a draw ran out of its
budget. -/
theorem pairwise_id_ne_of_run {d : Document} {s : Session} {events : List Event}
    (hd : d.DistinctClients) (h : Run ⟨d, []⟩ events s) (hdraws : DrawsSucceeded events) :
    s.document.preorder.Pairwise fun b c => b.clientId ∈ s.mounted → c.clientId ∈ s.mounted →
      b.styleAttributes.id ≠ "" → b.styleAttributes.id ≠ c.styleAttributes.id := by
  have hinit : Inv ⟨d, []⟩ :=
    { distinct := hd
      named := List.not_mem_nil
      apart := List.pairwise_of_forall fun _ _ hmem => absurd hmem List.not_mem_nil }
  have hapart := (h.inv hinit hdraws).apart
  rwa [Document.labels, List.pairwise_map] at hapart

/-- A block type that derives a colour for every block. -/
def coloured : BlockType := ⟨"t/h", some fun _ => [("color", .str "red")], none, none⟩

/-- A block with an id. -/
def original : Block := ⟨"a", "t/h", [("id", .str "y")], []⟩

/-- The block with the colour. -/
def bound : Block :=
  ⟨"a", "t/h", [("id", .str "y"), ("className", .str "t-h-y"),
    ("styles", .obj [(".t-h-y", .obj [("color", .str "red")])])], []⟩

/-- A copy of it, which has the same id. -/
def copied : Block := { bound with clientId := "b" }

/-- A block is mounted, copied with its id, and then the copy is mounted, which gives up the id. -/
theorem pairwise_id_ne_copy :
    ∃ events s, Run ⟨[original], []⟩ events s ∧ Document.DistinctClients [original] ∧
      DrawsSucceeded events ∧ s.mounted = ["b", "a"] ∧
      s.document.preorder.Pairwise fun b c => b.clientId ∈ s.mounted → c.clientId ∈ s.mounted →
        b.styleAttributes.id ≠ "" → b.styleAttributes.id ≠ c.styleAttributes.id := by
  have hd : Document.DistinctClients [original] := by
    simp [Document.DistinctClients, original, Document.preorder_cons]
  have hbound : (stubborn.bind original [original] coloured true).value.applyTo original =
      bound := by
    cbv
  have hbind : Step ⟨[original], []⟩ [.stylesChanged "a"] ⟨[bound], ["a"]⟩ := by
    have hevents : (stubborn.bind original [original] coloured true).events =
        [.stylesChanged "a"] := by
      cbv
    have hmounted : (⟨[original], []⟩ : Session).mountedWith original true = ["a"] := by
      simp [mountedWith, original]
    rw [← hevents, ← hmounted, ← hbound]
    exact .bind stubborn coloured true (.here [] [])
  have hinsert : Step ⟨[bound], ["a"]⟩ [] ⟨[bound, copied], ["a"]⟩ := by
    refine .insert ?_ ?_ (.here [bound] [] : Document.Spliced [] [copied] _ _)
    · simp [Document.DistinctClients, Document.preorder_cons, bound, copied]
    · simp [Document.preorder_cons, bound, copied]
  have hagain : Step ⟨[bound, copied], ["a"]⟩ [.idShared "b" "y", .stylesChanged "b"]
      ⟨[bound, (stubborn.bind copied [bound, copied] coloured true).value.applyTo copied],
        ["b", "a"]⟩ := by
    have hevents : (stubborn.bind copied [bound, copied] coloured true).events =
        [.idShared "b" "y", .stylesChanged "b"] := by
      cbv
    have hmounted : (⟨[bound, copied], ["a"]⟩ : Session).mountedWith copied true =
        ["b", "a"] := by
      simp [mountedWith, copied]
    rw [← hevents, ← hmounted]
    exact .bind stubborn coloured true (.here [bound] [])
  have hrun := (((Run.refl ⟨[original], []⟩).snoc hbind).snoc hinsert).snoc hagain
  have hdraws : DrawsSucceeded
      ([] ++ [.stylesChanged "a"] ++ [] ++ [.idShared "b" "y", .stylesChanged "b"]) := by
    simp [DrawsSucceeded]
  exact ⟨_, _, hrun, hd, hdraws, rfl, pairwise_id_ne_of_run hd hrun hdraws⟩

end Session

end BlockSheet
