import BlockSheet.Proofs.Identity.Recheck
import BlockSheet.Proofs.Identity.Reissue

/-!
# Rechecking twice

A recheck has nothing to do in a document whose holders have class names and, where ids are checked,
hold different ids (`allocateDocument_of_settled`). Every block then keeps the identity that is
stored: no id is found to be claimed, so that nothing is drawn, and no class name is to be filled
in.

A recheck leaves such a document behind, if all its draws succeed. So a second one changes nothing,
be it with force or without (`allocateDocument_stable`).
-/

namespace BlockSheet

/-- A recheck has nothing to do in the document. -/
structure Document.Settled (d : Document) (recheck : Bool) : Prop where
  /-- No holder lacks its class name. -/
  named : ∀ b ∈ d.preorder, b.label.Holds → b.styleAttributes.className ≠ ""
  /-- Where ids are checked, no two holders share one. -/
  apart : recheck = true → d.preorder.Pairwise fun b c =>
    b.label.Holds → c.label.Holds → b.styleAttributes.id ≠ c.styleAttributes.id

namespace Allocator

variable (a : Allocator) {recheck : Bool}

/-! ### Nothing to do -/

/-- A block keeps the identity that it has, if it has a class name and its id is not claimed. -/
theorem reallocate_of_named {r : Recheck} {b : Block} (hb : b.label.Holds)
    (hclass : b.styleAttributes.className ≠ "")
    (hfree : recheck = true → b.styleAttributes.id ∉ r.claimed) :
    a.reallocate r b recheck = .pure b.styleAttributes.identity := by
  have hclaimed : (recheck && r.claimed.contains b.styleAttributes.id) = false := by
    cases recheck with
    | false => rfl
    | true => simpa using hfree rfl
  have hkeeps : Keeps b r.document false := ⟨hb.2, .inl rfl⟩
  rw [reallocate, hclaimed, if_neg Bool.false_ne_true, a.allocate_of_keeps hkeeps,
    keep_of_className hclass]

/-- All that the step does for such a block is to claim its id. -/
theorem recheckBlock_of_named {r : Recheck} {b : Block}
    (hfound : r.document.find? b.clientId = some b) (hb : b.label.Holds)
    (hclass : b.styleAttributes.className ≠ "")
    (hfree : recheck = true → b.styleAttributes.id ∉ r.claimed) :
    a.recheckBlock recheck r b.clientId =
      .pure { r with claimed := b.styleAttributes.id :: r.claimed } := by
  rw [recheckBlock, hfound]
  simp only [a.reallocate_of_named hb hclass hfree, Logged.map, Logged.pure, if_pos]
  rfl

/-- The run over blocks that keep their identities. The ids that it claims on its way are those of
the blocks, which differ from each other. -/
theorem recheckAll_of_settled {d : Document} (hd : d.DistinctClients) (claimed : List String)
    (changed : Nat) {rest : List Block} (hrest : ∀ b ∈ rest, b ∈ d.preorder)
    (hnamed : ∀ b ∈ rest, b.label.Holds → b.styleAttributes.className ≠ "")
    (hapart : recheck = true → rest.Pairwise fun b c =>
      b.label.Holds → c.label.Holds → b.styleAttributes.id ≠ c.styleAttributes.id)
    (hfree : recheck = true → ∀ b ∈ rest, b.label.Holds → b.styleAttributes.id ∉ claimed) :
    ∃ claimed', a.recheckAll recheck ((rest.filter fun b => b.label.Holds).map Block.clientId)
      ⟨d, claimed, changed⟩ = .pure ⟨d, claimed', changed⟩ := by
  induction rest generalizing claimed with
  | nil => exact ⟨claimed, rfl⟩
  | cons b rest ih =>
      rw [List.forall_mem_cons] at hrest hnamed
      have hapart' := fun hrecheck => List.pairwise_cons.1 (hapart hrecheck)
      have hfree' := fun hrecheck => List.forall_mem_cons.1 (hfree hrecheck)
      by_cases hb : b.label.Holds
      · have hfound := Document.find?_of_mem_preorder hd hrest.1 hb.1
        have hstep : a.recheckBlock recheck ⟨d, claimed, changed⟩ b.clientId =
            .pure ⟨d, b.styleAttributes.id :: claimed, changed⟩ :=
          a.recheckBlock_of_named hfound hb (hnamed.1 hb) fun hrecheck => (hfree' hrecheck).1 hb
        obtain ⟨claimed', hrun⟩ := ih (b.styleAttributes.id :: claimed) hrest.2 hnamed.2
          (fun hrecheck => (hapart' hrecheck).2) (by
            intro hrecheck c hc hholds hmem
            rcases List.mem_cons.1 hmem with heq | hmem
            · exact (hapart' hrecheck).1 c hc hb hholds heq.symm
            · exact (hfree' hrecheck).2 c hc hholds hmem)
        refine ⟨claimed', ?_⟩
        rw [List.filter_cons_of_pos (by simpa using hb), List.map_cons, recheckAll, hstep]
        exact hrun
      · rw [List.filter_cons_of_neg (by simpa using hb)]
        exact ih claimed hrest.2 hnamed.2 (fun hrecheck => (hapart' hrecheck).2)
          fun hrecheck => (hfree' hrecheck).2

/-- **A settled document stays as it is**, and nothing is reported. -/
theorem allocateDocument_of_settled {d : Document} (hd : d.DistinctClients)
    (h : d.Settled recheck) : a.allocateDocument d recheck = .pure (d, 0) := by
  obtain ⟨claimed, hrun⟩ := a.recheckAll_of_settled hd [] 0 (fun _ hb => hb) h.named h.apart
    fun _ _ _ _ => List.not_mem_nil
  rw [allocateDocument, Document.map_snd_holders, Document.labels, List.filter_map, List.map_map]
  exact congrArg (Logged.map fun r => (r.document, r.changed)) hrun

/-! ### What a recheck leaves behind -/

theorem Reissues.className_ne_empty {b : Block} {identity : Identity}
    (h : a.Reissues recheck b identity) : identity.className ≠ "" := by
  cases h with
  | kept => exact className_keep_ne_empty b
  | redraw d _ => exact classNameFor_ne_empty _ _

/-- Every holder has a class name afterwards, whatever becomes of the draws. -/
theorem className_ne_empty_allocateDocument {d : Document} (hd : d.DistinctClients) :
    ∀ b ∈ (a.allocateDocument d recheck).value.1.preorder, b.label.Holds →
      b.styleAttributes.className ≠ "" := by
  have hlisting := a.forall_allocateDocument recheck hd
    (P := fun b => b.label.Holds → b.styleAttributes.className ≠ "") (by
      rintro b - b' (hb | @⟨identity, hb, h⟩)
      · intro hholds
        exact absurd hholds hb
      · intro _
        have hclass := h.className_ne_empty
        rwa [← b.identity_identify identity] at hclass)
  intro b hb
  exact hlisting b.alone (List.mem_map_of_mem hb)

/-- A recheck in which every draw succeeds leaves a settled document. -/
theorem settled_allocateDocument {d : Document} (hd : d.DistinctClients)
    (hdraws : DrawsSucceeded (a.allocateDocument d true).events) :
    (a.allocateDocument d true).value.1.Settled recheck where
  named := a.className_ne_empty_allocateDocument hd
  apart _ := by
    have hpairs := (a.allocateDocument_labels hd hdraws).pairwise_id_ne
    rwa [Document.labels, List.pairwise_map] at hpairs

end Allocator

/-- **A second recheck changes nothing**, with force or without, if no draw of the first one ran out
of its budget. It need not even be made by the same allocator, since it draws nothing. -/
theorem allocateDocument_stable (a a' : Allocator) (d : Document) (hd : d.DistinctClients)
    (hdraws : DrawsSucceeded (a.allocateDocument d true).events) (recheck : Bool) :
    a'.allocateDocument (a.allocateDocument d true).value.1 recheck =
      .pure ((a.allocateDocument d true).value.1, 0) :=
  a'.allocateDocument_of_settled (hd.of_outline (a.outline_allocateDocument true d))
    (a.settled_allocateDocument hd hdraws)

/-- The first recheck of the nested copies gives the inner block an id and all three of them class
names. -/
theorem allocateDocument_stable_nestedCopies :
    nestedCopies.DistinctClients ∧
      DrawsSucceeded (stubborn.allocateDocument nestedCopies true).events ∧
      (stubborn.allocateDocument nestedCopies true).value.2 = 3 ∧
      stubborn.allocateDocument (stubborn.allocateDocument nestedCopies true).value.1 true =
        .pure ((stubborn.allocateDocument nestedCopies true).value.1, 0) := by
  have hd : nestedCopies.DistinctClients := by
    simp [Document.DistinctClients, nestedCopies, Document.preorder_cons]
  have hevents : (stubborn.allocateDocument nestedCopies true).events =
      [.idRepeated "a" "x"] := by
    cbv
  have hdraws : DrawsSucceeded (stubborn.allocateDocument nestedCopies true).events := by
    simp [hevents, DrawsSucceeded]
  exact ⟨hd, hdraws, by cbv, allocateDocument_stable stubborn stubborn nestedCopies hd hdraws true⟩

end BlockSheet
