import Mathlib.Data.List.Basic
import BlockSheet.Proofs.Block.Outline
import BlockSheet.Proofs.Identity.Draw

/-!
# One step of a recheck

A step of a recheck looks a block up by its client id, finds an identity for it, and writes that
where it is another one. Where client ids are distinct, the block that is found is the only one with
its client id in the listing of the document, so that the step exchanges this block and no other
(`recheckBlock_listing`). The outline of the document stays in any case (`outline_recheckBlock`).
-/

namespace BlockSheet

/-! ### Blocks among distinct client ids -/

namespace Document

variable {d d' : Document} {b : Block}

theorem labels_eq_listing (d : Document) : d.labels = d.listing.map Block.label := by
  rw [labels, listing, List.map_map]
  rfl

theorem distinctClients_iff_listing (d : Document) :
    d.DistinctClients ↔
      d.listing.Pairwise fun b c => b.clientId ≠ "" → b.clientId ≠ c.clientId := by
  rw [DistinctClients, listing, List.pairwise_map]
  rfl

theorem DistinctClients.of_outline (hd : d.DistinctClients) (h : d'.outline = d.outline) :
    d'.DistinctClients := by
  have hclients : ∀ d : Document, d.labels.map Label.clientId =
      d.outline.preorder.map Block.clientId := by
    intro d
    rw [map_preorder_outline fun _ _ _ => rfl, labels, List.map_map]
    rfl
  exact hd.of_labels (by rw [hclients, hclients, h])

/-- Among distinct client ids a search finds every block that has one. -/
theorem find?_of_mem_preorder (hd : d.DistinctClients) (hb : b ∈ d.preorder)
    (hclient : b.clientId ≠ "") : d.find? b.clientId = some b := by
  obtain ⟨before, after, hsplit⟩ := List.append_of_mem hb
  -- A block with this client id further in front would be a second one.
  have hbefore : ∀ e ∈ before, e.clientId ≠ b.clientId := by
    intro e he heq
    rw [DistinctClients, hsplit, List.pairwise_append] at hd
    exact hd.2.2 e he b List.mem_cons_self (heq ▸ hclient) heq
  exact find?_of_preorder hsplit hbefore rfl

/-- A block that has a client id stands in one place of the listing only. -/
theorem listing_split_unique {before before' after after' : List Block} (hd : d.DistinctClients)
    (hclient : b.clientId ≠ "") (h : d.listing = before ++ b :: after)
    (h' : d.listing = before' ++ b :: after') : before = before' ∧ after = after' := by
  have honce := (distinctClients_iff_listing d).1 hd
  rw [h, List.pairwise_append, List.pairwise_cons] at honce
  obtain ⟨-, ⟨hafter, -⟩, hbefore⟩ := honce
  have hnotBefore : b ∉ before := by
    intro hmem
    exact hbefore b hmem b List.mem_cons_self hclient rfl
  have hnotAfter : b ∉ after := by
    intro hmem
    exact hafter b hmem hclient rfl
  rw [h, List.append_cons_inj_of_notMem hnotBefore hnotAfter] at h'
  exact ⟨h'.1, h'.2.2⟩

end Document

/-! ### Blocks with another identity -/

namespace Block

variable (b : Block) (identity : Identity)

/-- A block with an identity, which is written only where it is not the stored one. -/
def identify : Block :=
  if identity = b.styleAttributes.identity then b
  else { b with attributes := identity.write b.attributes }

theorem identify_of_eq (h : identity = b.styleAttributes.identity) : b.identify identity = b :=
  if_pos h

theorem identify_of_ne (h : identity ≠ b.styleAttributes.identity) :
    b.identify identity = { b with attributes := identity.write b.attributes } :=
  if_neg h

@[simp] theorem clientId_identify : (b.identify identity).clientId = b.clientId := by
  unfold identify
  split <;> rfl

@[simp] theorem name_identify : (b.identify identity).name = b.name := by
  unfold identify
  split <;> rfl

/-- The block has the identity then. -/
@[simp] theorem identity_identify : (b.identify identity).styleAttributes.identity = identity := by
  unfold identify
  split
  · next h => exact h.symm
  · simp [styleAttributes, StyleAttributes.identity]

theorem label_identify : (b.identify identity).label = ⟨b.clientId, identity.id⟩ := by
  have hid : (b.identify identity).styleAttributes.id = identity.id :=
    congrArg Identity.id (b.identity_identify identity)
  rw [label, clientId_identify, hid]

end Block

/-! ### The step -/

namespace Allocator

variable (a : Allocator) (recheck : Bool)

theorem outline_recheckBlock (r : Recheck) (clientId : String) :
    (a.recheckBlock recheck r clientId).value.document.outline = r.document.outline := by
  rw [recheckBlock]
  cases r.document.find? clientId with
  | none => rfl
  | some b =>
      simp only [Logged.value_map]
      split
      · rfl
      · exact Document.outline_update fun b => ⟨_, rfl⟩

/-- **The step of a recheck.** The block gets its identity, whose id is then claimed, and every
other block stays. -/
theorem recheckBlock_listing {r : Recheck} {before after : List Block} {b : Block}
    (hd : r.document.DistinctClients) (hlisting : r.document.listing = before ++ b :: after)
    (hclient : b.clientId ≠ "") :
    (a.recheckBlock recheck r b.clientId).value.document.listing =
        before ++ b.identify (a.reallocate r b recheck).value :: after ∧
      (a.recheckBlock recheck r b.clientId).value.claimed =
        (a.reallocate r b recheck).value.id :: r.claimed ∧
      (a.recheckBlock recheck r b.clientId).value.changed =
        r.changed +
          (if b.styleAttributes.identity = (a.reallocate r b recheck).value then 0 else 1) ∧
      (a.recheckBlock recheck r b.clientId).events = (a.reallocate r b recheck).events := by
  have hmem : b ∈ r.document.listing := by simp [hlisting]
  obtain ⟨c, hc, rfl⟩ := List.mem_map.1 hmem
  have hfound : r.document.find? c.alone.clientId = some c :=
    Document.find?_of_mem_preorder hd hc hclient
  -- Inner blocks have no part in finding an identity.
  have hsame : a.reallocate r c.alone recheck = a.reallocate r c recheck := rfl
  rw [recheckBlock, hfound, hsame]
  simp only [Logged.value_map, Logged.events_map]
  by_cases hstored : (a.reallocate r c recheck).value = c.styleAttributes.identity
  · have hkept : c.alone.styleAttributes.identity = (a.reallocate r c recheck).value :=
      hstored.symm
    rw [if_pos hstored, if_pos hkept, c.alone.identify_of_eq _ hstored]
    exact ⟨hlisting, rfl, rfl, trivial⟩
  · have hnew : c.alone.styleAttributes.identity ≠ (a.reallocate r c recheck).value :=
      Ne.symm hstored
    rw [if_neg hstored, if_neg hnew, c.alone.identify_of_ne _ hstored]
    refine ⟨?_, rfl, rfl, trivial⟩
    -- The update exchanges the block that was found, and the listing has this one only once.
    obtain ⟨before', after', hold, hupdated⟩ :=
      (Document.spliced_update hfound fun b =>
        { b with attributes := (a.reallocate r c recheck).value.write b.attributes }).listing_eq rfl
    obtain ⟨rfl, rfl⟩ := Document.listing_split_unique hd hclient hlisting hold
    exact hupdated

end Allocator

end BlockSheet
