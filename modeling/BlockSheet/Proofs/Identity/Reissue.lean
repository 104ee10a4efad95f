import Mathlib
import BlockSheet.Proofs.Identity.Allocation
import BlockSheet.Proofs.Identity.Step

/-!
# What a recheck writes

A recheck finds blocks by their client ids and writes identities into them. This module says what
that comes to for the document as a whole, whatever becomes of the draws
(`allocateDocument_reidentified`):

* the tree of blocks stays, and in each block all attributes but the id and the class name;
* a block that has no client id or holds no id stays as it is;
* without force only the class names are filled in that holders lack;
* the number in the answer is the number of blocks that have another identity in the end.

The run is followed block by block. A step exchanges the next holder of the listing, which no step
has touched before; so every holder turns into one with the identity of its own step, and any other
block into itself (`Turns`).
-/

namespace BlockSheet

open Json (Value Fields)

/-! ### Writing an identity -/

namespace Identity

variable (identity : Identity) (attributes : Attributes)

/-- Only the id and the class name are written. -/
theorem get?_write_of_ne {name : String} (hid : name ≠ "id") (hclass : name ≠ "className") :
    (identity.write attributes).get? name = attributes.get? name := by
  rw [write, Fields.get?_insert, Fields.get?_insert, if_neg hclass.symm, if_neg hid.symm]

theorem keys_prefix_write : attributes.keys <+: (identity.write attributes).keys :=
  (Fields.keys_prefix_insert _ _ _).trans (Fields.keys_prefix_insert _ _ _)

/-- Together with the id that is there only the class name is written. -/
theorem write_of_id (hid : StyleAttributes.textOf attributes "id" = identity.id)
    (hne : identity.id ≠ "") :
    identity.write attributes = attributes.insert "className" (.str identity.className) := by
  have hstored : attributes.get? "id" = some (.str identity.id) := by
    rw [StyleAttributes.textOf] at hid
    cases hget : attributes.get? "id" with
    | none => simp [hget, hne.symm] at hid
    | some value => cases value <;> simp_all [Value.string?]
  rw [write, Fields.insert_of_get? hstored]

end Identity

namespace Block

variable (b : Block) (identity : Identity)

/-- Only the id and the class name may change. -/
theorem get?_identify_of_ne {name : String} (hid : name ≠ "id") (hclass : name ≠ "className") :
    (b.identify identity).attributes.get? name = b.attributes.get? name := by
  unfold identify
  split
  · rfl
  · exact identity.get?_write_of_ne b.attributes hid hclass

theorem keys_prefix_identify : b.attributes.keys <+: (b.identify identity).attributes.keys := by
  unfold identify
  split
  · exact List.prefix_refl _
  · exact identity.keys_prefix_write b.attributes

end Block

/-- The number of blocks in the first list in whose place the second list has another identity. -/
def identityChanges (bs bs' : List Block) : Nat :=
  (bs.zip bs').countP fun p =>
    (p.1.styleAttributes.id, p.1.styleAttributes.className) ≠
      (p.2.styleAttributes.id, p.2.styleAttributes.className)

theorem identityChanges_cons (b b' : Block) (bs bs' : List Block) :
    identityChanges (b :: bs) (b' :: bs') =
      (if b.styleAttributes.identity = b'.styleAttributes.identity then 0 else 1) +
        identityChanges bs bs' := by
  have hpair : b.styleAttributes.identity = b'.styleAttributes.identity ↔
      (b.styleAttributes.id, b.styleAttributes.className) =
        (b'.styleAttributes.id, b'.styleAttributes.className) := by
    rw [StyleAttributes.identity, StyleAttributes.identity, Identity.mk.injEq, Prod.mk.injEq]
  rw [identityChanges, List.zip_cons_cons, List.countP_cons, Nat.add_comm, identityChanges]
  by_cases h : b.styleAttributes.identity = b'.styleAttributes.identity <;> simp [h, ← hpair]

/-- Inner blocks do not matter. -/
theorem identityChanges_alone (bs bs' : List Block) :
    identityChanges (bs.map Block.alone) (bs'.map Block.alone) = identityChanges bs bs' := by
  rw [identityChanges, List.zip_map, List.countP_map]
  rfl

/-! ### What becomes of a single block -/

namespace Allocator

variable (a : Allocator) (recheck : Bool)

/-- The identities that a recheck may give to a holder: its own one, the class name filled in, or
one with a new id, where that is drawn. -/
inductive Reissues (b : Block) : Identity → Prop
  | kept : Reissues b (keep b)
  /-- Ids are drawn in the document as it is by then. -/
  | redraw (d : Document) (hrecheck : recheck = true) :
    Reissues b (.ofId b.name (a.draw d b.clientId).value)

theorem reissues_reallocate (r : Recheck) {b : Block} (hid : b.styleAttributes.id ≠ "") :
    a.Reissues recheck b (a.reallocate r b recheck).value := by
  rw [reallocate]
  cases hclaimed : recheck && r.claimed.contains b.styleAttributes.id with
  | true => exact .redraw r.document (Bool.and_eq_true _ _ ▸ hclaimed).1
  | false =>
      have hkeep : a.allocate b r.document false = .pure (keep b) := by
        rw [allocate, if_neg (by simpa using hid), Bool.false_and]
        rfl
      rw [if_neg Bool.false_ne_true, hkeep]
      exact .kept

/-- What a recheck makes of a block. -/
inductive Turns : Block → Block → Prop
  /-- Whatever is not a holder stays. -/
  | skip {b : Block} (hb : ¬ b.label.Holds) : Turns b b
  | issue {b : Block} {identity : Identity} (hb : b.label.Holds)
    (h : a.Reissues recheck b identity) : Turns b (b.identify identity)

/-! ### The run -/

theorem outline_recheckAll (r : Recheck) (clientIds : List String) :
    (a.recheckAll recheck clientIds r).value.document.outline = r.document.outline := by
  induction clientIds generalizing r with
  | nil => rfl
  | cons clientId clientIds ih =>
      rw [recheckAll, Logged.value_bind, ih, outline_recheckBlock]

/-- **The run of a recheck** over the holders of a listing, from some point on. -/
theorem recheckAll_listing {r : Recheck} {before rest : List Block}
    (hd : r.document.DistinctClients) (hlisting : r.document.listing = before ++ rest) :
    ∃ rest',
      (a.recheckAll recheck ((rest.filter fun b => b.label.Holds).map Block.clientId)
        r).value.document.listing = before ++ rest' ∧
      List.Forall₂ (a.Turns recheck) rest rest' ∧
      (a.recheckAll recheck ((rest.filter fun b => b.label.Holds).map Block.clientId)
        r).value.changed = r.changed + identityChanges rest rest' := by
  induction rest generalizing r before with
  | nil => exact ⟨[], hlisting, .nil, rfl⟩
  | cons b rest ih =>
      by_cases hb : b.label.Holds
      -- The holder comes next, and joins the part that is done.
      · rw [List.filter_cons_of_pos (by simpa using hb), List.map_cons, recheckAll,
          Logged.value_bind]
        obtain ⟨hstep, -, hchanged, -⟩ := a.recheckBlock_listing recheck hd hlisting hb.1
        have hissued := a.reissues_reallocate recheck r hb.2
        obtain ⟨rest', hrest', hturns, hcount⟩ :=
          ih (hd.of_outline (a.outline_recheckBlock recheck r b.clientId))
            (hstep.trans (List.append_cons _ _ _))
        refine ⟨_ :: rest', ?_, .cons (.issue hb hissued) hturns, ?_⟩
        · rw [hrest', List.append_assoc, List.singleton_append]
        · rw [hcount, hchanged, identityChanges_cons, Block.identity_identify, Nat.add_assoc]
      · rw [List.filter_cons_of_neg (by simpa using hb)]
        obtain ⟨rest', hrest', hturns, hcount⟩ := ih hd (hlisting.trans (List.append_cons _ _ _))
        refine ⟨b :: rest', ?_, .cons (.skip hb) hturns, ?_⟩
        · rw [hrest', List.append_assoc, List.singleton_append]
        · rw [hcount, identityChanges_cons, if_pos rfl, Nat.zero_add]

/-- What a recheck makes of the blocks of a document, and how many of them it gives another
identity. -/
theorem allocateDocument_turns {d : Document} (hd : d.DistinctClients) :
    List.Forall₂ (a.Turns recheck) d.listing (a.allocateDocument d recheck).value.1.listing ∧
      (a.allocateDocument d recheck).value.2 =
        identityChanges d.listing (a.allocateDocument d recheck).value.1.listing := by
  have hclients : d.holders.map Prod.snd =
      (d.listing.filter fun b => b.label.Holds).map Block.clientId := by
    rw [Document.map_snd_holders, Document.labels_eq_listing, List.filter_map, List.map_map]
    rfl
  obtain ⟨blocks, hblocks, hturns, hcount⟩ :=
    @recheckAll_listing a recheck ⟨d, [], 0⟩ [] d.listing hd rfl
  rw [List.nil_append] at hblocks
  rw [Nat.zero_add] at hcount
  rw [allocateDocument, hclients]
  simp only [Logged.value_map, hblocks, hcount]
  exact ⟨hturns, trivial⟩

/-- What holds of whatever a block of the document may turn into holds of all blocks afterwards. -/
theorem forall_allocateDocument {d : Document} (hd : d.DistinctClients) {P : Block → Prop}
    (h : ∀ b ∈ d.listing, ∀ b', a.Turns recheck b b' → P b') :
    ∀ b' ∈ (a.allocateDocument d recheck).value.1.listing, P b' := by
  have hturns := (a.allocateDocument_turns recheck hd).1
  generalize d.listing = bs at h hturns
  generalize (a.allocateDocument d recheck).value.1.listing = bs' at hturns ⊢
  induction hturns with
  | nil => simp
  | cons hturn _ ih =>
      rw [List.forall_mem_cons] at h ⊢
      exact ⟨h.1 _ hturn, ih h.2⟩

theorem outline_allocateDocument (d : Document) :
    (a.allocateDocument d recheck).value.1.outline = d.outline := by
  rw [allocateDocument, Logged.value_map, outline_recheckAll]

end Allocator

/-! ### What stays in a document -/

/-- What a recheck leaves of a block, and what it does without force. -/
structure Block.Reidentified (recheck : Bool) (b b' : Block) : Prop where
  /-- Other attributes keep their values. -/
  others : ∀ name, name ≠ "id" → name ≠ "className" →
    b'.attributes.get? name = b.attributes.get? name
  /-- The keys that were there keep their order; a new one comes behind them. -/
  keys : b.attributes.map Prod.fst <+: b'.attributes.map Prod.fst
  /-- What has no client id, or holds no id, is left alone. -/
  untouched : b.clientId = "" ∨ b.styleAttributes.id = "" → b'.attributes = b.attributes
  /-- Without force no id changes. -/
  id : recheck = false → b'.styleAttributes.id = b.styleAttributes.id
  /-- Without force a block that has a class name is left alone. -/
  named : recheck = false → b.styleAttributes.className ≠ "" → b'.attributes = b.attributes
  /-- Without force holders that lack one get their class name, and nothing else. -/
  filled : recheck = false → b.clientId ≠ "" → b.styleAttributes.id ≠ "" →
    b.styleAttributes.className = "" →
    b'.attributes =
      b.attributes.insert "className" (.str (classNameFor b.name b.styleAttributes.id))

namespace Allocator

variable {a : Allocator} {recheck : Bool} {b b' : Block}

/-- Without force a holder gets no new id. -/
theorem Reissues.eq_keep {identity : Identity} (h : a.Reissues false b identity) :
    identity = keep b := by
  cases h with
  | kept => rfl
  | redraw _ hrecheck => cases hrecheck

theorem identify_keep_of_className (hclass : b.styleAttributes.className ≠ "") :
    b.identify (keep b) = b :=
  b.identify_of_eq _ (keep_of_className hclass)

/-- A class name that is missing is all that is written with the kept identity. -/
theorem identify_keep_of_no_className (hid : b.styleAttributes.id ≠ "")
    (hclass : b.styleAttributes.className = "") :
    b.identify (keep b) =
      { b with
        attributes := b.attributes.insert "className"
          (.str (classNameFor b.name b.styleAttributes.id)) } := by
  have hnew : keep b ≠ b.styleAttributes.identity := by
    intro heq
    exact className_keep_ne_empty b ((congrArg Identity.className heq).trans hclass)
  rw [b.identify_of_ne _ hnew, keep_of_no_className hclass,
    Identity.write_of_id (.ofId b.name b.styleAttributes.id) b.attributes rfl hid]
  rfl

/-- Without force no label changes. -/
theorem Turns.label_eq (h : a.Turns false b b') : b'.label = b.label := by
  cases h with
  | skip _ => rfl
  | issue _ h =>
      rw [h.eq_keep, Block.label_identify, id_keep]
      rfl

theorem allocateDocument_false_labels {d : Document} (hd : d.DistinctClients) :
    (a.allocateDocument d false).value.1.labels = d.labels := by
  obtain ⟨hturns, -⟩ := a.allocateDocument_turns false hd
  have hlabels := hturns.imp fun _ _ h => h.label_eq
  rw [Document.labels_eq_listing, Document.labels_eq_listing, ← List.forall₂_eq_eq_eq,
    List.forall₂_map_left_iff, List.forall₂_map_right_iff]
  exact hlabels.flip

/-- An identity that is written touches nothing but the id and the class name. -/
theorem Turns.reidentified (h : a.Turns recheck b b') : b.Reidentified recheck b' := by
  cases h with
  | skip hb =>
      refine ⟨fun _ _ _ => rfl, List.prefix_refl _, fun _ => rfl, fun _ => rfl, fun _ _ => rfl, ?_⟩
      intro _ hclient hid
      exact absurd ⟨hclient, hid⟩ hb
  | @issue identity hb h =>
      refine ⟨fun _ => b.get?_identify_of_ne identity, b.keys_prefix_identify identity,
        ?_, ?_, ?_, ?_⟩
      · rintro (hclient | hid)
        · exact absurd hclient hb.1
        · exact absurd hid hb.2
      · rintro rfl
        rw [h.eq_keep]
        exact (congrArg Identity.id (b.identity_identify (keep b))).trans (id_keep b)
      · rintro rfl hclass
        rw [h.eq_keep, identify_keep_of_className hclass]
      · rintro rfl - hid hclass
        rw [h.eq_keep, identify_keep_of_no_className hid hclass]

end Allocator

/-- What a recheck leaves of a document, with the number that it answers. -/
structure Document.Reidentified (recheck : Bool) (d d' : Document) (changed : Nat) : Prop where
  /-- The same blocks stand in the same places, under their client ids and names. -/
  outline : d'.outline = d.outline
  blocks : List.Forall₂ (Block.Reidentified recheck) d.preorder d'.preorder
  /-- The number of blocks that have another id or class name. -/
  changed : changed = identityChanges d.preorder d'.preorder

/-- **What a recheck writes**, in a document with distinct client ids, with force or without,
whatever becomes of its draws: ids and class names of holders. The answer counts the blocks whose id
or class name has changed. -/
theorem allocateDocument_reidentified (a : Allocator) (d : Document) (hd : d.DistinctClients)
    (recheck : Bool) :
    d.Reidentified recheck (a.allocateDocument d recheck).value.1
      (a.allocateDocument d recheck).value.2 := by
  obtain ⟨hturns, hcount⟩ := a.allocateDocument_turns recheck hd
  refine ⟨a.outline_allocateDocument recheck d, ?_, ?_⟩
  · rw [Document.listing, Document.listing, List.forall₂_map_left_iff,
      List.forall₂_map_right_iff] at hturns
    refine hturns.imp fun b b' h => ?_
    obtain ⟨hothers, hkeys, huntouched, hid, hnamed, hfilled⟩ := h.reidentified
    exact ⟨hothers, hkeys, huntouched, hid, hnamed, hfilled⟩
  · rw [hcount, Document.listing, Document.listing, identityChanges_alone]

/-- An original that lacks its class name, a copy that has it, and a block without a client id. -/
def halfNamed : Document :=
  [⟨"a", "t/a", [("id", .str "x"), ("align", .str "left")],
      [⟨"b", "t/a", [("className", .str "t-a-x"), ("id", .str "x")], []⟩]⟩,
    ⟨"", "t/a", [("id", .str "x")], []⟩]

/-- The draw for the copy runs out at the id that the copy has, so that only the class name of the
original is written. -/
theorem allocateDocument_reidentified_halfNamed :
    halfNamed.DistinctClients ∧
      (Allocator.allocateDocument ⟨fun _ _ => "x", 1⟩ halfNamed true).events =
        [.idRepeated "b" "x", .budgetExhausted 1 "b" "x"] ∧
      (Allocator.allocateDocument ⟨fun _ _ => "x", 1⟩ halfNamed true).value.1.preorder.map
          Block.attributes =
        [[("id", .str "x"), ("align", .str "left"), ("className", .str "t-a-x")],
          [("className", .str "t-a-x"), ("id", .str "x")], [("id", .str "x")]] ∧
      halfNamed.Reidentified true
        (Allocator.allocateDocument ⟨fun _ _ => "x", 1⟩ halfNamed true).value.1 1 := by
  have hd : halfNamed.DistinctClients := by
    simp [Document.DistinctClients, halfNamed, Document.preorder_cons]
  have hchanged : (Allocator.allocateDocument ⟨fun _ _ => "x", 1⟩ halfNamed true).value.2 = 1 := by
    cbv
  have hrun := allocateDocument_reidentified ⟨fun _ _ => "x", 1⟩ halfNamed hd true
  rw [hchanged] at hrun
  exact ⟨hd, by cbv, by cbv, hrun⟩

end BlockSheet
