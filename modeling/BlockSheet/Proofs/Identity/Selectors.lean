import BlockSheet.Proofs.Identity.Accepted
import BlockSheet.Proofs.Identity.Recheck
import BlockSheet.Proofs.Identity.Reissue

/-!
# Class names tell blocks apart

A class name is the selector under which the CSS of a block stands, so two blocks must not have the
same one. It is made of the name of the block type and the id, with a hyphen between them. Type
names have hyphens too; but as long as ids have none, the last hyphen of a class name is the one in
front of the id, and blocks with different ids have different class names, whatever their types are
(`id_eq_of_classNameFor_eq`).

Ids that are drawn from hashes have no hyphens. So a recheck that makes ids unique makes class names
unique as well, in every document whose ids have no hyphens and whose class names go with them
(`classNames_apart`).
-/

namespace BlockSheet

/-! ### Reading the id off a class name -/

/-- What stands behind the last separator. -/
theorem eq_of_append_cons_eq {α : Type} {separator : α} {xs ys us vs : List α}
    (hus : separator ∉ us) (hvs : separator ∉ vs)
    (h : xs ++ separator :: us = ys ++ separator :: vs) : us = vs := by
  rw [List.append_eq_append_iff] at h
  rcases h with ⟨between, -, h⟩ | ⟨between, -, h⟩
  · cases between with
    | nil => exact (List.cons.inj h).2
    | cons _ between =>
        rw [(List.cons.inj h).2] at hus
        simp at hus
  · cases between with
    | nil => exact (List.cons.inj h).2.symm
    | cons _ between =>
        rw [(List.cons.inj h).2] at hvs
        simp at hvs

/-- A class name ends in a hyphen and the id. -/
theorem exists_toList_classNameFor (blockName id : String) :
    ∃ name, (classNameFor blockName id).toList = name ++ '-' :: id.toList :=
  ⟨_, by rw [classNameFor, String.toList_ofList]⟩

/-- Whatever the block types are, ids without hyphens can be read off the class names. -/
theorem id_eq_of_classNameFor_eq {n₁ n₂ i₁ i₂ : String} (h₁ : '-' ∉ i₁.toList)
    (h₂ : '-' ∉ i₂.toList) (h : classNameFor n₁ i₁ = classNameFor n₂ i₂) : i₁ = i₂ := by
  obtain ⟨name₁, hchars₁⟩ := exists_toList_classNameFor n₁ i₁
  obtain ⟨name₂, hchars₂⟩ := exists_toList_classNameFor n₂ i₂
  have hchars := congrArg String.toList h
  rw [hchars₁, hchars₂] at hchars
  exact String.toList_inj.1 (eq_of_append_cons_eq h₁ h₂ hchars)

/-! ### Ids without hyphens -/

theorem ShortHash.hyphen_not_mem_generate (h : ShortHash) (clientId : String) (attempt : Nat) :
    '-' ∉ (h.generate clientId attempt).toList := by
  intro hmem
  have hyphen : ¬ IsBase36 '-' := by decide
  exact hyphen (h.isBase36_of_mem_generate clientId attempt hmem)

/-- The id of the block has no hyphen, and the class name, where there is one, is made from it. -/
structure Block.PlainlyNamed (b : Block) : Prop where
  id : '-' ∉ b.styleAttributes.id.toList
  className : b.styleAttributes.className = "" ∨
    b.styleAttributes.className = classNameFor b.name b.styleAttributes.id

/-- The class name is made from an id without hyphens. -/
def Identity.MadeFor (identity : Identity) (blockName : String) : Prop :=
  '-' ∉ identity.id.toList ∧ identity.className = classNameFor blockName identity.id

namespace Allocator

variable {h : ShortHash} {budget : Nat} {b : Block}

theorem hyphen_not_mem_draw (d : Document) (clientId : String) :
    '-' ∉ (draw ⟨h.generate, budget⟩ d clientId).value.toList := by
  rcases (drawn_draw ⟨h.generate, budget⟩ d clientId).value_cases with
    ⟨-, hnone⟩ | ⟨attempt, hdrawn⟩
  · simp [hnone]
  · rw [hdrawn]
    exact h.hyphen_not_mem_generate clientId attempt

/-- A recheck gives such identities, if the block has none other. -/
theorem Reissues.madeFor {recheck : Bool} {identity : Identity}
    (hissued : Reissues ⟨h.generate, budget⟩ recheck b identity) (hb : b.PlainlyNamed) :
    identity.MadeFor b.name := by
  cases hissued with
  | kept =>
      refine ⟨by simpa using hb.id, ?_⟩
      by_cases hclass : b.styleAttributes.className = ""
      · rw [keep_of_no_className hclass]
        rfl
      · rw [keep_of_className hclass]
        exact hb.className.resolve_left hclass
  | redraw d _ => exact ⟨hyphen_not_mem_draw d b.clientId, rfl⟩

/-- After a recheck every holder has a class name that is made from its id, and no hyphen in it. -/
theorem madeFor_allocateDocument (h : ShortHash) (budget : Nat) (recheck : Bool) {d : Document}
    (hd : d.DistinctClients)
    (hplain : ∀ b ∈ d.preorder, b.label.Holds → b.PlainlyNamed) :
    ∀ b ∈ (allocateDocument ⟨h.generate, budget⟩ d recheck).value.1.preorder, b.label.Holds →
      b.styleAttributes.identity.MadeFor b.name := by
  have hlisting := forall_allocateDocument ⟨h.generate, budget⟩ recheck hd
    (P := fun b => b.label.Holds → b.styleAttributes.identity.MadeFor b.name) (by
      rintro b hmem b' (hb | @⟨identity, hb, hissued⟩)
      · intro hholds
        exact absurd hholds hb
      · intro _
        obtain ⟨c, hc, rfl⟩ := List.mem_map.1 hmem
        obtain ⟨hid, hclass⟩ := hplain c hc hb
        rw [Block.identity_identify, Block.name_identify]
        exact hissued.madeFor ⟨hid, hclass⟩)
  intro b hb
  exact hlisting b.alone (List.mem_map_of_mem hb)

end Allocator

/-- **Distinct ids give distinct class names**, as long as they have no hyphens. So in a document
with distinct client ids, in which no id has a hyphen and no class name differs from the one that is
made from the id, a recheck with ids from hashes gives all holders different class names, unless a
draw runs out of its budget. The length of the ids does not matter. -/
theorem classNames_apart :
    (∀ n₁ n₂ i₁ i₂ : String, '-' ∉ i₁.toList → '-' ∉ i₂.toList →
      classNameFor n₁ i₁ = classNameFor n₂ i₂ → i₁ = i₂) ∧
    ∀ (h : ShortHash) (budget : Nat) (d : Document), d.DistinctClients →
      (∀ b ∈ d.preorder, b.label.Holds → b.PlainlyNamed) →
      DrawsSucceeded (Allocator.allocateDocument ⟨h.generate, budget⟩ d true).events →
      (Allocator.allocateDocument ⟨h.generate, budget⟩ d true).value.1.preorder.Pairwise
        fun b c => b.clientId ≠ "" → c.clientId ≠ "" → b.styleAttributes.id ≠ "" →
          c.styleAttributes.id ≠ "" →
            b.styleAttributes.className ≠ c.styleAttributes.className := by
  refine ⟨fun n₁ n₂ i₁ i₂ => id_eq_of_classNameFor_eq, ?_⟩
  intro h budget d hd hplain hdraws
  have hmade := Allocator.madeFor_allocateDocument h budget true hd hplain
  have hpairs := (Allocator.allocateDocument_labels _ hd hdraws).pairwise_id_ne
  rw [Document.labels, List.pairwise_map] at hpairs
  refine hpairs.imp_of_mem ?_
  intro b c hb hc hne hbclient hcclient hbid hcid heq
  obtain ⟨hbplain, hbclass⟩ := hmade b hb ⟨hbclient, hbid⟩
  obtain ⟨hcplain, hcclass⟩ := hmade c hc ⟨hcclient, hcid⟩
  have hsame : classNameFor b.name b.styleAttributes.identity.id =
      classNameFor c.name c.styleAttributes.identity.id := (hbclass.symm.trans heq).trans hcclass
  exact hne ⟨hbclient, hbid⟩ ⟨hcclient, hcid⟩ (id_eq_of_classNameFor_eq hbplain hcplain hsame)

/-- Hashes of one character, all of the same digest. -/
def constantHash : ShortHash := ⟨fun _ => .replicate 32 0, 1⟩

/-- A block and its copy, of a type whose name has a hyphen, and a block whose class name is to be
filled in. -/
def hyphenated : Document :=
  [⟨"a", "t/a-b", [("id", .str "x"), ("className", .str "t-a-b-x")],
      [⟨"b", "t/a-b", [("id", .str "x"), ("className", .str "t-a-b-x")], []⟩]⟩,
    ⟨"c", "t/a", [("id", .str "b")], []⟩]

/-- The class names of the ids `x` and `b` differ, and so do those of the blocks after a recheck,
in which the copy gets a new id. -/
theorem classNames_apart_hyphenated :
    classNameFor "t/a-b" "x" ≠ classNameFor "t/a" "b" ∧
      (Allocator.allocateDocument ⟨constantHash.generate, 1⟩ hyphenated true).value.1.preorder.map
          (fun b => b.styleAttributes.className) =
        ["t-a-b-x", "t-a-b-0", "t-a-b"] ∧
      (Allocator.allocateDocument ⟨constantHash.generate, 1⟩
          hyphenated true).value.1.preorder.Pairwise
        fun b c => b.clientId ≠ "" → c.clientId ≠ "" → b.styleAttributes.id ≠ "" →
          c.styleAttributes.id ≠ "" →
            b.styleAttributes.className ≠ c.styleAttributes.className := by
  obtain ⟨hread, hrun⟩ := classNames_apart
  refine ⟨?_, by cbv, ?_⟩
  · intro heq
    exact absurd (hread _ _ "x" "b" (by decide) (by decide) heq) (by decide)
  · have hd : hyphenated.DistinctClients := by
      simp [Document.DistinctClients, hyphenated, Document.preorder_cons]
    have hplain : ∀ b ∈ hyphenated.preorder, b.label.Holds → b.PlainlyNamed := by
      intro b hb _
      simp only [hyphenated, Document.preorder_cons, Document.preorder_nil, List.append_nil,
        List.cons_append, List.nil_append, List.mem_cons, List.not_mem_nil, or_false] at hb
      rcases hb with rfl | rfl | rfl
      · exact ⟨by decide, .inr (by decide)⟩
      · exact ⟨by decide, .inr (by decide)⟩
      · exact ⟨by decide, .inl (by decide)⟩
    have hevents : (Allocator.allocateDocument ⟨constantHash.generate, 1⟩ hyphenated true).events =
        [.idRepeated "b" "x"] := by
      cbv
    exact hrun constantHash 1 hyphenated hd hplain (by simp [hevents, DrawsSucceeded])

end BlockSheet
