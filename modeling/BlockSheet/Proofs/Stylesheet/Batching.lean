import BlockSheet.Proofs.Stylesheet.Preview
import BlockSheet.Proofs.Stylesheet.Reordering
import BlockSheet.Proofs.Text.Pattern

/-!
# Documents in batches

A page may hand its blocks over in one call or in several. The calls of a request share two things:
the content that was collected before, and the reusable blocks that were entered. Only the second
one reaches into a walk, which looks at the marks that it begins with and at nothing else that was
found before (`Gathered.gather_behind`). So a walk through a document that is put together goes on
behind its first part as a call of its own would (`Collector.found_append`).

What the calls write is put together as well: the stylesheet of all blocks has the stylesheets of
the two parts on lines of their own, where an empty one leaves no line (`Collector.collect_append`).
Filters may do what they like; but what a variable stands for must not be empty, as a block whose
text vanishes with its variables keeps its line.
-/

namespace BlockSheet

namespace Gathered

/-! ### What was found before -/

/-- What a later part of a walk finds, behind what was found before. Its marks include those that
it began with. -/
def behind (g₀ g : Gathered) : Gathered :=
  ⟨g.references, g₀.styled ++ g.styled, g₀.events ++ g.events⟩

variable {library : Library} {d : Document} {g g' : Gathered} {trace : List Nat}

@[simp] theorem references_behind (g₀ g : Gathered) :
    (g₀.behind g).references = g.references := rfl

theorem mark_behind (g₀ g : Gathered) (r : Nat) :
    (g₀.behind g).mark r = g₀.behind (g.mark r) := rfl

theorem miss_behind (g₀ g : Gathered) (r : Nat) :
    (g₀.behind g).miss r = g₀.behind (g.miss r) := by
  simp [behind, miss, List.append_assoc]

theorem take_behind (g₀ g : Gathered) (b : Block) :
    (g₀.behind g).take b = g₀.behind (g.take b) := by
  rw [take, take]
  cases b.styleAttributes.styles.isEmpty <;> simp [behind, List.append_assoc]

/-- A walk does the same whatever was found before it, apart from the marks. -/
theorem Walks.behind (h : Walks library d g trace g') (g₀ : Gathered) :
    Walks library d (g₀.behind g) trace (g₀.behind g') := by
  induction h with
  | nil => exact .nil
  | skip hb _ _ ihInner ihRest =>
      rw [← take_behind] at ihInner
      exact .skip hb ihInner ihRest
  | absent hb hr hfind _ _ ihInner ihRest =>
      rw [← take_behind, ← miss_behind, ← mark_behind] at ihInner
      exact .absent hb hr hfind ihInner ihRest
  | enter hb hr hfind _ _ _ ihWithin ihInner ihRest =>
      rw [← mark_behind] at ihWithin
      rw [← take_behind] at ihInner
      exact .enter hb hr hfind ihWithin ihInner ihRest

/-- **What was found before** stays in front, and only its marks count. -/
theorem gather_behind (library : Library) (d : Document) (g₀ g : Gathered) :
    gather library d (g₀.behind g) = g₀.behind (gather library d g) := by
  obtain ⟨_, hwalk⟩ := exists_walks_gather library d g
  obtain ⟨_, hwalk'⟩ := exists_walks_gather library d (g₀.behind g)
  exact (hwalk'.unique (hwalk.behind g₀)).2

theorem gather_eq_behind (library : Library) (d : Document) (g : Gathered) :
    gather library d g = g.behind (gather library d ⟨g.references, [], []⟩) := by
  rw [← gather_behind, behind, List.append_nil, List.append_nil]

/-! ### Documents that are put together -/

theorem walk_append (enter : Nat → Gathered → Gathered) (a b : Document) (g : Gathered) :
    walk enter (a ++ b) g = walk enter b (walk enter a g) := by
  induction a generalizing g with
  | nil => rw [List.nil_append, walk_nil]
  | cons block a ih => rw [List.cons_append, walk_cons, walk_cons, ih]

theorem gather_append (library : Library) (a b : Document) (g : Gathered) :
    gather library (a ++ b) g = gather library b (gather library a g) := walk_append _ a b g

end Gathered

namespace Collector

variable (c : Collector)

/-- **A document that is put together**: behind the first part the walk goes on as a call on the
second part would that begins with its marks. -/
theorem found_append (a b : Document) (state : ParseState) (contents : List Hash.Digest) :
    c.found (a ++ b) state =
      (c.found a state).behind (c.found b ⟨contents, (c.found a state).references⟩) := by
  rw [found, Gathered.gather_append, Gathered.gather_eq_behind]
  rfl

variable {c} {sizes : MediaSizes}

/-! ### Stylesheets that are put together -/

/-- The CSS of a block is not empty, where variables do not stand for empty texts. -/
theorem blockCss?_ne_empty (hresolver : c.resolver = sizes.resolver) {b : Block} {text : String}
    (h : c.blockCss? b = some text) : text ≠ "" := by
  rw [blockCss?] at h
  rw [Option.ite_none_left_eq_some] at h
  obtain ⟨hcss, htext⟩ := h
  rw [← Option.some.inj htext, hresolver, ne_eq,
    resolveVariables_eq_empty_iff sizes.resolver_ne_empty, ← String.isEmpty_iff]
  exact hcss

theorem sheetOf_append (hresolver : c.resolver = sizes.resolver) (xs ys : List Block) :
    c.sheetOf (xs ++ ys) =
      Text.join "\n" ([c.sheetOf xs, c.sheetOf ys].filter fun text => text ≠ "") := by
  have hne : ∀ blocks : List Block, ∀ text ∈ blocks.filterMap c.blockCss?, text ≠ "" := by
    intro blocks text htext
    obtain ⟨b, -, hb⟩ := List.mem_filterMap.1 htext
    exact blockCss?_ne_empty hresolver hb
  rw [sheetOf, List.filterMap_append]
  exact Text.join_append "\n" (hne xs) (hne ys)

/-- **Batches.** Two documents that are not empty are collected in a request, one after the other or
put together in one call. They, the document that is put together and those that the request has
collected before differ from each other, and digests tell their texts apart. Then both calls have a
stylesheet, and the one call has what they have, joined by a line break where both are not empty.
Either way the same reusable blocks have been entered. -/
theorem collect_append (hresolver : c.resolver = sizes.resolver) {state : ParseState}
    {parsed : List Document} {a b : Document}
    (hparsed : ∀ x ∈ state.contents, ∃ d ∈ parsed, contentDigest c.digest d = x)
    (ha : a ≠ []) (hb : b ≠ []) (hab : a ≠ b)
    (hnew : ∀ d ∈ parsed, d ≠ a ∧ d ≠ b ∧ d ≠ a ++ b)
    (hdigest : ∀ d ∈ a :: b :: (a ++ b) :: parsed, ∀ d' ∈ a :: b :: (a ++ b) :: parsed,
      c.digest d.text = c.digest d'.text → d.text = d'.text) :
    ∃ first second, (c.collect a state).value.1 = some first ∧
      (c.collect b (c.collect a state).value.2).value.1 = some second ∧
      (c.collect (a ++ b) state).value.1 =
        some ("\n".intercalate ([first, second].filter fun text => text ≠ "")) ∧
      (c.collect (a ++ b) state).value.2.references =
        (c.collect b (c.collect a state).value.2).value.2.references := by
  -- Digests tell the documents apart, so all three calls are made on new content.
  have happart : ∀ d ∈ a :: b :: (a ++ b) :: parsed, ∀ d' ∈ a :: b :: (a ++ b) :: parsed,
      contentDigest c.digest d = contentDigest c.digest d' → d = d' :=
    fun d hd d' hd' heq => Document.text_injective (hdigest d hd d' hd' heq)
  have hcontents : ∀ d ∈ [a, b, a ++ b], contentDigest c.digest d ∉ state.contents := by
    intro d hd hmem
    obtain ⟨d', hd', heq⟩ := hparsed _ hmem
    obtain rfl : d' = d := happart d' (by simp [hd']) d (List.mem_append_left parsed hd) heq
    have hne := hnew d' hd'
    simp only [List.mem_cons, List.not_mem_nil, or_false] at hd
    tauto
  have hcallA := c.collect_of_new ha (hcontents a (by simp))
  have hcallAB := c.collect_of_new (List.append_ne_nil_of_left_ne_nil ha b)
    (hcontents (a ++ b) (by simp))
  have hnewB : contentDigest c.digest b ∉ (c.collect a state).value.2.contents := by
    rw [hcallA, List.mem_cons, not_or]
    exact ⟨fun heq => hab (happart b (by simp) a (by simp) heq).symm, hcontents b (by simp)⟩
  have hcallB := c.collect_of_new hb hnewB
  rw [hcallA] at hcallB
  rw [hcallA, hcallB, hcallAB]
  have hfound := c.found_append a b state (contentDigest c.digest a :: state.contents)
  refine ⟨_, _, rfl, rfl, ?_, by rw [hfound, Gathered.references_behind]⟩
  rw [hfound, Gathered.behind, sheetOf_append hresolver, Text.join_eq_intercalate]

/-- Collects for groups with an own filter, with one reusable block that contains itself. -/
def groupCollector : Collector :=
  { selfContaining with resolver := MediaSizes.standard.resolver, registry := some spacedGroups }

/-- A request that has collected a heading and entered the reusable block of number three. -/
def headingState : ParseState :=
  ⟨[contentDigest groupCollector.digest [.new "" "core/heading"]], [3]⟩

/-- Both parts of a document refer to the same reusable block, which the first one brings along. -/
theorem collect_append_headingState :
    ∃ first second,
      (groupCollector.collect [seventhReference] headingState).value.1 = some first ∧
      (groupCollector.collect [seventhReference, styledGroup]
        (groupCollector.collect [seventhReference] headingState).value.2).value.1 = some second ∧
      (groupCollector.collect ([seventhReference] ++ [seventhReference, styledGroup])
        headingState).value.1 =
          some ("\n".intercalate ([first, second].filter fun text => text ≠ "")) ∧
      (groupCollector.collect ([seventhReference] ++ [seventhReference, styledGroup])
        headingState).value.2.references =
      (groupCollector.collect [seventhReference, styledGroup]
        (groupCollector.collect [seventhReference] headingState).value.2).value.2.references := by
  have hparsed : ∀ x ∈ headingState.contents, ∃ d ∈ [[Block.new "" "core/heading"]],
      contentDigest groupCollector.digest d = x := by simp [headingState]
  have hnodup : ([[seventhReference], [seventhReference, styledGroup],
      [seventhReference] ++ [seventhReference, styledGroup],
      [.new "" "core/heading"]].map (contentDigest groupCollector.digest)).Nodup := by
    -- The digest is a length, and that of a text need not be taken from the text itself.
    have hlength : contentDigest groupCollector.digest = fun d =>
        Vector.replicate 32 (UInt8.ofNat (Json.arrayText (blockTexts d)).length) := by
      funext d
      exact congrArg (fun chars => Vector.replicate 32 (UInt8.ofNat chars.length))
        String.toList_ofList
    rw [hlength]
    decide +kernel
  refine collect_append rfl hparsed (List.cons_ne_nil _ _) (List.cons_ne_nil _ _) (by simp) ?_ ?_
  · simp [seventhReference, Block.new, Block.withAttribute, reusableName]
  · intro d hd d' hd' heq
    rw [List.inj_on_of_nodup_map hnodup hd hd' heq]

end Collector

end BlockSheet
