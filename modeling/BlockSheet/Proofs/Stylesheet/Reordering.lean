import BlockSheet.Proofs.Block.Unambiguous
import BlockSheet.Proofs.Stylesheet.Gathering

/-!
# Documents in another order

Several documents are collected one after the other in a request. A reusable block that more than
one of them reaches is carried by the first, so the stylesheet of a document depends on those in
front of it. All stylesheets taken together do not: they hold the styled blocks of the documents,
and those of the content of each reusable block that is reached from any of them, once
(`Carried.mem_trace_iff`). Another order of the documents only moves these blocks about
(`Collector.gatherAll_perm`).
-/

namespace BlockSheet

/-! ### What several documents carry -/

/-- What documents that are walked through one after the other carry, from some marks to others:
the styled blocks that are found, and the reusable blocks whose content is entered. -/
structure Carried (library : Library) (old : List Nat) (ds : List Document) (trace new : List Nat)
    (styled : List Block) : Prop where
  /-- Content is entered as marks are set. -/
  marking : library.Marking old trace new
  /-- All that the documents stand for is marked. -/
  direct : ∀ d ∈ ds, ∀ r, d.RefersTo r → r ∈ new
  /-- Every new mark is reached from a document. -/
  reached : ∀ r ∈ new, r ∈ old ∨ ∃ d ∈ ds, library.Reachable d r
  /-- The newly marked blocks of the library are entered. -/
  entered : ∀ r, r ∈ trace ↔ r ∈ new ∧ r ∉ old ∧ (library.entries.lookup r).isSome = true
  /-- Leaving the order aside, the styled blocks are those of the documents and of all content that
  is entered. -/
  styled : (styled : Multiset Block) =
    (ds : Multiset Document).bind (fun d => (d.styled : Multiset Block)) +
      (trace : Multiset Nat).bind fun r => ((library.content r).styled : Multiset Block)

namespace Carried

variable {library : Library} {old mid new : List Nat} {ds : List Document} {t t' trace : List Nat}

theorem nil (library : Library) (old : List Nat) : Carried library old [] [] old [] where
  marking := .refl old
  direct _ hd := absurd hd List.not_mem_nil
  reached _ hr := .inl hr
  entered _ := ⟨fun h => absurd h List.not_mem_nil, fun h => absurd h.1 h.2.1⟩
  styled := by simp

/-- **One more document** in front: what it is carried with is marked for the others. -/
theorem cons {d : Document} {g : Gathered} {styled : List Block}
    (hwalk : Gathered.Walks library d ⟨old, [], []⟩ t g)
    (h : Carried library g.references ds t' new styled) :
    Carried library old (d :: ds) (t ++ t') new (g.styled ++ styled) := by
  obtain ⟨hmarking, hdirect⟩ := hwalk.marking
  refine ⟨hmarking.trans h.marking, ?_, ?_, ?_, ?_⟩
  · intro d' hd' r hr
    rcases List.mem_cons.1 hd' with rfl | hd'
    · exact h.marking.kept r (hdirect r hr)
    · exact h.direct d' hd' r hr
  · intro r hr
    rcases h.reached r hr with hr | ⟨d', hd', hreach⟩
    · exact (hwalk.reachable r hr).imp_right fun hreach => ⟨d, List.mem_cons_self, hreach⟩
    · exact .inr ⟨d', List.mem_cons_of_mem d hd', hreach⟩
  · intro r
    have hkept := hmarking.kept r
    have hkept' := h.marking.kept r
    rw [List.mem_append, hwalk.mem_trace_iff, h.entered]
    dsimp only at hkept ⊢
    tauto
  · rw [← Multiset.coe_add, ← Multiset.coe_add, hwalk.styled_eq, h.styled, ← Multiset.cons_coe]
    simp only [Multiset.coe_nil, zero_add, Multiset.add_bind, Multiset.cons_bind]
    abel

/-- Where nothing was marked before, the content that is entered is that of the reusable blocks
which are reached from a document. -/
theorem mem_trace_iff {styled : List Block} (h : Carried library [] ds trace new styled) (r : Nat) :
    r ∈ trace ↔
      (∃ d ∈ ds, library.Reachable d r) ∧ (library.entries.lookup r).isSome = true := by
  rw [h.entered]
  constructor
  · rintro ⟨hr, hold, hfind⟩
    exact ⟨(h.reached r hr).resolve_left hold, hfind⟩
  · rintro ⟨⟨d, hd, hreach⟩, hfind⟩
    exact ⟨h.marking.mem_of_reachable hreach (h.direct d hd), List.not_mem_nil, hfind⟩

/-- **Another order** of the documents carries the same styled blocks. -/
theorem styled_perm {ds' : List Document} {trace' new' : List Nat} {styled styled' : List Block}
    (h : Carried library [] ds trace new styled) (h' : Carried library [] ds' trace' new' styled')
    (hperm : ds.Perm ds') : styled.Perm styled' := by
  -- Nothing is entered twice, and what is entered does not depend on the order.
  have htrace : trace.Perm trace' := by
    refine (List.perm_ext_iff_of_nodup h.marking.nodup h'.marking.nodup).2 fun r => ?_
    rw [h.mem_trace_iff, h'.mem_trace_iff]
    simp only [hperm.mem_iff]
  rw [← Multiset.coe_eq_coe, h.styled, h'.styled, Multiset.coe_eq_coe.2 hperm,
    Multiset.coe_eq_coe.2 htrace]

end Carried

namespace Collector

variable (c : Collector)

/-! ### Collecting several documents -/

/-- The stylesheets of documents that are collected one after the other. -/
def collectAll : List Document → ParseState → List (Option String)
  | [], _ => []
  | d :: ds, state =>
    (c.collect d state).value.1 :: collectAll ds (c.collect d state).value.2

/-- The styled blocks that each of these calls finds. -/
def gatherAll : List Document → ParseState → List (List Block)
  | [], _ => []
  | d :: ds, state => (c.found d state).styled :: gatherAll ds (c.collect d state).value.2

/-- Documents with new and different contents: each has a stylesheet, of what the calls carry. -/
theorem carried_gatherAll {ds : List Document} (state : ParseState) (hne : ∀ d ∈ ds, d ≠ [])
    (hnew : ∀ d ∈ ds, contentDigest c.digest d ∉ state.contents)
    (hdiffer : (ds.map (contentDigest c.digest)).Nodup) :
    c.collectAll ds state = (c.gatherAll ds state).map (fun styled => some (c.sheetOf styled)) ∧
      ∃ trace new, Carried c.library state.references ds trace new
        (c.gatherAll ds state).flatten := by
  induction ds generalizing state with
  | nil => exact ⟨rfl, [], state.references, .nil _ _⟩
  | cons d ds ih =>
      rw [List.forall_mem_cons] at hne hnew
      rw [List.map_cons, List.nodup_cons] at hdiffer
      have hcall := c.collect_of_new hne.1 hnew.1
      -- The content of this call is new for the others, which differ from it.
      have hnew' : ∀ d' ∈ ds, contentDigest c.digest d' ∉
          (c.collect d state).value.2.contents := by
        intro d' hd' hmem
        rw [hcall] at hmem
        rcases List.mem_cons.1 hmem with heq | hmem
        · exact hdiffer.1 (List.mem_map.2 ⟨d', hd', heq⟩)
        · exact hnew.2 d' hd' hmem
      obtain ⟨t, hwalk⟩ := Gathered.exists_walks_gather c.library d ⟨state.references, [], []⟩
      obtain ⟨hsheets, t', new, hcarried⟩ := ih _ hne.2 hnew' hdiffer.2
      rw [hcall] at hsheets hcarried
      rw [collectAll, gatherAll, hcall]
      exact ⟨congrArg _ hsheets, t ++ t', new, hcarried.cons hwalk⟩

/-- **Order of documents.** Non-empty documents that differ from each other are collected one after
the other in a request that begins, with digests that tell their texts apart. In every order each
of them has a stylesheet. In another order the calls taken together find the same styled blocks,
each as often, and so they write the same pieces of CSS. -/
theorem gatherAll_perm {ds ds' : List Document} (hperm : ds.Perm ds') (hne : ∀ d ∈ ds, d ≠ [])
    (hnodup : ds.Nodup)
    (hdigest : ∀ d ∈ ds, ∀ d' ∈ ds, c.digest d.text = c.digest d'.text → d.text = d'.text) :
    (∀ es, ds.Perm es → c.collectAll es .empty =
        (c.gatherAll es .empty).map fun styled => some (c.sheetOf styled)) ∧
      (c.gatherAll ds .empty).flatten.Perm (c.gatherAll ds' .empty).flatten ∧
      ((c.gatherAll ds .empty).flatten.filterMap c.blockCss?).Perm
        ((c.gatherAll ds' .empty).flatten.filterMap c.blockCss?) := by
  have hdiffer : (ds.map (contentDigest c.digest)).Nodup := by
    refine List.Nodup.map_on (fun d hd d' hd' heq => ?_) hnodup
    exact Document.text_injective (hdigest d hd d' hd' heq)
  have hcarried : ∀ es, ds.Perm es →
      c.collectAll es .empty =
          (c.gatherAll es .empty).map (fun styled => some (c.sheetOf styled)) ∧
        ∃ trace new, Carried c.library [] es trace new (c.gatherAll es .empty).flatten :=
    fun es hes => c.carried_gatherAll .empty (fun d hd => hne d (hes.mem_iff.2 hd))
      (fun _ _ => List.not_mem_nil) ((hes.map _).nodup_iff.1 hdiffer)
  obtain ⟨-, _, _, hds⟩ := hcarried ds (.refl ds)
  obtain ⟨-, _, _, hds'⟩ := hcarried ds' hperm
  have hstyled := hds.styled_perm hds' hperm
  exact ⟨fun es hes => (hcarried es hes).1, hstyled, hstyled.filterMap _⟩

/-- A block that stands for the reusable block of number seven. -/
def seventhReference : Block :=
  (Block.new "" reusableName).withAttribute "ref" (.num (.int ⟨7, by decide, by decide⟩))

/-- Collects with one reusable block, which has styles and contains itself. -/
def selfContaining : Collector :=
  ⟨fun text => Vector.replicate 32 (UInt8.ofNat text.toList.length),
    ⟨[(7, [seventhReference.withAttribute "styles" (.obj [("margin", .str "0")])])]⟩,
    fun _ => none, none⟩

/-- Two documents reach the same reusable block, and either of them may come first. -/
theorem gatherAll_perm_selfContaining :
    (selfContaining.gatherAll
        [[seventhReference], [seventhReference, .new "" "core/group"]] .empty).flatten.Perm
      (selfContaining.gatherAll
        [[seventhReference, .new "" "core/group"], [seventhReference]] .empty).flatten :=
  (selfContaining.gatherAll_perm (.swap _ _ []) (by simp)
    (List.nodup_cons.2 ⟨by simp, List.nodup_singleton _⟩) (by decide +kernel)).2.1

end Collector

end BlockSheet
