import BlockSheet.Proofs.Stylesheet.Request

/-!
# Repeated content

A request passes over content that it has collected before. It keeps no content but the digests of
texts, so what counts as repeated rests on two things: that different documents have different
texts, which holds without exception (`Document.text_injective`), and that different texts have
different digests, which is assumed of the texts at hand. Then a call has no stylesheet exactly when
its document is empty or the document of an earlier call (`Request.none_iff_repeated`), whatever
libraries, resolvers and block types the calls were made with.
-/

namespace BlockSheet

open Hash (DigestFunction)

namespace Request

variable {digest : DigestFunction}

/-! ### One call -/

theorem collect_eq_none_iff {library : Library} {call : Call} {state : ParseState} :
    (call.collect digest library state).value.1 = none ↔
      call.document = [] ∨ contentDigest digest call.document ∈ state.contents := by
  constructor
  · exact fun h => (collect_none h).2
  · intro h
    rw [Call.collect, Collector.collect]
    by_cases hempty : call.document = []
    · rw [if_pos (List.isEmpty_iff.2 hempty)]
      rfl
    · have hparsed : state.isContentParsed digest call.document = true := by
        simpa [ParseState.isContentParsed] using h.resolve_left hempty
      rw [if_neg (mt List.isEmpty_iff.1 hempty), if_pos hparsed]

/-- **One call** adds the digest of its content, unless its document is empty. -/
theorem mem_contents_collect {library : Library} {call : Call} {state : ParseState}
    {x : Hash.Digest} :
    x ∈ (call.collect digest library state).value.2.contents ↔
      x ∈ state.contents ∨ call.document ≠ [] ∧ contentDigest digest call.document = x := by
  cases h : (call.collect digest library state).value.1 with
  | none =>
      obtain ⟨hstate, hdocument⟩ := collect_none h
      rw [hstate]
      refine ⟨Or.inl, fun hx => hx.elim id fun hx => ?_⟩
      exact hx.2 ▸ hdocument.resolve_left hx.1
  | some css =>
      have hdocument : call.document ≠ [] := fun hempty => by
        rw [collect_eq_none_iff.2 (Or.inl hempty)] at h
        cases h
      rw [collect_some h, List.mem_cons, or_comm]
      simp only [hdocument, ne_eq, not_false_eq_true, true_and, eq_comm]

/-! ### A sequence of calls -/

/-- The state that calls leave in which nothing was collected before. Each of them is made with a
library of its own. -/
def stateAfter (digest : DigestFunction) (calls : List (Library × Call)) : ParseState :=
  calls.foldl (fun state c => (c.2.collect digest c.1 state).value.2) .empty

/-- **A sequence of calls** leaves the digests of their contents. -/
theorem mem_contents_stateAfter {calls : List (Library × Call)} {x : Hash.Digest} :
    x ∈ (stateAfter digest calls).contents ↔
      ∃ c ∈ calls, c.2.document ≠ [] ∧ contentDigest digest c.2.document = x := by
  induction calls using List.reverseRecOn with
  | nil => simp [stateAfter, ParseState.empty]
  | append_singleton calls c ih =>
      rw [stateAfter, List.foldl_append, List.foldl_cons, List.foldl_nil, mem_contents_collect]
      rw [stateAfter] at ih
      rw [ih]
      simp only [List.mem_append, List.mem_singleton, or_and_right, exists_or, exists_eq_left]

/-- **Repeated content.** After any calls, a further one has no stylesheet exactly when its document
is empty or that of an earlier call, and then it leaves the state as it is. Digests are taken to
tell the text of the document from those of the earlier ones; that texts tell documents apart need
not be assumed. -/
theorem none_iff_repeated (digest : DigestFunction) (calls : List (Library × Call))
    (library : Library) (call : Call)
    (hdigest : ∀ c ∈ calls, digest c.2.document.text = digest call.document.text →
      c.2.document.text = call.document.text) :
    ((call.collect digest library (stateAfter digest calls)).value.1 = none ↔
        call.document = [] ∨ ∃ c ∈ calls, c.2.document = call.document) ∧
      ((call.collect digest library (stateAfter digest calls)).value.1 = none →
        (call.collect digest library (stateAfter digest calls)).value.2 =
          stateAfter digest calls) ∧
      ∀ d d' : Document, d ≠ d' → d.text ≠ d'.text := by
  refine ⟨?_, fun h => (collect_none h).1, fun d d' hne htext =>
    hne (Document.text_injective htext)⟩
  rw [collect_eq_none_iff, mem_contents_stateAfter]
  constructor
  · rintro (hempty | ⟨c, hc, -, heq⟩)
    · exact .inl hempty
    · exact .inr ⟨c, hc, Document.text_injective (hdigest c hc heq)⟩
  · rintro (hempty | ⟨c, hc, heq⟩)
    · exact .inl hempty
    · by_cases hempty : call.document = []
      · exact .inl hempty
      · exact .inr ⟨c, hc, heq ▸ hempty, heq ▸ rfl⟩

/-- A call on a heading of some level. -/
def onHeading (level : Json.Number) : Call :=
  ⟨fun _ => none, none, [(Block.new "" "core/heading").withAttribute "level" (.num level)]⟩

/-- The length of a text in the place of a digest. -/
def lengthDigest : DigestFunction := fun text =>
  Vector.replicate 32 (UInt8.ofNat text.toList.length)

/-- A level that is an integer and the same level as a float make different contents, each of which
is collected once. -/
theorem none_iff_repeated_onHeading :
    ((onHeading (.float ⟨false, 6755399441055744, -51, by decide⟩)).collect lengthDigest .empty
        (stateAfter lengthDigest
          [(.empty, onHeading (.int ⟨3, by decide, by decide⟩))])).value.1 ≠ none ∧
      ((onHeading (.int ⟨3, by decide, by decide⟩)).collect lengthDigest .empty
        (stateAfter lengthDigest
          [(.empty, onHeading (.int ⟨3, by decide, by decide⟩)),
            (.empty, onHeading (.float ⟨false, 6755399441055744, -51, by decide⟩))])).value.1 =
        none := by
  constructor
  · refine fun h => absurd ((none_iff_repeated _ _ _ _ (by decide +kernel)).1.1 h) ?_
    simp [onHeading, Block.withAttribute, Block.new]
  · exact (none_iff_repeated _ _ _ _ (by decide +kernel)).1.2 (.inr ⟨_, List.mem_cons_self, rfl⟩)

end Request

end BlockSheet
