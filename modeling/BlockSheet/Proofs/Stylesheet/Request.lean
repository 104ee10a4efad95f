import Mathlib.Data.List.Induction
import BlockSheet.Proofs.Block.Unambiguous
import BlockSheet.Proofs.Stylesheet.Walk

/-!
# Requests

A request collects the stylesheets of any number of documents, one after the other, and keeps one
state for all of them. What is marked there after each call are the reusable blocks that are reached
from the documents collected so far, and no content has been entered twice
(`Request.marks_reachable`).

A document is passed over when its content counts as collected, which the digest of its text
decides. So the documents of all calls are collected only as far as digests tell their texts apart.
-/

namespace BlockSheet

open Hash (DigestFunction)

/-- A call within a request: a document, and how its CSS is to be shown. -/
structure Call where
  resolver : Resolver
  registry : Option Registry
  document : Document

/-- Collect the stylesheet of the document of a call. -/
def Call.collect (call : Call) (digest : DigestFunction) (library : Library) (state : ParseState) :
    Logged (Option String × ParseState) :=
  Collector.collect ⟨digest, library, call.resolver, call.registry⟩ call.document state

/-- What the document of a call is found to hold, from the marks of a state. -/
def Call.found (call : Call) (library : Library) (state : ParseState) : Gathered :=
  Gathered.gather library call.document ⟨state.references, [], []⟩

/-- The stylesheet of what is found. -/
def Call.sheet (call : Call) (digest : DigestFunction) (library : Library) (g : Gathered) :
    String :=
  Text.join "\n" (g.styled.filterMap
    (Collector.blockCss? ⟨digest, library, call.resolver, call.registry⟩))

/-- A request so far: its state, the documents that were collected, and the reusable blocks whose
content was entered, in this order. -/
structure Request where
  state : ParseState
  collected : List Document
  entered : List Nat

namespace Request

variable (digest : DigestFunction) (library : Library)

/-- A request before its first call. -/
def start : Request := ⟨.empty, [], []⟩

/-- One call of a request. -/
inductive Step (call : Call) : Request → Request → Prop
  /-- There is no stylesheet, and the state stays as it is. -/
  | pass {q : Request} (h : (call.collect digest library q.state).value = (none, q.state)) :
    Step call q q
  /-- There is one, of the blocks that are found, and the marks that were set then remain. This is
  what a walk through the document finds, which enters the content that `trace` lists. -/
  | collect {q : Request} {css : String} {state : ParseState} {trace : List Nat}
    (h : (call.collect digest library q.state).value = (some css, state))
    (hsheet : css = call.sheet digest library (call.found library q.state))
    (hmarks : state.references = (call.found library q.state).references)
    (hwalk : Gathered.Walks library call.document ⟨q.state.references, [], []⟩ trace
      (call.found library q.state)) :
    Step call q ⟨state, q.collected ++ [call.document], q.entered ++ trace⟩

/-- The calls of a request, one after the other. -/
inductive Run : List Call → Request → Prop
  | nil : Run [] start
  | snoc {calls : List Call} {call : Call} {q q' : Request} (h : Run calls q)
    (hstep : Step digest library call q q') : Run (calls ++ [call]) q'

variable {digest library}

/-! ### Calls -/

/-- A call without a stylesheet changes nothing. Its document is empty, or its content counts as
collected. -/
theorem collect_none {call : Call} {state : ParseState}
    (h : (call.collect digest library state).value.1 = none) :
    (call.collect digest library state).value.2 = state ∧
      (call.document = [] ∨ contentDigest digest call.document ∈ state.contents) := by
  rw [Call.collect, Collector.collect] at h ⊢
  by_cases hempty : call.document.isEmpty = true
  · rw [if_pos hempty]
    exact ⟨rfl, Or.inl (List.isEmpty_iff.1 hempty)⟩
  · rw [if_neg hempty] at h ⊢
    by_cases hparsed : state.isContentParsed digest call.document = true
    · rw [if_pos hparsed]
      exact ⟨rfl, Or.inr (by simpa [ParseState.isContentParsed] using hparsed)⟩
    · rw [if_neg hparsed] at h
      cases h

/-- A call with a stylesheet adds the digest of its content, and the marks that the walk sets. -/
theorem collect_some {call : Call} {state : ParseState} {css : String}
    (h : (call.collect digest library state).value.1 = some css) :
    (call.collect digest library state).value =
      (some (call.sheet digest library (call.found library state)),
        ⟨contentDigest digest call.document :: state.contents,
          (call.found library state).references⟩) := by
  rw [Call.collect, Collector.collect] at h ⊢
  by_cases hempty : call.document.isEmpty = true
  · rw [if_pos hempty] at h
    cases h
  · rw [if_neg hempty] at h ⊢
    by_cases hparsed : state.isContentParsed digest call.document = true
    · rw [if_pos hparsed] at h
      cases h
    · rw [if_neg hparsed]
      rfl

/-- Every call comes to an end. -/
theorem exists_step (call : Call) (q : Request) : ∃ q', Step digest library call q q' := by
  cases h : (call.collect digest library q.state).value.1 with
  | none =>
      obtain ⟨hstate, -⟩ := collect_none h
      exact ⟨q, .pass (Prod.ext h hstate)⟩
  | some css =>
      obtain ⟨trace, hwalk⟩ :=
        Gathered.exists_walks_gather library call.document ⟨q.state.references, [], []⟩
      exact ⟨_, .collect (collect_some h) rfl rfl hwalk⟩

/-! ### The invariant -/

/-- The invariant of a request. -/
structure Inv (digest : DigestFunction) (library : Library) (q : Request) : Prop where
  /-- The contents are the digests of the collected documents, the latest first. -/
  contents : q.state.contents = (q.collected.map (contentDigest digest)).reverse
  /-- The marks have been set by entering content. -/
  marking : library.Marking [] q.entered q.state.references
  /-- All that the collected documents stand for is marked. -/
  direct : ∀ d ∈ q.collected, ∀ r, d.RefersTo r → r ∈ q.state.references
  /-- All that is marked is reached from a collected document. -/
  reached : ∀ r ∈ q.state.references, ∃ d ∈ q.collected, library.Reachable d r

theorem inv_start : Inv digest library start where
  contents := rfl
  marking := .refl []
  direct _ hd := absurd hd List.not_mem_nil
  reached _ hr := absurd hr List.not_mem_nil

/-- **One call** keeps the invariant. -/
theorem Step.inv {call : Call} {q q' : Request} (h : Step digest library call q q')
    (hq : q.Inv digest library) : q'.Inv digest library := by
  cases h with
  | pass => exact hq
  | collect h _ _ hwalk =>
      have hcollect := collect_some (congrArg Prod.fst h)
      rw [h] at hcollect
      obtain ⟨-, rfl⟩ := Prod.mk.inj hcollect
      obtain ⟨hmarking, hdirect⟩ := hwalk.marking
      refine ⟨?_, hq.marking.trans hmarking, ?_, ?_⟩
      · simp [hq.contents]
      · intro d hd r hr
        rcases List.mem_append.1 hd with hd | hd
        · exact hmarking.kept r (hq.direct d hd r hr)
        · obtain rfl := List.mem_singleton.1 hd
          exact hdirect r hr
      -- A mark is an old one or reached from the document of this call.
      · intro r hr
        rcases hwalk.reachable r hr with hr | hr
        · obtain ⟨d, hd, hreach⟩ := hq.reached r hr
          exact ⟨d, List.mem_append_left _ hd, hreach⟩
        · exact ⟨call.document, by simp, hr⟩

/-- A run keeps the invariant. -/
theorem Run.inv {calls : List Call} {q : Request} (h : Run digest library calls q) :
    q.Inv digest library := by
  induction h with
  | nil => exact inv_start
  | snoc _ hstep ih => exact hstep.inv ih

/-- After a call its document has been collected, or is empty, or has the digest of a document that
was collected before. -/
theorem Step.collected {call : Call} {q q' : Request} (h : Step digest library call q q')
    (hq : q.Inv digest library) :
    (q'.collected = q.collected ∧ (call.document = [] ∨ ∃ d ∈ q.collected,
        contentDigest digest d = contentDigest digest call.document)) ∨
      q'.collected = q.collected ++ [call.document] := by
  cases h with
  | pass h =>
      obtain ⟨-, hempty | hmem⟩ := collect_none (congrArg Prod.fst h)
      · exact Or.inl ⟨rfl, Or.inl hempty⟩
      · rw [hq.contents] at hmem
        exact Or.inl ⟨rfl, Or.inr (by simpa using hmem)⟩
  | collect => exact Or.inr rfl

/-- The collected documents are those of the calls, as far as they have different digests. -/
theorem Run.collected {calls : List Call} {q : Request} (h : Run digest library calls q) :
    (∀ d ∈ q.collected, ∃ call ∈ calls, call.document = d) ∧
      ∀ call ∈ calls, call.document = [] ∨ ∃ d ∈ q.collected,
        contentDigest digest d = contentDigest digest call.document := by
  induction h with
  | nil => exact ⟨fun _ hd => absurd hd List.not_mem_nil, fun _ hc => absurd hc List.not_mem_nil⟩
  | @snoc calls call q q' hrun hstep ih =>
      obtain ⟨hfrom, hall⟩ := ih
      rcases hstep.collected hrun.inv with ⟨heq, hpassed⟩ | heq
      · rw [heq]
        refine ⟨fun d hd => ?_, fun c hc => ?_⟩
        · obtain ⟨c, hc, hdoc⟩ := hfrom d hd
          exact ⟨c, List.mem_append_left _ hc, hdoc⟩
        · rcases List.mem_append.1 hc with hc | hc
          · exact hall c hc
          · obtain rfl := List.mem_singleton.1 hc
            exact hpassed
      · rw [heq]
        refine ⟨fun d hd => ?_, fun c hc => ?_⟩
        · rcases List.mem_append.1 hd with hd | hd
          · obtain ⟨c, hc, hdoc⟩ := hfrom d hd
            exact ⟨c, List.mem_append_left _ hc, hdoc⟩
          · exact ⟨call, by simp, (List.mem_singleton.1 hd).symm⟩
        · rcases List.mem_append.1 hc with hc | hc
          · refine (hall c hc).imp_right fun ⟨d, hd, hdigest⟩ => ?_
            exact ⟨d, List.mem_append_left _ hd, hdigest⟩
          · obtain rfl := List.mem_singleton.1 hc
            exact Or.inr ⟨c.document, by simp, rfl⟩

/-! ### What a request marks -/

/-- What a request is to make of its calls. -/
structure Settled (digest : DigestFunction) (library : Library) (calls : List Call)
    (q : Request) : Prop where
  /-- No content of a reusable block is entered twice. -/
  once : q.entered.Nodup
  /-- The marked reusable blocks are those reached from the collected documents. -/
  marks : ∀ r, r ∈ q.state.references ↔ ∃ d ∈ q.collected, library.Reachable d r
  /-- The marked ones count as collected. -/
  parsed : ∀ r, q.state.isReusableParsed r = true ↔ r ∈ q.state.references
  /-- The collected documents are those of calls. -/
  collected : ∀ d ∈ q.collected, ∃ call ∈ calls, call.document = d
  /-- The other documents are empty, or their texts have the digests of collected ones. -/
  passed : ∀ call ∈ calls, call.document = [] ∨ ∃ d ∈ q.collected,
    digest d.text = digest call.document.text

/-- If digests tell the texts apart, the marked reusable blocks are those reached from the documents
of all calls. -/
theorem Settled.marks_of_digests {calls : List Call} {q : Request}
    (h : q.Settled digest library calls)
    (hdigest : ∀ call ∈ calls, ∀ call' ∈ calls,
      digest call.document.text = digest call'.document.text →
        call.document.text = call'.document.text) (r : Nat) :
    r ∈ q.state.references ↔ ∃ call ∈ calls, library.Reachable call.document r := by
  rw [h.marks]
  constructor
  · rintro ⟨d, hd, hreach⟩
    obtain ⟨call, hcall, rfl⟩ := h.collected d hd
    exact ⟨call, hcall, hreach⟩
  · rintro ⟨call, hcall, hreach⟩
    rcases h.passed call hcall with hempty | ⟨d, hd, heq⟩
    · rw [hempty] at hreach
      exact absurd hreach Library.not_reachable_nil
    · obtain ⟨call', hcall', rfl⟩ := h.collected d hd
      have hdocument := Document.text_injective (hdigest call' hcall' call hcall heq)
      exact ⟨call'.document, hd, hdocument ▸ hreach⟩

/-- Every sequence of calls comes to an end. -/
theorem exists_run (digest : DigestFunction) (library : Library) (calls : List Call) :
    ∃ q, Run digest library calls q := by
  induction calls using List.reverseRecOn with
  | nil => exact ⟨_, .nil⟩
  | append_singleton calls call ih =>
      obtain ⟨q, hrun⟩ := ih
      obtain ⟨q', hstep⟩ := exists_step call q
      exact ⟨q', hrun.snoc hstep⟩

/-- **Requests.** Whatever reusable blocks refer to, every sequence of calls comes to an end, no
content of a reusable block is entered twice in all of them, and exactly those reusable blocks are
marked that are reached from the collected documents: from the documents of all calls, if digests
tell their texts apart. -/
theorem marks_reachable (digest : DigestFunction) (library : Library) (calls : List Call) :
    (∃ q, Run digest library calls q) ∧
      ∀ q, Run digest library calls q → q.Settled digest library calls ∧
        ((∀ call ∈ calls, ∀ call' ∈ calls,
            digest call.document.text = digest call'.document.text →
              call.document.text = call'.document.text) →
          ∀ r, r ∈ q.state.references ↔
            ∃ call ∈ calls, library.Reachable call.document r) := by
  refine ⟨exists_run digest library calls, fun q hrun => ?_⟩
  have hinv := hrun.inv
  obtain ⟨hcollected, hpassed⟩ := hrun.collected
  have hsettled : q.Settled digest library calls :=
    { once := hinv.marking.nodup
      marks := by
        intro r
        constructor
        · exact hinv.reached r
        · rintro ⟨d, hd, hreach⟩
          exact hinv.marking.mem_of_reachable hreach (hinv.direct d hd)
      parsed := by
        intro r
        rw [ParseState.isReusableParsed, List.contains_eq_mem, decide_eq_true_iff]
      collected := hcollected
      passed := hpassed }
  exact ⟨hsettled, hsettled.marks_of_digests⟩

end Request

end BlockSheet
