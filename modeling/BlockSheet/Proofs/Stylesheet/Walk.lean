import BlockSheet.Stylesheet

/-!
# The walk through reusable blocks

`Gathered.gather` enters the content of reusable blocks down to a depth that the size of the library
sets. The walk that is meant has no such bound: wherever a block stands for a reusable block that is
not marked, the reusable block is marked and its content is walked through, whatever blocks that
refers to (`Gathered.Walks`). Here it is shown that the two are the same.

* **Termination.** A walk without bound comes to an end, and with what `gather` finds
  (`exists_walks_gather`): no content is entered without a new mark, so entries that are nested
  number no more than those of the library that are not marked.
* **Marks.** The content of a reusable block is entered at most once, and what the content of a
  newly marked block stands for is marked as well (`Walks.marking`). While that content is being
  walked through this does not hold of the block itself, so nothing is said of the marks that were
  there when a walk began.
* **Reachability.** Nothing is marked that is not reached from the document (`Walks.reachable`).
-/

namespace BlockSheet

/-! ### Blocks that stand for reusable ones -/

/-- The block stands for the reusable block of a number: it is a `core/block` whose attribute `ref`
is that number, an integer that is not negative. -/
structure Block.StandsFor (b : Block) (r : Nat) : Prop where
  name : b.name = "core/block"
  ref : ∃ n : Json.Integer, b.attributes.lookup "ref" = some (.num (.int n)) ∧ n.val = r

theorem Block.reference?_eq_some_iff {b : Block} {r : Nat} :
    b.reference? = some r ↔ b.StandsFor r := by
  unfold reference? reusableName Json.Fields.get?
  constructor
  · intro h
    rw [Option.ite_none_right_eq_some] at h
    obtain ⟨hname, hvalue⟩ := h
    obtain ⟨value, hget, hnat⟩ := Option.bind_eq_some_iff.1 hvalue
    obtain ⟨n, rfl⟩ : ∃ n : Json.Integer, value = .num (.int n) := by
      cases value with
      | num number =>
          cases number with
          | int n => exact ⟨n, rfl⟩
          | float x => cases hnat
      | null | bool | str | arr | obj => cases hnat
    simp only [Json.Value.nat?, Json.Number.toNat?, Option.ite_none_right_eq_some] at hnat
    obtain ⟨hsign, hr⟩ := hnat
    refine ⟨hname, n, hget, ?_⟩
    rw [← Option.some.inj hr, Int.toNat_of_nonneg hsign]
  · rintro ⟨hname, n, hget, hr⟩
    rw [if_pos hname, hget, Option.bind_some, Json.Value.nat?, Json.Number.toNat?, hr,
      if_pos (Int.natCast_nonneg r), Int.toNat_natCast]

theorem Block.StandsFor.unique {b : Block} {r r' : Nat} (h : b.StandsFor r) (h' : b.StandsFor r') :
    r = r' :=
  Option.some.inj ((reference?_eq_some_iff.2 h).symm.trans (reference?_eq_some_iff.2 h'))

/-- A block of the document, at any depth, stands for the reusable block. -/
def Document.RefersTo (d : Document) (r : Nat) : Prop := ∃ b ∈ d.preorder, b.StandsFor r

theorem Document.not_refersTo_nil {r : Nat} : ¬ Document.RefersTo [] r := by
  simp [RefersTo]

theorem Document.refersTo_cons {b : Block} {blocks : Document} {r : Nat} :
    Document.RefersTo (b :: blocks) r ↔
      b.StandsFor r ∨ Document.RefersTo b.innerBlocks r ∨ Document.RefersTo blocks r := by
  simp only [RefersTo, preorder_cons, List.mem_cons, List.mem_append, or_and_right, exists_or,
    exists_eq_left]

theorem Document.refersTo_head {b : Block} {r : Nat} (hb : b.StandsFor r) (blocks : Document) :
    Document.RefersTo (b :: blocks) r := refersTo_cons.2 (Or.inl hb)

theorem Document.forall_refersTo_cons {p : Nat → Prop} {b : Block} {blocks : Document} :
    (∀ r, Document.RefersTo (b :: blocks) r → p r) ↔ (∀ r, b.StandsFor r → p r) ∧
      (∀ r, Document.RefersTo b.innerBlocks r → p r) ∧
        ∀ r, Document.RefersTo blocks r → p r := by
  simp only [refersTo_cons, or_imp, forall_and]

namespace Library

variable (library : Library)

/-! ### Marks -/

/-- The number of entries whose reusable blocks are not marked. -/
def unmarked (references : List Nat) : Nat :=
  library.entries.countP fun entry => !references.contains entry.1

theorem unmarked_le (references : List Nat) :
    library.unmarked references ≤ library.entries.length :=
  List.countP_le_length

/-- With more marks no more entries are left. -/
theorem countP_unmarked_anti {xs ys : List Nat} (h : ∀ r ∈ xs, r ∈ ys)
    (entries : List (Nat × Document)) :
    (entries.countP fun entry => !ys.contains entry.1) ≤
      entries.countP fun entry => !xs.contains entry.1 := by
  refine List.countP_mono_left fun entry _ hentry => ?_
  simp only [Bool.not_eq_true', List.contains_eq_mem, decide_eq_false_iff_not] at hentry ⊢
  exact fun hmem => hentry (h _ hmem)

theorem unmarked_anti {xs ys : List Nat} (h : ∀ r ∈ xs, r ∈ ys) :
    library.unmarked ys ≤ library.unmarked xs :=
  countP_unmarked_anti h library.entries

/-- A new mark on a block of the library leaves an entry less. -/
theorem unmarked_mark_lt {references : List Nat} {r : Nat} {content : Document}
    (hfind : library.entries.lookup r = some content) (hr : r ∉ references) :
    library.unmarked (r :: references) < library.unmarked references := by
  obtain ⟨before, after, hsplit, -⟩ := List.lookup_eq_some_iff.1 hfind
  have hsub : ∀ r' ∈ references, r' ∈ r :: references := fun _ => List.mem_cons_of_mem r
  have hbefore := countP_unmarked_anti hsub before
  have hafter := countP_unmarked_anti hsub after
  have hleft : (!references.contains r) = true := by simpa using hr
  have hgone : ¬ (!(r :: references).contains r) = true := by simp
  rw [unmarked, unmarked, hsplit, List.countP_append, List.countP_append,
    List.countP_cons, List.countP_cons, if_neg hgone, if_pos hleft]
  omega

variable {library}

/-- How marks change while content is entered, which `trace` lists. -/
structure Marking (library : Library) (old trace new : List Nat) : Prop where
  /-- No mark is taken away. -/
  kept : ∀ r ∈ old, r ∈ new
  /-- No content is entered twice. -/
  nodup : trace.Nodup
  /-- What is entered is newly marked. -/
  fresh : ∀ r ∈ trace, r ∉ old ∧ r ∈ new
  /-- Whatever the content of a newly marked block stands for is marked too. -/
  closed : ∀ r ∈ new, r ∉ old → ∀ content, library.entries.lookup r = some content →
    ∀ r', content.RefersTo r' → r' ∈ new

namespace Marking

theorem refl (references : List Nat) : library.Marking references [] references where
  kept _ hr := hr
  nodup := List.nodup_nil
  fresh _ hr := absurd hr List.not_mem_nil
  closed _ hnew hold := absurd hnew hold

theorem trans {xs ys zs t t' : List Nat} (h : library.Marking xs t ys)
    (h' : library.Marking ys t' zs) : library.Marking xs (t ++ t') zs where
  kept r hr := h'.kept r (h.kept r hr)
  nodup := by
    refine List.nodup_append.2 ⟨h.nodup, h'.nodup, fun r hr r' hr' heq => ?_⟩
    exact (h'.fresh r' hr').1 (heq ▸ (h.fresh r hr).2)
  fresh r hr := by
    rcases List.mem_append.1 hr with hr | hr
    · exact ⟨(h.fresh r hr).1, h'.kept r (h.fresh r hr).2⟩
    · exact ⟨fun hmem => (h'.fresh r hr).1 (h.kept r hmem), (h'.fresh r hr).2⟩
  closed r hr hnew content hfind r' hr' := by
    by_cases hmem : r ∈ ys
    · exact h'.kept r' (h.closed r hmem hnew content hfind r' hr')
    · exact h'.closed r hr hmem content hfind r' hr'

/-- A reusable block that is missing is marked and not entered. -/
theorem miss {references : List Nat} {r : Nat} (hfind : library.entries.lookup r = none) :
    library.Marking references [] (r :: references) where
  kept _ hr := List.mem_cons_of_mem r hr
  nodup := List.nodup_nil
  fresh _ hr := absurd hr List.not_mem_nil
  closed r' hr' hnew content hcontent := by
    rcases List.mem_cons.1 hr' with rfl | hr'
    · rw [hfind] at hcontent
      cases hcontent
    · exact absurd hr' hnew

/-- A reusable block is marked before its content is entered, and closed after that. -/
theorem enter {old new trace : List Nat} {r : Nat} {content : Document} (hr : r ∉ old)
    (hfind : library.entries.lookup r = some content) (h : library.Marking (r :: old) trace new)
    (hcontent : ∀ r', content.RefersTo r' → r' ∈ new) :
    library.Marking old (r :: trace) new where
  kept r' hr' := h.kept r' (List.mem_cons_of_mem r hr')
  nodup := List.nodup_cons.2 ⟨fun hmem => (h.fresh r hmem).1 List.mem_cons_self, h.nodup⟩
  fresh r' hr' := by
    rcases List.mem_cons.1 hr' with rfl | hr'
    · exact ⟨hr, h.kept r' List.mem_cons_self⟩
    · exact ⟨fun hmem => (h.fresh r' hr').1 (List.mem_cons_of_mem r hmem), (h.fresh r' hr').2⟩
  closed r' hr' hnew content' hfind' := by
    by_cases heq : r' = r
    · rw [heq, hfind] at hfind'
      exact Option.some.inj hfind' ▸ hcontent
    · exact h.closed r' hr' (fun hmem => (List.mem_cons.1 hmem).elim heq hnew) content' hfind'

end Marking

/-! ### Reachability -/

/-- A reusable block that is reached from a document: a block of it stands for the reusable block,
or for one from whose content it is reached. -/
inductive Reachable (library : Library) : Document → Nat → Prop
  | here {d : Document} {r : Nat} (h : d.RefersTo r) : Reachable library d r
  | through {d content : Document} {r r' : Nat} (h : d.RefersTo r)
    (hfind : library.entries.lookup r = some content) (h' : Reachable library content r') :
    Reachable library d r'

theorem not_reachable_nil {r : Nat} : ¬ library.Reachable [] r := by
  intro h
  cases h with
  | here h => exact Document.not_refersTo_nil h
  | through h => exact Document.not_refersTo_nil h

theorem Reachable.mono {d d' : Document} {r : Nat} (h : library.Reachable d r)
    (hsub : ∀ r, d.RefersTo r → d'.RefersTo r) : library.Reachable d' r := by
  cases h with
  | here h => exact .here (hsub _ h)
  | through h hfind h' => exact .through (hsub _ h) hfind h'

theorem Reachable.inner {b : Block} {blocks : Document} {r : Nat}
    (h : library.Reachable b.innerBlocks r) : library.Reachable (b :: blocks) r :=
  h.mono fun _ hr => Document.refersTo_cons.2 (Or.inr (Or.inl hr))

theorem Reachable.rest {b : Block} {blocks : Document} {r : Nat} (h : library.Reachable blocks r) :
    library.Reachable (b :: blocks) r :=
  h.mono fun _ hr => Document.refersTo_cons.2 (Or.inr (Or.inr hr))

/-- Marks that were set by entering content and include what a document stands for include all that
is reached from it. -/
theorem Marking.mem_of_reachable {trace references : List Nat}
    (hmarking : library.Marking [] trace references) {d : Document} {r : Nat}
    (h : library.Reachable d r) (hd : ∀ r, d.RefersTo r → r ∈ references) : r ∈ references := by
  induction h with
  | here h => exact hd _ h
  | through h hfind _ ih =>
      exact ih fun r' hr' => hmarking.closed _ (hd _ h) List.not_mem_nil _ hfind r' hr'

end Library

namespace Gathered

@[simp] theorem references_mark (g : Gathered) (r : Nat) :
    (g.mark r).references = r :: g.references := rfl

@[simp] theorem references_miss (g : Gathered) (r : Nat) :
    (g.miss r).references = g.references := rfl

@[simp] theorem references_take (g : Gathered) (b : Block) :
    (g.take b).references = g.references := by
  rw [take]
  cases b.styleAttributes.styles.isEmpty <;> rfl

@[simp] theorem walk_nil (enter : Nat → Gathered → Gathered) (g : Gathered) :
    walk enter [] g = g := by rw [walk]

theorem walk_cons (enter : Nat → Gathered → Gathered) (b : Block) (blocks : Document)
    (g : Gathered) :
    walk enter (b :: blocks) g =
      walk enter blocks (walk enter b.innerBlocks ((expand enter b g).take b)) := by
  obtain ⟨_, _, _, _⟩ := b
  rw [walk]

/-! ### Walks -/

/-- The walk through a document as it is meant: from what was found before, over the reusable blocks
whose content is entered, in this order, to what is found afterwards. -/
inductive Walks (library : Library) : Document → Gathered → List Nat → Gathered → Prop
  /-- There is no block left. -/
  | nil {g : Gathered} : Walks library [] g [] g
  /-- A block stands for no reusable block, or for one that is marked. -/
  | skip {b : Block} {blocks : Document} {g g₁ g₂ : Gathered} {t₁ t₂ : List Nat}
    (hb : ∀ r, b.StandsFor r → r ∈ g.references)
    (inner : Walks library b.innerBlocks (g.take b) t₁ g₁)
    (rest : Walks library blocks g₁ t₂ g₂) :
    Walks library (b :: blocks) g (t₁ ++ t₂) g₂
  /-- A block stands for a reusable block that is missing. -/
  | absent {b : Block} {blocks : Document} {r : Nat} {g g₁ g₂ : Gathered} {t₁ t₂ : List Nat}
    (hb : b.StandsFor r) (hr : r ∉ g.references) (hfind : library.entries.lookup r = none)
    (inner : Walks library b.innerBlocks (((g.mark r).miss r).take b) t₁ g₁)
    (rest : Walks library blocks g₁ t₂ g₂) :
    Walks library (b :: blocks) g (t₁ ++ t₂) g₂
  /-- A block stands for a reusable block whose content is entered. -/
  | enter {b : Block} {blocks content : Document} {r : Nat} {g g₀ g₁ g₂ : Gathered}
    {t₀ t₁ t₂ : List Nat}
    (hb : b.StandsFor r) (hr : r ∉ g.references)
    (hfind : library.entries.lookup r = some content)
    (within : Walks library content (g.mark r) t₀ g₀)
    (inner : Walks library b.innerBlocks (g₀.take b) t₁ g₁)
    (rest : Walks library blocks g₁ t₂ g₂) :
    Walks library (b :: blocks) g (r :: (t₀ ++ (t₁ ++ t₂))) g₂

namespace Walks

variable {library : Library} {d : Document} {g g' : Gathered} {trace : List Nat}

/-- **What a walk marks.** It enters content as marks are set, and in the end all is marked that the
document stands for. -/
theorem marking (h : Walks library d g trace g') :
    library.Marking g.references trace g'.references ∧
      ∀ r, d.RefersTo r → r ∈ g'.references := by
  -- Every part begins with the marks that the part before it ends with.
  induction h with
  | nil => exact ⟨.refl _, fun _ hr => absurd hr Document.not_refersTo_nil⟩
  | skip hb _ _ ihInner ihRest =>
      obtain ⟨hinner, hrefs⟩ := ihInner
      obtain ⟨hrest, hrefs'⟩ := ihRest
      rw [references_take] at hinner
      refine ⟨hinner.trans hrest, Document.forall_refersTo_cons.2 ⟨?_, ?_, hrefs'⟩⟩
      · exact fun r hr => hrest.kept r (hinner.kept r (hb r hr))
      · exact fun r hr => hrest.kept r (hrefs r hr)
  | @absent b _ r g _ _ _ _ hb _ hfind _ _ ihInner ihRest =>
      obtain ⟨hinner, hrefs⟩ := ihInner
      obtain ⟨hrest, hrefs'⟩ := ihRest
      rw [references_take, references_miss, references_mark] at hinner
      refine ⟨(Library.Marking.miss hfind).trans (hinner.trans hrest),
        Document.forall_refersTo_cons.2 ⟨?_, ?_, hrefs'⟩⟩
      · intro r' hr'
        obtain rfl := hb.unique hr'
        exact hrest.kept r (hinner.kept r List.mem_cons_self)
      · exact fun r hr => hrest.kept r (hrefs r hr)
  | @enter b _ _ r _ _ _ _ _ _ _ hb hr hfind _ _ _ ihWithin ihInner ihRest =>
      obtain ⟨hwithin, hcontent⟩ := ihWithin
      obtain ⟨hinner, hrefs⟩ := ihInner
      obtain ⟨hrest, hrefs'⟩ := ihRest
      rw [references_mark] at hwithin
      rw [references_take] at hinner
      refine ⟨(hwithin.enter hr hfind hcontent).trans (hinner.trans hrest),
        Document.forall_refersTo_cons.2 ⟨?_, ?_, hrefs'⟩⟩
      · intro r' hr'
        obtain rfl := hb.unique hr'
        exact hrest.kept r (hinner.kept r (hwithin.kept r List.mem_cons_self))
      · exact fun r hr => hrest.kept r (hrefs r hr)

/-- **Reachability.** Every new mark is on a reusable block that is reached from the document. -/
theorem reachable (h : Walks library d g trace g') :
    ∀ r ∈ g'.references, r ∈ g.references ∨ library.Reachable d r := by
  induction h with
  | nil => exact fun _ hr => Or.inl hr
  | skip _ _ _ ihInner ihRest =>
      intro r hr
      rcases ihRest r hr with hr | hr
      · rcases ihInner r hr with hr | hr
        · rw [references_take] at hr
          exact Or.inl hr
        · exact Or.inr hr.inner
      · exact Or.inr hr.rest
  | @absent b _ r _ _ _ _ _ hb _ _ _ _ ihInner ihRest =>
      intro r' hr'
      rcases ihRest r' hr' with hr' | hr'
      · rcases ihInner r' hr' with hr' | hr'
        · rw [references_take, references_miss, references_mark] at hr'
          rcases List.mem_cons.1 hr' with rfl | hr'
          · exact Or.inr (.here (Document.refersTo_head hb _))
          · exact Or.inl hr'
        · exact Or.inr hr'.inner
      · exact Or.inr hr'.rest
  | @enter b _ _ r _ _ _ _ _ _ _ hb _ hfind _ _ _ ihWithin ihInner ihRest =>
      intro r' hr'
      rcases ihRest r' hr' with hr' | hr'
      · rcases ihInner r' hr' with hr' | hr'
        · rw [references_take] at hr'
          rcases ihWithin r' hr' with hr' | hr'
          · rw [references_mark] at hr'
            rcases List.mem_cons.1 hr' with rfl | hr'
            · exact Or.inr (.here (Document.refersTo_head hb _))
            · exact Or.inl hr'
          · exact Or.inr (.through (Document.refersTo_head hb _) hfind hr')
        · exact Or.inr hr'.inner
      · exact Or.inr hr'.rest

/-- A walk is determined by where it begins. -/
theorem unique {g'' : Gathered} {trace' : List Nat} (h : Walks library d g trace g')
    (h' : Walks library d g trace' g'') : trace = trace' ∧ g' = g'' := by
  -- The marks in front of a block and the library decide which rule applies to it.
  induction h generalizing trace' g'' with
  | nil =>
      cases h'
      exact ⟨rfl, rfl⟩
  | skip hb _ _ ihInner ihRest =>
      cases h' with
      | skip _ inner rest =>
          obtain ⟨rfl, rfl⟩ := ihInner inner
          obtain ⟨rfl, rfl⟩ := ihRest rest
          exact ⟨rfl, rfl⟩
      | absent hb' hr => exact absurd (hb _ hb') hr
      | enter hb' hr => exact absurd (hb _ hb') hr
  | absent hb hr hfind _ _ ihInner ihRest =>
      cases h' with
      | skip hb' => exact absurd (hb' _ hb) hr
      | absent hb' _ _ inner rest =>
          obtain rfl := hb.unique hb'
          obtain ⟨rfl, rfl⟩ := ihInner inner
          obtain ⟨rfl, rfl⟩ := ihRest rest
          exact ⟨rfl, rfl⟩
      | enter hb' _ hfind' =>
          obtain rfl := hb.unique hb'
          cases hfind.symm.trans hfind'
  | enter hb hr hfind _ _ _ ihWithin ihInner ihRest =>
      cases h' with
      | skip hb' => exact absurd (hb' _ hb) hr
      | absent hb' _ hfind' =>
          obtain rfl := hb.unique hb'
          cases hfind.symm.trans hfind'
      | enter hb' _ hfind' within inner rest =>
          obtain rfl := hb.unique hb'
          obtain rfl := Option.some.inj (hfind.symm.trans hfind')
          obtain ⟨rfl, rfl⟩ := ihWithin within
          obtain ⟨rfl, rfl⟩ := ihInner inner
          obtain ⟨rfl, rfl⟩ := ihRest rest
          exact ⟨rfl, rfl⟩

end Walks

/-! ### Walks within a depth -/

variable {library : Library}

theorem enter_of_none {r : Nat} (hfind : library.find? r = none) (depth : Nat) (g : Gathered) :
    enter library depth r g = g.miss r := by
  cases depth <;> rw [enter, hfind]

theorem enter_of_some {r : Nat} {content : Document} (hfind : library.find? r = some content)
    (depth : Nat) (g : Gathered) :
    enter library (depth + 1) r g = walk (enter library depth) content g := by
  rw [enter, hfind]

/-- A walk within a depth is a walk as it is meant, if the depth suffices for the content that is
entered. -/
theorem exists_walks_of_content {depth : Nat}
    (hcontent : ∀ r content g, library.find? r = some content →
      library.unmarked g.references < depth →
      ∃ trace, Walks library content g trace (enter library depth r g))
    (d : Document) (g : Gathered) (hdepth : library.unmarked g.references ≤ depth) :
    ∃ trace, Walks library d g trace (walk (enter library depth) d g) := by
  induction d using Document.induction generalizing g with
  | nil => exact ⟨[], by rw [walk_nil]; exact .nil⟩
  | cons b blocks ihInner ihBlocks =>
      rw [walk_cons]
      -- Marks only ever increase, so the depth suffices for what follows the reusable block too.
      have hgo : ∀ g₀ : Gathered, (∀ r ∈ g.references, r ∈ g₀.references) →
          ∃ t₁ t₂ g₁, Walks library b.innerBlocks (g₀.take b) t₁ g₁ ∧
            Walks library blocks g₁ t₂ (walk (enter library depth) blocks
              (walk (enter library depth) b.innerBlocks (g₀.take b))) := by
        intro g₀ hsub
        have hdepth₀ := Nat.le_trans (library.unmarked_anti hsub) hdepth
        obtain ⟨t₁, hinner⟩ := ihInner (g₀.take b) (by rwa [references_take])
        have hkept := hinner.marking.1.kept
        rw [references_take] at hkept
        obtain ⟨t₂, hrest⟩ := ihBlocks _ (Nat.le_trans (library.unmarked_anti hkept) hdepth₀)
        exact ⟨t₁, t₂, _, hinner, hrest⟩
      cases hb : b.reference? with
      | none =>
          have hexpand : expand (enter library depth) b g = g := by rw [expand, hb]
          rw [hexpand]
          obtain ⟨t₁, t₂, g₁, hinner, hrest⟩ := hgo g fun _ hr => hr
          refine ⟨_, .skip (fun r hr => ?_) hinner hrest⟩
          rw [Block.reference?_eq_some_iff.2 hr] at hb
          cases hb
      | some r =>
          have hstands := Block.reference?_eq_some_iff.1 hb
          by_cases hr : r ∈ g.references
          · have hexpand : expand (enter library depth) b g = g := by
              simp [expand, hb, hr]
            rw [hexpand]
            obtain ⟨t₁, t₂, g₁, hinner, hrest⟩ := hgo g fun _ hr => hr
            exact ⟨_, .skip (fun r' hr' => hstands.unique hr' ▸ hr) hinner hrest⟩
          · have hexpand : expand (enter library depth) b g =
                enter library depth r (g.mark r) := by
              simp [expand, hb, hr]
            rw [hexpand]
            cases hfind : library.find? r with
            | none =>
                rw [enter_of_none hfind]
                obtain ⟨t₁, t₂, g₁, hinner, hrest⟩ :=
                  hgo ((g.mark r).miss r) fun _ hr => List.mem_cons_of_mem _ hr
                exact ⟨_, .absent hstands hr hfind hinner hrest⟩
            | some content =>
                have hless := library.unmarked_mark_lt hfind hr
                obtain ⟨t₀, hwithin⟩ :=
                  hcontent r content (g.mark r) hfind (Nat.lt_of_lt_of_le hless hdepth)
                obtain ⟨t₁, t₂, g₁, hinner, hrest⟩ := hgo _ fun r' hr' =>
                  hwithin.marking.1.kept r' (List.mem_cons_of_mem r hr')
                exact ⟨_, .enter hstands hr hfind hwithin hinner hrest⟩

/-- A depth as large as the number of entries that are not marked suffices. -/
theorem exists_walks (depth : Nat) (d : Document) (g : Gathered)
    (hdepth : library.unmarked g.references ≤ depth) :
    ∃ trace, Walks library d g trace (walk (enter library depth) d g) := by
  -- To enter content takes an unmarked entry, so without any the depth is not used.
  induction depth generalizing d g with
  | zero =>
      refine exists_walks_of_content (fun _ _ _ _ hless => ?_) d g hdepth
      exact absurd hless (Nat.not_lt_zero _)
  | succ depth ih =>
      refine exists_walks_of_content (fun r content g hfind hless => ?_) d g hdepth
      rw [enter_of_some hfind]
      exact ih content g (Nat.le_of_lt_succ hless)

/-- **Termination.** A walk through a document comes to an end, and finds what `gather` finds. -/
theorem exists_walks_gather (library : Library) (d : Document) (g : Gathered) :
    ∃ trace, Walks library d g trace (gather library d g) :=
  exists_walks library.entries.length d g (library.unmarked_le _)

end Gathered

end BlockSheet
