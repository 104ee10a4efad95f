import BlockSheet.Style.Compiler
import BlockSheet.Proofs.Variable

/-!
# Showing a sheet

A compiled sheet holds a variable token in each breakpoint prelude. When its CSS is shown, the
tokens are replaced in the rendered text, which has no structure left. This module says what that
does to the sheet: exactly the breakpoint preludes of known variables change, and what is shown is
the rendered text of the sheet with those preludes (`resolveVariables_render`).

The sheet must not hold the beginning of a token elsewhere (`Css.Plain`). Nothing else is asked of
its texts, which may well hold other parts of tokens. Rendering puts a blank, or a colon or a
semicolon and then a blank, behind each of them; the scan does not see across a blank, and one
character more completes no token.
-/

namespace BlockSheet.Style

/-! ### The shown sheet -/

/-- How a breakpoint prelude begins. -/
def breakpointStart : List Char := "@media #\x7bghostkitvar:media_".toList

/-- The breakpoint whose token stands in a prelude, if it is a breakpoint prelude. -/
def preludeBreakpoint? (prelude : String) : Option String :=
  ((Text.after? breakpointStart prelude.toList).bind (Text.before? ['\x7d'])).map String.ofList

/-- A prelude as it is shown: the token of a known breakpoint gives way to its condition. -/
def shownPrelude (resolver : Resolver) (prelude : String) : String :=
  match (preludeBreakpoint? prelude).bind fun breakpoint => resolver ("media_" ++ breakpoint) with
  | some condition => "@media " ++ condition
  | none => prelude

mutual

/-- A piece of a sheet as it is shown: its preludes change, all else stays. -/
def Css.shown (resolver : Resolver) : Css → Css
  | .rule selector declarations => .rule selector declarations
  | .group prelude body => .group (shownPrelude resolver prelude) (shownSheet resolver body)

/-- A sheet as it is shown. -/
def shownSheet (resolver : Resolver) : List Css → List Css
  | [] => []
  | css :: sheet => css.shown resolver :: shownSheet resolver sheet

end

/-! ### Sheets with tokens in their preludes only -/

/-- No variable token begins in the text. -/
def Tokenless (text : String) : Prop := ¬ "#\x7bghostkitvar:".toList <:+: text.toList

instance (text : String) : Decidable (Tokenless text) :=
  decidable_of_iff (Text.contains "#\x7bghostkitvar:".toList text.toList = false)
    Text.contains_eq_false_iff

/-- May the name be that of a breakpoint inside a token? -/
def FitsToken (breakpoint : String) : Prop :=
  ∀ c ∈ breakpoint.toList, c ≠ '\x7d' ∧ Text.isBlank c = false

-- The instance is named, since one that tries all characters may be in scope.
instance (breakpoint : String) : Decidable (FitsToken breakpoint) :=
  List.decidableBAll (fun c => c ≠ '\x7d' ∧ Text.isBlank c = false) breakpoint.toList

/-- A prelude is that of a breakpoint, or no token begins in it. -/
def PlainPrelude (prelude : String) : Prop :=
  (∃ breakpoint, prelude = "@media " ++ breakpointToken breakpoint ∧ FitsToken breakpoint) ∨
    Tokenless prelude

mutual

/-- Tokens stand in breakpoint preludes and nowhere else. -/
def Css.Plain : Css → Prop
  | .rule selector declarations =>
    Tokenless selector ∧ ∀ d ∈ declarations, Tokenless d.property ∧ Tokenless d.value
  | .group prelude body => PlainPrelude prelude ∧ PlainSheet body

/-- Tokens stand in breakpoint preludes and nowhere else. -/
def PlainSheet : List Css → Prop
  | [] => True
  | css :: sheet => css.Plain ∧ PlainSheet sheet

end

/-! ### Preludes -/

/-- The characters of a breakpoint prelude: its token stands behind a blank. -/
theorem toList_mediaPrelude (breakpoint : String) :
    ("@media " ++ breakpointToken breakpoint).toList =
      "@media".toList ++ ' ' :: variableChars ("media_" ++ breakpoint).toList := by
  have hblank : "@media ".toList = "@media".toList ++ [' '] := by decide
  simp only [breakpointToken, breakpointVariable, variableToken, String.toList_append,
    String.toList_ofList, hblank, List.append_assoc, List.singleton_append]

theorem preludeBreakpoint?_mediaPrelude (breakpoint : String) :
    preludeBreakpoint? ("@media " ++ breakpointToken breakpoint) = some breakpoint := by
  have hstart : breakpointStart = "@media".toList ++ ' ' :: (tokenStart ++ "media_".toList) := by
    decide
  have hchars : ("@media " ++ breakpointToken breakpoint).toList =
      breakpointStart ++ (breakpoint.toList ++ [tokenEnd]) := by
    rw [toList_mediaPrelude, hstart]
    simp only [variableChars, String.toList_append, List.append_assoc, List.cons_append]
  have hend : Text.before? ['\x7d'] (breakpoint.toList ++ [tokenEnd]) =
      some breakpoint.toList := by
    rw [Text.before?_eq_some, tokenEnd]
  rw [preludeBreakpoint?, hchars, Text.after?_append, Option.bind_some, hend, Option.map_some,
    String.ofList_toList]

/-- The beginning of a token stands in every breakpoint prelude. -/
theorem preludeBreakpoint?_of_tokenless {prelude : String} (h : Tokenless prelude) :
    preludeBreakpoint? prelude = none := by
  have hstart : Text.after? breakpointStart prelude.toList = none := by
    cases hafter : Text.after? breakpointStart prelude.toList with
    | none => rfl
    | some rest =>
        have hstart : breakpointStart =
            "@media ".toList ++ "#\x7bghostkitvar:".toList ++ "media_".toList := by decide
        have hoccurs : "#\x7bghostkitvar:".toList <:+: prelude.toList := by
          refine ⟨"@media ".toList, "media_".toList ++ rest, ?_⟩
          rw [Text.after?_eq_some.1 hafter, hstart, List.append_assoc _ _ rest]
        exact absurd hoccurs h
  rw [preludeBreakpoint?, hstart, Option.bind_none, Option.map_none]

variable (resolver : Resolver)

/-- The prelude of a breakpoint is shown with the condition of its variable, where it is known. -/
theorem shownPrelude_mediaPrelude (breakpoint : String) :
    shownPrelude resolver ("@media " ++ breakpointToken breakpoint) =
      match resolver ("media_" ++ breakpoint) with
      | some condition => "@media " ++ condition
      | none => "@media " ++ breakpointToken breakpoint := by
  rw [shownPrelude, preludeBreakpoint?_mediaPrelude, Option.bind_some]

/-- A prelude in which no token begins is shown as it is. -/
theorem shownPrelude_of_tokenless {prelude : String} (h : Tokenless prelude) :
    shownPrelude resolver prelude = prelude := by
  rw [shownPrelude, preludeBreakpoint?_of_tokenless h, Option.bind_none]

theorem resolveChars_prelude {prelude : String} (h : PlainPrelude prelude) :
    resolveChars resolver prelude.toList = (shownPrelude resolver prelude).toList := by
  rcases h with ⟨breakpoint, rfl, hfits⟩ | htokenless
  · have hname : ∀ c ∈ ("media_" ++ breakpoint).toList, isNameChar c = true := by
      have hmedia : FitsToken "media_" := by decide
      intro c hc
      rw [String.toList_append] at hc
      obtain ⟨hclose, hblank⟩ := (List.mem_append.1 hc).elim (hmedia c) (hfits c)
      simp [isNameChar, tokenEnd, hclose, hblank]
    have hne : ("media_" ++ breakpoint).toList ≠ [] := by
      rw [String.toList_append]
      exact List.append_ne_nil_of_left_ne_nil (by decide) _
    have hmedia : resolveChars resolver "@media".toList = "@media".toList :=
      resolveChars_eq_self resolver (Text.contains_eq_false_iff.1 (by decide))
    rw [shownPrelude_mediaPrelude, toList_mediaPrelude,
      resolveChars_append_blank resolver (by decide), hmedia,
      resolveChars_variableChars resolver hne hname, String.ofList_toList]
    cases resolver ("media_" ++ breakpoint) with
    | none => rw [Option.map_none, Option.getD_none, toList_mediaPrelude]
    | some condition =>
        rw [Option.map_some, Option.getD_some, String.toList_append]
        rfl
  · rw [shownPrelude_of_tokenless resolver htokenless, resolveChars_eq_self resolver htokenless]

/-! ### Rules -/

/-- Declarations in which no token begins stay as they are, behind a text that does and in front of
the end of their rule. -/
theorem resolveChars_declarations (ds : List Declaration)
    (hds : ∀ d ∈ ds, Tokenless d.property ∧ Tokenless d.value) (front : List Char)
    (hfront : resolveChars resolver front = front) :
    resolveChars resolver (front ++ (ds.flatMap (fun d => ' ' :: d.chars) ++ [' ', '\x7d'])) =
      front ++ (ds.flatMap (fun d => ' ' :: d.chars) ++ [' ', '\x7d']) := by
  induction ds generalizing front with
  | nil =>
      rw [List.flatMap_nil, List.nil_append, resolveChars_append_blank resolver (by decide),
        hfront, resolveChars_singleton]
  | cons d ds ih =>
      obtain ⟨hd, hds⟩ := List.forall_mem_cons.1 hds
      -- The colon and the semicolon go with the text in front of them, the blanks part the rest.
      have hproperty := resolveChars_append_singleton resolver hd.1 ':'
      have hvalue := resolveChars_append_singleton resolver hd.2 ';'
      have hrest := ih hds (d.value.toList ++ [';']) hvalue
      have hparts : (d :: ds).flatMap (fun d => ' ' :: d.chars) ++ [' ', '\x7d'] =
          ' ' :: (d.property.toList ++ [':']) ++ ' ' :: (d.value.toList ++ [';'] ++
            (ds.flatMap (fun d => ' ' :: d.chars) ++ [' ', '\x7d'])) := by
        simp [Declaration.chars]
      rw [hparts, List.cons_append, resolveChars_append_blank resolver (by decide),
        resolveChars_append_blank resolver (by decide), hfront, hproperty, hrest]

theorem resolveChars_rule {selector : String} {ds : List Declaration}
    (h : (Css.rule selector ds).Plain) :
    resolveChars resolver (Css.rule selector ds).chars = (Css.rule selector ds).chars := by
  rw [Css.Plain] at h
  have hbody := resolveChars_declarations resolver ds h.2 ['\x7b']
    (resolveChars_singleton resolver _)
  have hparts : (Css.rule selector ds).chars =
      selector.toList ++ ' ' :: (['\x7b'] ++
        (ds.flatMap (fun d => ' ' :: d.chars) ++ [' ', '\x7d'])) := by
    simp [Css.chars]
  rw [hparts, resolveChars_append_blank resolver (by decide), hbody,
    resolveChars_eq_self resolver h.1]

/-! ### Sheets -/

mutual

/-- The text of a piece becomes that of the piece as it is shown. -/
theorem resolveChars_chars : ∀ css : Css, css.Plain →
    resolveChars resolver css.chars = (css.shown resolver).chars
  | .rule selector ds, h => by rw [resolveChars_rule resolver h, Css.shown]
  | .group prelude body, h => by
      rw [Css.Plain] at h
      have hparts : ∀ prelude body, (Css.group prelude body).chars =
          prelude.toList ++ ' ' :: (['\x7b'] ++ ' ' :: (renderChars body ++ ' ' :: ['\x7d'])) := by
        simp [Css.chars, renderChars]
      rw [Css.shown, hparts, hparts, resolveChars_append_blank resolver (by decide),
        resolveChars_append_blank resolver (by decide),
        resolveChars_append_blank resolver (by decide), resolveChars_prelude resolver h.1,
        resolveChars_renderChars body h.2, resolveChars_singleton, resolveChars_singleton]

/-- The text of a sheet becomes that of the sheet as it is shown. -/
theorem resolveChars_renderChars : ∀ sheet : List Css, PlainSheet sheet →
    resolveChars resolver (renderChars sheet) = renderChars (shownSheet resolver sheet)
  | [], _ => by
      rw [shownSheet, renderChars, cssTexts, Text.joined_nil, resolveChars_nil]
  | [css], h => by
      rw [PlainSheet] at h
      simp only [renderChars, shownSheet, cssTexts, Text.joined_singleton]
      exact resolveChars_chars css h.1
  | css :: next :: sheet, h => by
      rw [PlainSheet] at h
      have hcss := resolveChars_chars css h.1
      have hrest := resolveChars_renderChars (next :: sheet) h.2
      simp only [renderChars, shownSheet, cssTexts, Text.joined_cons_cons, List.append_assoc,
        List.singleton_append] at hrest ⊢
      rw [resolveChars_append_blank resolver (by decide), hcss, hrest]

end

/-- **Resolution touches the breakpoint preludes only.** Resolving the variables in the text of a
sheet gives the text of the sheet in which the breakpoint preludes of known variables have their
conditions. -/
theorem resolveVariables_render (sheet : List Css) (h : PlainSheet sheet) :
    resolveVariables (render sheet) resolver = render (shownSheet resolver sheet) := by
  rw [resolveVariables, render, render, String.toList_ofList,
    resolveChars_renderChars resolver sheet h]

/-- A feature query around two breakpoints. The texts hold parts of tokens, and one property is just
short of the beginning of one. -/
def layered : List Css :=
  [.group "@supports (display: grid)" [
    .group (Compiler.mediaPrelude "sm") [.rule ".a" [⟨"#\x7bghostkitvar", "#\x7b"⟩]],
    .group (Compiler.mediaPrelude "#\x7b") [.rule ".b #" []]]]

/-- A resolver that knows one breakpoint. -/
def smallOnly : Resolver := fun name =>
  if name = "media_sm" then some "(max-width: 576px)" else none

/-- The condition of the known breakpoint is shown, the other breakpoint stays. -/
theorem resolveVariables_layered :
    PlainSheet layered ∧
      shownSheet smallOnly layered = [.group "@supports (display: grid)" [
        .group "@media (max-width: 576px)" [.rule ".a" [⟨"#\x7bghostkitvar", "#\x7b"⟩]],
        .group (Compiler.mediaPrelude "#\x7b") [.rule ".b #" []]]] ∧
      resolveVariables (render layered) smallOnly = render (shownSheet smallOnly layered) := by
  have hplain : PlainSheet layered := by
    simp only [layered, PlainSheet, Css.Plain, and_true]
    exact ⟨Or.inr (by decide), ⟨Or.inl ⟨"sm", rfl, by decide⟩, by decide⟩,
      Or.inl ⟨"#\x7b", rfl, by decide⟩, by decide⟩
  have hfeature : Tokenless "@supports (display: grid)" := by decide
  refine ⟨hplain, ?_, resolveVariables_render smallOnly layered hplain⟩
  simp only [layered, shownSheet, Css.shown, shownPrelude_of_tokenless smallOnly hfeature,
    Compiler.mediaPrelude, shownPrelude_mediaPrelude]
  rfl

end BlockSheet.Style
