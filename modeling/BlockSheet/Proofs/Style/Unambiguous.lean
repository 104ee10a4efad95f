import BlockSheet.Proofs.Style.Shown
import BlockSheet.Proofs.Text.Pattern

/-!
# Different sheets have different texts

A rendered sheet can be read in one way only, as long as its texts do not hold the characters that
end them (`LegibleSheet`). Blanks need no such care: a selector may be empty, or begin and end with
blanks, and so may all other texts.

* **Heads.** What stands in front of a piece ends with the first opening brace. The prelude of a
  breakpoint has one in its token, but no blank in front of it.
* **Rules and groups.** The first brace inside a rule closes it. Inside a group it opens a piece,
  unless the group is empty; then two blanks stand where a rule has one blank or a declaration.
* **Sequences.** What comes behind the last piece has a closing brace before any opening one, or no
  brace at all, so it is not taken for a further piece.

Hence two legible sheets with the same text are the same sheet (`render_eq_iff`).
-/

namespace BlockSheet.Style

open Text (cut_inj)

/-! ### Legible sheets -/

def braces : List Char := ['\x7b', '\x7d']

/-- The characters that end the value of a declaration, or the rule. -/
def valueEnds : List Char := ';' :: braces

/-- The characters that end the property of a declaration, or the rule. -/
def propertyEnds : List Char := ':' :: valueEnds

/-- The text holds none of the given characters. -/
def FreeOf (ends : List Char) (text : String) : Prop := ∀ c ∈ text.toList, c ∉ ends

-- The instance is named, since one that tries all characters may be in scope.
instance (ends : List Char) (text : String) : Decidable (FreeOf ends text) :=
  List.decidableBAll (· ∉ ends) text.toList

/-- A prelude is free of braces, or that of a breakpoint whose name is. -/
def LegiblePrelude (prelude : String) : Prop :=
  FreeOf braces prelude ∨
    ∃ breakpoint, prelude = "@media " ++ breakpointToken breakpoint ∧ FreeOf braces breakpoint

/-- Neither the property nor the value holds a character that ends it. -/
def Declaration.Legible (d : Declaration) : Prop :=
  FreeOf propertyEnds d.property ∧ FreeOf valueEnds d.value

instance (d : Declaration) : Decidable d.Legible := inferInstanceAs (Decidable (_ ∧ _))

mutual

/-- No text in the piece holds a character that ends it. -/
def Css.Legible : Css → Prop
  | .rule selector declarations => FreeOf braces selector ∧ ∀ d ∈ declarations, d.Legible
  | .group prelude body => LegiblePrelude prelude ∧ LegibleSheet body

/-- No text in the sheet holds a character that ends it. -/
def LegibleSheet : List Css → Prop
  | [] => True
  | css :: sheet => css.Legible ∧ LegibleSheet sheet

end

theorem FreeOf.append_blank {text : String} (h : FreeOf braces text) :
    ∀ c ∈ text.toList ++ [' '], c ∉ braces := by
  rw [List.forall_mem_append, List.forall_mem_singleton]
  exact ⟨h, by decide⟩

/-! ### First braces -/

def firstBrace (text : List Char) : Option Char := text.find? fun c => c ∈ braces

theorem firstBrace_append_cons {front : List Char} {c : Char} (hfront : ∀ c ∈ front, c ∉ braces)
    (hc : c ∈ braces) (rest : List Char) : firstBrace (front ++ c :: rest) = some c := by
  have hnone : front.find? (fun c => c ∈ braces) = none := by simpa using hfront
  rw [firstBrace, List.find?_append, hnone, Option.none_or,
    List.find?_cons_of_pos (by simpa using hc)]

theorem firstBrace_blank (text : List Char) : firstBrace (' ' :: text) = firstBrace text :=
  List.find?_cons_of_neg (by decide)

/-- What begins in this way does not begin a further piece: nothing, or the end of a group. -/
def Closing (text : List Char) : Prop := firstBrace text ≠ some '\x7b'

theorem closing_nil : Closing [] := by
  intro h
  cases h

theorem closing_end (text : List Char) : Closing (' ' :: '\x7d' :: text) := by
  have hblank : ∀ c ∈ [' '], c ∉ braces := by simp [braces]
  rw [Closing, ← List.singleton_append, firstBrace_append_cons hblank (by decide)]
  decide

/-! ### Heads -/

/-- What stands in front of the opening brace of a piece. -/
def Css.head : Css → String
  | .rule selector _ => selector
  | .group prelude _ => prelude

/-- The declarations of a rule, each behind a blank. -/
def declarationsChars (ds : List Declaration) : List Char := ds.flatMap fun d => ' ' :: d.chars

/-- What stands behind the opening brace of a piece, with what follows the piece. -/
def Css.inside (s : List Char) : Css → List Char
  | .rule _ declarations => declarationsChars declarations ++ ' ' :: '\x7d' :: s
  | .group _ body => ' ' :: (renderChars body ++ ' ' :: '\x7d' :: s)

/-- The text of a piece with what follows it, cut at its opening brace. -/
theorem Css.chars_append (css : Css) (s : List Char) :
    css.chars ++ s = css.head.toList ++ ' ' :: '\x7b' :: css.inside s := by
  cases css with
  | rule selector ds => simp [chars, head, inside, declarationsChars]
  | group prelude body => simp [chars, head, inside, renderChars]

theorem Css.Legible.head {css : Css} (h : css.Legible) : LegiblePrelude css.head := by
  cases css with
  | rule selector ds =>
      rw [Css.Legible] at h
      exact .inl h.1
  | group prelude body =>
      rw [Css.Legible] at h
      exact h.1

/-- What stands in a breakpoint prelude in front of its first brace. -/
def tokenFront : List Char := "@media".toList ++ [' ', '#']

/-- How a token goes on behind its first brace. -/
def tokenKind : List Char := "ghostkitvar:".toList

/-- What stands in a breakpoint prelude behind its first brace, and what follows it. -/
def behindToken (breakpoint : String) (rest : List Char) : List Char :=
  tokenKind ++ ("media_" ++ breakpoint).toList ++ tokenEnd :: rest

theorem tokenFront_eq : tokenFront = "@media".toList ++ [' ', '#'] := rfl

theorem not_mem_braces_of_tokenFront : ∀ c ∈ tokenFront, c ∉ braces := by
  rw [tokenFront_eq]
  simp [braces]

theorem not_mem_braces_of_tokenKind : ∀ c ∈ tokenKind, c ∉ braces := by
  have hkind : tokenKind = "ghostkitvar:".toList := rfl
  rw [hkind]
  simp [braces]

theorem toList_mediaPrelude_append (breakpoint : String) (rest : List Char) :
    ("@media " ++ breakpointToken breakpoint).toList ++ rest =
      tokenFront ++ '\x7b' :: behindToken breakpoint rest := by
  have hstart : tokenStart = '#' :: '\x7b' :: tokenKind := by decide
  simp only [toList_mediaPrelude, variableChars, hstart, tokenFront_eq, behindToken,
    List.append_assoc, List.cons_append, List.nil_append]

theorem behindToken_inj {b b' : String} (hb : FreeOf braces b) (hb' : FreeOf braces b')
    {s t : List Char} (h : behindToken b s = behindToken b' t) : b = b' ∧ s = t := by
  have hfront : ∀ b, FreeOf braces b →
      ∀ c ∈ tokenKind ++ ("media_" ++ b).toList, c ∉ braces := by
    intro b hb
    rw [String.toList_append, List.forall_mem_append, List.forall_mem_append]
    exact ⟨not_mem_braces_of_tokenKind, by simp [braces], hb⟩
  obtain ⟨hvariable, -, hrest⟩ := cut_inj (p := (· ∈ braces)) (hfront b hb) (hfront b' hb')
    (by decide) (by decide) h
  have hbreakpoint := List.append_cancel_left hvariable
  rw [String.toList_append, String.toList_append] at hbreakpoint
  exact ⟨String.toList_inj.1 (List.append_cancel_left hbreakpoint), hrest⟩

/-- A text without braces and a blank in front of a brace: the beginning of no breakpoint prelude,
whose first brace stands behind a number sign. -/
theorem plainHead_ne_mediaPrelude {head : String} (h : FreeOf braces head) (breakpoint : String)
    (s t : List Char) :
    head.toList ++ ' ' :: '\x7b' :: s ≠ ("@media " ++ breakpointToken breakpoint).toList ++ t := by
  intro heq
  rw [toList_mediaPrelude_append, List.append_cons] at heq
  obtain ⟨hfront, -⟩ := cut_inj (p := (· ∈ braces)) h.append_blank not_mem_braces_of_tokenFront
    (by decide) (by decide) heq
  have hlast := congrArg List.getLast? hfront
  rw [List.getLast?_concat] at hlast
  exact absurd hlast (by decide)

theorem LegiblePrelude.firstBrace {head : String} (h : LegiblePrelude head) (rest : List Char) :
    firstBrace (head.toList ++ ' ' :: '\x7b' :: rest) = some '\x7b' := by
  rcases h with h | ⟨breakpoint, rfl, -⟩
  · rw [List.append_cons]
    exact firstBrace_append_cons h.append_blank (by decide) rest
  · rw [toList_mediaPrelude_append]
    exact firstBrace_append_cons not_mem_braces_of_tokenFront (by decide) _

/-- **A head is known** by the text in front of the opening brace. -/
theorem head_inj {head head' : String} (h : LegiblePrelude head) (h' : LegiblePrelude head')
    {s t : List Char}
    (heq : head.toList ++ ' ' :: '\x7b' :: s = head'.toList ++ ' ' :: '\x7b' :: t) :
    head = head' ∧ s = t := by
  rcases h with h | ⟨breakpoint, rfl, h⟩
  · rcases h' with h' | ⟨breakpoint', rfl, -⟩
    · rw [List.append_cons, List.append_cons head'.toList] at heq
      obtain ⟨hfront, -, hrest⟩ := cut_inj (p := (· ∈ braces)) h.append_blank h'.append_blank
        (by decide) (by decide) heq
      exact ⟨String.toList_inj.1 (List.append_cancel_right hfront), hrest⟩
    · exact absurd heq (plainHead_ne_mediaPrelude h breakpoint' _ _)
  · rcases h' with h' | ⟨breakpoint', rfl, h'⟩
    · exact absurd heq.symm (plainHead_ne_mediaPrelude h' breakpoint _ _)
    · rw [toList_mediaPrelude_append, toList_mediaPrelude_append] at heq
      obtain ⟨rfl, hrest⟩ := behindToken_inj h h' (List.cons.inj (List.append_cancel_left heq)).2
      exact ⟨rfl, (List.cons.inj (List.cons.inj hrest).2).2⟩

/-! ### Declarations -/

theorem declarationsChars_cons_append (d : Declaration) (ds : List Declaration) (s : List Char) :
    declarationsChars (d :: ds) ++ s =
      ' ' :: (d.property.toList ++ ':' :: ' ' :: (d.value.toList ++ ';' ::
        (declarationsChars ds ++ s))) := by
  simp [declarationsChars, Declaration.chars]

/-- A declaration does not begin like the end of a rule. -/
theorem declarationsChars_cons_ne_end {d : Declaration} (hd : d.Legible) (ds : List Declaration)
    (front s t : List Char) (hfront : ∀ c ∈ front, c ∉ propertyEnds) :
    declarationsChars (d :: ds) ++ s ≠ ' ' :: (front ++ '\x7d' :: t) := by
  intro heq
  rw [declarationsChars_cons_append] at heq
  obtain ⟨-, hcolon, -⟩ := cut_inj (p := (· ∈ propertyEnds)) hd.1 hfront (by decide) (by decide)
    (List.cons.inj heq).2
  exact absurd hcolon (by decide)

/-- **Declarations are known** by their text up to the brace that closes the rule. -/
theorem declarationsChars_inj {ds ds' : List Declaration} (h : ∀ d ∈ ds, d.Legible)
    (h' : ∀ d ∈ ds', d.Legible) {s t : List Char}
    (heq : declarationsChars ds ++ ' ' :: '\x7d' :: s =
      declarationsChars ds' ++ ' ' :: '\x7d' :: t) : ds = ds' ∧ s = t := by
  induction ds generalizing ds' with
  | nil =>
      cases ds' with
      | nil => exact ⟨rfl, (List.cons.inj (List.cons.inj heq).2).2⟩
      | cons d' ds' =>
          rw [List.forall_mem_cons] at h'
          exact absurd heq.symm (declarationsChars_cons_ne_end h'.1 ds' [] _ s (by simp))
  | cons d ds ih =>
      rw [List.forall_mem_cons] at h
      cases ds' with
      | nil => exact absurd heq (declarationsChars_cons_ne_end h.1 ds [] _ t (by simp))
      | cons d' ds' =>
          rw [List.forall_mem_cons] at h'
          rw [declarationsChars_cons_append, declarationsChars_cons_append] at heq
          obtain ⟨hproperty, -, hbehind⟩ := cut_inj (p := (· ∈ propertyEnds)) h.1.1 h'.1.1
            (by decide) (by decide) (List.cons.inj heq).2
          obtain ⟨hvalue, -, hrest⟩ := cut_inj (p := (· ∈ valueEnds)) h.1.2 h'.1.2
            (by decide) (by decide) (List.cons.inj hbehind).2
          obtain ⟨rfl, hs⟩ := ih h.2 h'.2 hrest
          obtain ⟨property, value⟩ := d
          obtain ⟨property', value'⟩ := d'
          obtain rfl := String.toList_inj.1 hproperty
          obtain rfl := String.toList_inj.1 hvalue
          exact ⟨rfl, hs⟩

theorem firstBrace_declarationsChars {ds : List Declaration} (h : ∀ d ∈ ds, d.Legible)
    (s : List Char) : firstBrace (declarationsChars ds ++ ' ' :: '\x7d' :: s) = some '\x7d' := by
  have hfree : ∀ c ∈ declarationsChars ds ++ [' '], c ∉ braces := by
    have hvalue : ∀ c ∈ braces, c ∈ valueEnds := fun _ => List.mem_cons_of_mem _
    have hproperty : ∀ c ∈ braces, c ∈ propertyEnds :=
      fun c hc => List.mem_cons_of_mem _ (hvalue c hc)
    intro c hc hbrace
    simp only [declarationsChars, Declaration.chars, List.mem_append, List.mem_flatMap,
      List.mem_cons, List.not_mem_nil, or_false] at hc
    rcases hc with ⟨d, hd, rfl | ((hc | hc) | hc) | rfl⟩ | rfl
    · exact absurd hbrace (by decide)
    · exact (h d hd).1 c hc (hproperty c hbrace)
    · rcases hc with rfl | rfl <;> exact absurd hbrace (by decide)
    · exact (h d hd).2 c hc (hvalue c hbrace)
    · exact absurd hbrace (by decide)
    · exact absurd hbrace (by decide)
  rw [List.append_cons]
  exact firstBrace_append_cons hfree (by decide) s

/-! ### Sequences of pieces -/

theorem Css.Legible.firstBrace {css : Css} (h : css.Legible) (rest : List Char) :
    firstBrace (css.chars ++ rest) = some '\x7b' := by
  rw [css.chars_append]
  exact h.head.firstBrace _

/-- The text of the piece differs from those of all other legible pieces, whatever comes behind
them, and it ends at one place. -/
def Css.Delimited (css : Css) : Prop :=
  ∀ ⦃css' s t⦄, css'.Legible → css.chars ++ s = css'.chars ++ t → css = css' ∧ s = t

/-- The pieces of a sheet, each behind a blank. -/
def furtherChars (sheet : List Css) : List Char := (sheet.map Css.chars).flatMap (' ' :: ·)

theorem renderChars_cons (css : Css) (sheet : List Css) :
    renderChars (css :: sheet) = css.chars ++ furtherChars sheet := by
  rw [renderChars, cssTexts_eq_map, List.map_cons, Text.joined_cons, furtherChars]

theorem furtherChars_cons_append (css : Css) (sheet : List Css) (s : List Char) :
    furtherChars (css :: sheet) ++ s = ' ' :: (css.chars ++ (furtherChars sheet ++ s)) := by
  simp [furtherChars]

/-- What begins with a further piece does not close the sheet. -/
theorem not_closing_further {css : Css} (h : css.Legible) (sheet : List Css) (s : List Char) :
    ¬ Closing (furtherChars (css :: sheet) ++ s) := by
  intro hclosing
  rw [furtherChars_cons_append, Closing, firstBrace_blank, h.firstBrace] at hclosing
  exact hclosing rfl

/-- Further pieces: each is known by its text, and what closes the sheet is none of them. -/
theorem furtherChars_inj {sheet sheet' : List Css} (hpieces : ∀ css ∈ sheet, css.Delimited)
    (h : LegibleSheet sheet) (h' : LegibleSheet sheet') {s t : List Char} (hs : Closing s)
    (ht : Closing t) (heq : furtherChars sheet ++ s = furtherChars sheet' ++ t) :
    sheet = sheet' ∧ s = t := by
  induction sheet generalizing sheet' with
  | nil =>
      cases sheet' with
      | nil => exact ⟨rfl, heq⟩
      | cons css' sheet' =>
          rw [LegibleSheet] at h'
          rw [show s = furtherChars (css' :: sheet') ++ t from heq] at hs
          exact absurd hs (not_closing_further h'.1 _ _)
  | cons css sheet ih =>
      rw [LegibleSheet] at h
      cases sheet' with
      | nil =>
          rw [show t = furtherChars (css :: sheet) ++ s from heq.symm] at ht
          exact absurd ht (not_closing_further h.1 _ _)
      | cons css' sheet' =>
          rw [LegibleSheet] at h'
          rw [List.forall_mem_cons] at hpieces
          rw [furtherChars_cons_append, furtherChars_cons_append] at heq
          obtain ⟨rfl, hrest⟩ := hpieces.1 h'.1 (List.cons.inj heq).2
          obtain ⟨rfl, hst⟩ := ih hpieces.2 h.2 h'.2 hrest
          exact ⟨rfl, hst⟩

/-- A sheet is known by its text up to what closes it. -/
theorem renderChars_inj {sheet sheet' : List Css} (hpieces : ∀ css ∈ sheet, css.Delimited)
    (h : LegibleSheet sheet) (h' : LegibleSheet sheet') {s t : List Char} (hs : Closing s)
    (ht : Closing t) (heq : renderChars sheet ++ s = renderChars sheet' ++ t) :
    sheet = sheet' ∧ s = t := by
  -- A blank in front makes all pieces further ones.
  have hblank : ∀ css sheet s, furtherChars (css :: sheet) ++ s =
      ' ' :: (renderChars (css :: sheet) ++ s) := by
    intro css sheet s
    rw [furtherChars_cons_append, renderChars_cons, List.append_assoc]
  cases sheet with
  | nil =>
      cases sheet' with
      | nil => exact ⟨rfl, heq⟩
      | cons css' sheet' =>
          rw [LegibleSheet] at h'
          rw [renderChars_cons, List.append_assoc] at heq
          have hopening := h'.1.firstBrace (furtherChars sheet' ++ t)
          exact absurd ((congrArg firstBrace heq).trans hopening) hs
  | cons css sheet =>
      cases sheet' with
      | nil =>
          rw [LegibleSheet] at h
          rw [renderChars_cons, List.append_assoc] at heq
          have hopening := h.1.firstBrace (furtherChars sheet ++ s)
          exact absurd ((congrArg firstBrace heq.symm).trans hopening) ht
      | cons css' sheet' =>
          refine furtherChars_inj hpieces h h' hs ht ?_
          rw [hblank, hblank, heq]

/-! ### Pieces -/

/-- A rule is no group, even if their heads are the same. -/
theorem inside_rule_ne_group {ds : List Declaration} {body : List Css}
    (hds : ∀ d ∈ ds, d.Legible) (hbody : LegibleSheet body) (s t : List Char) :
    declarationsChars ds ++ ' ' :: '\x7d' :: s ≠
      ' ' :: (renderChars body ++ ' ' :: '\x7d' :: t) := by
  intro heq
  cases body with
  | nil =>
      cases ds with
      | nil => exact absurd (List.cons.inj (List.cons.inj heq).2).1 (by decide)
      | cons d ds =>
          rw [List.forall_mem_cons] at hds
          have hblank : ∀ c ∈ [' '], c ∉ propertyEnds := by simp [propertyEnds, valueEnds, braces]
          exact declarationsChars_cons_ne_end hds.1 ds [' '] _ t hblank heq
  | cons css body =>
      rw [LegibleSheet] at hbody
      have hclosing := firstBrace_declarationsChars hds s
      rw [heq, renderChars_cons, List.append_assoc, firstBrace_blank,
        hbody.1.firstBrace] at hclosing
      exact absurd hclosing (by decide)

theorem Css.delimited_rule {selector : String} {ds : List Declaration}
    (h : (Css.rule selector ds).Legible) : (Css.rule selector ds).Delimited := by
  intro css' s t h' heq
  rw [Css.chars_append, Css.chars_append] at heq
  obtain ⟨hhead, hinside⟩ := head_inj h.head h'.head heq
  rw [Css.Legible] at h
  cases css' with
  | rule selector' ds' =>
      rw [Css.Legible] at h'
      obtain rfl : selector = selector' := hhead
      rw [inside, inside] at hinside
      obtain ⟨rfl, hst⟩ := declarationsChars_inj h.2 h'.2 hinside
      exact ⟨rfl, hst⟩
  | group prelude' body' =>
      rw [Css.Legible] at h'
      rw [inside, inside] at hinside
      exact absurd hinside (inside_rule_ne_group h.2 h'.2 _ _)

/-- A group is known by its text if its pieces are. -/
theorem Css.delimited_group {prelude : String} {body : List Css}
    (hpieces : ∀ css ∈ body, css.Delimited) (h : (Css.group prelude body).Legible) :
    (Css.group prelude body).Delimited := by
  intro css' s t h' heq
  rw [Css.chars_append, Css.chars_append] at heq
  obtain ⟨hhead, hinside⟩ := head_inj h.head h'.head heq
  rw [Css.Legible] at h
  cases css' with
  | rule selector' ds' =>
      rw [Css.Legible] at h'
      rw [inside, inside] at hinside
      exact absurd hinside.symm (inside_rule_ne_group h'.2 h.2 _ _)
  | group prelude' body' =>
      rw [Css.Legible] at h'
      obtain rfl : prelude = prelude' := hhead
      rw [inside, inside] at hinside
      obtain ⟨rfl, hend⟩ := renderChars_inj hpieces h.2 h'.2 (closing_end s) (closing_end t)
        (List.cons.inj hinside).2
      exact ⟨rfl, (List.cons.inj (List.cons.inj hend).2).2⟩

mutual

/-- **A legible piece is known** by its text. -/
theorem Css.Legible.delimited : ∀ css : Css, css.Legible → css.Delimited
  | .rule _ _, h => Css.delimited_rule h
  | .group prelude body, h => by
      have hbody : LegibleSheet body := by
        rw [Css.Legible] at h
        exact h.2
      exact Css.delimited_group (LegibleSheet.delimited body hbody) h

/-- Every piece of a legible sheet is known by its text. -/
theorem LegibleSheet.delimited : ∀ sheet : List Css, LegibleSheet sheet →
    ∀ css ∈ sheet, css.Delimited
  | [], _ => List.forall_mem_nil _
  | css :: sheet, h => by
      rw [LegibleSheet] at h
      exact List.forall_mem_cons.2 ⟨Css.Legible.delimited css h.1, LegibleSheet.delimited sheet h.2⟩

end

/-- **Rendering is unambiguous**: legible sheets have the same text only if they are the same. -/
theorem render_eq_iff {sheet sheet' : List Css} (h : LegibleSheet sheet)
    (h' : LegibleSheet sheet') : render sheet = render sheet' ↔ sheet = sheet' := by
  constructor
  · intro heq
    have hchars := congrArg String.toList heq
    rw [render, render, String.toList_ofList, String.toList_ofList] at hchars
    exact (renderChars_inj (LegibleSheet.delimited sheet h) h h' closing_nil closing_nil
      (congrArg (· ++ []) hchars)).1
  · intro heq
    rw [heq]

/-- An empty group with a rule behind it. -/
def ruleBehindGroup : List Css :=
  [.group (Compiler.mediaPrelude "sm") [], .rule " " [⟨" src", "a: b"⟩]]

/-- The same rule inside the group. -/
def ruleInGroup : List Css :=
  [.group (Compiler.mediaPrelude "sm") [.rule " " [⟨" src", "a: b"⟩]]]

theorem render_ne_ruleBehindGroup :
    LegibleSheet ruleBehindGroup ∧ LegibleSheet ruleInGroup ∧
      render ruleBehindGroup ≠ render ruleInGroup := by
  have hprelude : LegiblePrelude (Compiler.mediaPrelude "sm") := .inr ⟨"sm", rfl, by decide⟩
  have hbehind : LegibleSheet ruleBehindGroup := by
    simp only [ruleBehindGroup, LegibleSheet, Css.Legible, and_true]
    exact ⟨hprelude, by decide⟩
  have hin : LegibleSheet ruleInGroup := by
    simp only [ruleInGroup, LegibleSheet, Css.Legible, and_true]
    exact ⟨hprelude, by decide⟩
  refine ⟨hbehind, hin, fun h => ?_⟩
  have hlength := congrArg List.length ((render_eq_iff hbehind hin).1 h)
  exact absurd hlength (by decide)

end BlockSheet.Style
