import BlockSheet.Breakpoints
import BlockSheet.Proofs.Variable

/-!
# Resolving a text again

The conditions of breakpoints can be put into a text any number of times: the second time finds
nothing left to do (`resolveVariables_again`). The scan goes on behind a condition that it has put
in, so what has to be shown is that no token comes about with the condition, in front of it, behind
it or around it. Three things about a condition suffice (`Inert`): it holds neither the first nor
the last character of a token, and it holds a blank.

* No token begins in a condition, nor does one end in it; and none reaches over its blank.
* So a token in the new text that begins in front of a condition ends in front of it, where the text
  has not changed (`prefix_of_prefix_resolveChars`). It was there before.
* Tokens of unknown variables are kept, and with them whatever they hold, be it the beginning of
  another token.
-/

namespace BlockSheet

open Text (isBlank)

/-! ### The variables of a text -/

/-- The variables whose tokens the scan finds in a text, in order. -/
def variablesIn (text : List Char) : List String :=
  match _h : token? text with
  | some (name, rest) => String.ofList name :: variablesIn rest
  | none =>
    match text with
    | [] => []
    | _ :: rest => variablesIn rest
termination_by text.length
decreasing_by
  · exact length_lt_of_token? ‹_›
  · simp

@[simp] theorem variablesIn_nil : variablesIn [] = [] := by
  rw [variablesIn.eq_def]
  rfl

theorem variablesIn_of_token {text name rest : List Char} (h : token? text = some (name, rest)) :
    variablesIn text = String.ofList name :: variablesIn rest := by
  rw [variablesIn.eq_def]
  split
  · next found rest' hfound =>
      rw [h] at hfound
      obtain ⟨rfl, rfl⟩ := Prod.mk.inj (Option.some.inj hfound)
      rfl
  · next hnone =>
      rw [h] at hnone
      cases hnone

theorem variablesIn_cons_of_none {c : Char} {text : List Char} (h : token? (c :: text) = none) :
    variablesIn (c :: text) = variablesIn text := by
  rw [variablesIn.eq_def]
  split
  · next found rest hfound =>
      rw [h] at hfound
      cases hfound
  · rfl

/-- What stands behind the number sign at the beginning of a token. -/
def tokenTail : List Char := tokenStart.tail

theorem variableChars_eq (name : List Char) :
    variableChars name = '#' :: (tokenTail ++ name ++ [tokenEnd]) := rfl

/-- A token is found where a text begins with it, whatever follows. -/
theorem token?_variableChars_append {name : List Char} (hne : name ≠ [])
    (hname : ∀ c ∈ name, isNameChar c = true) (rest : List Char) :
    token? (variableChars name ++ rest) = some (name, rest) :=
  token?_eq_some_iff.2 ⟨rfl, hne, hname⟩

/-- A token begins with a number sign. -/
theorem token?_cons_of_ne {c : Char} (hc : c ≠ '#') (text : List Char) :
    token? (c :: text) = none := by
  cases htoken : token? (c :: text) with
  | none => rfl
  | some found =>
      obtain ⟨name, rest⟩ := found
      obtain ⟨htext, -, -⟩ := token?_eq_some_iff.1 htoken
      exact absurd (List.cons.inj htext).1 hc

theorem variablesIn_append_of_not_mem {front : List Char} (h : '#' ∉ front) (text : List Char) :
    variablesIn (front ++ text) = variablesIn text := by
  induction front with
  | nil => rfl
  | cons c front ih =>
      rw [List.mem_cons, not_or] at h
      rw [List.cons_append, variablesIn_cons_of_none (token?_cons_of_ne (Ne.symm h.1) _), ih h.2]

/-- A text of which no variable is known stays as it is. -/
theorem resolveChars_of_unknown {resolver : Resolver} {text : List Char}
    (h : ∀ name ∈ variablesIn text, resolver name = none) : resolveChars resolver text = text := by
  induction text using resolveChars.induct with
  | case1 text name rest htoken ih =>
      rw [variablesIn_of_token htoken, List.forall_mem_cons] at h
      rw [resolveChars_of_token resolver htoken, h.1, Option.map_none, Option.getD_none, ih h.2]
      exact (token?_eq_some_iff.1 htoken).1.symm
  | case2 hnone => exact resolveChars_nil resolver
  | case3 c text hnone ih =>
      rw [variablesIn_cons_of_none hnone] at h
      rw [resolveChars_cons_of_none resolver hnone, ih h]

/-! ### Texts that take part in no token -/

/-- No token begins or ends in the text, and none reaches over it. -/
structure Inert (text : List Char) : Prop where
  start : '#' ∉ text
  stop : tokenEnd ∉ text
  blank : ∃ c ∈ text, isBlank c = true

/-- The characters of a condition are those of its wording and digits. -/
theorem MediaSizes.mem_condition {c : Char} {width : UInt32} (h : c ∈ condition width) :
    c ∈ "(max-width: ".toList ∨ c ∈ "px)".toList ∨ Decimal.isDigit c = true := by
  have hparts : condition width =
      "(max-width: ".toList ++ Decimal.digits width.toNat ++ "px)".toList := rfl
  rw [hparts, List.mem_append, List.mem_append] at h
  rcases h with (h | h) | h
  · exact .inl h
  · exact .inr (.inr (Decimal.isDigit_of_mem_digits h))
  · exact .inr (.inl h)

/-- The condition of a width takes part in no token. -/
theorem MediaSizes.inert_condition (width : UInt32) : Inert (condition width) where
  start h := absurd (mem_condition h) (by decide)
  stop h := absurd (mem_condition h) (by decide)
  blank := ⟨' ', List.mem_append_left _ (List.mem_append_left _ (by decide)), by decide⟩

theorem MediaSizes.inert_resolver (sizes : MediaSizes) (name value : String)
    (h : sizes.resolver name = some value) : Inert value.toList := by
  obtain ⟨width, -, rfl⟩ := Option.map_eq_some_iff.1 h
  rw [String.toList_ofList]
  exact inert_condition width

section Inert

variable {resolver : Resolver}
  (hinert : ∀ name value, resolver name = some value → Inert value.toList)
include hinert

/-- **What ends in a token's brace is old**: a text without blanks up to a closing brace stands in
front of all that has been put in. -/
theorem prefix_of_prefix_resolveChars {front text : List Char}
    (hfront : ∀ c ∈ front, isBlank c = false)
    (h : front ++ [tokenEnd] <+: resolveChars resolver text) : front ++ [tokenEnd] <+: text := by
  induction text using resolveChars.induct generalizing front with
  | case1 text name rest htoken ih =>
      obtain ⟨rfl, -, -⟩ := token?_eq_some_iff.1 htoken
      rw [resolveChars_of_token resolver htoken] at h
      cases hname : resolver (String.ofList name) with
      | some value =>
          rw [hname, Option.map_some, Option.getD_some] at h
          rcases Text.concat_prefix_append h with hwithin | ⟨back, rfl, -⟩
          · exact absurd (hwithin.subset (by simp)) (hinert _ _ hname).stop
          · obtain ⟨c, hc, hblank⟩ := (hinert _ _ hname).blank
            rw [hfront c (List.mem_append_left _ hc)] at hblank
            cases hblank
      | none =>
          rw [hname, Option.map_none, Option.getD_none] at h
          rcases Text.concat_prefix_append h with hwithin | ⟨back, rfl, hback⟩
          · exact hwithin.trans (List.prefix_append _ _)
          -- The text goes on behind the token, which is kept.
          · rw [List.forall_mem_append] at hfront
            rw [List.append_assoc, List.prefix_append_right_inj]
            exact ih hfront.2 hback
  | case2 hnone =>
      rw [resolveChars_nil, List.prefix_nil] at h
      simp at h
  | case3 c text hnone ih =>
      rw [resolveChars_cons_of_none resolver hnone] at h
      cases front with
      | nil =>
          rw [List.nil_append, List.cons_prefix_cons] at h ⊢
          exact ⟨h.1, List.nil_prefix⟩
      | cons d front =>
          rw [List.forall_mem_cons] at hfront
          rw [List.cons_append, List.cons_prefix_cons] at h ⊢
          exact ⟨h.1, ih hfront.2 h.2⟩

/-- Where no token began, none begins when what follows has been resolved. -/
theorem token?_cons_resolveChars {c : Char} {text : List Char} (h : token? (c :: text) = none) :
    token? (c :: resolveChars resolver text) = none := by
  cases htoken : token? (c :: resolveChars resolver text) with
  | none => rfl
  | some found =>
      obtain ⟨name, rest⟩ := found
      obtain ⟨htext, hne, hname⟩ := token?_eq_some_iff.1 htoken
      rw [variableChars_eq, List.cons_append] at htext
      obtain ⟨rfl, htail⟩ := List.cons.inj htext
      have hfront : ∀ c ∈ tokenTail ++ name, isBlank c = false := by
        intro c hc
        refine isBlank_of_mem_variableChars hname ?_
        rw [variableChars_eq]
        exact List.mem_cons_of_mem _ (List.mem_append_left _ hc)
      -- The rest of the token stands in the old text too, so the token was there before.
      obtain ⟨after, rfl⟩ :=
        prefix_of_prefix_resolveChars hinert hfront ⟨rest, htail.symm⟩
      rw [← List.cons_append, ← variableChars_eq, token?_variableChars_append hne hname] at h
      cases h

/-- **The variables that are left**: a resolved text has the tokens of unknown variables, and no
others. -/
theorem variablesIn_resolveChars (text : List Char) :
    variablesIn (resolveChars resolver text) =
      (variablesIn text).filter fun name => (resolver name).isNone := by
  induction text using resolveChars.induct with
  | case1 text name rest htoken ih =>
      obtain ⟨-, hne, hname⟩ := token?_eq_some_iff.1 htoken
      rw [resolveChars_of_token resolver htoken, variablesIn_of_token htoken, List.filter_cons]
      cases hknown : resolver (String.ofList name) with
      | some value =>
          rw [Option.map_some, Option.getD_some,
            variablesIn_append_of_not_mem (hinert _ _ hknown).start, ih]
          rfl
      | none =>
          rw [Option.map_none, Option.getD_none,
            variablesIn_of_token (token?_variableChars_append hne hname _), ih]
          rfl
  | case2 hnone => simp
  | case3 c text hnone ih =>
      rw [resolveChars_cons_of_none resolver hnone, variablesIn_cons_of_none hnone,
        variablesIn_cons_of_none (token?_cons_resolveChars hinert hnone), ih]

end Inert

/-- **Resolving again** changes nothing, whatever the text and the widths: what the scan finds in a
resolved text are the tokens of unknown variables that it found before. -/
theorem resolveVariables_again (sizes : MediaSizes) (css : String) :
    resolveVariables (resolveVariables css sizes.resolver) sizes.resolver =
        resolveVariables css sizes.resolver ∧
      variablesIn (resolveVariables css sizes.resolver).toList =
        (variablesIn css.toList).filter fun name => (sizes.resolver name).isNone := by
  have hleft := variablesIn_resolveChars sizes.inert_resolver css.toList
  have hunknown : ∀ name ∈ variablesIn (resolveChars sizes.resolver css.toList),
      sizes.resolver name = none := by
    intro name hname
    rw [hleft, List.mem_filter, Option.isNone_iff_eq_none] at hname
    exact hname.2
  simp only [resolveVariables, String.toList_ofList]
  exact ⟨congrArg String.ofList (resolveChars_of_unknown hunknown), hleft⟩

end BlockSheet
