import BlockSheet.Variable
import BlockSheet.Proofs.Text.Pattern

/-!
# The scan for variable tokens

`resolveChars` looks for tokens in flat text and knows nothing of what the text is made of. Two
facts say all that the structure of a text has to be held against.

* No token holds a blank, so the scan treats the parts on both sides of a blank apart
  (`resolveChars_append_blank`): a token cannot begin in one and end in the other.
* A text in which the beginning of a token does not occur stays as it is, also with one more
  character behind it (`resolveChars_eq_self`, `resolveChars_append_singleton`). That character may
  complete the beginning of a token, but then there is no room for a name.
-/

namespace BlockSheet

open Text (isBlank)

/-! ### Tokens -/

/-- A token is found where a text begins with one, and nowhere else. -/
theorem token?_eq_some_iff {text name rest : List Char} :
    token? text = some (name, rest) ↔
      text = variableChars name ++ rest ∧ name ≠ [] ∧ ∀ c ∈ name, isNameChar c = true := by
  constructor
  · intro h
    unfold token? at h
    split at h
    · simp at h
    · next tail htail =>
        dsimp only at h
        split at h
        · next c after hdrop =>
            split at h
            · next hend =>
                simp only [Bool.and_eq_true, decide_eq_true_eq, Bool.not_eq_true',
                  List.isEmpty_eq_false_iff] at hend
                obtain ⟨rfl, rfl⟩ := Prod.mk.injEq .. ▸ Option.some.injEq .. ▸ h
                refine ⟨?_, hend.2, fun c hc => List.all_eq_true.1 List.all_takeWhile c hc⟩
                rw [Text.after?_eq_some.1 htail, variableChars, List.append_assoc,
                  List.append_assoc, List.singleton_append, ← hend.1, ← hdrop,
                  List.takeWhile_append_dropWhile]
            · simp at h
        · simp at h
  · rintro ⟨rfl, hne, hname⟩
    have hsplit : Text.after? tokenStart (variableChars name ++ rest) =
        some (name ++ tokenEnd :: rest) := by
      simp [variableChars]
    have hend : isNameChar tokenEnd = false := rfl
    have htake : (name ++ tokenEnd :: rest).takeWhile isNameChar = name := by
      rw [List.takeWhile_append_of_pos hname, List.takeWhile_cons_of_neg (by simp [hend]),
        List.append_nil]
    have hdrop : (name ++ tokenEnd :: rest).dropWhile isNameChar = tokenEnd :: rest := by
      rw [List.dropWhile_append_of_pos hname, List.dropWhile_cons_of_neg (by simp [hend])]
    simp [token?, hsplit, htake, hdrop, hne]

/-- A token holds no blank. -/
theorem isBlank_of_mem_variableChars {name : List Char}
    (hname : ∀ c ∈ name, isNameChar c = true) {c : Char} (hc : c ∈ variableChars name) :
    isBlank c = false := by
  have hstart : (tokenStart.all fun c => !isBlank c) = true := by decide
  rw [variableChars, List.mem_append, List.mem_append, List.mem_singleton] at hc
  rcases hc with (hc | hc) | rfl
  · simpa using List.all_eq_true.1 hstart c hc
  · have hc := hname c hc
    simp only [isNameChar, Bool.and_eq_true, Bool.not_eq_true'] at hc
    exact hc.2
  · decide

/-- A blank behind a text neither completes a token in front of it nor hides one. -/
theorem token?_append_blank {c : Char} (hc : isBlank c = true) (text rest : List Char) :
    token? (text ++ c :: rest) =
      (token? text).map fun found => (found.1, found.2 ++ c :: rest) := by
  cases htext : token? text with
  | some found =>
      obtain ⟨name, after⟩ := found
      obtain ⟨rfl, hne, hname⟩ := token?_eq_some_iff.1 htext
      exact token?_eq_some_iff.2 ⟨List.append_assoc _ _ _, hne, hname⟩
  | none =>
      cases hboth : token? (text ++ c :: rest) with
      | none => rfl
      | some found =>
          obtain ⟨name, after⟩ := found
          obtain ⟨heq, hne, hname⟩ := token?_eq_some_iff.1 hboth
          rcases List.append_eq_append_iff.1 heq with ⟨middle, hvar, hrest⟩ | ⟨middle, rfl, -⟩
          · cases middle with
            | nil =>
                rw [List.append_nil] at hvar
                have hfound : token? text = some (name, []) :=
                  token?_eq_some_iff.2 ⟨by rw [List.append_nil, hvar], hne, hname⟩
                rw [htext] at hfound
                cases hfound
            | cons d middle =>
                -- The token would reach over the blank.
                obtain ⟨rfl, -⟩ := List.cons.inj hrest
                have hblank := isBlank_of_mem_variableChars hname (c := c) (by simp [hvar])
                rw [hc] at hblank
                cases hblank
          · have hfound : token? (variableChars name ++ middle) = some (name, middle) :=
              token?_eq_some_iff.2 ⟨rfl, hne, hname⟩
            rw [htext] at hfound
            cases hfound

/-! ### One step of the scan -/

variable (resolver : Resolver)

theorem resolveChars_of_token {text name rest : List Char} (h : token? text = some (name, rest)) :
    resolveChars resolver text =
      ((resolver (String.ofList name)).map String.toList).getD (variableChars name) ++
        resolveChars resolver rest := by
  rw [resolveChars.eq_def]
  split
  · next found rest' hfound =>
      rw [h] at hfound
      obtain ⟨rfl, rfl⟩ := Prod.mk.inj (Option.some.inj hfound)
      rfl
  · next hnone =>
      rw [h] at hnone
      cases hnone

theorem resolveChars_cons_of_none {c : Char} {text : List Char} (h : token? (c :: text) = none) :
    resolveChars resolver (c :: text) = c :: resolveChars resolver text := by
  rw [resolveChars.eq_def]
  split
  · next found rest hfound =>
      rw [h] at hfound
      cases hfound
  · rfl

@[simp] theorem resolveChars_nil : resolveChars resolver [] = [] := by
  rw [resolveChars.eq_def]
  rfl

/-- A text that is a token becomes the text of its variable. -/
theorem resolveChars_variableChars {name : List Char} (hne : name ≠ [])
    (hname : ∀ c ∈ name, isNameChar c = true) :
    resolveChars resolver (variableChars name) =
      ((resolver (String.ofList name)).map String.toList).getD (variableChars name) := by
  have htoken : token? (variableChars name) = some (name, []) :=
    token?_eq_some_iff.2 ⟨(List.append_nil _).symm, hne, hname⟩
  rw [resolveChars_of_token resolver htoken, resolveChars_nil, List.append_nil]

/-! ### Texts in parts -/

/-- **A text falls apart at its blanks**: what stands in front of a blank and what stands behind it
are resolved each on its own. -/
theorem resolveChars_append_blank {c : Char} (hc : isBlank c = true) (text rest : List Char) :
    resolveChars resolver (text ++ c :: rest) =
      resolveChars resolver text ++ c :: resolveChars resolver rest := by
  induction text using resolveChars.induct with
  | case1 text name after htoken ih =>
      have hboth : token? (text ++ c :: rest) = some (name, after ++ c :: rest) := by
        rw [token?_append_blank hc, htoken, Option.map_some]
      rw [resolveChars_of_token resolver hboth, resolveChars_of_token resolver htoken, ih,
        List.append_assoc]
  | case2 hnone =>
      have hboth : token? (c :: rest) = none := by
        have h := token?_append_blank hc [] rest
        rwa [hnone, Option.map_none, List.nil_append] at h
      rw [List.nil_append, resolveChars_cons_of_none resolver hboth, resolveChars_nil,
        List.nil_append]
  | case3 d text hnone ih =>
      have hboth : token? (d :: (text ++ c :: rest)) = none := by
        have h := token?_append_blank hc (d :: text) rest
        rwa [hnone, Option.map_none, List.cons_append] at h
      rw [List.cons_append, resolveChars_cons_of_none resolver hboth, ih,
        resolveChars_cons_of_none resolver hnone, List.cons_append]

/-- A text without tokens stays as it is. -/
theorem resolveChars_eq_self_of_token? {text : List Char}
    (h : ∀ rest, rest <:+ text → token? rest = none) : resolveChars resolver text = text := by
  induction text with
  | nil => exact resolveChars_nil resolver
  | cons c text ih =>
      rw [resolveChars_cons_of_none resolver (h _ (List.suffix_refl _)),
        ih fun rest hrest => h rest (hrest.trans (List.suffix_cons c text))]

/-- A character behind a text in which no token begins makes no token of its end: a token has a name
behind its beginning, and its closing brace behind that. -/
theorem resolveChars_append_singleton {text : List Char} (h : ¬ tokenStart <:+: text) (c : Char) :
    resolveChars resolver (text ++ [c]) = text ++ [c] := by
  refine resolveChars_eq_self_of_token? resolver fun rest hsuffix => ?_
  cases hrest : token? rest with
  | none => rfl
  | some found =>
      obtain ⟨name, after⟩ := found
      obtain ⟨rfl, -, -⟩ := token?_eq_some_iff.1 hrest
      obtain ⟨before, heq⟩ := hsuffix
      -- Without the last character of the text, all but the last character of the token is left.
      have hshort : text = (before ++ (variableChars name ++ after)).dropLast := by
        rw [heq, List.dropLast_concat]
      have hne : name ++ [tokenEnd] ++ after ≠ [] := by simp
      refine absurd ⟨before, (name ++ [tokenEnd] ++ after).dropLast, ?_⟩ h
      rw [hshort, variableChars, List.append_assoc tokenStart, List.append_assoc tokenStart,
        ← List.append_assoc before, List.dropLast_append_of_ne_nil hne]

@[simp] theorem resolveChars_singleton (c : Char) : resolveChars resolver [c] = [c] := by
  have hnil : ¬ tokenStart <:+: [] := by decide
  exact resolveChars_append_singleton resolver hnil c

/-- A text in which no token begins stays as it is. -/
theorem resolveChars_eq_self {text : List Char} (h : ¬ tokenStart <:+: text) :
    resolveChars resolver text = text := by
  rcases List.eq_nil_or_concat text with rfl | ⟨front, c, rfl⟩
  · exact resolveChars_nil resolver
  · rw [List.concat_eq_append] at h ⊢
    exact resolveChars_append_singleton resolver
      (fun hfront => h (hfront.trans (List.prefix_append front [c]).isInfix)) c

end BlockSheet
