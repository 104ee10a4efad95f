import BlockSheet.Proofs.Style.Leaves

/-!
# Scopes of a style tree

What a scope does is decided by its key alone, in one of two ways: the key of a wrapper puts a
prelude around what the scope holds and keeps the selector, the key of a selector scope composes the
selector and puts nothing around it (`entrySheet_of_level`).

The two ways do not meet. Under a path of scopes the selector keys compose as if there were no
wrappers between them, and the preludes stand around the sheet as if there were no selector keys
(`sheet_nested`). No law of composition is needed for that, and there is none: what a key makes of
the selector depends on all that is composed in front of it.
-/

namespace BlockSheet.Style

open Json (Value)

/-! ### Keys -/

/-- Is a scope of this key neither a breakpoint scope nor a feature query? -/
def isSelectorKey (key : String) : Bool :=
  !decide ("media_".toList <+: key.toList) && !decide ("@supports".toList <+: key.toList)

theorem isSelectorKey_eq (key : String) :
    isSelectorKey key = ((breakpoint? key).isNone && !isSupportsKey key) := by
  rw [isSelectorKey, isSupportsKey_eq, breakpoint?_eq_ite]
  by_cases hmedia : "media_".toList <+: key.toList
  · rw [if_pos hmedia, decide_eq_true hmedia]
    rfl
  · rw [if_neg hmedia, decide_eq_false hmedia]
    rfl

theorem isSelectorKey_eq_true_iff {key : String} :
    isSelectorKey key = true ↔ breakpoint? key = none ∧ isSupportsKey key = false := by
  simp [isSelectorKey_eq]

/-- The prelude that the key of a wrapper puts around what the scope holds. -/
def wrapperPrelude? (key : String) : Option String :=
  if "media_".toList <+: key.toList then
    some (Compiler.mediaPrelude (String.ofList (key.toList.drop 6)))
  else if "@supports".toList <+: key.toList then some key
  else none

theorem wrapperPrelude?_eq (key : String) :
    wrapperPrelude? key =
      (breakpoint? key).elim (if isSupportsKey key then some key else none)
        fun breakpoint => some (Compiler.mediaPrelude breakpoint) := by
  rw [wrapperPrelude?, isSupportsKey_eq, breakpoint?_eq_ite]
  by_cases hmedia : "media_".toList <+: key.toList
  · rw [if_pos hmedia, if_pos hmedia, Option.elim_some]
  · rw [if_neg hmedia, if_neg hmedia, Option.elim_none]
    simp only [decide_eq_true_eq]

/-- Every key but that of a selector scope has a prelude. -/
theorem isSome_wrapperPrelude? (key : String) :
    (wrapperPrelude? key).isSome = !isSelectorKey key := by
  rw [wrapperPrelude?_eq, isSelectorKey_eq]
  cases breakpoint? key with
  | some breakpoint => rfl
  | none => cases isSupportsKey key <;> rfl

theorem wrapperPrelude?_eq_none_iff {key : String} :
    wrapperPrelude? key = none ↔ isSelectorKey key = true := by
  rw [← Option.isSome_eq_false_iff.trans Option.isNone_iff_eq_none, isSome_wrapperPrelude?]
  simp

namespace Compiler

/-! ### Levels within a value -/

theorem mem_of_mem_indexed {index : Nat} {items : List Value} {e : String × Value}
    (h : e ∈ indexed index items) : e.2 ∈ items := by
  induction items generalizing index with
  | nil => cases h
  | cons value values ih =>
      rw [indexed] at h
      rcases List.mem_cons.1 h with rfl | h
      · exact List.mem_cons_self
      · exact List.mem_cons_of_mem _ (ih h)

theorem sizeOf_lt_of_level? {value : Value} {fields : Tree} (h : level? value = some fields)
    {e : String × Value} (he : e ∈ fields) : sizeOf e.2 < sizeOf value := by
  cases value with
  | arr items =>
      obtain rfl := Option.some.inj h
      have hitem := List.sizeOf_lt_of_mem (mem_of_mem_indexed he)
      rw [Value.arr.sizeOf_spec]
      omega
  | obj fields' =>
      obtain rfl := Option.some.inj h
      have hentry := List.sizeOf_lt_of_mem he
      have hvalue : sizeOf e = 1 + sizeOf e.1 + sizeOf e.2 := rfl
      rw [Value.obj.sizeOf_spec]
      omega
  | _ => cases h

/-- Induction over the levels of a value, be they objects or arrays: what holds of a value if it
holds of the entries of its level, holds of every value. -/
theorem level_induction {motive : Value → Prop}
    (step : ∀ value,
      (∀ fields, level? value = some fields → ∀ e ∈ fields, motive e.2) → motive value)
    (value : Value) : motive value :=
  step value fun _ _ e _ => level_induction step e.2
termination_by sizeOf value
decreasing_by exact sizeOf_lt_of_level? ‹_› ‹_›

/-- A value without a level is a leaf. -/
theorem isScope_of_level? {value : Value} : isScope value = (level? value).isSome := by
  cases value <;> rfl

variable (c : Compiler)

/-! ### What entries put out -/

/-- An entry that is a leaf puts nothing in front of the rule of its level. -/
theorem entrySheet_of_leaf {value : Value} (h : level? value = none) (selector key : String) :
    c.entrySheet selector key value = [] := by
  rw [entrySheet, h]

/-- **What a scope puts out**: its key wraps the sheet of its level, or composes the selector. -/
theorem entrySheet_of_level {value : Value} {fields : Tree} (h : level? value = some fields)
    (selector key : String) :
    c.entrySheet selector key value =
      match wrapperPrelude? key with
      | some prelude => wrap prelude (c.sheet fields selector)
      | none => c.sheet fields (c.composeSelector selector key) := by
  rw [entrySheet, wrapperPrelude?_eq]
  simp only [h]
  cases breakpoint? key with
  | some breakpoint => rfl
  | none => cases isSupportsKey key <;> rfl

/-- The declarations of a level are those of its entries, in order. -/
theorem ownDeclarations_classify_eq (fields : Tree) :
    c.ownDeclarations (classify fields) =
      fields.flatMap fun e => (Declaration.ofLeaf? c.escapes e.1 e.2).toList := by
  induction fields with
  | nil => rfl
  | cons e fields ih =>
      rw [classify, ownDeclarations_append, ownDeclarations_classifyEntry, ih, List.flatMap_cons]

/-- A scope has no declaration. -/
theorem ofLeaf?_of_level {value : Value} {fields : Tree} (h : level? value = some fields)
    (key : String) : Declaration.ofLeaf? c.escapes key value = none := by
  cases value with
  | arr items => rfl
  | obj fields => rfl
  | _ => cases h

/-- Levels have the same sheet if their scopes put out the same and their own declarations are the
same. -/
theorem sheet_congr {fields fields' : Tree} {selector : String}
    (hscopes : (fields.flatMap fun e => c.entrySheet selector e.1 e.2) =
      fields'.flatMap fun e => c.entrySheet selector e.1 e.2)
    (hown : c.ownDeclarations (classify fields) = c.ownDeclarations (classify fields')) :
    c.sheet fields selector = c.sheet fields' selector := by
  rw [sheet_eq, sheet_eq, hscopes, ownRule, ownRule, hown]

/-! ### How sheets are built -/

/-- A property of sheets that all ways of building a sheet keep: a rule has declarations, a group is
put around a sheet that is not empty, and sheets are put one behind the other. -/
structure Compositional (motive : List Css → Prop) : Prop where
  nil : motive []
  rule : ∀ selector d ds, motive [.rule (c.resolveSelector selector) (d :: ds)]
  group : ∀ prelude css sheet, motive (css :: sheet) → motive [.group prelude (css :: sheet)]
  append : ∀ a b, motive a → motive b → motive (a ++ b)

namespace Compositional

variable {c} {motive : List Css → Prop} (h : c.Compositional motive)

include h

theorem wrap (prelude : String) {sheet : List Css} (hsheet : motive sheet) :
    motive (wrap prelude sheet) := by
  cases sheet with
  | nil => exact h.nil
  | cons css sheet => exact h.group prelude css sheet hsheet

theorem ownRule (selector : String) (nodes : List Node) : motive (c.ownRule selector nodes) := by
  unfold Compiler.ownRule
  cases c.ownDeclarations nodes with
  | nil => exact h.nil
  | cons d ds => exact h.rule selector d ds

/-- The sheet of a level has the property if all that its entries put out has it. -/
theorem sheet_of_entries {fields : Tree} {selector : String}
    (hentries : ∀ e ∈ fields, motive (c.entrySheet selector e.1 e.2)) :
    motive (c.sheet fields selector) := by
  rw [sheet_eq]
  refine h.append _ _ ?_ (h.ownRule selector _)
  induction fields with
  | nil => exact h.nil
  | cons e fields ih =>
      rw [List.forall_mem_cons] at hentries
      rw [List.flatMap_cons]
      exact h.append _ _ hentries.1 (ih hentries.2)

theorem entrySheet (value : Value) :
    ∀ selector key, motive (c.entrySheet selector key value) := by
  induction value using level_induction with
  | step value ih =>
      intro selector key
      cases hlevel : level? value with
      | none =>
          rw [c.entrySheet_of_leaf hlevel]
          exact h.nil
      | some fields =>
          have hsheet : ∀ selector, motive (c.sheet fields selector) := fun selector =>
            h.sheet_of_entries fun e he => ih fields hlevel e he selector e.1
          rw [c.entrySheet_of_level hlevel]
          cases wrapperPrelude? key with
          | some prelude => exact h.wrap prelude (hsheet selector)
          | none => exact hsheet _

/-- **Every sheet has the property**, whatever the tree and the ancestor are. -/
theorem sheet (tree : Tree) (ancestor : String) : motive (c.sheet tree ancestor) :=
  h.sheet_of_entries fun e _ => h.entrySheet e.2 ancestor e.1

end Compositional

/-! ### Paths -/

/-- The sheet of a level that is a single scope. -/
theorem sheet_scope (key : String) (fields : Tree) (selector : String) :
    c.sheet [(key, .obj fields)] selector = c.entrySheet selector key (.obj fields) := by
  have hleaf : Declaration.ofLeaf? c.escapes key (.obj fields) = none := c.ofLeaf?_of_level rfl key
  have hown : c.ownRule selector (classify [(key, .obj fields)]) = [] := by
    rw [ownRule, ownDeclarations_classify_eq, List.flatMap_singleton, hleaf]
    rfl
  rw [sheet_eq, hown, List.append_nil, List.flatMap_singleton]

end Compiler

/-- A tree under a path of scope keys, the first of which is outermost. -/
def nested : List String → Tree → Tree
  | [], tree => tree
  | key :: path, tree => [(key, .obj (nested path tree))]

/-- A sheet in groups, the first prelude of which is outermost. Around the empty sheet there are
none. -/
def enclosed (preludes : List String) : List Css → List Css
  | [] => []
  | css :: sheet => preludes.foldr (fun prelude body => [.group prelude body]) (css :: sheet)

@[simp] theorem enclosed_nil (sheet : List Css) : enclosed [] sheet = sheet := by
  cases sheet <;> rfl

/-- A further group outside is a wrapper. -/
theorem enclosed_cons (prelude : String) (preludes : List String) (sheet : List Css) :
    enclosed (prelude :: preludes) sheet = Compiler.wrap prelude (enclosed preludes sheet) := by
  cases sheet with
  | nil => rfl
  | cons css sheet =>
      cases preludes with
      | nil => rfl
      | cons next preludes => rfl

/-- The preludes of a path are those of its wrapper keys. -/
theorem filterMap_wrapperPrelude? (path : List String) :
    path.filterMap wrapperPrelude? =
      (path.filter fun key => !isSelectorKey key).filterMap wrapperPrelude? := by
  have hselector : (fun key => if !isSelectorKey key then wrapperPrelude? key else none) =
      wrapperPrelude? := by
    funext key
    by_cases hkey : isSelectorKey key = true
    · simp [hkey, wrapperPrelude?_eq_none_iff.2 hkey]
    · simp [hkey]
  rw [List.filterMap_filter, hselector]

namespace Compiler

variable (c : Compiler)

/-- What stands under a path: the sheet under the selector that the selector keys compose, within
the preludes of the wrapper keys. -/
theorem sheet_nested_eq (path : List String) (tree : Tree) (ancestor : String) :
    c.sheet (nested path tree) ancestor =
      enclosed (path.filterMap wrapperPrelude?)
        (c.sheet tree ((path.filter isSelectorKey).foldl c.composeSelector ancestor)) := by
  -- The first key is done first; all others find the selector that it leaves.
  induction path generalizing ancestor with
  | nil => simp [nested]
  | cons key path ih =>
      have hlevel : level? (.obj (nested path tree)) = some (nested path tree) := rfl
      rw [nested, sheet_scope, c.entrySheet_of_level hlevel]
      cases hprelude : wrapperPrelude? key with
      | some prelude =>
          have hkey : ¬ isSelectorKey key = true := by
            intro hkey
            rw [wrapperPrelude?_eq_none_iff.2 hkey] at hprelude
            cases hprelude
          rw [List.filterMap_cons_some hprelude, List.filter_cons_of_neg hkey, enclosed_cons, ← ih]
      | none =>
          have hkey := wrapperPrelude?_eq_none_iff.1 hprelude
          rw [List.filterMap_cons_none hprelude, List.filter_cons_of_pos hkey, List.foldl_cons,
            ← ih]

/-- **Wrappers and selectors nest independently.** Under a path of scope keys a tree puts out what
it does under the ancestor that the selector keys of the path compose, one after the other, and that
in groups with the preludes of the wrapper keys, the first one outermost. So how the keys of the two
kinds lie between each other makes no difference to the CSS. -/
theorem sheet_nested (path : List String) (tree : Tree) (ancestor : String) :
    c.sheet (nested path tree) ancestor =
        enclosed (path.filterMap wrapperPrelude?)
          (c.sheet tree ((path.filter isSelectorKey).foldl c.composeSelector ancestor)) ∧
      ∀ other : List String,
        other.filter isSelectorKey = path.filter isSelectorKey →
        other.filter (fun key => !isSelectorKey key) =
          path.filter (fun key => !isSelectorKey key) →
        c.compile (nested other tree) ancestor = c.compile (nested path tree) ancestor := by
  refine ⟨c.sheet_nested_eq path tree ancestor, ?_⟩
  intro other hselectors hwrappers
  have hpreludes : other.filterMap wrapperPrelude? = path.filterMap wrapperPrelude? := by
    rw [filterMap_wrapperPrelude?, hwrappers, ← filterMap_wrapperPrelude?]
  rw [compile, compile, sheet_nested_eq, sheet_nested_eq, hpreludes, hselectors]

/-- A path with wrappers of both kinds in front of, between and behind two selectors. -/
def mixedPath : List String := ["media_sm", "& + &", "@supports (display: grid)", ".b", "media_md"]

/-- The same path with the wrappers outside. -/
def sortedPath : List String := ["media_sm", "@supports (display: grid)", "media_md", "& + &", ".b"]

example : mixedPath.filterMap wrapperPrelude? = ["@media #\x7bghostkitvar:media_sm\x7d",
    "@supports (display: grid)", "@media #\x7bghostkitvar:media_md\x7d"] := by decide

example : (mixedPath.filter isSelectorKey).foldl (composeSelector ⟨.plain, true⟩) ".a" =
    ".a + .a .b" := by decide

theorem compile_nested_sorted :
    sortedPath.filter isSelectorKey = mixedPath.filter isSelectorKey ∧
      sortedPath.filter (fun key => !isSelectorKey key) =
        mixedPath.filter (fun key => !isSelectorKey key) ∧
      compile ⟨.legacy, true⟩ (nested sortedPath [("color", .str "red")]) ".a" =
        compile ⟨.legacy, true⟩ (nested mixedPath [("color", .str "red")]) ".a" := by
  have hselectors : sortedPath.filter isSelectorKey = mixedPath.filter isSelectorKey := rfl
  have hwrappers : sortedPath.filter (fun key => !isSelectorKey key) =
      mixedPath.filter (fun key => !isSelectorKey key) := rfl
  exact ⟨hselectors, hwrappers,
    (sheet_nested ⟨.legacy, true⟩ mixedPath [("color", .str "red")] ".a").2 sortedPath hselectors
      hwrappers⟩

end Compiler

end BlockSheet.Style
