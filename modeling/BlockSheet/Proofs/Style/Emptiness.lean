import Mathlib.Logic.Relation
import BlockSheet.Proofs.Style.Scopes

/-!
# Scopes without leaves

A style tree may hold scopes below which there is nothing to put out: empty ones, ones with `null`
and `false` leaves only, and scopes around such scopes. `treeHoldsLeaf` says whether there is a leaf
to put out at all. Nothing of the others shows (`no_output_without_leaf`):

* the sheet has neither rules without declarations nor groups without a body, at any depth;
* its text is empty exactly if the tree holds no leaf to put out;
* entries that hold none may be taken out of the objects of the tree, one after the other and at any
  depth (`Prunes`), and the text stays the same.

Items of arrays cannot be taken out, since that would change the keys of those behind them.
-/

namespace BlockSheet.Style

open Json (Value)

/-! ### Leaves to put out -/

mutual

/-- Is the value a string, a number or `true`, or does it hold one at any depth? -/
def holdsLeaf : Value → Bool
  | .null => false
  | .bool b => b
  | .num _ => true
  | .str _ => true
  | .arr items => itemsHoldLeaf items
  | .obj fields => treeHoldsLeaf fields

/-- Does an entry of the style tree hold a leaf to put out? -/
def treeHoldsLeaf : List (String × Value) → Bool
  | [] => false
  | (_, value) :: fields => holdsLeaf value || treeHoldsLeaf fields

/-- Does an item of the array hold a leaf to put out? -/
def itemsHoldLeaf : List Value → Bool
  | [] => false
  | value :: values => holdsLeaf value || itemsHoldLeaf values

end

theorem treeHoldsLeaf_eq_any (fields : Tree) :
    treeHoldsLeaf fields = fields.any fun e => holdsLeaf e.2 := by
  induction fields with
  | nil => simp [treeHoldsLeaf]
  | cons e fields ih => simp [treeHoldsLeaf, ih]

theorem treeHoldsLeaf_eq_false_iff {fields : Tree} :
    treeHoldsLeaf fields = false ↔ ∀ e ∈ fields, holdsLeaf e.2 = false := by
  simp [treeHoldsLeaf_eq_any]

theorem treeHoldsLeaf_indexed (index : Nat) (items : List Value) :
    treeHoldsLeaf (indexed index items) = itemsHoldLeaf items := by
  induction items generalizing index with
  | nil => simp [indexed, treeHoldsLeaf, itemsHoldLeaf]
  | cons value values ih => simp [indexed, treeHoldsLeaf, itemsHoldLeaf, ih]

/-- A scope holds what its level holds. -/
theorem holdsLeaf_of_level {value : Value} {fields : Tree}
    (h : Compiler.level? value = some fields) : holdsLeaf value = treeHoldsLeaf fields := by
  cases value with
  | arr items =>
      obtain rfl := Option.some.inj h
      rw [holdsLeaf, treeHoldsLeaf_indexed]
  | obj fields' =>
      obtain rfl := Option.some.inj h
      rw [holdsLeaf]
  | _ => cases h

/-- A leaf is to be put out unless it is dropped. -/
theorem holdsLeaf_of_leaf {value : Value} (h : Compiler.level? value = none) :
    holdsLeaf value = !isDropped value := by
  cases value with
  | bool b => cases b <;> simp [holdsLeaf, isDropped]
  | arr items => cases h
  | obj fields => cases h
  | _ => simp [holdsLeaf, isDropped]

/-! ### Sheets without empty pieces -/

/-- At every depth of the piece rules have declarations and groups have a body. -/
inductive Css.Filled : Css → Prop
  | rule (selector : String) {declarations : List Declaration} (h : declarations ≠ []) :
    Filled (.rule selector declarations)
  | group (prelude : String) {body : List Css} (hne : body ≠ [])
    (hbody : ∀ css ∈ body, Filled css) : Filled (.group prelude body)

theorem Css.chars_ne_nil (css : Css) : css.chars ≠ [] := by
  cases css <;> simp [Css.chars]

/-- Only the empty sheet has an empty text. -/
theorem render_eq_empty_iff {sheet : List Css} : render sheet = "" ↔ sheet = [] := by
  constructor
  · intro h
    have hchars : renderChars sheet = [] := by
      simpa [render] using h
    cases sheet with
    | nil => rfl
    | cons css sheet =>
        cases sheet <;> simp [renderChars, cssTexts, css.chars_ne_nil] at hchars
  · rintro rfl
    rfl

namespace Compiler

theorem wrap_eq_nil_iff {prelude : String} {sheet : List Css} :
    wrap prelude sheet = [] ↔ sheet = [] := by
  cases sheet <;> simp [wrap]

variable (c : Compiler)

theorem ownRule_eq_nil_iff {selector : String} {nodes : List Node} :
    c.ownRule selector nodes = [] ↔ c.ownDeclarations nodes = [] := by
  unfold ownRule
  cases c.ownDeclarations nodes <;> simp

/-- Does an entry of a level put out nothing, neither a sheet nor a declaration? -/
def Silent (selector key : String) (value : Value) : Prop :=
  c.entrySheet selector key value = [] ∧ Declaration.ofLeaf? c.escapes key value = none

/-- A level puts out nothing if none of its entries puts out anything. -/
theorem sheet_eq_nil_iff_silent {fields : Tree} {selector : String} :
    c.sheet fields selector = [] ↔ ∀ e ∈ fields, c.Silent selector e.1 e.2 := by
  rw [sheet_eq, List.append_eq_nil_iff, ownRule_eq_nil_iff, ownDeclarations_classify_eq,
    List.flatMap_eq_nil_iff, List.flatMap_eq_nil_iff]
  simp only [Option.toList_eq_nil_iff]
  constructor
  · rintro ⟨hscopes, hown⟩ e he
    exact ⟨hscopes e he, hown e he⟩
  · intro hsilent
    exact ⟨fun e he => (hsilent e he).1, fun e he => (hsilent e he).2⟩

/-- **Silent entries** are those that hold no leaf to put out. -/
theorem silent_iff (value : Value) :
    ∀ selector key, c.Silent selector key value ↔ holdsLeaf value = false := by
  induction value using level_induction with
  | step value ih =>
      intro selector key
      cases hlevel : level? value with
      | none =>
          have hsome := c.ofLeaf?_isSome key value
          simp only [isScope_of_level?, hlevel, Option.isSome_none, Bool.not_false, Bool.true_and,
            ← holdsLeaf_of_leaf hlevel] at hsome
          rw [Silent, c.entrySheet_of_leaf hlevel, ← hsome]
          simp
      | some fields =>
          -- Whichever selector the key leaves, the sheet of the level is empty in the same case.
          have hsheet : ∀ selector, c.sheet fields selector = [] ↔ holdsLeaf value = false := by
            intro selector
            rw [sheet_eq_nil_iff_silent, holdsLeaf_of_level hlevel, treeHoldsLeaf_eq_false_iff]
            exact forall₂_congr fun e he => ih fields hlevel e he selector e.1
          rw [Silent, c.ofLeaf?_of_level hlevel, c.entrySheet_of_level hlevel]
          cases wrapperPrelude? key with
          | some prelude => simp [wrap_eq_nil_iff, hsheet]
          | none => simp [hsheet]

/-- A style tree compiles to the empty sheet exactly if it holds no leaf to put out. -/
theorem sheet_eq_nil_iff {tree : Tree} {ancestor : String} :
    c.sheet tree ancestor = [] ↔ treeHoldsLeaf tree = false := by
  rw [sheet_eq_nil_iff_silent, treeHoldsLeaf_eq_false_iff]
  exact forall₂_congr fun e _ => c.silent_iff e.2 ancestor e.1

/-- No way of building a sheet makes an empty piece. -/
theorem compositional_filled : c.Compositional fun sheet => ∀ css ∈ sheet, css.Filled where
  nil := List.forall_mem_nil _
  rule _ d ds := List.forall_mem_singleton.2 (.rule _ (List.cons_ne_nil d ds))
  group prelude css sheet h :=
    List.forall_mem_singleton.2 (.group prelude (List.cons_ne_nil css sheet) h)
  append _ _ ha hb := List.forall_mem_append.2 ⟨ha, hb⟩

end Compiler

/-! ### Taking entries out -/

/-- `Prunes v v'`: somewhere in the value `v` an object loses an entry that holds no leaf to put
out, which makes it `v'`. -/
inductive Prunes : Value → Value → Prop
  | drop {before after : Tree} {e : String × Value} (h : holdsLeaf e.2 = false) :
    Prunes (.obj (before ++ e :: after)) (.obj (before ++ after))
  /-- The object is within an entry of the value, or is that entry. -/
  | field {before after : Tree} {key : String} {v v' : Value} (h : Prunes v v') :
    Prunes (.obj (before ++ (key, v) :: after)) (.obj (before ++ (key, v') :: after))
  /-- The object is within an item of the value, or is that item. -/
  | item {before after : List Value} {v v' : Value} (h : Prunes v v') :
    Prunes (.arr (before ++ v :: after)) (.arr (before ++ v' :: after))

theorem indexed_append (index : Nat) (items items' : List Value) :
    indexed index (items ++ items') =
      indexed index items ++ indexed (index + items.length) items' := by
  induction items generalizing index with
  | nil => simp [indexed]
  | cons value values ih => simp [indexed, ih, Nat.add_comm, Nat.add_left_comm]

namespace Compiler

variable (c : Compiler)

/-- Two values are scopes that put out the same under every selector. -/
def SameScope (v v' : Value) : Prop :=
  ∃ fields fields', level? v = some fields ∧ level? v' = some fields' ∧
    ∀ selector, c.sheet fields selector = c.sheet fields' selector

theorem SameScope.refl (tree : Tree) : c.SameScope (.obj tree) (.obj tree) :=
  ⟨tree, tree, rfl, rfl, fun _ => rfl⟩

theorem SameScope.trans {u v w : Value} (h : c.SameScope u v) (h' : c.SameScope v w) :
    c.SameScope u w := by
  obtain ⟨fields, middle, hu, hv, hsheet⟩ := h
  obtain ⟨middle', fields', hv', hw, hsheet'⟩ := h'
  obtain rfl := Option.some.inj (hv.symm.trans hv')
  exact ⟨fields, fields', hu, hw, fun selector => (hsheet selector).trans (hsheet' selector)⟩

/-- A scope may give way to another one that puts out the same. -/
theorem SameScope.sheet_eq {v v' : Value} (h : c.SameScope v v') (before after : Tree)
    (key selector : String) :
    c.sheet (before ++ (key, v) :: after) selector =
      c.sheet (before ++ (key, v') :: after) selector := by
  obtain ⟨fields, fields', hv, hv', hsheet⟩ := h
  refine c.sheet_congr ?_ ?_
  · simp only [List.flatMap_append, List.flatMap_cons, c.entrySheet_of_level hv,
      c.entrySheet_of_level hv', hsheet]
  · simp only [ownDeclarations_classify_eq, List.flatMap_append, List.flatMap_cons,
      c.ofLeaf?_of_level hv, c.ofLeaf?_of_level hv']

/-- **Taking one entry out** changes nothing in what a scope puts out. -/
theorem sameScope_of_prunes {v v' : Value} (h : Prunes v v') : c.SameScope v v' := by
  induction h with
  | @drop before after e h =>
      refine ⟨_, _, rfl, rfl, ?_⟩
      intro selector
      obtain ⟨hscopes, hown⟩ := (c.silent_iff e.2 selector e.1).2 h
      refine c.sheet_congr ?_ ?_
      · simp [hscopes]
      · simp [ownDeclarations_classify_eq, hown]
  | @field before after key v v' _ ih =>
      exact ⟨_, _, rfl, rfl, ih.sheet_eq c before after key⟩
  | @item before after v v' _ ih =>
      refine ⟨_, _, rfl, rfl, ?_⟩
      intro selector
      simp only [indexed_append, indexed]
      exact ih.sheet_eq c _ _ _ selector

/-- Taking entries out, as many as there are, changes nothing in what a tree puts out. -/
theorem sameScope_of_run {tree : Tree} {v : Value}
    (h : Relation.ReflTransGen Prunes (.obj tree) v) : c.SameScope (.obj tree) v := by
  induction h with
  | refl => exact SameScope.refl c tree
  | tail _ hstep ih => exact ih.trans c (c.sameScope_of_prunes hstep)

theorem sheet_eq_of_prunes {tree tree' : Tree}
    (h : Relation.ReflTransGen Prunes (.obj tree) (.obj tree')) (ancestor : String) :
    c.sheet tree' ancestor = c.sheet tree ancestor := by
  obtain ⟨fields, fields', hfields, hfields', hsheet⟩ := c.sameScope_of_run h
  obtain rfl := Option.some.inj hfields
  obtain rfl := Option.some.inj hfields'
  exact (hsheet ancestor).symm

/-- **Nothing comes from nothing.** A sheet has no empty rules and groups, its text is empty exactly
if the tree holds no leaf to put out, and entries that hold none may be taken out of the tree
without a change of the text. -/
theorem no_output_without_leaf (tree : Tree) (ancestor : String) :
    (∀ css ∈ c.sheet tree ancestor, css.Filled) ∧
      (c.compile tree ancestor = "" ↔ treeHoldsLeaf tree = false) ∧
      ∀ tree' : Tree, Relation.ReflTransGen Prunes (.obj tree) (.obj tree') →
        c.compile tree' ancestor = c.compile tree ancestor := by
  refine ⟨c.compositional_filled.sheet tree ancestor, ?_, ?_⟩
  · rw [compile, render_eq_empty_iff, sheet_eq_nil_iff]
  · intro tree' h
    rw [compile, compile, c.sheet_eq_of_prunes h]

/-- A breakpoint scope with a dropped leaf only, and a dropped leaf in an object within an array. -/
def hollowTree : Tree :=
  [(".a", .obj [("media_sm", .obj [("color", .bool false)]), ("color", .str "red")]),
    (".b", .arr [.null, .obj [("top", .null), ("& c", .obj [("left", .str "0")])]])]

/-- The same tree without them. The index of the object in the array stays. -/
def solidTree : Tree :=
  [(".a", .obj [("color", .str "red")]),
    (".b", .arr [.null, .obj [("& c", .obj [("left", .str "0")])]])]

theorem compile_hollowTree :
    Relation.ReflTransGen Prunes (.obj hollowTree) (.obj solidTree) ∧
      compile ⟨.legacy, true⟩ solidTree ".root" = compile ⟨.legacy, true⟩ hollowTree ".root" := by
  have hscope := @Prunes.drop [] [("color", .str "red")]
    ("media_sm", .obj [("color", .bool false)]) rfl
  have hleaf := @Prunes.drop [] [("& c", .obj [("left", .str "0")])] ("top", .null) rfl
  have hfirst := @Prunes.field [] [(".b", .arr [.null,
    .obj [("top", .null), ("& c", .obj [("left", .str "0")])]])] ".a" _ _ hscope
  have hsecond := @Prunes.field [(".a", .obj [("color", .str "red")])] [] ".b" _ _
    (@Prunes.item [.null] [] _ _ hleaf)
  have hrun : Relation.ReflTransGen Prunes (.obj hollowTree) (.obj solidTree) :=
    .tail (.single hfirst) hsecond
  exact ⟨hrun, (no_output_without_leaf ⟨.legacy, true⟩ hollowTree ".root").2.2 solidTree hrun⟩

end Compiler

end BlockSheet.Style
