import BlockSheet.Style.Compiler

/-!
# Levels of a style tree

The compiler takes the nodes of a level up one by one: nested scopes add their pieces to those that
are there, and each declaration looks for the rule of its selector. This module says what is there
when the last node is in (`accumulate_eq`): the sheets of the nested scopes in order, and then one
rule, or none, with all declarations of the level in order.

The rule search can only ever find that one rule. Every declaration of a level stands under the
selector of the level, so the first of them opens the rule and all others go into it
(`OpenRule.foldl_declare`).
-/

namespace BlockSheet.Style.Compiler

/-! ### Taking one node up -/

@[simp] theorem Level.reverse_pieces_emit (level : Level) (sheet : List Css) :
    (level.emit sheet).pieces.reverse = level.pieces.reverse ++ sheet := by
  simp [Level.emit]

@[simp] theorem Level.rules_emit (level : Level) (sheet : List Css) :
    (level.emit sheet).rules = level.rules := rfl

@[simp] theorem Level.pieces_declare (level : Level) (selector : String) (d : Declaration) :
    (level.declare selector d).pieces = level.pieces := rfl

@[simp] theorem Level.rules_declare (level : Level) (selector : String) (d : Declaration) :
    (level.declare selector d).rules = OpenRule.declare selector d level.rules := rfl

/-- The sheet of a scope among the nodes of a level; a leaf has none. -/
def scopeSheet (c : Compiler) (selector : String) : Node → List Css
  | .media breakpoint children => wrap (mediaPrelude breakpoint) (c.accumulate children selector)
  | .supports condition children => wrap condition (c.accumulate children selector)
  | .selector key children => c.accumulate children (c.composeSelector selector key)
  | .leaf _ _ => []

/-- The declaration of a leaf among the nodes of a level, where it has one; a scope has none. -/
def ownDeclaration? (c : Compiler) : Node → Option Declaration
  | .leaf property value => Declaration.ofLeaf? c.escapes property value
  | _ => none

/-- A scope adds its sheet to the pieces, and a leaf leaves them alone. -/
theorem reverse_pieces_take (c : Compiler) (selector : String) (node : Node) (level : Level) :
    (c.take selector node level).pieces.reverse =
      level.pieces.reverse ++ c.scopeSheet selector node := by
  cases node with
  | media breakpoint children => simp [take, scopeSheet, accumulate]
  | supports condition children => simp [take, scopeSheet, accumulate]
  | selector key children => simp [take, scopeSheet, accumulate]
  | leaf property value =>
      rw [take]
      cases Declaration.ofLeaf? c.escapes property value <;> simp [scopeSheet]

/-- A leaf with a declaration adds it to the rules, and any other node leaves them alone. -/
theorem rules_take (c : Compiler) (selector : String) (node : Node) (level : Level) :
    (c.take selector node level).rules =
      match c.ownDeclaration? node with
      | some d => OpenRule.declare (c.resolveSelector selector) d level.rules
      | none => level.rules := by
  cases node with
  | media breakpoint children => simp [take, ownDeclaration?]
  | supports condition children => simp [take, ownDeclaration?]
  | selector key children => simp [take, ownDeclaration?]
  | leaf property value =>
      rw [take, ownDeclaration?]
      cases Declaration.ofLeaf? c.escapes property value <;> simp

/-! ### Taking all nodes up -/

/-- The declarations of a level itself, in order. -/
def ownDeclarations (c : Compiler) (nodes : List Node) : List Declaration :=
  nodes.filterMap c.ownDeclaration?

@[simp] theorem ownDeclarations_append (c : Compiler) (nodes others : List Node) :
    c.ownDeclarations (nodes ++ others) = c.ownDeclarations nodes ++ c.ownDeclarations others :=
  List.filterMap_append

theorem reverse_pieces_takeAll (c : Compiler) (selector : String) (nodes : List Node)
    (level : Level) :
    (c.takeAll selector nodes level).pieces.reverse =
      level.pieces.reverse ++ nodes.flatMap (c.scopeSheet selector) := by
  induction nodes generalizing level with
  | nil => simp [takeAll]
  | cons node nodes ih =>
      rw [takeAll, ih, reverse_pieces_take, List.append_assoc, List.flatMap_cons]

theorem rules_takeAll (c : Compiler) (selector : String) (nodes : List Node) (level : Level) :
    (c.takeAll selector nodes level).rules =
      (c.ownDeclarations nodes).foldl
        (fun rules d => OpenRule.declare (c.resolveSelector selector) d rules) level.rules := by
  induction nodes generalizing level with
  | nil => rfl
  | cons node nodes ih =>
      rw [takeAll, ih, rules_take]
      cases h : c.ownDeclaration? node with
      | none => rw [ownDeclarations, ownDeclarations, List.filterMap_cons_none h]
      | some d => rw [ownDeclarations, ownDeclarations, List.filterMap_cons_some h, List.foldl_cons]

/-! ### One rule for a level -/

/-- While all declarations have the selector of the only rule, they all go into that rule. -/
theorem OpenRule.foldl_declare (selector : String) (ds done : List Declaration) :
    ds.foldl (fun rules d => OpenRule.declare selector d rules) [⟨selector, done⟩] =
      [⟨selector, ds.reverse ++ done⟩] := by
  induction ds generalizing done with
  | nil => rfl
  | cons d ds ih =>
      rw [List.foldl_cons, OpenRule.declare, if_pos rfl, ih, List.reverse_cons, List.append_assoc,
        List.singleton_append]

/-- The rule of a level itself; there is none without declarations. -/
def ownRule (c : Compiler) (selector : String) (nodes : List Node) : List Css :=
  match c.ownDeclarations nodes with
  | [] => []
  | ds => [.rule (c.resolveSelector selector) ds]

theorem map_close_rules_takeAll (c : Compiler) (selector : String) (nodes : List Node) :
    (c.takeAll selector nodes .empty).rules.map OpenRule.close = c.ownRule selector nodes := by
  rw [rules_takeAll, ownRule, Level.empty]
  cases c.ownDeclarations nodes with
  | nil => rfl
  | cons d ds =>
      -- The first declaration finds no rule and opens one.
      have hopen : OpenRule.declare (c.resolveSelector selector) d [] =
          [⟨c.resolveSelector selector, [d]⟩] := rfl
      rw [List.foldl_cons, hopen, OpenRule.foldl_declare]
      simp [OpenRule.close]

/-- **The output of a level**: the sheets of its scopes in order, then its own rule. -/
theorem accumulate_eq (c : Compiler) (nodes : List Node) (selector : String) :
    c.accumulate nodes selector =
      nodes.flatMap (c.scopeSheet selector) ++ c.ownRule selector nodes := by
  rw [accumulate, Level.sheet, reverse_pieces_takeAll, map_close_rules_takeAll]
  simp [Level.empty]

/-- A level has at most one rule of its own. -/
theorem length_ownRule_le (c : Compiler) (selector : String) (nodes : List Node) :
    (c.ownRule selector nodes).length ≤ 1 := by
  rw [ownRule]
  cases c.ownDeclarations nodes <;> simp

end BlockSheet.Style.Compiler
