import BlockSheet.Style.Sheet
import BlockSheet.Style.Tree
import BlockSheet.Variable

/-!
# Compiling style trees

A compiler turns a style tree into a sheet in three steps: classify the entries, gather the
declarations under their selectors, write the sheet.

* At every level all that the nested scopes produce comes first, in the order of the keys; then come
  the declarations of the level itself, each in the rule of its selector.
* Breakpoint scopes and feature queries wrap what they hold and keep the selector; a wrapper around
  nothing is left out.
* Any other scope composes its key with the selector around it.
-/

namespace BlockSheet.Style

/-- The settings of the compilation. -/
structure Compiler where
  /-- Are legacy codes decoded? -/
  escapes : Escapes
  /-- Are the comparison characters of selectors written as entities? -/
  escape : Bool

namespace Compiler

/-! ## Selectors -/

/-- The selector of a nested scope. References to the ancestor in the key, written `&` or in legacy
code, give way to it; a key without a reference becomes a descendant. Without an ancestor the key
stands as it is. -/
def composeSelector (c : Compiler) (ancestor key : String) : String :=
  if ancestor.isEmpty then key
  else if key.toList.contains '&' then
    String.ofList (Text.replaceChar '&' ancestor.toList key.toList)
  else
    match c.escapes.substituteParent? key ancestor with
    | some composed => composed
    | none => ancestor ++ " " ++ key

/-- The selector as it heads a rule. -/
def resolveSelector (c : Compiler) (selector : String) : String :=
  let decoded := c.escapes.decodeSelector selector
  if c.escape then escapeSelector decoded else decoded

/-! ## Levels -/

/-- Put a prelude around a sheet that is not empty. -/
def wrap (prelude : String) : List Css → List Css
  | [] => []
  | body => [.group prelude body]

/-- The prelude of a breakpoint scope. -/
def mediaPrelude (breakpoint : String) : String := "@media " ++ breakpointToken breakpoint

/-- A rule that still takes declarations up. -/
structure OpenRule where
  selector : String
  /-- Its declarations, the latest first. -/
  declarations : List Declaration

namespace OpenRule

def close (rule : OpenRule) : Css := .rule rule.selector rule.declarations.reverse

/-- Add a declaration to the first rule of its selector; without one it opens a rule, which comes
last. -/
def declare (selector : String) (d : Declaration) : List OpenRule → List OpenRule
  | [] => [⟨selector, [d]⟩]
  | rule :: rules =>
    if rule.selector = selector then ⟨rule.selector, d :: rule.declarations⟩ :: rules
    else rule :: declare selector d rules

end OpenRule

/-- What the nodes of a level have given so far. -/
structure Level where
  /-- The pieces from the nested scopes, the latest first. -/
  pieces : List Css
  /-- The rules of the level itself. -/
  rules : List OpenRule

namespace Level

/-- The level in front of its first node. -/
def empty : Level := ⟨[], []⟩

/-- Take up what a nested scope produces. -/
def emit (level : Level) (sheet : List Css) : Level :=
  { level with pieces := sheet.reverseAux level.pieces }

/-- Take up a declaration of the level itself. -/
def declare (level : Level) (selector : String) (d : Declaration) : Level :=
  { level with rules := OpenRule.declare selector d level.rules }

/-- The sheet of the level: what its scopes produce, then its own rules. -/
def sheet (level : Level) : List Css := level.pieces.reverse ++ level.rules.map OpenRule.close

end Level

/-! ## Gathering -/

mutual

/-- Take a node into a level under a selector. -/
def take (c : Compiler) (selector : String) : Node → Level → Level
  | .media breakpoint children, level =>
    level.emit (wrap (mediaPrelude breakpoint) (c.takeAll selector children .empty).sheet)
  | .supports condition children, level =>
    level.emit (wrap condition (c.takeAll selector children .empty).sheet)
  | .selector key children, level =>
    level.emit (c.takeAll (c.composeSelector selector key) children .empty).sheet
  | .leaf property value, level =>
    match Declaration.ofLeaf? c.escapes property value with
    | some d => level.declare (c.resolveSelector selector) d
    | none => level

/-- Take nodes into a level, in order. -/
def takeAll (c : Compiler) (selector : String) : List Node → Level → Level
  | [], level => level
  | node :: nodes, level => c.takeAll selector nodes (c.take selector node level)

end

/-- The sheet of the nodes of a level. -/
def accumulate (c : Compiler) (nodes : List Node) (selector : String) : List Css :=
  (c.takeAll selector nodes .empty).sheet

/-! ## Compiling -/

/-- The sheet of a style tree under an ancestor selector. -/
def sheet (c : Compiler) (tree : Tree) (ancestor : String) : List Css :=
  c.accumulate (classify tree) ancestor

/-- The CSS of a style tree under an ancestor selector. -/
def compile (c : Compiler) (tree : Tree) (ancestor : String) : String :=
  render (c.sheet tree ancestor)

end Compiler

/-- The CSS of a style tree that may hold legacy codes. With `escape` it is the form that is stored
with the content, without it the form for direct display. -/
def compile (tree : Tree) (ancestor : String) (escape : Bool) : String :=
  Compiler.compile ⟨.legacy, escape⟩ tree ancestor

end BlockSheet.Style
