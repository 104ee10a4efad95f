import BlockSheet.Block.Exchange
import BlockSheet.Identity.Allocator
import BlockSheet.Style.Compiler

/-!
# Functions for a host

The library as a host sees it that exchanges texts: everything goes in and comes out as a string,
and what a text from outside lacks is an error.
-/

namespace BlockSheet

/-- The CSS of a style tree given as JSON. -/
def compileJson (json ancestor : String) (escape : Bool) : Except StyleError String :=
  match Json.Value.parse json with
  | .error cause => .error (.invalidJson .styleTree cause)
  | .ok (.obj tree) => .ok (Style.compile tree ancestor escape)
  | .ok other => .error (.notAnObject .styleTree other.kind)

namespace Host

/-- Compile a style tree. Without a selector the keys stand as they are, and the form that is stored
is the usual one. -/
def compileStyles (json : String) (selector : Option String) (escape : Option Bool) :
    Except StyleError String :=
  compileJson json (selector.getD "") (escape.getD true)

/-- Resolve the breakpoint variables of CSS by the widths of some options. -/
def replaceVariables (css : String) (options : Option String) : Except StyleError String :=
  match options with
  | none => .ok (resolveVariables css MediaSizes.standard.resolver)
  | some json =>
    match StyleOptions.fromJson json with
    | .error e => .error e
    | .ok options => .ok (resolveVariables css options.mediaSizes.resolver)

def allocateIdentity (block document : String) (recheck : Bool) :
    Except StyleError (Logged String) :=
  match Block.parse block with
  | .error cause => .error (.invalidJson .block cause)
  | .ok b =>
    match Document.parse document with
    | .error cause => .error (.invalidJson .document cause)
    | .ok document => .ok ((Allocator.standard.allocate b document recheck).map Identity.text)

end Host

end BlockSheet
