import BlockSheet.Binder

/-!
# Editing documents

The changes that an editing session makes to a document. A block is named by its client id, and the
first block of the document with that id is meant.
-/

namespace BlockSheet

open Json (Value)

namespace Block

/-- A copy under another client id; its attributes and its inner blocks stay as they are. -/
def copy (b : Block) (clientId : String) : Block := { b with clientId := clientId }

/-- The block of another type that takes the place of a block. It starts without attributes and
inner blocks, and takes over the style state where it is the same instance. -/
def transform (b : Block) (clientId name : String) : Block := carryOver (.new clientId name) [b]

end Block

namespace Document

def setAttribute (document : Document) (clientId name : String) (value : Value) : Document :=
  document.update clientId fun b => b.withAttribute name value

def removeAttribute (document : Document) (clientId name : String) : Document :=
  document.update clientId fun b => { b with attributes := b.attributes.erase name }

/-- Put a block at the end of the top level. -/
def append (document : Document) (b : Block) : Document := document ++ [b]

/-- Remove every block with a client id from the top level. -/
def dropRoots (document : Document) (clientId : String) : Document :=
  document.filter fun b => b.clientId != clientId

def replace (document : Document) (clientId : String) (b : Block) : Document :=
  document.update clientId fun _ => b

def writeIdentity (document : Document) (clientId : String) (identity : Identity) : Document :=
  document.update clientId fun b => { b with attributes := identity.write b.attributes }

/-- Give the first block with a client id another type name. -/
def rename? (document : Document) (clientId name : String) : Option Document :=
  update? clientId (fun b => { b with name := name }) document

end Document

end BlockSheet
