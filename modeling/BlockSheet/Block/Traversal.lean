import BlockSheet.Block.Basic

/-!
# Walking through documents

* `Document.preorder`: every block of a document, a block in front of its inner blocks;
* `Document.find?` and `Document.update?`: the first block of that order with a client id, looked up
  and changed in its place;
* `Document.levels`: how many blocks stand together in each list of the document.
-/

namespace BlockSheet.Document

/-- Induction over documents: a document has no block at its top level, or it has a first one, with
the document of its inner blocks, and the document of the blocks behind it. -/
theorem induction {motive : Document → Prop} (nil : motive [])
    (cons : ∀ (b : Block) (blocks : Document),
      motive b.innerBlocks → motive blocks → motive (b :: blocks)) :
    ∀ document, motive document
  | [] => nil
  | ⟨clientId, name, attributes, inner⟩ :: blocks =>
    cons ⟨clientId, name, attributes, inner⟩ blocks (induction nil cons inner)
      (induction nil cons blocks)

/-- Every block of a document, inner blocks included: a block comes in front of its inner blocks. -/
def preorder : Document → List Block
  | [] => []
  | ⟨clientId, name, attributes, inner⟩ :: blocks =>
    ⟨clientId, name, attributes, inner⟩ :: (preorder inner ++ preorder blocks)

@[simp] theorem preorder_nil : preorder [] = [] := by simp [preorder]

theorem preorder_cons (b : Block) (blocks : Document) :
    preorder (b :: blocks) = b :: (preorder b.innerBlocks ++ preorder blocks) := by
  obtain ⟨_, _, _, _⟩ := b
  rw [preorder]

@[simp] theorem preorder_append (a b : Document) :
    preorder (a ++ b) = preorder a ++ preorder b := by
  induction a with
  | nil => simp
  | cons x a ih => simp [preorder_cons, ih]

/-- The first block with a client id. -/
def find? (document : Document) (clientId : String) : Option Block :=
  (preorder document).find? fun b => b.clientId == clientId

@[simp] theorem find?_nil (clientId : String) : find? [] clientId = none := by simp [find?]

theorem find?_cons (b : Block) (blocks : Document) (clientId : String) :
    find? (b :: blocks) clientId =
      if b.clientId = clientId then some b
      else (find? b.innerBlocks clientId).or (find? blocks clientId) := by
  rw [find?, preorder_cons, List.find?_cons, List.find?_append]
  by_cases h : b.clientId = clientId
  · simp [h]
  · simp [beq_eq_false_iff_ne.2 h, if_neg h, find?]

/-- Change the first block with a client id; `none` where there is none. -/
def update? (clientId : String) (change : Block → Block) : Document → Option Document
  | [] => none
  | ⟨client, name, attributes, inner⟩ :: blocks =>
    if client = clientId then some (change ⟨client, name, attributes, inner⟩ :: blocks)
    else
      match update? clientId change inner with
      | some inner => some (⟨client, name, attributes, inner⟩ :: blocks)
      | none =>
        (update? clientId change blocks).map (⟨client, name, attributes, inner⟩ :: ·)

@[simp] theorem update?_nil (clientId : String) (change : Block → Block) :
    update? clientId change [] = none := by simp [update?]

theorem update?_cons (clientId : String) (change : Block → Block) (b : Block)
    (blocks : Document) :
    update? clientId change (b :: blocks) =
      if b.clientId = clientId then some (change b :: blocks)
      else
        match update? clientId change b.innerBlocks with
        | some inner => some ({ b with innerBlocks := inner } :: blocks)
        | none => (update? clientId change blocks).map (b :: ·) := by
  obtain ⟨_, _, _, _⟩ := b
  rw [update?]

/-- Change the first block with a client id, where there is one. -/
def update (document : Document) (clientId : String) (change : Block → Block) : Document :=
  (update? clientId change document).getD document

/-- The lengths of the lists of inner blocks, in the order in which a walk enters them. -/
def innerLevels : Document → List Nat
  | [] => []
  | ⟨_, _, _, inner⟩ :: blocks => inner.length :: (innerLevels inner ++ innerLevels blocks)

/-- The lengths of all lists of blocks, the top level first. -/
def levels (document : Document) : List Nat := document.length :: innerLevels document

end BlockSheet.Document
