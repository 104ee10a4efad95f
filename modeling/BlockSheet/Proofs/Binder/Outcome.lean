import BlockSheet.Binder

/-!
# The outcome of a bind

A bind ends in one of five ways (`Binds`): it clears what is left of the styles of a block that
derives none; it finds nothing to clear; it has no identity for the block; it finds in the block
what it is about to write; or it writes the identity and the derived tree. Whatever is said of binds
elsewhere goes through these cases.
-/

namespace BlockSheet

namespace StyleAttributes

theorem eq_empty_of_hasState {state : StyleAttributes} (h : state.hasState = false) :
    state = empty := by
  obtain ⟨id, className, styles⟩ := state
  simpa [hasState, empty, and_assoc] using h

end StyleAttributes

namespace BindOutcome

/-! ### A block after an outcome -/

@[simp] theorem clientId_applyTo (outcome : BindOutcome) (b : Block) :
    (outcome.applyTo b).clientId = b.clientId := rfl

@[simp] theorem name_applyTo (outcome : BindOutcome) (b : Block) :
    (outcome.applyTo b).name = b.name := rfl

@[simp] theorem styleAttributes_update (next : StyleAttributes) (b : Block) :
    ((update next).applyTo b).styleAttributes = next :=
  StyleAttributes.read_write next b.attributes

@[simp] theorem styleAttributes_clear (b : Block) :
    (clear.applyTo b).styleAttributes = .empty :=
  StyleAttributes.read_write .empty b.attributes

@[simp] theorem applyTo_unchanged (b : Block) : unchanged.applyTo b = b := by
  cases b
  rfl

/-! ### The ways in which a bind ends -/

/-- The outcome of a bind, given the identity that is allocated for the block. -/
inductive Binds (b : Block) (t : BlockType) (identity : Identity) : BindOutcome → Prop
  /-- No styles are derived, and some state is left over. -/
  | cleared (htree : (t.customStyles b.attributes).isEmpty = true)
    (hstate : b.styleAttributes.hasState = true) : Binds b t identity .clear
  /-- No styles are derived, and there is no state. -/
  | bare (htree : (t.customStyles b.attributes).isEmpty = true)
    (hstate : b.styleAttributes.hasState = false) : Binds b t identity .unchanged
  /-- There is no identity for the styles. -/
  | nameless (htree : (t.customStyles b.attributes).isEmpty = false)
    (hidentity : identity.isEmpty = true) : Binds b t identity .unchanged
  /-- The block is in the state that is to be written. -/
  | settled (htree : (t.customStyles b.attributes).isEmpty = false)
    (hidentity : identity.isEmpty = false)
    (hequal : (Allocator.boundState identity t (t.customStyles b.attributes)).equal
      b.styleAttributes = true) : Binds b t identity .unchanged
  /-- The block is in another state. -/
  | updated (htree : (t.customStyles b.attributes).isEmpty = false)
    (hidentity : identity.isEmpty = false)
    (hequal : (Allocator.boundState identity t (t.customStyles b.attributes)).equal
      b.styleAttributes = false) :
    Binds b t identity (.update (Allocator.boundState identity t (t.customStyles b.attributes)))

namespace Binds

variable {b : Block} {t : BlockType} {identity : Identity} {outcome : BindOutcome}

/-- A block that derives no styles and stores none stays as it is. -/
theorem eq_unchanged (h : Binds b t identity outcome)
    (hempty : (t.customStyles b.attributes).isEmpty = true)
    (hnone : b.styleAttributes.hasState = false) : outcome = .unchanged := by
  cases h with
  | cleared _ hstate => simp [hnone] at hstate
  | bare _ _ => rfl
  | nameless _ _ => rfl
  | settled _ _ _ => rfl
  | updated htree _ _ => simp [hempty] at htree

/-- A block that derives no styles stores none afterwards. -/
theorem styleAttributes_of_empty (h : Binds b t identity outcome)
    (hempty : (t.customStyles b.attributes).isEmpty = true) :
    (outcome.applyTo b).styleAttributes = .empty := by
  cases h with
  | cleared _ _ => exact styleAttributes_clear b
  | bare _ hstate => rw [applyTo_unchanged, StyleAttributes.eq_empty_of_hasState hstate]
  | nameless htree _ => simp [hempty] at htree
  | settled htree _ _ => simp [hempty] at htree
  | updated htree _ _ => simp [hempty] at htree

/-- Styles and an identity make a state, which is written unless it is stored. -/
theorem eq_of_styles (h : Binds b t identity outcome)
    (hsome : (t.customStyles b.attributes).isEmpty = false) (hne : identity.isEmpty = false) :
    outcome =
      if (Allocator.boundState identity t (t.customStyles b.attributes)).equal
          b.styleAttributes then .unchanged
      else .update (Allocator.boundState identity t (t.customStyles b.attributes)) := by
  cases h with
  | cleared htree _ => simp [hsome] at htree
  | bare htree _ => simp [hsome] at htree
  | nameless _ hidentity => simp [hne] at hidentity
  | settled _ _ hequal => rw [if_pos hequal]
  | updated _ _ hequal => rw [if_neg (by simp [hequal])]

/-- Where styles are derived, the block has the id of its identity afterwards, unless there is
none. -/
theorem id_of_styles (h : Binds b t identity outcome)
    (hsome : (t.customStyles b.attributes).isEmpty = false) :
    (outcome.applyTo b).styleAttributes.id = identity.id ∨
      identity.id = "" ∧ outcome.applyTo b = b := by
  cases h with
  | cleared htree _ => simp [hsome] at htree
  | bare htree _ => simp [hsome] at htree
  | nameless _ hidentity =>
      exact Or.inr ⟨String.isEmpty_iff.1 hidentity, applyTo_unchanged b⟩
  | settled _ _ hequal =>
      simp only [StyleAttributes.equal, Bool.and_eq_true, beq_iff_eq] at hequal
      exact Or.inl hequal.1.1.symm
  | updated _ _ _ => exact Or.inl (congrArg _ (styleAttributes_update _ b))

end Binds

end BindOutcome

theorem Allocator.binds_bind (a : Allocator) (b : Block) (d : Document) (t : BlockType)
    (mount : Bool) :
    BindOutcome.Binds b t (a.allocate b d mount).value (a.bind b d t mount).value := by
  cases htree : (t.customStyles b.attributes).isEmpty with
  | true =>
      rw [bind, if_pos htree]
      cases hstate : b.styleAttributes.hasState with
      | true => exact .cleared htree hstate
      | false => exact .bare htree hstate
  | false =>
      rw [bind, if_neg (by simp [htree]), Logged.value_bind]
      cases hidentity : (a.allocate b d mount).value.isEmpty with
      | true =>
          simp only [Bool.true_or, if_true, Logged.value_pure]
          exact .nameless htree hidentity
      | false =>
          simp only [Bool.false_or]
          split
          · next hequal => exact .settled htree hidentity hequal
          · next hequal => exact .updated htree hidentity (by simpa using hequal)

end BlockSheet
