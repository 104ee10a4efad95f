import BlockSheet.Proofs.Binder.Settled

/-!
# What a bind writes

In whichever of its ways a bind ends, there is one answer to the state of the block after the
outcome is applied (`Realizes`), whatever the attributes were before, of a wrong type or missing:

* no style state where no styles are derived;
* the allocated identity and the derived tree otherwise, if there is an identity, and no change if
  there is none;
* the other attributes as they were, in their order.

And something is written exactly if the state that is read afterwards differs from the one before.
-/

namespace BlockSheet

open Json (Value Fields)

/-! ### Comparing states -/

namespace StyleAttributes

/-- A style tree within attributes that are maps is a map. -/
theorem distinctKeys_treeOf {attributes : Attributes} (h : (Value.obj attributes).DistinctKeys) :
    (Value.obj (treeOf attributes)).DistinctKeys := by
  unfold treeOf
  split
  · next hget => exact h.of_get? hget
  · exact .obj List.nodup_nil (by simp)

/-- A state agrees with itself. -/
theorem equal_self {state : StyleAttributes} (h : (Value.obj state.styles).DistinctKeys) :
    state.equal state = true := by
  simp [equal, Fields.equal, Value.equal_self h]

/-- The empty state agrees only with one that has no part. -/
theorem empty_equal (state : StyleAttributes) : empty.equal state = !state.hasState := by
  obtain ⟨id, className, styles⟩ := state
  have hid : ("" == id) = id.isEmpty := by
    rw [Bool.eq_iff_iff, beq_iff_eq, String.isEmpty_iff, eq_comm]
  have hclass : ("" == className) = className.isEmpty := by
    rw [Bool.eq_iff_iff, beq_iff_eq, String.isEmpty_iff, eq_comm]
  have hstyles : Fields.equal [] styles = styles.isEmpty := by
    cases styles <;> rfl
  simp only [equal, empty, hasState, hid, hclass, hstyles, Bool.not_or, Bool.not_not]

end StyleAttributes

/-! ### The state afterwards -/

namespace BindOutcome

variable {b : Block} {t : BlockType} {identity : Identity} {outcome : BindOutcome}

/-- What is to become of a block when the outcome of a bind is applied to it. -/
structure Realizes (outcome : BindOutcome) (b : Block) (t : BlockType) (identity : Identity) :
    Prop where
  /-- A block that derives no styles has no style state. -/
  cleared : (t.customStyles b.attributes).isEmpty = true →
    (outcome.applyTo b).styleAttributes = ⟨"", "", []⟩
  /-- A block that derives some has the identity, and styles of one entry, which is the derived tree
  under the selector of the class name. -/
  bound : (t.customStyles b.attributes).isEmpty = false → identity.isEmpty = false →
    ∃ tree, (outcome.applyTo b).styleAttributes =
        ⟨identity.id, identity.className,
          [(t.selector ("." ++ identity.className), .obj tree)]⟩ ∧
      (Value.obj (t.customStyles b.attributes)).equal (.obj tree) = true
  /-- Without an identity nothing is written. -/
  nameless : (t.customStyles b.attributes).isEmpty = false → identity.isEmpty = true →
    outcome.written? b.attributes = none
  /-- The other attributes keep their values and their order. -/
  others : otherAttributes (outcome.applyTo b).attributes = otherAttributes b.attributes
  /-- Something is written exactly if the style state changes by that. -/
  written : (outcome.written? b.attributes).isSome = true ↔
    (outcome.applyTo b).styleAttributes.equal b.styleAttributes = false

/-- Where nothing is written, the state agrees with what it was. -/
theorem written_unchanged (h : (Value.obj b.attributes).DistinctKeys) :
    (unchanged.written? b.attributes).isSome = true ↔
      (unchanged.applyTo b).styleAttributes.equal b.styleAttributes = false := by
  have hsame : b.styleAttributes.equal b.styleAttributes = true :=
    StyleAttributes.equal_self (StyleAttributes.distinctKeys_treeOf h)
  simp [written?, hsame]

theorem Binds.realizes (h : Binds b t identity outcome)
    (hattributes : (Value.obj b.attributes).DistinctKeys)
    (hkeys : (Value.obj (t.customStyles b.attributes)).DistinctKeys) :
    outcome.Realizes b t identity := by
  have hcleared := h.styleAttributes_of_empty
  have hothers := otherAttributes_apply outcome b.attributes
  have hunchanged := written_unchanged hattributes
  cases h with
  | cleared htree hstate =>
      refine ⟨hcleared, ?_, ?_, hothers, ?_⟩
      · simp [htree]
      · simp [htree]
      · rw [styleAttributes_clear, StyleAttributes.empty_equal, hstate]
        simp [written?]
  | bare htree hstate =>
      refine ⟨hcleared, ?_, fun _ _ => rfl, hothers, hunchanged⟩
      simp [htree]
  | nameless htree hidentity =>
      refine ⟨hcleared, ?_, fun _ _ => rfl, hothers, hunchanged⟩
      simp [hidentity]
  | settled htree hidentity hequal =>
      refine ⟨hcleared, fun _ _ => ?_, fun _ _ => rfl, hothers, hunchanged⟩
      rw [applyTo_unchanged]
      exact Allocator.boundState_equal_iff.1 hequal
  | updated htree hidentity hequal =>
      refine ⟨hcleared, fun _ _ => ?_, ?_, hothers, ?_⟩
      · exact ⟨_, styleAttributes_update _ _, Value.equal_self hkeys⟩
      · simp [hidentity]
      · rw [styleAttributes_update, hequal]
        simp [written?]

end BindOutcome

/-- **The state after a bind**, for every allocator and block type and whatever the attributes hold.
That the attributes and the derived tree are maps is said for the sake of comparing them. -/
theorem bind_realizes (a : Allocator) (b : Block) (d : Document) (t : BlockType) (mount : Bool)
    (hattributes : (Value.obj b.attributes).DistinctKeys)
    (hkeys : (Value.obj (t.customStyles b.attributes)).DistinctKeys) :
    (a.bind b d t mount).value.Realizes b t (a.allocate b d mount).value :=
  (a.binds_bind b d t mount).realizes hattributes hkeys

section Mistyped

open Session (coloured)

/-- A block whose style state has no part of the right type. -/
def mistyped : Block :=
  ⟨"a", "t/h", [("styles", .str ""), ("wide", .bool true), ("id", .null)], []⟩

/-- The state is written over what is there, with the class name at the end. -/
theorem bind_realizes_mistyped :
    (Value.obj mistyped.attributes).DistinctKeys ∧
      (Value.obj (coloured.customStyles mistyped.attributes)).DistinctKeys ∧
      (stubborn.allocate mistyped [mistyped] false).value = ⟨"y", "t-h-y"⟩ ∧
      ((stubborn.bind mistyped [mistyped] coloured false).value.applyTo mistyped).attributes =
        [("styles", .obj [(".t-h-y", .obj [("color", .str "red")])]), ("wide", .bool true),
          ("id", .str "y"), ("className", .str "t-h-y")] ∧
      (stubborn.bind mistyped [mistyped] coloured false).value.Realizes mistyped coloured
        ⟨"y", "t-h-y"⟩ := by
  have hattributes : (Value.obj mistyped.attributes).DistinctKeys := by
    refine .obj (by simp [Fields.Distinct, Fields.keys, mistyped]) ?_
    simp only [mistyped, List.forall_mem_cons]
    exact ⟨.str "", .bool true, .null, by simp⟩
  have hkeys : (Value.obj (coloured.customStyles mistyped.attributes)).DistinctKeys := by
    refine .obj (List.nodup_singleton _) fun entry hentry => ?_
    obtain rfl := List.mem_singleton.1 hentry
    exact .str _
  have hidentity : (stubborn.allocate mistyped [mistyped] false).value = ⟨"y", "t-h-y"⟩ := by
    cbv
  have hrealizes := bind_realizes stubborn mistyped [mistyped] coloured false hattributes hkeys
  rw [hidentity] at hrealizes
  exact ⟨hattributes, hkeys, hidentity, by cbv, hrealizes⟩

end Mistyped

end BlockSheet
