import BlockSheet.Proofs.Binder.Settled
import BlockSheet.Proofs.Style.Reordered

/-!
# Stored styles and derived styles

After a bind the CSS that a block exports ought to be that of the tree which its type derives. It is
wherever the bind writes (`inSync_of_bind`). Where nothing is written the stored tree is equal to
the derived one as a value, and that is less: two trees that are equal as values may list their keys
in different orders, or differ in the sign of a zero, and the CSS shows both. A change of the order
alone goes unnoticed, then, and the block keeps the CSS of the old order
(`exportStyles?_reordered`). What such a block exports still shows the declarations of the derived
tree, but for their order and the signs of zeros.
-/

namespace BlockSheet

open Json (Value Fields)
open Style (Tree SameReadings sheetReadings breakpoint?_eq_ite isSupportsKey_eq)

/-! ### One tree under a selector -/

/-- A tree that stands alone under a selector compiles like the tree itself below the selector, if
the selector makes no wrapper. -/
theorem Style.compile_singleton {selector : String}
    (hbreakpoint : ¬ "media_".toList <+: selector.toList)
    (hsupports : ¬ "@supports".toList <+: selector.toList) (tree : Tree) (escape : Bool) :
    compile [(selector, .obj tree)] "" escape = compile tree selector escape := by
  have hown : Compiler.ownRule ⟨.legacy, escape⟩ "" (classify [(selector, .obj tree)]) = [] := by
    rw [Compiler.ownRule, classify, classify, List.append_nil,
      Compiler.ownDeclarations_classifyEntry]
    rfl
  have hentry : Compiler.entrySheet ⟨.legacy, escape⟩ "" selector (.obj tree) =
      Compiler.sheet ⟨.legacy, escape⟩ tree selector := by
    rw [Compiler.entrySheet, breakpoint?_eq_ite, if_neg hbreakpoint, isSupportsKey_eq,
      decide_eq_false hsupports]
    rfl
  rw [compile, compile, Compiler.compile, Compiler.compile, Compiler.sheet_eq, hown,
    List.flatMap_singleton, hentry, List.append_nil]

/-! ### What a block shows after a bind -/

/-- The stored styles of a block show a tree, which is equal to a derived tree as a value. -/
structure Block.Shows (b : Block) (t : BlockType) (selector : String) (derived stored : Tree) :
    Prop where
  equal : (Value.obj derived).equal (.obj stored) = true
  compiled : ∀ escape,
    Style.compile b.styleAttributes.styles "" escape = Style.compile stored selector escape
  exported : b.exportStyles? t = some (Style.compile stored selector true)
  /-- Nothing is missing, added or in another place than in the derived tree. -/
  readings : ∀ escape, SameReadings
    (sheetReadings [] (Style.Compiler.sheet ⟨.legacy, escape⟩ derived selector))
    (sheetReadings [] (Style.Compiler.sheet ⟨.legacy, escape⟩ stored selector))

/-- What a block shows that holds an identity, and one tree under the selector of its class name. -/
theorem Block.Shows.of_boundState {b : Block} {t : BlockType} {identity : Identity}
    {derived stored : Tree} (hfilter : t.filter? = none)
    (hbreakpoint :
      ¬ "media_".toList <+: (t.selector (classSelector identity.className)).toList)
    (hsupports :
      ¬ "@supports".toList <+: (t.selector (classSelector identity.className)).toList)
    (hkeys : (Value.obj derived).DistinctKeys)
    (hequal : (Value.obj derived).equal (.obj stored) = true)
    (hstate : b.styleAttributes = Allocator.boundState identity t stored) :
    b.Shows t (t.selector (classSelector identity.className)) derived stored := by
  have hstyles : b.styleAttributes.styles =
      [(t.selector (classSelector identity.className), .obj stored)] :=
    congrArg StyleAttributes.styles hstate
  have hcompiled : ∀ escape, Style.compile b.styleAttributes.styles "" escape =
      Style.compile stored (t.selector (classSelector identity.className)) escape := by
    intro escape
    rw [hstyles, Style.compile_singleton hbreakpoint hsupports]
  refine ⟨hequal, hcompiled, ?_, fun escape => ?_⟩
  · have hsome : b.styleAttributes.styles.isEmpty = false := by rw [hstyles]; rfl
    rw [Block.exportStyles?, hsome]
    simp only [Bool.false_eq_true, if_false, hcompiled true, BlockType.filterStyles, hfilter]
  · exact Style.Compiler.sameReadings_of_equal _ hkeys hequal _

namespace Allocator

/-- **Stored styles are in sync after a bind**, up to what equality of values sees. The block shows
a tree that is equal to the derived one; and that is the derived one itself, key by key, if the bind
wrote anything or just that tree was stored. -/
theorem inSync_of_bind (a : Allocator) (b : Block) (d : Document) (t : BlockType) (mount : Bool)
    (hfilter : t.filter? = none) (htree : (t.customStyles b.attributes).isEmpty = false)
    (hkeys : (Value.obj (t.customStyles b.attributes)).DistinctKeys)
    (hidentity : (a.allocate b d mount).value.isEmpty = false)
    (hbreakpoint : ¬ "media_".toList <+:
      (t.selector (classSelector (a.allocate b d mount).value.className)).toList)
    (hsupports : ¬ "@supports".toList <+:
      (t.selector (classSelector (a.allocate b d mount).value.className)).toList) :
    ∃ stored, ((a.bind b d t mount).value.applyTo b).Shows t
        (t.selector (classSelector (a.allocate b d mount).value.className))
        (t.customStyles b.attributes) stored ∧
      ((a.bind b d t mount).value ≠ .unchanged ∨
        b.styleAttributes.styles =
          [(t.selector (classSelector (a.allocate b d mount).value.className),
            .obj (t.customStyles b.attributes))] →
        stored = t.customStyles b.attributes) := by
  obtain ⟨stored, hstate, hequal, hwritten⟩ := a.styleAttributes_of_bind htree hkeys hidentity
  refine ⟨stored, .of_boundState hfilter hbreakpoint hsupports hkeys hequal hstate, ?_⟩
  rintro (hchanged | hstored)
  · exact hwritten hchanged
  · by_cases hchanged : (a.bind b d t mount).value = .unchanged
    · rw [hchanged, BindOutcome.applyTo_unchanged] at hstate
      have hstyles := hstored.symm.trans (congrArg StyleAttributes.styles hstate)
      simp only [boundState, List.cons.injEq, Prod.mk.injEq, Value.obj.injEq] at hstyles
      exact hstyles.1.2.symm
    · exact hwritten hchanged

section Written

open Session (coloured original)

/-- A block that is bound for the first time exports the CSS of the tree that is derived for it. -/
theorem inSync_of_bind_original :
    (Value.obj (coloured.customStyles original.attributes)).DistinctKeys ∧
      (stubborn.allocate original [original] true).value = ⟨"y", "t-h-y"⟩ ∧
      ¬ "media_".toList <+: ".t-h-y".toList ∧ ¬ "@supports".toList <+: ".t-h-y".toList ∧
      (stubborn.bind original [original] coloured true).value ≠ .unchanged ∧
      ((stubborn.bind original [original] coloured true).value.applyTo original).exportStyles?
        coloured = some (Style.compile [("color", .str "red")] ".t-h-y" true) := by
  have hkeys : (Value.obj (coloured.customStyles original.attributes)).DistinctKeys := by
    refine .obj (List.nodup_singleton _) fun entry hentry => ?_
    obtain rfl := List.mem_singleton.1 hentry
    exact .str _
  have hidentity : (stubborn.allocate original [original] true).value = ⟨"y", "t-h-y"⟩ := by
    cbv
  have hselector : coloured.selector (classSelector
      (stubborn.allocate original [original] true).value.className) = ".t-h-y" := by
    rw [hidentity]
    decide +kernel
  have hbreakpoint : ¬ "media_".toList <+: ".t-h-y".toList := by decide
  have hsupports : ¬ "@supports".toList <+: ".t-h-y".toList := by decide
  have hbind : (stubborn.bind original [original] coloured true).value =
      .update ⟨"y", "t-h-y", [(".t-h-y", .obj [("color", .str "red")])]⟩ := by
    cbv
  have hchanged : (stubborn.bind original [original] coloured true).value ≠ .unchanged := by
    rw [hbind]
    intro hunchanged
    cases hunchanged
  obtain ⟨stored, hshows, hstored⟩ := stubborn.inSync_of_bind original [original] coloured true rfl
    rfl hkeys (by rw [hidentity]; rfl) (by rwa [hselector]) (by rwa [hselector])
  have hexported := hshows.exported
  rw [hselector, hstored (Or.inl hchanged)] at hexported
  exact ⟨hkeys, hidentity, hbreakpoint, hsupports, hchanged, hexported⟩

end Written

/-! ### A change that goes unnoticed -/

/-- A type that takes its style tree from an attribute. -/
def sourced : BlockType where
  name := "t/h"
  styles? := some fun attributes =>
    match attributes.get? "source" with
    | some (.obj tree) => tree
    | _ => []
  selector? := none
  filter? := none

/-- A margin on all sides. -/
def margin : String × Value := ("margin", .num (.int ⟨1, by decide, by decide⟩))

/-- A margin at the top, which `margin` overrides where it comes later. -/
def marginTop : String × Value := ("marginTop", .num (.int ⟨2, by decide, by decide⟩))

/-- A block that was bound before the keys of its source changed places. -/
def reordered : Block where
  clientId := "a"
  name := "t/h"
  attributes := [("source", .obj [marginTop, margin]), ("id", .str "y"),
    ("className", .str "t-h-y"), ("styles", .obj [(".t-h-y", .obj [margin, marginTop])])]
  innerBlocks := []

/-- The block goes on to export the CSS of the old order, in which the margin at the top counts. In
the CSS of the derived tree it does not. -/
theorem exportStyles?_reordered :
    sourced.filter? = none ∧ sourced.customStyles reordered.attributes = [marginTop, margin] ∧
      (stubborn.allocate reordered [reordered] false).value = ⟨"y", "t-h-y"⟩ ∧
      sourced.selector (classSelector "t-h-y") = ".t-h-y" ∧
      ¬ "media_".toList <+: ".t-h-y".toList ∧ ¬ "@supports".toList <+: ".t-h-y".toList ∧
      (stubborn.bind reordered [reordered] sourced false).value = .unchanged ∧
      ((stubborn.bind reordered [reordered] sourced false).value.applyTo reordered).exportStyles?
        sourced = some ".t-h-y { margin: 1px; margin-top: 2px; }" ∧
      Style.compile [marginTop, margin] ".t-h-y" true =
        ".t-h-y { margin-top: 2px; margin: 1px; }" := by
  have hbind : (stubborn.bind reordered [reordered] sourced false).value = .unchanged := by cbv
  have hexported : reordered.exportStyles? sourced =
      some ".t-h-y { margin: 1px; margin-top: 2px; }" := by
    decide +kernel
  refine ⟨rfl, rfl, by decide +kernel, by decide +kernel, by decide, by decide,
    hbind, ?_, by decide +kernel⟩
  rw [hbind, BindOutcome.applyTo_unchanged, hexported]

end Allocator

end BlockSheet
