import Mathlib.Data.List.Nodup
import BlockSheet.Proofs.Decimal.Digits
import BlockSheet.Proofs.Json.Equality
import BlockSheet.Style.Compiler

/-!
# Arrays as objects

A style tree may hold arrays as scopes. `keyedTree` puts an object in the place of each of them, at
every depth; its keys are the indices of the items. The compiler does not see the difference
(`compile_keyedTree`): the nodes of both trees are the same, so nothing that comes after the
classification can tell them apart. An item that produces nothing takes an index all the same.

An array has no keys that could repeat, and neither has its object, since no two numbers have the
same digits (`distinct_keyedItems`).
-/

namespace BlockSheet.Style

open Json (Value Fields)

/-! ### The replacement -/

mutual

/-- A value with objects in the place of its arrays. -/
def keyedValue : Value → Value
  | .null => .null
  | .bool b => .bool b
  | .num n => .num n
  | .str s => .str s
  | .arr items => .obj (keyedItems 0 items)
  | .obj fields => .obj (keyedTree fields)

/-- A style tree with objects in the place of its arrays. -/
def keyedTree : List (String × Value) → List (String × Value)
  | [] => []
  | (key, value) :: fields => (key, keyedValue value) :: keyedTree fields

/-- The entries of the object in the place of an array, the first of which has the given index. -/
def keyedItems (index : Nat) : List Value → List (String × Value)
  | [] => []
  | value :: values =>
    (toString index, keyedValue value) :: keyedItems (index + 1) values

end

/-- An array within an array, behind an item that produces nothing, and one below an object. -/
def layeredArrays : Tree :=
  [(".a", .arr [.null, .arr [.bool true, .obj [("& b", .arr [.str "x"])]]])]

example : keyedTree layeredArrays =
    [(".a", .obj [
      ("0", .null),
      ("1", .obj [("0", .bool true), ("1", .obj [("& b", .obj [("0", .str "x")])])])])] := by
  cbv

theorem keyedTree_eq_map (fields : Tree) :
    keyedTree fields = fields.map fun e => (e.1, keyedValue e.2) := by
  induction fields with
  | nil => rw [keyedTree, List.map_nil]
  | cons e fields ih => rw [keyedTree, ih, List.map_cons]

@[simp] theorem keys_keyedTree (fields : Tree) : Fields.keys (keyedTree fields) = fields.keys := by
  rw [keyedTree_eq_map, Fields.keys, List.map_map]
  rfl

theorem exists_of_mem_keyedItems {index : Nat} {items : List Value} {e : String × Value}
    (h : e ∈ keyedItems index items) :
    ∃ n value, index ≤ n ∧ value ∈ items ∧ e = (toString n, keyedValue value) := by
  induction items generalizing index with
  | nil =>
      rw [keyedItems] at h
      cases h
  | cons value values ih =>
      rw [keyedItems] at h
      rcases List.mem_cons.1 h with rfl | h
      · exact ⟨index, value, Nat.le_refl index, List.mem_cons_self, rfl⟩
      · obtain ⟨n, v, hn, hv, rfl⟩ := ih h
        exact ⟨n, v, Nat.le_of_succ_le hn, List.mem_cons_of_mem value hv, rfl⟩

/-! ### Keys -/

/-- The keys of an array tell its items apart. -/
theorem distinct_keyedItems (index : Nat) (items : List Value) :
    Fields.Distinct (keyedItems index items) := by
  induction items generalizing index with
  | nil =>
      rw [keyedItems]
      exact List.nodup_nil
  | cons value values ih =>
      rw [keyedItems, Fields.Distinct, Fields.keys, List.map_cons, List.nodup_cons]
      refine ⟨?_, ih (index + 1)⟩
      intro hmem
      obtain ⟨e, he, hkey⟩ := List.mem_map.1 hmem
      obtain ⟨n, v, hn, -, rfl⟩ := exists_of_mem_keyedItems he
      have hindex : n = index := Nat.repr_injective hkey
      omega

/-- If the objects of a value are maps, those that take the place of its arrays are maps too. -/
theorem distinctKeys_keyedValue {value : Value} (h : value.DistinctKeys) :
    (keyedValue value).DistinctKeys := by
  induction h with
  | null => exact .null
  | bool b => exact .bool b
  | num n => exact .num n
  | str s => exact .str s
  | @arr items _ ih =>
      rw [keyedValue]
      refine .obj (distinct_keyedItems 0 items) ?_
      intro e he
      obtain ⟨n, v, -, hv, rfl⟩ := exists_of_mem_keyedItems he
      exact ih v hv
  | @obj fields hkeys _ ih =>
      rw [keyedValue]
      refine .obj ?_ ?_
      · rw [Fields.Distinct, keys_keyedTree]
        exact hkeys
      · intro e he
        rw [keyedTree_eq_map] at he
        obtain ⟨e', he', rfl⟩ := List.mem_map.1 he
        exact ih e' he'

/-! ### Nodes -/

mutual

theorem classifyEntry_keyedValue (key : String) : ∀ value : Value,
    classifyEntry key (keyedValue value) = classifyEntry key value
  | .null => by rw [keyedValue]
  | .bool _ => by rw [keyedValue]
  | .num _ => by rw [keyedValue]
  | .str _ => by rw [keyedValue]
  | .arr items => by rw [keyedValue, classifyEntry, classifyEntry, classify_keyedItems 0 items]
  | .obj fields => by rw [keyedValue, classifyEntry, classifyEntry, classify_keyedTree fields]

/-- The replacement keeps the nodes of a tree. -/
theorem classify_keyedTree : ∀ fields : List (String × Value),
    classify (keyedTree fields) = classify fields
  | [] => by rw [keyedTree]
  | (key, value) :: fields => by
      rw [keyedTree, classify, classify, classifyEntry_keyedValue key value,
        classify_keyedTree fields]

/-- The nodes of an array are those of its object. -/
theorem classify_keyedItems (index : Nat) : ∀ items : List Value,
    classify (keyedItems index items) = classifyItems index items
  | [] => by rw [keyedItems, classify, classifyItems]
  | value :: values => by
      rw [keyedItems, classify, classifyItems, Decimal.ofList_digits,
        classifyEntry_keyedValue _ value, classify_keyedItems (index + 1) values]

end

/-- **Arrays are objects keyed by index.** With objects in the place of its arrays, at every depth,
a style tree compiles to the same CSS; and its objects are all maps if they were so before. -/
theorem Compiler.compile_keyedTree (c : Compiler) (tree : Tree) (ancestor : String) :
    c.compile (keyedTree tree) ancestor = c.compile tree ancestor ∧
      ((Value.obj tree).DistinctKeys → (Value.obj (keyedTree tree)).DistinctKeys) := by
  constructor
  · rw [compile, compile, sheet, sheet, classify_keyedTree]
  · intro h
    have hkeyed := distinctKeys_keyedValue h
    rwa [keyedValue] at hkeyed

theorem Compiler.compile_keyedTree_layered :
    (Value.obj layeredArrays).DistinctKeys ∧
      compile ⟨.legacy, true⟩ (keyedTree layeredArrays) ".root" =
        compile ⟨.legacy, true⟩ layeredArrays ".root" ∧
      (Value.obj (keyedTree layeredArrays)).DistinctKeys := by
  have hbelow : (Value.obj [("& b", .arr [.str "x"])]).DistinctKeys :=
    .obj (List.nodup_singleton _)
      (List.forall_mem_singleton.2 (.arr (List.forall_mem_singleton.2 (.str "x"))))
  have hinner : (Value.arr [.bool true, .obj [("& b", .arr [.str "x"])]]).DistinctKeys := by
    refine .arr ?_
    simp only [List.forall_mem_cons]
    exact ⟨.bool true, hbelow, List.forall_mem_nil _⟩
  have hdistinct : (Value.obj layeredArrays).DistinctKeys := by
    refine .obj (List.nodup_singleton _) (List.forall_mem_singleton.2 (.arr ?_))
    simp only [List.forall_mem_cons]
    exact ⟨.null, hinner, List.forall_mem_nil _⟩
  obtain ⟨hcss, hkeyed⟩ := compile_keyedTree ⟨.legacy, true⟩ layeredArrays ".root"
  exact ⟨hdistinct, hcss, hkeyed hdistinct⟩

end BlockSheet.Style
