import BlockSheet.Proofs.Identity.Allocation
import BlockSheet.Proofs.Json.Equality
import BlockSheet.Proofs.Session

/-!
# Binding twice

A bind writes what the block type derives, and a second bind finds that nothing is left to write
(`bind_settled`). The second bind may run in another document, as long as the other blocks hold the
same ids in it, and may not be stricter than the first.

Two things decide that. What the first bind leaves behind is the state that it wanted, written or
found to be there already (`styleAttributes_of_bind`). And from that state the same identity is
allocated again (`allocate_settled`): an id that the first allocation kept is free, or need not be,
and one that it drew is drawn again where it is taken, since draws depend on nothing else.
-/

namespace BlockSheet

open Json (Value Fields)

/-! ### Documents in which other blocks hold the same ids -/

/-- Apart from blocks of the client id, the same ids are held in both documents, and under the same
client ids. -/
def Document.SameHolders (clientId : String) (d d' : Document) : Prop :=
  ∀ l : Label, l.Holds → l.clientId ≠ clientId → (l ∈ d.labels ↔ l ∈ d'.labels)

theorem Document.SameHolders.isTaken_eq {clientId : String} {d d' : Document}
    (h : SameHolders clientId d d') (id : String) :
    d'.isTaken id clientId = d.isTaken id clientId := by
  rw [Bool.eq_iff_iff, isTaken_eq_true_iff, isTaken_eq_true_iff]
  refine exists_congr fun l => ⟨fun ⟨hl, hholds, hid, hclient⟩ => ?_,
    fun ⟨hl, hholds, hid, hclient⟩ => ?_⟩
  · exact ⟨(h l hholds hclient).2 hl, hholds, hid, hclient⟩
  · exact ⟨(h l hholds hclient).1 hl, hholds, hid, hclient⟩

namespace Allocator

variable (a : Allocator) {d d' : Document}

/-- A draw looks at nothing but the ids that other blocks hold. -/
theorem drawFrom_eq_of_sameHolders {clientId : String} (h : d.SameHolders clientId d')
    (left attempt : Nat) (last : String) :
    a.drawFrom d' clientId left attempt last = a.drawFrom d clientId left attempt last := by
  induction left generalizing attempt last with
  | zero => rfl
  | succ left ih => rw [drawFrom, drawFrom, h.isTaken_eq, ih]

theorem draw_eq_of_sameHolders {clientId : String} (h : d.SameHolders clientId d') :
    a.draw d' clientId = a.draw d clientId :=
  a.drawFrom_eq_of_sameHolders h a.retryBudget 0 ""

/-! ### Allocating twice -/

/-- **An allocation settles**: a block that holds the identity which it was given gets the same one
again, in every document in which the other blocks hold the same ids. The second allocation must not
check the id if the first one did not. -/
theorem allocate_settled {b b' : Block} {recheck recheck' : Bool}
    (hclient : b'.clientId = b.clientId) (hname : b'.name = b.name)
    (hheld : b'.styleAttributes.identity = (a.allocate b d recheck).value)
    (hne : (a.allocate b d recheck).value.isEmpty = false)
    (hrecheck : recheck' = true → recheck = true) (h : d.SameHolders b.clientId d') :
    (a.allocate b' d' recheck').value = (a.allocate b d recheck).value := by
  have hid : b'.styleAttributes.id = (a.allocate b d recheck).value.id :=
    congrArg Identity.id hheld
  have hclass : b'.styleAttributes.className ≠ "" := by
    rw [show b'.styleAttributes.className = _ from congrArg Identity.className hheld]
    exact a.className_allocate_ne_empty hne
  have hkeep : keep b' = (a.allocate b d recheck).value := by
    rw [keep_of_className hclass, hheld]
  have hsome : b'.styleAttributes.id.isEmpty = false := by rwa [hid]
  rw [allocate, if_neg (by simp [hsome])]
  cases htaken : recheck' && d'.isTaken b'.styleAttributes.id b'.clientId with
  | false => exact hkeep
  | true =>
      -- The id was taken in the first document too, so it cannot be one that was kept.
      rw [Bool.and_eq_true, hclient, h.isTaken_eq, hid] at htaken
      rcases a.allocate_eq_or d b recheck with ⟨hkept, -, hfree⟩ | ⟨hrenew, -⟩
      · rw [hkept, id_keep, hfree (hrecheck htaken.1)] at htaken
        cases htaken.2
      · rw [hrenew] at hne
        obtain ⟨hdraw, hsomeClient⟩ := a.renew_value_of_ne_empty hne
        rw [if_pos rfl, Logged.value_after, hrenew, hdraw, renew,
          if_neg (by simpa [hclient] using hsomeClient), Logged.value_map, hclient, hname,
          a.draw_eq_of_sameHolders h]

end Allocator

/-! ### What a bind leaves behind -/

namespace Allocator

variable (a : Allocator) {b : Block} {d d' : Document} {t : BlockType}

/-- Which states agree with one that is to be bound: those of the same identity with an equal tree
under the same selector. -/
theorem boundState_equal_iff {identity : Identity} {tree : Style.Tree} {state : StyleAttributes} :
    (boundState identity t tree).equal state = true ↔
      ∃ tree', state = boundState identity t tree' ∧
        (Value.obj tree).equal (.obj tree') = true := by
  obtain ⟨id, className, styles⟩ := state
  simp only [StyleAttributes.equal, boundState, Bool.and_eq_true, beq_iff_eq, Fields.equal,
    StyleAttributes.mk.injEq]
  constructor
  · rintro ⟨⟨rfl, rfl⟩, hstyles⟩
    obtain ⟨hlength, hwithin⟩ := Json.Value.equal_obj_iff.1 hstyles
    obtain ⟨⟨key, value⟩, rfl⟩ := List.length_eq_one_iff.1 hlength.symm
    obtain ⟨w, hget, hw⟩ := hwithin _ List.mem_cons_self
    rw [Fields.get?_cons] at hget
    by_cases hkey : key = t.selector (classSelector identity.className)
    · obtain rfl : value = w := by simpa [hkey] using hget
      cases value with
      | obj tree' => exact ⟨tree', ⟨rfl, rfl, by rw [hkey]⟩, hw⟩
      | _ => simp [Value.equal] at hw
    · rw [if_neg hkey] at hget
      cases hget
  · rintro ⟨tree', ⟨rfl, rfl, rfl⟩, htree⟩
    refine ⟨⟨rfl, rfl⟩, Json.Value.equal_obj_iff.2 ⟨rfl, fun e he => ?_⟩⟩
    rw [List.mem_singleton] at he
    subst he
    exact ⟨.obj tree', by rw [Fields.get?_cons, if_pos rfl], htree⟩

/-- A bind that has styles and an identity writes the state that they make, unless it is stored. -/
theorem value_bind_of_styles {mount : Bool}
    (htree : (t.customStyles b.attributes).isEmpty = false)
    (hne : (a.allocate b d mount).value.isEmpty = false) :
    (a.bind b d t mount).value =
      if (boundState (a.allocate b d mount).value t (t.customStyles b.attributes)).equal
          b.styleAttributes then .unchanged
      else .update (boundState (a.allocate b d mount).value t (t.customStyles b.attributes)) :=
  (a.binds_bind b d t mount).eq_of_styles htree hne

/-- **What a bind leaves behind** in a block for which styles are derived: the identity that was
allocated, and under the selector of its class name a tree that is equal to the derived one. Only
where nothing was written may it be another one. -/
theorem styleAttributes_of_bind {mount : Bool}
    (htree : (t.customStyles b.attributes).isEmpty = false)
    (hkeys : (Value.obj (t.customStyles b.attributes)).DistinctKeys)
    (hne : (a.allocate b d mount).value.isEmpty = false) :
    ∃ tree, ((a.bind b d t mount).value.applyTo b).styleAttributes =
        boundState (a.allocate b d mount).value t tree ∧
      (Value.obj (t.customStyles b.attributes)).equal (.obj tree) = true ∧
      ((a.bind b d t mount).value ≠ .unchanged → tree = t.customStyles b.attributes) := by
  rw [a.value_bind_of_styles htree hne]
  cases hequal : (boundState (a.allocate b d mount).value t (t.customStyles b.attributes)).equal
      b.styleAttributes with
  | true =>
      obtain ⟨tree, hstate, hsame⟩ := boundState_equal_iff.1 hequal
      refine ⟨tree, ?_, hsame, fun hchanged => absurd rfl hchanged⟩
      rw [if_pos rfl, BindOutcome.applyTo_unchanged, hstate]
  | false =>
      refine ⟨t.customStyles b.attributes, ?_, Value.equal_self hkeys, fun _ => rfl⟩
      exact BindOutcome.styleAttributes_update _ b

end Allocator

/-! ### Callbacks that do not look at the style state -/

/-- The names of the attributes in which the style state is kept. -/
def stateNames : List String := ["id", "className", "styles"]

/-- The attributes other than those of the style state. -/
def otherAttributes (attributes : Attributes) : Attributes :=
  attributes.filter fun entry => entry.1 ∉ stateNames

/-- The style tree of the type depends on the other attributes alone. -/
def BlockType.IgnoresState (t : BlockType) : Prop :=
  ∀ attributes attributes' : Attributes,
    otherAttributes attributes = otherAttributes attributes' →
      t.customStyles attributes = t.customStyles attributes'

theorem otherAttributes_insert {name : String} (hname : name ∈ stateNames)
    (attributes : Attributes) (value : Value) :
    otherAttributes (attributes.insert name value) = otherAttributes attributes :=
  Fields.filter_insert (p := fun other => other ∉ stateNames) (by simpa using hname) attributes
    value

theorem otherAttributes_write (state : StyleAttributes) (attributes : Attributes) :
    otherAttributes (state.write attributes) = otherAttributes attributes := by
  rw [StyleAttributes.write, otherAttributes_insert (by decide), otherAttributes_insert (by decide),
    otherAttributes_insert (by decide)]

/-- Binding writes nothing but style state. -/
theorem otherAttributes_apply (outcome : BindOutcome) (attributes : Attributes) :
    otherAttributes (outcome.apply attributes) = otherAttributes attributes := by
  cases outcome with
  | unchanged => rfl
  | update next => exact otherAttributes_write next attributes
  | clear => exact otherAttributes_write .empty attributes

/-! ### The second bind -/

namespace Allocator

variable (a : Allocator) {b : Block} {d d' : Document} {t : BlockType}

/-- A block that derives no styles and stores none stays as it is. -/
theorem bind_unchanged_of_empty {mount : Bool} (htree : (t.customStyles b.attributes).isEmpty)
    (hstate : b.styleAttributes.hasState = false) :
    (a.bind b d t mount).value = .unchanged :=
  (a.binds_bind b d t mount).eq_unchanged htree hstate

/-- A block that derives no styles stores none after a bind. -/
theorem hasState_bind_of_empty {mount : Bool} (htree : (t.customStyles b.attributes).isEmpty) :
    ((a.bind b d t mount).value.applyTo b).styleAttributes.hasState = false := by
  rw [(a.binds_bind b d t mount).styleAttributes_of_empty htree]
  rfl

/-- **A second bind changes nothing**, whatever the generator and the budget are, if the first one
had an identity for the styles of the block, or no styles. It may run in every document in which the
other blocks hold the same ids, and may check the id only if the first one did. The objects of the
derived tree are maps, for otherwise the tree would not even be equal to itself. -/
theorem bind_settled (b : Block) (d d' : Document) (t : BlockType) (mount mount' : Bool)
    (hignores : t.IgnoresState)
    (hkeys : (Value.obj (t.customStyles b.attributes)).DistinctKeys)
    (hidentity : (t.customStyles b.attributes).isEmpty = true ∨
      (a.allocate b d mount).value.isEmpty = false)
    (hmount : mount' = true → mount = true) (hholders : d.SameHolders b.clientId d') :
    (a.bind ((a.bind b d t mount).value.applyTo b) d' t mount').value = .unchanged := by
  have htree : t.customStyles ((a.bind b d t mount).value.applyTo b).attributes =
      t.customStyles b.attributes := hignores _ _ (otherAttributes_apply _ _)
  cases hempty : (t.customStyles b.attributes).isEmpty with
  | true =>
      exact a.bind_unchanged_of_empty (by rw [htree, hempty]) (a.hasState_bind_of_empty hempty)
  | false =>
      have hne : (a.allocate b d mount).value.isEmpty = false := by
        rcases hidentity with hempty' | hne
        · rw [hempty] at hempty'
          cases hempty'
        · exact hne
      obtain ⟨tree, hstate, hequal, -⟩ := a.styleAttributes_of_bind hempty hkeys hne
      have hheld : ((a.bind b d t mount).value.applyTo b).styleAttributes.identity =
          (a.allocate b d mount).value := congrArg StyleAttributes.identity hstate
      have hsettled := a.allocate_settled (BindOutcome.clientId_applyTo _ b)
        (BindOutcome.name_applyTo _ b) hheld hne hmount hholders
      rw [a.value_bind_of_styles (by rw [htree, hempty]) (by rw [hsettled, hne]), htree, hsettled,
        if_pos (boundState_equal_iff.2 ⟨tree, hstate, hequal⟩)]

section Exhausted

open Session (coloured original copied)

/-- An allocator that knows one id, so that it cannot part a copy from its original. -/
def monotonous : Allocator := ⟨fun _ _ => "y", 1⟩

/-- Even where each bind finds the id taken, and draws until the budget is exhausted, the second one
changes nothing. -/
theorem bind_settled_exhausted :
    coloured.IgnoresState ∧
      (Value.obj (coloured.customStyles original.attributes)).DistinctKeys ∧
      (monotonous.allocate original [original, copied] true).value.isEmpty = false ∧
      Document.SameHolders original.clientId [original, copied] [copied] ∧
      (monotonous.bind original [original, copied] coloured true).events =
        [.idShared "a" "y", .budgetExhausted 1 "a" "y", .stylesChanged "a"] ∧
      (monotonous.bind ((monotonous.bind original [original, copied] coloured true).value.applyTo
        original) [copied] coloured true).value = .unchanged := by
  have hignores : coloured.IgnoresState := fun _ _ _ => rfl
  have hkeys : (Value.obj (coloured.customStyles original.attributes)).DistinctKeys := by
    refine .obj (List.nodup_singleton _) fun entry hentry => ?_
    obtain rfl := List.mem_singleton.1 hentry
    exact .str _
  have hidentity :
      (monotonous.allocate original [original, copied] true).value.isEmpty = false := by
    cbv
  have hholders : Document.SameHolders original.clientId [original, copied] [copied] := by
    intro l _ hclient
    have hlabel : l ≠ original.label := fun heq => hclient (heq ▸ rfl)
    have hinner : original.innerBlocks = [] := rfl
    rw [Document.labels_cons, hinner, Document.labels_nil, List.nil_append, List.mem_cons]
    exact or_iff_right hlabel
  have hevents : (monotonous.bind original [original, copied] coloured true).events =
      [.idShared "a" "y", .budgetExhausted 1 "a" "y", .stylesChanged "a"] := by
    cbv
  exact ⟨hignores, hkeys, hidentity, hholders, hevents,
    monotonous.bind_settled original [original, copied] [copied] coloured true true hignores
      hkeys (Or.inr hidentity) (fun _ => rfl) hholders⟩

end Exhausted

end Allocator

end BlockSheet
