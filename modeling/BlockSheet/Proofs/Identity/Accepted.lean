import Mathlib
import BlockSheet.Proofs.Identity.Allocation
import BlockSheet.Proofs.Identity.Token

/-!
# Allocators of accepted options

Options that are accepted from outside make an allocator that never leaves a block with a client id
without an identity (`allocate_of_fromJson`). They allow at least one attempt, so that there is a
last candidate even if all of them fail, and tokens of at least one character, so that no candidate
is empty. Nothing is asked of the digest function: the token of any number has the length that was
set and consists of digits to the base 36.
-/

namespace BlockSheet

/-! ### Tokens -/

/-- The character is a digit to the base 36. -/
def IsBase36 (c : Char) : Prop := ('0' ≤ c ∧ c ≤ '9') ∨ ('a' ≤ c ∧ c ≤ 'z')

instance (c : Char) : Decidable (IsBase36 c) := inferInstanceAs (Decidable (_ ∨ _))

theorem isBase36_base36Char (n : Nat) : IsBase36 (base36Char n) := by
  have all : ∀ d < 36, IsBase36 (base36Char d) := by decide
  rw [← base36Char_mod]
  exact all (n % 36) (Nat.mod_lt n (by omega))

theorem isBase36_of_mem_token {length n : Nat} {c : Char} (h : c ∈ token length n) :
    IsBase36 c := by
  obtain ⟨i, hi⟩ := List.mem_iff_getElem?.1 h
  have hlength : i < length := by simpa using (List.getElem?_eq_some_iff.1 hi).1
  rw [getElem?_token hlength] at hi
  obtain rfl := Option.some.inj hi
  exact isBase36_base36Char _

namespace ShortHash

variable (h : ShortHash) (clientId : String) (attempt : Nat)

@[simp] theorem length_generate : (h.generate clientId attempt).length = h.length := by
  simp [generate]

theorem generate_ne_empty (hlength : 0 < h.length) : h.generate clientId attempt ≠ "" := by
  intro hempty
  have hzero := congrArg String.length hempty
  rw [length_generate, String.length_empty] at hzero
  omega

theorem isBase36_of_mem_generate {c : Char} (hc : c ∈ (h.generate clientId attempt).toList) :
    IsBase36 c := by
  rw [generate, String.toList_ofList] at hc
  exact isBase36_of_mem_token hc

end ShortHash

/-! ### Accepted options -/

namespace StyleOptions

/-- Valid options allow an attempt, and a character. -/
theorem pos_of_validate {o : StyleOptions} (h : o.validate = .ok ()) :
    0 < o.idRetryBudget.toNat ∧ 0 < o.idLength.toNat := by
  unfold validate at h
  split at h
  · cases h
  · next hbudget =>
    split at h
    · cases h
    · next hlength =>
      rw [not_or] at hlength
      rw [← UInt32.toNat_inj] at hbudget
      rw [← UInt64.toNat_inj] at hlength
      exact ⟨Nat.pos_of_ne_zero hbudget, Nat.pos_of_ne_zero hlength.1⟩

theorem validate_of_fromJson {text : String} {o : StyleOptions} (h : fromJson text = .ok o) :
    o.validate = .ok () := by
  unfold fromJson at h
  split at h
  · cases h
  · next read _ =>
    split at h
    · cases h
    · next hvalid =>
      obtain rfl : read = o := Except.ok.inj h
      exact hvalid

end StyleOptions

namespace Allocator

/-- A new identity has a candidate for its id, if there is an attempt for it. -/
theorem exists_renew_eq (a : Allocator) {b : Block} {d : Document} (hclient : b.clientId ≠ "")
    (hbudget : 0 < a.retryBudget) :
    ∃ attempt, (a.renew b d).value = .ofId b.name (a.generate b.clientId attempt) := by
  obtain ⟨attempt, hdrawn⟩ := (a.drawn_draw d b.clientId).value_cases.resolve_left (by omega)
  refine ⟨attempt, ?_⟩
  rw [a.renew_of_clientId hclient, Logged.value_map, hdrawn]

/-- **Accepted options work** for every digest function: each block that has a client id gets an id
and a class name, even if every candidate collides. A new id is a token of the length that was set,
and the class name is then made from it. -/
theorem allocate_of_fromJson {text : String} {o : StyleOptions}
    (haccepted : StyleOptions.fromJson text = .ok o) (digest : Hash.DigestFunction) {b : Block}
    (hclient : b.clientId ≠ "") (d : Document) (recheck : Bool) :
    ((ofOptionsWith digest o).allocate b d recheck).value.id ≠ "" ∧
      ((ofOptionsWith digest o).allocate b d recheck).value.className ≠ "" ∧
      (((ofOptionsWith digest o).allocate b d recheck).value.id ≠ b.styleAttributes.id →
        ((ofOptionsWith digest o).allocate b d recheck).value.id.length = o.idLength.toNat ∧
        (∀ c ∈ ((ofOptionsWith digest o).allocate b d recheck).value.id.toList, IsBase36 c) ∧
        ((ofOptionsWith digest o).allocate b d recheck).value.className =
          classNameFor b.name ((ofOptionsWith digest o).allocate b d recheck).value.id) := by
  obtain ⟨hbudget, hlength⟩ :=
    StyleOptions.pos_of_validate (StyleOptions.validate_of_fromJson haccepted)
  rcases (ofOptionsWith digest o).allocate_eq_or d b recheck with ⟨hkept, hid, -⟩ | ⟨hrenew, -⟩
  · have hheld : ((ofOptionsWith digest o).allocate b d recheck).value.id =
        b.styleAttributes.id := by
      rw [hkept, id_keep]
    refine ⟨hheld ▸ hid, ?_, fun hnew => absurd hheld hnew⟩
    exact className_allocate_ne_empty _ (by simp [Identity.isEmpty, hheld, hid])
  · -- The new id is a token, whatever attempt it comes from.
    let hash : ShortHash := ⟨digest, o.idLength.toNat⟩
    obtain ⟨attempt, hvalue⟩ :
        ∃ attempt, ((ofOptionsWith digest o).renew b d).value =
          .ofId b.name (hash.generate b.clientId attempt) :=
      exists_renew_eq (ofOptionsWith digest o) hclient hbudget
    rw [hrenew, hvalue]
    refine ⟨hash.generate_ne_empty b.clientId attempt hlength, classNameFor_ne_empty _ _, ?_⟩
    intro _
    exact ⟨hash.length_generate b.clientId attempt,
      fun c => hash.isBase36_of_mem_generate b.clientId attempt, rfl⟩

section Colliding

/-- Options with a single attempt. -/
def singleAttempt : StyleOptions := ⟨true, 1, 12, .standard⟩

/-- The pasted block and its original, behind a block whose id is the token of zero. -/
def crowded : Document := ⟨"c", "t/card", [("id", .str "000000000000")], []⟩ :: pastedInto

/-- The allocator of these options over a digest function that knows one digest only. -/
def colliding : Allocator := ofOptionsWith (fun _ => .replicate 32 0) singleAttempt

/-- All digests collide, and the only candidate is the id of another block; still the pasted block
gets a token of twelve characters for the id that it has to give up. -/
theorem allocate_of_fromJson_colliding :
    StyleOptions.fromJson "\x7b\"idLength\":12,\"idRetryBudget\":1\x7d" = .ok singleAttempt ∧
      pasted.clientId ≠ "" ∧
      (colliding.allocate pasted crowded true).events =
        [.idShared "b" "x", .budgetExhausted 1 "b" "000000000000"] ∧
      (colliding.allocate pasted crowded true).value.id ≠ pasted.styleAttributes.id ∧
      (colliding.allocate pasted crowded true).value.id.length = 12 ∧
      (∀ c ∈ (colliding.allocate pasted crowded true).value.id.toList, IsBase36 c) ∧
      (colliding.allocate pasted crowded true).value.className =
        classNameFor "t/card" (colliding.allocate pasted crowded true).value.id := by
  have haccepted : StyleOptions.fromJson "\x7b\"idLength\":12,\"idRetryBudget\":1\x7d" =
      .ok singleAttempt := by
    cbv
  have hclient : pasted.clientId ≠ "" := by decide
  have hallocate : colliding.allocate pasted crowded true =
      ⟨⟨"000000000000", "t-card-000000000000"⟩,
        [.idShared "b" "x", .budgetExhausted 1 "b" "000000000000"]⟩ := by
    cbv
  have hnew : (colliding.allocate pasted crowded true).value.id ≠ pasted.styleAttributes.id := by
    rw [hallocate]
    decide
  obtain ⟨-, -, htoken⟩ :=
    allocate_of_fromJson haccepted (fun _ => .replicate 32 0) hclient crowded true
  exact ⟨haccepted, hclient, congrArg Logged.events hallocate, hnew, htoken hnew⟩

end Colliding

end Allocator

end BlockSheet
