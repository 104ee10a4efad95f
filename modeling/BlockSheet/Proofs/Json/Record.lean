import Mathlib
import BlockSheet.Json.Record
import BlockSheet.Proofs.Json.ReadBack

/-!
# Values of a fixed type read back

The readers for single values, objects and lists take the texts that are written for such values.
Objects and lists need a bracket that nesting allows.

A record that is written as an object reads back if each of its fields is known, stands there once
and reads back (`record_readsBack`): reading tags the values with their fields in the order in which
they are written, and the record is built from them.
-/

namespace BlockSheet.Json

open Text (joined)
open Decimal (digits)

variable {α σ φ : Type}

/-! ### Single values -/

theorem string_readsBack (s : String) : ReadsBack string (stringText s) s := by
  intro rest _
  obtain ⟨body, hbody, hread⟩ := stringText_append s rest
  rw [hbody, string, skipBlanks_cons rfl]
  exact hread

theorem boolean_readsBack (b : Bool) : ReadsBack boolean (Value.bool b).chars b := by
  intro rest _
  cases b <;> rfl

/-- A natural number that 64 bits hold is written as its digits. -/
theorem natural_readsBack {bound : Nat} (hbound : bound ≤ 18446744073709551616)
    (expected : Expected) (n : { n : Nat // n < bound }) :
    ReadsBack (natural bound expected) (digits n) n := by
  intro rest hrest
  obtain ⟨n, hn⟩ := n
  have hread : number (digits n ++ rest) = .ok (.int ⟨n, by omega, by omega⟩, rest) :=
    number_integer_append ⟨n, by omega, by omega⟩ hrest.endsNumber
  cases hdigits : digits n with
  | nil => exact absurd hdigits (Decimal.digits_ne_nil n)
  | cons c ds =>
      have hc : Decimal.isDigit c = true :=
        Decimal.isDigit_of_mem_digits (hdigits ▸ List.mem_cons_self)
      rw [hdigits, List.cons_append] at hread
      rw [List.cons_append, natural, skipBlanks_cons (start_of_number (.inr hc)).1]
      simp only [hc, Bool.or_true, if_true, hread]
      exact dif_pos ⟨Int.natCast_nonneg n, hn⟩

theorem word32_readsBack (n : UInt32) : ReadsBack word32 (digits n.toNat) n := by
  intro rest hrest
  have hread := natural_readsBack (by decide) .word32 ⟨n.toNat, n.toNat_lt⟩ rest hrest
  rw [word32, hread]
  simp [bind, Except.bind]

theorem word64_readsBack (n : UInt64) : ReadsBack word64 (digits n.toNat) n := by
  intro rest hrest
  have hread := natural_readsBack (by decide) .word64 ⟨n.toNat, n.toNat_lt⟩ rest hrest
  rw [word64, hread]
  simp [bind, Except.bind]

/-! ### Containers -/

/-- An object reads back as what its entries collect. -/
theorem objectOf_readsBack {entry : EntryStep σ} {start last : σ} {es : List (String × List Char)}
    (h : TakesUp entry start es last) :
    ReadsBack (objectOf (some entry) start) (objectText es) last := by
  intro rest _
  have hentries := entries_append h rest
  rw [objectText_eq, List.cons_append, List.append_assoc, objectOf, skipBlanks_cons rfl]
  exact hentries

theorem listOf_readsBack {item : Reader α} {write : α → List Char} {xs : List α}
    (hbegin : ∀ x ∈ xs, BeginsItem (write x)) (hread : ∀ x ∈ xs, ReadsBack item (write x) x) :
    ReadsBack (listOf (some item)) (arrayText (xs.map write)) xs := by
  intro rest _
  have hitems := items_append hbegin hread rest
  rw [arrayText, List.cons_append, List.append_assoc, listOf, skipBlanks_cons rfl]
  exact hitems

theorem fields_readsBack {fs : Fields} (hkeys : (Value.obj fs).DistinctKeys) {depth : Nat}
    (hdepth : (Value.obj fs).nesting ≤ depth) :
    ReadsBack (fields depth) (Value.obj fs).chars fs := by
  rw [Value.nesting] at hdepth
  cases depth with
  | zero => omega
  | succ depth =>
      cases hkeys with
      | obj hdistinct hvalues =>
          have hread : ∀ e ∈ fs, ReadsBack (value depth) e.2.chars e.2 := by
            intro e he
            exact Value.readsBack (hvalues e he)
              (le_trans (nesting_le_fieldsNesting he) (Nat.le_of_succ_le_succ hdepth))
          have htakes : TakesUp (fieldEntry (value depth)) [] (fieldTexts fs) fs :=
            Json.takesUp_fields hdistinct hread
          exact objectOf_readsBack htakes

/-! ### Records -/

/-- A field of a record as it is written. -/
structure WrittenField (φ : Type) where
  name : String
  /-- The text of its value. -/
  text : List Char
  /-- The value, tagged with its field. -/
  value : φ

namespace RecordShape

theorem tagged_readsBack {reader : Reader α} {text : List Char} {x : α} (tag : α → φ)
    (h : ReadsBack reader text x) : ReadsBack (tagged tag reader) text (tag x) := by
  intro rest hrest
  rw [tagged, h rest hrest]
  rfl

variable {shape : RecordShape φ α}

/-- The shape knows the field and reads it back. -/
def Reads (shape : RecordShape φ α) (f : WrittenField φ) : Prop :=
  ∃ reader, shape.reader? f.name = some reader ∧ ReadsBack reader f.text f.value

/-- A tagged field is read back if its value is, of whatever type that is. -/
theorem Reads.of_tagged {β : Type} {name : String} {tag : β → φ} {reader : Reader β}
    {text : List Char} {x : β} (hreader : shape.reader? name = some (tagged tag reader))
    (h : ReadsBack reader text x) : shape.Reads ⟨name, text, tag x⟩ :=
  ⟨tagged tag reader, hreader, tagged_readsBack tag h⟩

/-- The fields of a record are taken up in order, if none stands there twice. -/
theorem takesUp_fields {present : List (String × φ)} {fs : List (WrittenField φ)}
    (hnames : (present.map Prod.fst ++ fs.map WrittenField.name).Nodup)
    (hreads : ∀ f ∈ fs, shape.Reads f) :
    TakesUp shape.field present (fs.map fun f => (f.name, f.text))
      (present ++ fs.map fun f => (f.name, f.value)) := by
  induction fs generalizing present with
  | nil =>
      rw [List.map_nil, List.map_nil, List.append_nil]
      exact .nil present
  | cons f fs ih =>
      rw [List.forall_mem_cons] at hreads
      obtain ⟨⟨reader, hreader, hread⟩, hreads⟩ := hreads
      have hnew : present.lookup f.name = none := by
        rw [List.lookup_eq_none_iff]
        intro e he
        have hne : f.name ≠ e.1 := by
          intro hname
          exact List.disjoint_of_nodup_append hnames (List.mem_map_of_mem he)
            (hname ▸ List.mem_cons_self)
        simpa using hne
      rw [List.map_cons, List.map_cons, List.append_cons]
      refine .cons ?_ (ih ?_ hreads)
      · intro rest hrest
        rw [List.cons_append, RecordShape.field, hreader]
        simp only [hnew, Option.isSome_none, Bool.false_eq_true, if_false, colon_cons, bind,
          Except.bind, hread rest hrest]
      · simpa using hnames

/-- **A record reads back**, if its shape knows each of its fields and builds it from them. -/
theorem record_readsBack {fs : List (WrittenField φ)} {x : α}
    (hnames : (fs.map WrittenField.name).Nodup) (hreads : ∀ f ∈ fs, shape.Reads f)
    (hbuild : shape.build (fs.map WrittenField.value) = .ok x) (name : String) :
    ReadsBack (record name (some shape)) (objectText (fs.map fun f => (f.name, f.text))) x := by
  intro rest _
  have htakes : TakesUp shape.field [] (fs.map fun f => (f.name, f.text))
      (fs.map fun f => (f.name, f.value)) := takesUp_fields hnames hreads
  have hentries := entries_append htakes rest
  have hvalues : (fs.map fun f => (f.name, f.value)).map Prod.snd = fs.map WrittenField.value := by
    rw [List.map_map]
    rfl
  rw [objectText_eq, List.cons_append, List.append_assoc, record, skipBlanks_cons rfl]
  simp only [fromObject, List.singleton_append, hentries, bind, Except.bind, hvalues, hbuild]

end RecordShape

end BlockSheet.Json
