import BlockSheet.Proofs.Json.Numeral
import BlockSheet.Proofs.Json.Quotation
import BlockSheet.Proofs.Text.Pattern

/-!
# Different values have different texts

Compact JSON text is unambiguous: where a text that closes a value comes behind it, a value can be
told from every other value by its text, and so can the place where it ends (`Value.delimited`). A
string ends at its closing quote; a number is told from others by reading it; arrays and objects
end at the bracket that follows their last part, which begins no further part. That the keys of an
object differ from each other is not needed.

Among the consequences is that two values of the same text are the same value
(`Value.chars_injective`), down to the order of keys, the kinds of numbers and the signs of zeros.
-/

namespace BlockSheet.Json

open Text (joined joined_cons)

/-! ### Texts that tell where they end -/

/-- Behind a value there comes nothing, or what separates or closes. -/
def Closes (text : List Char) : Prop := ∀ c ∈ text.head?, c = ',' ∨ c = ']' ∨ c = '\x7d'

theorem closes_nil : Closes [] := by
  intro c hc
  cases hc

theorem closes_cons {c : Char} (hc : c = ',' ∨ c = ']' ∨ c = '\x7d') (text : List Char) :
    Closes (c :: text) := by
  intro c' hc'
  obtain rfl : c = c' := by simpa using hc'
  exact hc

theorem Closes.endsNumber {text : List Char} (h : Closes text) : EndsNumber text := by
  intro c hc
  rcases h c hc with rfl | rfl | rfl <;> decide

variable {α β : Type} {f : α → List Char}

/-- The text of `a` differs from the texts of all others, even if something closing comes behind
them, and it ends at one place. -/
def Delimited (f : α → List Char) (a : α) : Prop :=
  ∀ ⦃b s t⦄, Closes s → Closes t → f a ++ s = f b ++ t → a = b ∧ s = t

theorem Delimited.eq_of_eq {a b : α} (ha : Delimited f a) (h : f a = f b) : a = b :=
  (ha closes_nil closes_nil (by rw [h])).1

/-! ### Sequences -/

variable {close : Char} {as bs : List α} {s t : List Char}

/-- What comes behind a part of a sequence ends that part. -/
theorem closes_furtherParts (hclose : close = ']' ∨ close = '\x7d') (parts : List (List Char))
    (text : List Char) : Closes (parts.flatMap (',' :: ·) ++ close :: text) := by
  cases parts with
  | nil => exact closes_cons (.inr hclose) text
  | cons part parts => exact closes_cons (.inl rfl) _

/-- Further parts up to the closing bracket: each is told from the others by its text. -/
theorem furtherParts_inj (hclose : close = ']' ∨ close = '\x7d') (has : ∀ a ∈ as, Delimited f a)
    (h : (as.map f).flatMap (',' :: ·) ++ close :: s =
      (bs.map f).flatMap (',' :: ·) ++ close :: t) : as = bs ∧ s = t := by
  -- A comma says that there is a further part, and the bracket that there is none.
  have hcomma : ',' ≠ close := by rcases hclose with rfl | rfl <;> decide
  induction as generalizing bs with
  | nil =>
      cases bs with
      | nil => exact ⟨rfl, (List.cons.inj h).2⟩
      | cons b bs => exact absurd (List.cons.inj h).1.symm hcomma
  | cons a as ih =>
      cases bs with
      | nil => exact absurd (List.cons.inj h).1 hcomma
      | cons b bs =>
          rw [List.map_cons, List.map_cons, List.flatMap_cons, List.flatMap_cons, List.append_assoc,
            List.append_assoc, List.cons_append, List.cons_append, List.cons.injEq] at h
          obtain ⟨rfl, hrest⟩ := has a List.mem_cons_self (closes_furtherParts hclose _ s)
            (closes_furtherParts hclose _ t) h.2
          obtain ⟨rfl, hs⟩ := ih (fun a' ha' => has a' (List.mem_cons_of_mem a ha')) hrest
          exact ⟨rfl, hs⟩

/-- A sequence up to its closing bracket, which begins none of the parts. -/
theorem joined_inj (hclose : close = ']' ∨ close = '\x7d')
    (hbegin : ∀ a, ∃ c cs, f a = c :: cs ∧ c ≠ close) (has : ∀ a ∈ as, Delimited f a)
    (h : joined [','] (as.map f) ++ close :: s = joined [','] (bs.map f) ++ close :: t) :
    as = bs ∧ s = t := by
  -- The text of an empty sequence begins with the bracket, which no part begins with.
  have hempty : ∀ {b bs s t}, close :: s ≠ joined [','] ((b :: bs).map f) ++ close :: t := by
    intro b bs s t heq
    obtain ⟨c, cs, hc, hne⟩ := hbegin b
    rw [List.map_cons, joined_cons, hc] at heq
    exact hne (List.cons.inj heq).1.symm
  cases as with
  | nil =>
      cases bs with
      | nil => exact ⟨rfl, (List.cons.inj h).2⟩
      | cons b bs => exact absurd h hempty
  | cons a as =>
      cases bs with
      | nil => exact absurd h.symm hempty
      | cons b bs =>
          rw [List.map_cons, List.map_cons, joined_cons, joined_cons, List.append_assoc,
            List.append_assoc] at h
          obtain ⟨rfl, hrest⟩ := has a List.mem_cons_self (closes_furtherParts hclose _ s)
            (closes_furtherParts hclose _ t) h
          obtain ⟨rfl, hs⟩ :=
            furtherParts_inj hclose (fun a' ha' => has a' (List.mem_cons_of_mem a ha')) hrest
          exact ⟨rfl, hs⟩

theorem arrayText_append_inj (hbegin : ∀ a, ∃ c cs, f a = c :: cs ∧ c ≠ ']')
    (has : ∀ a ∈ as, Delimited f a)
    (h : arrayText (as.map f) ++ s = arrayText (bs.map f) ++ t) : as = bs ∧ s = t := by
  rw [arrayText, arrayText, List.cons_append, List.cons_append, List.append_assoc,
    List.append_assoc] at h
  exact joined_inj (.inl rfl) hbegin has (List.cons.inj h).2

/-! ### Strings and entries -/

/-- A string ends at its closing quote, whatever comes behind it. -/
theorem stringText_append_inj {u v : String} (h : stringText u ++ s = stringText v ++ t) :
    u = v ∧ s = t := by
  rw [stringText, stringText, List.cons_append, List.cons_append, List.append_assoc,
    List.append_assoc, List.cons.injEq] at h
  have hread := congrArg stringBody h.2
  rw [List.singleton_append, List.singleton_append, stringBody_append, stringBody_append] at hread
  simpa using hread

theorem delimited_entry {g : β → List Char} {e : String × β} (he : Delimited g e.2) :
    Delimited (fun e : String × β => stringText e.1 ++ ':' :: g e.2) e := by
  intro e' s t hs ht h
  rw [List.append_assoc, List.append_assoc] at h
  obtain ⟨hkey, hvalue⟩ := stringText_append_inj h
  obtain ⟨hval, hrest⟩ := he hs ht (List.cons.inj hvalue).2
  exact ⟨Prod.ext hkey hval, hrest⟩

/-! ### Values -/

/-- The kind of value that a text begins with. -/
def kindOfStart (c : Char) : String :=
  match c with
  | 'n' => "null"
  | 't' | 'f' => "boolean"
  | '"' => "string"
  | '[' => "array"
  | '\x7b' => "object"
  | _ => "number"

/-- A number begins with a minus sign or a digit, or it would not read. -/
theorem Number.chars_start (n : Number) :
    ∃ c cs, n.chars = c :: cs ∧ (c = '-' ∨ Decimal.isDigit c = true) := by
  have hread := number_append n closes_nil.endsNumber
  rw [List.append_nil] at hread
  cases hchars : n.chars with
  | nil =>
      rw [hchars] at hread
      cases hread
  | cons c cs =>
      refine ⟨c, cs, rfl, ?_⟩
      by_contra hc
      obtain ⟨hminus, hdigit⟩ := not_or.1 hc
      have hzero : c ≠ '0' := by
        rintro rfl
        exact hdigit rfl
      rw [hchars] at hread
      unfold number at hread
      split at hread
      · next heq => exact hminus (List.cons.inj heq).1
      · rw [magnitude, if_neg hzero, if_neg hdigit] at hread
        cases hread

/-- The first character of a value tells its kind, and closes nothing. -/
theorem Value.chars_start (v : Value) :
    ∃ c cs, v.chars = c :: cs ∧ kindOfStart c = v.kind ∧ c ≠ ']' ∧ c ≠ '\x7d' := by
  cases v with
  | null => exact ⟨'n', _, rfl, rfl, by decide, by decide⟩
  | bool b =>
      cases b with
      | true => exact ⟨'t', _, rfl, rfl, by decide, by decide⟩
      | false => exact ⟨'f', _, rfl, rfl, by decide, by decide⟩
  | num n =>
      obtain ⟨c, cs, hchars, hc⟩ := n.chars_start
      have hkind : kindOfStart c = "number" := by
        unfold kindOfStart
        split <;> first | rfl | exact absurd hc (by decide)
      refine ⟨c, cs, hchars, hkind, ?_, ?_⟩
      · rintro rfl
        exact absurd hc (by decide)
      · rintro rfl
        exact absurd hc (by decide)
  | str s => exact ⟨'"', _, rfl, rfl, by decide, by decide⟩
  | arr items => exact ⟨'[', _, rfl, rfl, by decide, by decide⟩
  | obj fields => exact ⟨'\x7b', _, rfl, rfl, by decide, by decide⟩

theorem Value.kind_eq_of_chars_append_eq {v w : Value} (h : v.chars ++ s = w.chars ++ t) :
    v.kind = w.kind := by
  obtain ⟨c, cs, hv, hkind, -⟩ := v.chars_start
  obtain ⟨d, ds, hw, hkind', -⟩ := w.chars_start
  rw [hv, hw, List.cons_append, List.cons_append] at h
  rw [← hkind, ← hkind', (List.cons.inj h).1]

theorem delimited_arr {items : List Value} (h : ∀ v ∈ items, Delimited Value.chars v) :
    Delimited Value.chars (.arr items) := by
  intro w s t _ _ heq
  have hkind := Value.kind_eq_of_chars_append_eq heq
  cases w with
  | arr items' =>
      have hbegin : ∀ v : Value, ∃ c cs, v.chars = c :: cs ∧ c ≠ ']' := fun v =>
        let ⟨c, cs, hchars, _, hne, _⟩ := v.chars_start
        ⟨c, cs, hchars, hne⟩
      have htext : ∀ vs, (Value.arr vs).chars = arrayText (vs.map Value.chars) := fun vs =>
        congrArg arrayText (itemTexts_eq_map vs)
      rw [htext, htext] at heq
      obtain ⟨rfl, hrest⟩ := arrayText_append_inj hbegin h heq
      exact ⟨rfl, hrest⟩
  | _ => simp [Value.kind] at hkind

theorem delimited_obj {fields : Fields} (h : ∀ e ∈ fields, Delimited Value.chars e.2) :
    Delimited Value.chars (.obj fields) := by
  intro w s t _ _ heq
  have hkind := Value.kind_eq_of_chars_append_eq heq
  cases w with
  | obj fields' =>
      have hbegin : ∀ e : String × Value, ∃ c cs,
          stringText e.1 ++ ':' :: e.2.chars = c :: cs ∧ c ≠ '\x7d' := fun e =>
        ⟨'"', _, rfl, by decide⟩
      have htext : ∀ fs : Fields, (Value.obj fs).chars = '\x7b' ::
          (joined [','] (fs.map fun e => stringText e.1 ++ ':' :: e.2.chars) ++ ['\x7d']) := by
        intro fs
        rw [Value.chars, objectText, fieldTexts_eq_map, List.map_map]
        rfl
      rw [htext, htext, List.cons_append, List.cons_append, List.append_assoc,
        List.append_assoc] at heq
      obtain ⟨rfl, hrest⟩ := joined_inj (.inr rfl) hbegin (fun e he => delimited_entry (h e he))
        (List.cons.inj heq).2
      exact ⟨rfl, hrest⟩
  | _ => simp [Value.kind] at hkind

theorem delimited_null : Delimited Value.chars .null := by
  intro w s t _ _ h
  have hkind := Value.kind_eq_of_chars_append_eq h
  cases w with
  | null => exact ⟨rfl, List.append_cancel_left h⟩
  | _ => simp [Value.kind] at hkind

theorem delimited_bool (b : Bool) : Delimited Value.chars (.bool b) := by
  intro w s t _ _ h
  have hkind := Value.kind_eq_of_chars_append_eq h
  cases w with
  | bool b' =>
      cases b <;> cases b' <;> simp_all [Value.chars]
  | _ => simp [Value.kind] at hkind

theorem delimited_num (n : Number) : Delimited Value.chars (.num n) := by
  intro w s t hs ht h
  have hkind := Value.kind_eq_of_chars_append_eq h
  cases w with
  | num m =>
      have hread := congrArg number h
      rw [Value.chars, Value.chars, number_append n hs.endsNumber, number_append m ht.endsNumber]
        at hread
      simpa using hread
  | _ => simp [Value.kind] at hkind

theorem delimited_str (u : String) : Delimited Value.chars (.str u) := by
  intro w s t _ _ h
  have hkind := Value.kind_eq_of_chars_append_eq h
  cases w with
  | str v =>
      obtain ⟨rfl, hrest⟩ := stringText_append_inj h
      exact ⟨rfl, hrest⟩
  | _ => simp [Value.kind] at hkind

mutual

/-- **Unambiguous text.** A value is known by its text, and so is where it ends. -/
theorem Value.delimited : (v : Value) → Delimited Value.chars v
  | .null => delimited_null
  | .bool b => delimited_bool b
  | .num n => delimited_num n
  | .str s => delimited_str s
  | .arr items => delimited_arr (delimited_of_mem_items items)
  | .obj fields => delimited_obj (delimited_of_mem_fields fields)

theorem delimited_of_mem_items : (items : List Value) → ∀ v ∈ items, Delimited Value.chars v
  | [] => List.forall_mem_nil _
  | v :: items => List.forall_mem_cons.2 ⟨Value.delimited v, delimited_of_mem_items items⟩

theorem delimited_of_mem_fields : (fields : Fields) → ∀ e ∈ fields, Delimited Value.chars e.2
  | [] => List.forall_mem_nil _
  | (_, v) :: fields => List.forall_mem_cons.2 ⟨Value.delimited v, delimited_of_mem_fields fields⟩

end

theorem Value.chars_injective : Function.Injective Value.chars := fun v _ h =>
  (Value.delimited v).eq_of_eq h

end BlockSheet.Json
