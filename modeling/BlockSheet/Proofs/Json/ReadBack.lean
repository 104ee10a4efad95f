import Mathlib
import BlockSheet.Json.Reader
import BlockSheet.Proofs.Json.Equality
import BlockSheet.Proofs.Json.Unambiguous

/-!
# Values read back

A reader reads a text back if it gives what the text was written for and stops behind it, whenever
something closing comes behind (`ReadsBack`). The property composes: an array reads back if its
items do (`items_append`), and an object if its entries are taken up one after the other (`TakesUp`,
`entries_append`). What an entry does may depend on the entries in front of it, so that is a run and
not a property of each entry.

Every value reads back if its brackets are within the nesting that the reader allows and its objects
are maps (`Value.readsBack`). A key that occurs twice would be read as one.
-/

namespace BlockSheet.Json

open Text (joined joined_cons)

variable {α σ : Type}

/-! ### Reading back -/

/-- The reader takes the text for `x`, and leaves what closes behind it. -/
def ReadsBack (reader : Reader α) (text : List Char) (x : α) : Prop :=
  ∀ rest, Closes rest → reader (text ++ rest) = .ok (x, rest)

/-- A text that reads back reads as a whole. -/
theorem parseWith_eq_ok {reader : Reader α} {text : List Char} {x : α}
    (h : ReadsBack reader text x) : parseWith reader (String.ofList text) = .ok x := by
  have hread := h [] closes_nil
  rw [List.append_nil] at hread
  rw [parseWith, String.toList_ofList, hread]
  rfl

theorem skipBlanks_cons {c : Char} (hc : isBlank c = false) (text : List Char) :
    skipBlanks (c :: text) = c :: text := by
  simp [skipBlanks, hc]

/-- Each part of a sequence takes up room in its text. -/
theorem length_lt_furtherParts (f : α → List Char) (xs : List α) (close : Char)
    (rest : List Char) :
    xs.length < ((xs.map f).flatMap (',' :: ·) ++ close :: rest).length := by
  induction xs with
  | nil => simp
  | cons x xs ih =>
      simp only [List.map_cons, List.flatMap_cons, List.length_append, List.length_cons] at ih ⊢
      omega

/-! ### Arrays -/

/-- The text begins an item: neither with a blank nor with the bracket that closes the array. -/
def BeginsItem (text : List Char) : Prop :=
  ∃ c cs, text = c :: cs ∧ isBlank c = false ∧ c ≠ ']'

theorem BeginsItem.append {text : List Char} (h : BeginsItem text) (rest : List Char) :
    BeginsItem (text ++ rest) := by
  obtain ⟨c, cs, rfl, hblank, hclose⟩ := h
  exact ⟨c, cs ++ rest, rfl, hblank, hclose⟩

variable {item : Reader α} {write : α → List Char} {xs : List α}

/-- Behind a comma there comes a further item. -/
theorem moreItems_comma {text : List Char} (hbegin : BeginsItem text) (r : Char)
    (room : List Char) :
    moreItems item (r :: room) (',' :: text) = (do
      let (x, rest) ← item text
      let (xs, rest) ← moreItems item room rest
      .ok (x :: xs, rest)) := by
  obtain ⟨c, cs, rfl, hblank, hclose⟩ := hbegin
  rw [moreItems, skipBlanks_cons rfl]
  simp only [skipBlanks_cons hblank]
  split
  · next heq => cases heq
  · next heq => exact absurd (List.cons.inj heq).1 hclose
  · rfl

theorem moreItems_append (hbegin : ∀ x ∈ xs, BeginsItem (write x))
    (hread : ∀ x ∈ xs, ReadsBack item (write x) x) (rest : List Char) {room : List Char}
    (hroom : xs.length < room.length) :
    moreItems item room ((xs.map write).flatMap (',' :: ·) ++ ']' :: rest) = .ok (xs, rest) := by
  induction xs generalizing room with
  | nil =>
      cases room with
      | nil => exact absurd hroom (Nat.not_lt_zero _)
      | cons r room => rfl
  | cons x xs ih =>
      cases room with
      | nil => exact absurd hroom (Nat.not_lt_zero _)
      | cons r room =>
          rw [List.forall_mem_cons] at hbegin hread
          have hitem := hread.1 _ (closes_furtherParts (.inl rfl) (xs.map write) rest)
          have hmore := ih hbegin.2 hread.2 (Nat.lt_of_succ_lt_succ hroom)
          rw [List.map_cons, List.flatMap_cons, List.append_assoc, List.cons_append,
            moreItems_comma (hbegin.1.append _), hitem]
          simp only [bind, Except.bind, hmore]

/-- **The items of an array** read back, if each of them does. -/
theorem items_append (hbegin : ∀ x ∈ xs, BeginsItem (write x))
    (hread : ∀ x ∈ xs, ReadsBack item (write x) x) (rest : List Char) :
    items item (joined [','] (xs.map write) ++ ']' :: rest) = .ok (xs, rest) := by
  cases xs with
  | nil => rfl
  | cons x xs =>
      rw [List.forall_mem_cons] at hbegin hread
      have hitem := hread.1 _ (closes_furtherParts (.inl rfl) (xs.map write) rest)
      have hmore :=
        moreItems_append hbegin.2 hread.2 rest (length_lt_furtherParts write xs ']' rest)
      obtain ⟨c, cs, hwrite, hblank, hclose⟩ := hbegin.1
      rw [hwrite] at hitem
      rw [List.map_cons, joined_cons, List.append_assoc, hwrite, items, List.cons_append,
        skipBlanks_cons hblank]
      split
      · next heq => cases heq
      · next heq => exact absurd (List.cons.inj heq).1 hclose
      · rw [← List.cons_append, hitem]
        simp only [bind, Except.bind, hmore]

/-! ### Objects -/

/-- The text of an entry whose value is written already. -/
def entryText (e : String × List Char) : List Char := stringText e.1 ++ ':' :: e.2

/-- The entries are taken up one after the other. The run leads from what was collected in front of
them to what is collected behind them. -/
inductive TakesUp (entry : EntryStep σ) : σ → List (String × List Char) → σ → Prop
  | nil (acc : σ) : TakesUp entry acc [] acc
  | cons {acc next last : σ} {key : String} {text : List Char} {es : List (String × List Char)}
    (hentry : ReadsBack (entry acc key) (':' :: text) next) (hes : TakesUp entry next es last) :
    TakesUp entry acc ((key, text) :: es) last

theorem objectText_eq (es : List (String × List Char)) :
    objectText es = '\x7b' :: (joined [','] (es.map entryText) ++ ['\x7d']) := rfl

theorem stringText_append (key : String) (rest : List Char) :
    ∃ body, stringText key ++ rest = '"' :: body ∧ stringBody body = .ok (key, rest) := by
  refine ⟨key.toList.flatMap escapeChar ++ '"' :: rest, ?_, stringBody_append key rest⟩
  simp [stringText]

variable {entry : EntryStep σ} {acc last : σ} {es : List (String × List Char)}

/-- Behind a comma there comes a further entry. -/
theorem moreEntries_comma (key : String) (text : List Char) (r : Char) (room : List Char) :
    moreEntries entry (r :: room) acc (',' :: (stringText key ++ text)) = (do
      let (next, rest) ← entry acc key text
      moreEntries entry room next rest) := by
  obtain ⟨body, hbody, hkey⟩ := stringText_append key text
  rw [hbody, moreEntries, skipBlanks_cons rfl]
  simp only [skipBlanks_cons (show isBlank '"' = false from rfl), hkey]
  rfl

theorem moreEntries_append (h : TakesUp entry acc es last) (rest : List Char) {room : List Char}
    (hroom : es.length < room.length) :
    moreEntries entry room acc ((es.map entryText).flatMap (',' :: ·) ++ '\x7d' :: rest) =
      .ok (last, rest) := by
  induction h generalizing room with
  | nil acc =>
      cases room with
      | nil => exact absurd hroom (Nat.not_lt_zero _)
      | cons r room => rfl
  | @cons acc next last key text es hentry _ ih =>
      cases room with
      | nil => exact absurd hroom (Nat.not_lt_zero _)
      | cons r room =>
          have hnext := hentry _ (closes_furtherParts (.inr rfl) (es.map entryText) rest)
          have hmore := ih (Nat.lt_of_succ_lt_succ hroom)
          rw [List.map_cons, List.flatMap_cons, List.append_assoc, List.cons_append, entryText,
            List.append_assoc, moreEntries_comma, hnext]
          simp only [bind, Except.bind, hmore]

/-- **The entries of an object** read as what their run collects. -/
theorem entries_append (h : TakesUp entry acc es last) (rest : List Char) :
    entries entry acc (joined [','] (es.map entryText) ++ '\x7d' :: rest) = .ok (last, rest) := by
  cases h with
  | nil => rfl
  | @cons _ next _ key text es hentry hes =>
      have hnext := hentry _ (closes_furtherParts (.inr rfl) (es.map entryText) rest)
      have hmore := moreEntries_append hes rest (length_lt_furtherParts entryText es '\x7d' rest)
      obtain ⟨body, hbody, hkey⟩ := stringText_append key
        (':' :: text ++ ((es.map entryText).flatMap (',' :: ·) ++ '\x7d' :: rest))
      rw [List.map_cons, joined_cons, List.append_assoc, entryText, List.append_assoc, hbody,
        entries, skipBlanks_cons rfl]
      simp only [hkey, bind, Except.bind, hnext, hmore]

theorem colon_cons (text : List Char) : colon (':' :: text) = .ok ((), text) := rfl

/-- A key that is not there yet comes last. -/
theorem Fields.insert_of_not_mem {fields : Fields} {key : String} (h : key ∉ fields.keys)
    (value : Value) : fields.insert key value = fields ++ [(key, value)] := by
  induction fields with
  | nil => rfl
  | cons entry fields ih =>
      rw [Fields.keys, List.map_cons, List.mem_cons, not_or] at h
      rw [Fields.insert, if_neg (Ne.symm h.1), ih h.2, List.cons_append]

/-- The entries of a map are collected as they stand. -/
theorem takesUp_fields {inner : Reader Value} {acc fields : Fields}
    (hkeys : Fields.Distinct (acc ++ fields))
    (hread : ∀ e ∈ fields, ReadsBack inner e.2.chars e.2) :
    TakesUp (fieldEntry inner) acc (fieldTexts fields) (acc ++ fields) := by
  induction fields generalizing acc with
  | nil =>
      rw [List.append_nil]
      exact .nil acc
  | cons e fields ih =>
      obtain ⟨key, v⟩ := e
      rw [List.forall_mem_cons] at hread
      have hnew : key ∉ acc.keys := by
        intro hmem
        rw [Fields.Distinct, Fields.keys, List.map_append, List.map_cons] at hkeys
        exact (List.disjoint_of_nodup_append hkeys) hmem List.mem_cons_self
      rw [List.append_cons] at hkeys ⊢
      refine .cons ?_ (ih hkeys hread.2)
      intro rest hrest
      rw [List.cons_append, fieldEntry, colon_cons]
      simp only [bind, Except.bind, hread.1 rest hrest, Fields.insert_of_not_mem hnew]

/-! ### Nesting -/

mutual

/-- How many brackets are open at a time, at most, in the text of a value. -/
def Value.nesting : Value → Nat
  | .arr items => itemsNesting items + 1
  | .obj fields => fieldsNesting fields + 1
  | _ => 0

def itemsNesting : List Value → Nat
  | [] => 0
  | v :: vs => max v.nesting (itemsNesting vs)

def fieldsNesting : List (String × Value) → Nat
  | [] => 0
  | (_, v) :: fields => max v.nesting (fieldsNesting fields)

end

theorem nesting_le_itemsNesting {v : Value} {items : List Value} (h : v ∈ items) :
    v.nesting ≤ itemsNesting items := by
  induction items with
  | nil => cases h
  | cons w items ih =>
      rw [itemsNesting]
      rcases List.mem_cons.1 h with rfl | h
      · exact le_max_left _ _
      · exact le_max_of_le_right (ih h)

theorem nesting_le_fieldsNesting {e : String × Value} {fields : Fields} (h : e ∈ fields) :
    e.2.nesting ≤ fieldsNesting fields := by
  induction fields with
  | nil => cases h
  | cons entry fields ih =>
      rw [fieldsNesting]
      rcases List.mem_cons.1 h with rfl | h
      · exact le_max_left _ _
      · exact le_max_of_le_right (ih h)

/-! ### Values -/

/-- A number begins no other value. -/
theorem start_of_number {c : Char} (hc : c = '-' ∨ Decimal.isDigit c = true) :
    isBlank c = false ∧ c ≠ ']' := by
  constructor
  · by_contra hblank
    simp only [isBlank, Bool.not_eq_false, Bool.or_eq_true, beq_iff_eq] at hblank
    rcases hblank with ((rfl | rfl) | rfl) | rfl <;> exact absurd hc (by decide)
  · rintro rfl
    exact absurd hc (by decide)

theorem Value.beginsItem (v : Value) : BeginsItem v.chars := by
  cases v with
  | null => exact ⟨'n', _, rfl, rfl, by decide⟩
  | bool b =>
      cases b with
      | true => exact ⟨'t', _, rfl, rfl, by decide⟩
      | false => exact ⟨'f', _, rfl, rfl, by decide⟩
  | num n =>
      obtain ⟨c, cs, hchars, hc⟩ := n.chars_start
      exact ⟨c, cs, hchars, start_of_number hc⟩
  | str s => exact ⟨'"', _, rfl, rfl, by decide⟩
  | arr items => exact ⟨'[', _, rfl, rfl, by decide⟩
  | obj fields => exact ⟨'\x7b', _, rfl, rfl, by decide⟩

variable {inner : Option (Reader Value)}

theorem readsBack_null : ReadsBack (valueWith inner) Value.null.chars .null :=
  fun _ _ => rfl

theorem readsBack_bool (b : Bool) : ReadsBack (valueWith inner) (Value.bool b).chars (.bool b) := by
  intro rest _
  cases b <;> rfl

theorem readsBack_str (s : String) : ReadsBack (valueWith inner) (Value.str s).chars (.str s) := by
  intro rest _
  obtain ⟨body, hbody, hread⟩ := stringText_append s rest
  rw [Value.chars, hbody, valueWith, skipBlanks_cons rfl]
  simp only [bind, Except.bind, hread]

/-- What a number begins with begins no other value. -/
theorem valueWith_number {c : Char} (hc : c = '-' ∨ Decimal.isDigit c = true) (text : List Char) :
    valueWith inner (c :: text) = (do
      let (n, rest) ← number (c :: text)
      .ok (.num n, rest)) := by
  have hother : ∀ {d : Char} {rest : List Char}, c :: text = d :: rest →
      d = '-' ∨ Decimal.isDigit d = true := by
    intro d rest heq
    exact (List.cons.inj heq).1 ▸ hc
  rw [valueWith, skipBlanks_cons (start_of_number hc).1]
  split
  case h_1 heq => cases heq
  case h_8 heq =>
    obtain ⟨rfl, rfl⟩ := List.cons.inj heq
    rw [if_pos (by simpa using hc)]
  all_goals
    next heq => exact absurd (hother heq) (by decide)

theorem readsBack_num (n : Number) : ReadsBack (valueWith inner) (Value.num n).chars (.num n) := by
  intro rest hrest
  obtain ⟨c, cs, hchars, hc⟩ := n.chars_start
  have hread := number_append n hrest.endsNumber
  rw [hchars, List.cons_append] at hread
  rw [Value.chars, hchars, List.cons_append, valueWith_number hc, hread]
  rfl

theorem readsBack_arr {item : Reader Value} {items : List Value}
    (h : ∀ v ∈ items, ReadsBack item v.chars v) :
    ReadsBack (valueWith (some item)) (Value.arr items).chars (.arr items) := by
  intro rest _
  have hitems := items_append (fun v _ => v.beginsItem) h rest
  rw [Value.chars, arrayText, itemTexts_eq_map, List.cons_append, List.append_assoc, valueWith,
    skipBlanks_cons rfl]
  simp only [List.singleton_append, hitems, bind, Except.bind]

theorem readsBack_obj {item : Reader Value} {fields : Fields} (hkeys : fields.Distinct)
    (h : ∀ e ∈ fields, ReadsBack item e.2.chars e.2) :
    ReadsBack (valueWith (some item)) (Value.obj fields).chars (.obj fields) := by
  intro rest _
  have htakes : TakesUp (fieldEntry item) [] (fieldTexts fields) fields := takesUp_fields hkeys h
  have hfields := entries_append htakes rest
  rw [Value.chars, objectText_eq, List.cons_append, List.append_assoc, valueWith,
    skipBlanks_cons rfl]
  simp only [List.singleton_append, hfields, bind, Except.bind]

theorem exists_valueWith (depth : Nat) : ∃ inner, value depth = valueWith inner := by
  cases depth <;> exact ⟨_, rfl⟩

/-- **Every value reads back**, if its brackets are within the allowed nesting and its objects are
maps. -/
theorem Value.readsBack {v : Value} (hkeys : v.DistinctKeys) {depth : Nat}
    (hdepth : v.nesting ≤ depth) : ReadsBack (value depth) v.chars v := by
  induction hkeys generalizing depth with
  | null =>
      obtain ⟨inner, hinner⟩ := exists_valueWith depth
      exact hinner ▸ readsBack_null
  | bool b =>
      obtain ⟨inner, hinner⟩ := exists_valueWith depth
      exact hinner ▸ readsBack_bool b
  | num n =>
      obtain ⟨inner, hinner⟩ := exists_valueWith depth
      exact hinner ▸ readsBack_num n
  | str s =>
      obtain ⟨inner, hinner⟩ := exists_valueWith depth
      exact hinner ▸ readsBack_str s
  | @arr items _ ih =>
      rw [nesting] at hdepth
      cases depth with
      | zero => omega
      | succ depth =>
          refine readsBack_arr fun v hv => ih v hv ?_
          exact le_trans (nesting_le_itemsNesting hv) (Nat.le_of_succ_le_succ hdepth)
  | @obj fields hkeys _ ih =>
      rw [nesting] at hdepth
      cases depth with
      | zero => omega
      | succ depth =>
          refine readsBack_obj hkeys fun e he => ih e he ?_
          exact le_trans (nesting_le_fieldsNesting he) (Nat.le_of_succ_le_succ hdepth)

end BlockSheet.Json
