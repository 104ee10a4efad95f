import BlockSheet.Decimal.Binary64

/-!
# JSON values

The data that style trees, attribute bags and options are made of.

* `Number`: an integer of 64 bits, signed or unsigned, or a binary floating point number; `1` and
  `1.0` are different numbers;
* `Value`: a JSON value, whose objects keep the order of their keys;
* `Fields`: the entries of an object as an ordered map. A list of entries is a map when its keys
  are distinct (`Fields.Distinct`), which every operation keeps.
-/

namespace BlockSheet.Json

open Decimal (Binary64)

/-- An integer that a signed or an unsigned word of 64 bits holds. -/
structure Integer where
  val : Int
  lower : -9223372036854775808 ≤ val
  upper : val < 18446744073709551616
  deriving DecidableEq

/-- The integer of a value in range. -/
def Integer.ofInt? (n : Int) : Option Integer :=
  if h : -9223372036854775808 ≤ n ∧ n < 18446744073709551616 then some ⟨n, h.1, h.2⟩ else none

/-- A JSON number. -/
inductive Number
  | int (n : Integer)
  | float (x : Binary64)
  deriving DecidableEq

namespace Number

/-- Is the number zero, of either kind and sign? -/
def isZero : Number → Bool
  | int n => n.val == 0
  | float x => x.isZero

/-- The number as a natural number: only an integer that is not negative is one. -/
def toNat? : Number → Option Nat
  | int n => if 0 ≤ n.val then some n.val.toNat else none
  | float _ => none

/-- Equality of numbers: an integer and a float are never equal, and the two zeros of the float
kind are. -/
def equal : Number → Number → Bool
  | int m, int n => m == n
  | float x, float y => x.numericEq y
  | _, _ => false

end Number

/-- A JSON value. -/
inductive Value
  | null
  | bool (b : Bool)
  | num (n : Number)
  | str (s : String)
  | arr (items : List Value)
  | obj (fields : List (String × Value))
  deriving Inhabited

/-- The entries of an object in the order in which their keys were first set. -/
abbrev Fields := List (String × Value)

namespace Value

/-- The text of a string value. -/
def string? : Value → Option String
  | .str s => some s
  | _ => none

/-- The value as a natural number. -/
def nat? : Value → Option Nat
  | .num n => n.toNat?
  | _ => none

/-- The name of the kind of a value. -/
def kind : Value → String
  | .null => "null"
  | .bool _ => "boolean"
  | .num _ => "number"
  | .str _ => "string"
  | .arr _ => "array"
  | .obj _ => "object"

end Value

/-! ## Entries as a map -/

namespace Fields

def keys (fields : Fields) : List String := fields.map Prod.fst

def get? (fields : Fields) (key : String) : Option Value := fields.lookup key

/-- Set a key: one that is present keeps its position, a new one comes last. -/
def insert : Fields → String → Value → Fields
  | [], key, value => [(key, value)]
  | entry :: fields, key, value =>
    if entry.1 = key then (key, value) :: fields else entry :: insert fields key value

/-- Remove a key; the other entries keep their order. -/
def erase (fields : Fields) (key : String) : Fields := fields.filter fun entry => entry.1 ≠ key

/-- No key occurs twice. -/
def Distinct (fields : Fields) : Prop := fields.keys.Nodup

@[simp] theorem insert_nil (key : String) (value : Value) :
    insert [] key value = [(key, value)] := rfl

@[simp] theorem get?_nil (key : String) : get? [] key = none := rfl

theorem get?_cons (entry : String × Value) (fields : Fields) (key : String) :
    get? (entry :: fields) key = if entry.1 = key then some entry.2 else get? fields key := by
  obtain ⟨key', value⟩ := entry
  by_cases h : key' = key
  · simp [get?, h]
  · have h' : (key == key') = false := by simpa using fun e => h e.symm
    simp [get?, List.lookup_cons, h, h']

/-- Setting a key changes the value of that key alone. -/
theorem get?_insert (fields : Fields) (key : String) (value : Value) (other : String) :
    get? (insert fields key value) other =
      if key = other then some value else get? fields other := by
  induction fields with
  | nil => simp [get?_cons]
  | cons entry fields ih =>
    by_cases h : entry.1 = key
    · by_cases ho : key = other <;> simp [insert, h, ho, get?_cons]
    · by_cases ho : key = other
      · subst ho; simp [insert, h, get?_cons, ih]
      · simp [insert, h, get?_cons, ih, ho]

@[simp] theorem get?_insert_self (fields : Fields) (key : String) (value : Value) :
    get? (insert fields key value) key = some value := by
  rw [get?_insert, if_pos rfl]

/-- The keys after setting one: a new key is added at the end. -/
theorem keys_insert (fields : Fields) (key : String) (value : Value) :
    keys (insert fields key value) =
      if key ∈ keys fields then keys fields else keys fields ++ [key] := by
  induction fields with
  | nil => simp [keys]
  | cons entry fields ih =>
    by_cases h : entry.1 = key
    · simp [insert, keys, h]
    · by_cases hk : key ∈ keys fields
      · have : key ∈ List.map Prod.fst fields := hk
        simp_all [insert, keys]
      · have : key ∉ List.map Prod.fst fields := hk
        have h' : key ≠ entry.1 := fun e => h e.symm
        simp_all [insert, keys]

/-- The keys that are there stay in front, in their order. -/
theorem keys_prefix_insert (fields : Fields) (key : String) (value : Value) :
    keys fields <+: keys (insert fields key value) := by
  rw [keys_insert]
  split
  · exact List.prefix_refl _
  · exact List.prefix_append _ _

/-- Setting a key to the value that it has changes nothing. -/
theorem insert_of_get? {fields : Fields} {key : String} {value : Value}
    (h : get? fields key = some value) : insert fields key value = fields := by
  induction fields with
  | nil => cases h
  | cons entry fields ih =>
    rw [get?_cons] at h
    by_cases hkey : entry.1 = key
    · rw [if_pos hkey] at h
      rw [insert, if_pos hkey, ← hkey, ← Option.some.inj h]
    · rw [if_neg hkey] at h
      rw [insert, if_neg hkey, ih h]

/-- The entries under other keys stay as they are, in their order. -/
theorem filter_insert {p : String → Bool} {key : String} (hkey : p key = false) (fields : Fields)
    (value : Value) :
    (fields.insert key value).filter (fun entry => p entry.1) =
      fields.filter fun entry => p entry.1 := by
  induction fields with
  | nil => simp [hkey]
  | cons entry fields ih =>
    by_cases h : entry.1 = key
    · simp [insert, h, hkey]
    · rw [insert, if_neg h, List.filter_cons, List.filter_cons, ih]

/-- Setting a key keeps the keys distinct. -/
theorem Distinct.insert {fields : Fields} (h : fields.Distinct) (key : String) (value : Value) :
    (fields.insert key value).Distinct := by
  unfold Distinct
  rw [keys_insert]
  by_cases hk : key ∈ fields.keys
  · rw [if_pos hk]
    exact h
  · rw [if_neg hk]
    exact List.nodup_append.2 ⟨h, by simp, fun a ha b hb => by
      rintro rfl; exact hk (by simpa using (List.mem_singleton.1 hb) ▸ ha)⟩

end Fields

/-! ## Equality of values -/

mutual

/-- Equality of values in which the order of the keys of an object does not count, and numbers are
compared by `Number.equal`. -/
def Value.equal : Value → Value → Bool
  | .null, .null => true
  | .bool a, .bool b => a == b
  | .num m, .num n => m.equal n
  | .str s, .str t => s == t
  | .arr vs, .arr ws => itemsEqual vs ws
  | .obj fs, .obj gs => fs.length == gs.length && fieldsWithin fs gs
  | _, _ => false

/-- Equality of items, one by one. -/
def itemsEqual : List Value → List Value → Bool
  | [], [] => true
  | v :: vs, w :: ws => v.equal w && itemsEqual vs ws
  | _, _ => false

/-- Does each entry of the first object have an equal partner in the second? -/
def fieldsWithin : List (String × Value) → List (String × Value) → Bool
  | [], _ => true
  | (key, v) :: fs, gs =>
    (match Fields.get? gs key with
      | some w => v.equal w
      | none => false) && fieldsWithin fs gs

end

/-- Equality of objects: as many entries on both sides, and an equal partner for each. -/
def Fields.equal (fs gs : Fields) : Bool := (Value.obj fs).equal (Value.obj gs)

end BlockSheet.Json
