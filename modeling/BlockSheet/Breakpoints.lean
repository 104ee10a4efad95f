import BlockSheet.Decimal.Digits
import BlockSheet.Variable

/-!
# Breakpoint widths

`MediaSizes` maps the name of a variable to the greatest width, in pixels, at which its breakpoint
applies. The entries are sorted by name, so that equal maps have equal entries.
-/

namespace BlockSheet

/-- Widths by variable name, sorted by name and without repetition. -/
structure MediaSizes where
  entries : List (String × UInt32)
  sorted : entries.Pairwise fun a b => a.1 < b.1
  deriving DecidableEq

namespace MediaSizes

def empty : MediaSizes := ⟨[], .nil⟩

/-- Enter a width at its place in the order, over an older one of the same name. -/
def insertEntry (name : String) (width : UInt32) :
    List (String × UInt32) → List (String × UInt32)
  | [] => [(name, width)]
  | entry :: entries =>
    if name = entry.1 then (name, width) :: entries
    else if name < entry.1 then (name, width) :: entry :: entries
    else entry :: insertEntry name width entries

theorem mem_insertEntry {name : String} {width : UInt32} {entries : List (String × UInt32)}
    {entry : String × UInt32} (h : entry ∈ insertEntry name width entries) :
    entry = (name, width) ∨ entry ∈ entries := by
  induction entries with
  | nil => simpa [insertEntry] using h
  | cons head entries ih =>
    unfold insertEntry at h
    split at h
    · simp only [List.mem_cons] at h ⊢
      rcases h with h | h
      · exact .inl h
      · exact .inr (.inr h)
    · split at h
      · simpa using h
      · simp only [List.mem_cons] at h ⊢
        rcases h with h | h
        · exact .inr (.inl h)
        · rcases ih h with h | h
          · exact .inl h
          · exact .inr (.inr h)

theorem pairwise_insertEntry (name : String) (width : UInt32)
    {entries : List (String × UInt32)} (h : entries.Pairwise fun a b => a.1 < b.1) :
    (insertEntry name width entries).Pairwise fun a b => a.1 < b.1 := by
  induction entries with
  | nil => simp [insertEntry]
  | cons head entries ih =>
    have hhead := (List.pairwise_cons.1 h).1
    have htail := (List.pairwise_cons.1 h).2
    unfold insertEntry
    split
    · next heq => exact List.pairwise_cons.2 ⟨fun b hb => heq ▸ hhead b hb, htail⟩
    · next hne =>
      split
      · next hlt =>
        refine List.pairwise_cons.2 ⟨fun b hb => ?_, h⟩
        rcases List.mem_cons.1 hb with rfl | hb
        · exact hlt
        · exact String.lt_trans hlt (hhead b hb)
      · next hnlt =>
        refine List.pairwise_cons.2 ⟨fun b hb => ?_, ih htail⟩
        rcases mem_insertEntry hb with rfl | hb
        · exact Decidable.byContradiction fun hn =>
            hne (String.le_antisymm (String.not_lt.1 hn) (String.not_lt.1 hnlt))
        · exact hhead b hb

def insert (sizes : MediaSizes) (name : String) (width : UInt32) : MediaSizes :=
  ⟨insertEntry name width sizes.entries, pairwise_insertEntry name width sizes.sorted⟩

def get? (sizes : MediaSizes) (name : String) : Option UInt32 := sizes.entries.lookup name

/-- The widths of a list of entries, the last one of a name counting. -/
def ofList (entries : List (String × UInt32)) : MediaSizes :=
  entries.foldl (fun sizes entry => sizes.insert entry.1 entry.2) empty

/-- The widths that apply where none are given. -/
def standard : MediaSizes :=
  ofList [("media_sm", 576), ("media_md", 768), ("media_lg", 992), ("media_xl", 1200)]

/-- The condition of a breakpoint: the screen is at most `width` pixels wide. -/
def condition (width : UInt32) : List Char :=
  "(max-width: ".toList ++ Decimal.digits width.toNat ++ "px)".toList

/-- A variable with a width stands for the condition of that width. -/
def resolver (sizes : MediaSizes) : Resolver := fun name =>
  (sizes.get? name).map fun width => String.ofList (condition width)

end MediaSizes

end BlockSheet
