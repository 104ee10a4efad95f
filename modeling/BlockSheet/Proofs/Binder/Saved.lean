import Mathlib.Data.List.Nodup
import BlockSheet.Binder
import BlockSheet.Proofs.Text.Words

/-!
# What saving adds to an element

An element that is saved gets the CSS of its block and the class of its block, and keeps all else
(`Saved`). The classes are listed once each, in the order in which they first occur. That describes
one list only (`FirstOccurrences.unique`), and its text is read back as the same list, so an element
that is saved a second time stays as it is.
-/

namespace BlockSheet

open Json (Value Fields)

/-! ### Lists without repetition -/

/-- `classes` has the entries of `all`, each once and in the order in which they first occur. -/
structure FirstOccurrences (all classes : List (List Char)) : Prop where
  mem_iff : ∀ c, c ∈ classes ↔ c ∈ all
  order : classes.Pairwise fun c d => all.idxOf c < all.idxOf d

namespace FirstOccurrences

variable {all classes new : List (List Char)}

theorem nil : FirstOccurrences [] [] := ⟨fun _ => Iff.rfl, .nil⟩

theorem nodup (h : FirstOccurrences all classes) : classes.Nodup :=
  h.order.imp fun {c d} hlt heq => by
    rw [heq] at hlt
    exact Nat.lt_irrefl _ hlt

/-- There is one such list only. -/
theorem unique {classes' : List (List Char)} (h : FirstOccurrences all classes)
    (h' : FirstOccurrences all classes') : classes = classes' := by
  have hperm : classes.Perm classes' :=
    (List.perm_ext_iff_of_nodup h.nodup h'.nodup).2 fun c =>
      (h.mem_iff c).trans (h'.mem_iff c).symm
  refine List.Perm.eq_of_pairwise ?_ h.order h'.order hperm
  intro c d _ _ hlt hgt
  exact absurd hlt (Nat.lt_asymm hgt)

/-- A further entry goes to the end, if it is a new one. -/
theorem snoc (h : FirstOccurrences all classes) (c : List Char) :
    FirstOccurrences (all ++ [c]) (if classes.contains c then classes else classes ++ [c]) := by
  have hindex : ∀ d ∈ classes, (all ++ [c]).idxOf d = all.idxOf d :=
    fun d hd => List.idxOf_append_of_mem ((h.mem_iff d).1 hd)
  have horder : classes.Pairwise fun d e => (all ++ [c]).idxOf d < (all ++ [c]).idxOf e :=
    h.order.imp_of_mem fun hd he hlt => by rwa [hindex _ hd, hindex _ he]
  by_cases hc : c ∈ classes
  · rw [if_pos (List.contains_iff_mem.2 hc)]
    refine ⟨fun d => ?_, horder⟩
    have hall := (h.mem_iff c).1 hc
    rw [h.mem_iff, List.mem_append, List.mem_singleton]
    exact ⟨.inl, fun hd => hd.elim id fun heq => heq ▸ hall⟩
  · rw [if_neg (mt List.contains_iff_mem.1 hc)]
    refine ⟨fun d => ?_, List.pairwise_append.2 ⟨horder, List.pairwise_singleton _ _, ?_⟩⟩
    · rw [List.mem_append, List.mem_append, h.mem_iff]
    · intro d hd e he
      obtain rfl := List.mem_singleton.1 he
      have hlt := List.idxOf_lt_length_of_mem ((h.mem_iff d).1 hd)
      rw [hindex d hd, List.idxOf_append_of_notMem (mt (h.mem_iff e).2 hc)]
      omega

/-- Adding the new ones of further entries keeps the list one of first occurrences. -/
theorem addNew (h : FirstOccurrences all classes) :
    FirstOccurrences (all ++ new) (addNew classes new) := by
  induction new generalizing all classes with
  | nil => rwa [List.append_nil]
  | cons c new ih =>
      rw [List.append_cons]
      exact ih (h.snoc c)

/-- A list without repetition is its own, also with entries behind it that it has already. -/
theorem of_nodup (h : classes.Nodup) (hnew : ∀ c ∈ new, c ∈ classes) :
    FirstOccurrences (classes ++ new) classes := by
  refine ⟨fun c => ?_, List.pairwise_iff_getElem.2 fun i j hi hj hlt => ?_⟩
  · rw [List.mem_append]
    exact ⟨.inl, fun hc => hc.elim id (hnew c)⟩
  · rwa [List.idxOf_append_of_mem (List.getElem_mem hi), h.idxOf_getElem,
      List.idxOf_append_of_mem (List.getElem_mem hj), h.idxOf_getElem]

end FirstOccurrences

/-! ### Lists of classes -/

/-- The text of a list of classes. -/
def classText (classes : List (List Char)) : String := String.ofList (Text.joined [' '] classes)

/-- Where classes are merged, the classes of both texts are listed by their first occurrences. -/
theorem exists_mergeClasses (existing : Option String) (extra : String) :
    ∃ classes, FirstOccurrences
        (Text.words (existing.getD "").toList ++ Text.words extra.toList) classes ∧
      mergeClasses existing extra = classText classes :=
  ⟨_, FirstOccurrences.nil.addNew, rfl⟩

/-- The text of first occurrences in lists of words is read back. -/
theorem words_classText {s t : List Char} {classes : List (List Char)}
    (h : FirstOccurrences (Text.words s ++ Text.words t) classes) :
    Text.words (classText classes).toList = classes := by
  rw [classText, String.toList_ofList]
  refine Text.words_joined fun c hc => ?_
  rcases List.mem_append.1 ((h.mem_iff c).1 hc) with hc | hc
  · exact Text.isWord_of_mem_words hc
  · exact Text.isWord_of_mem_words hc

/-- Classes that have been merged into a text are there when they are merged once more. -/
theorem mergeClasses_again (existing : Option String) (extra : String) :
    mergeClasses (some (mergeClasses existing extra)) extra = mergeClasses existing extra := by
  obtain ⟨classes, hclasses, hmerged⟩ := exists_mergeClasses existing extra
  obtain ⟨classes', hclasses', hagain⟩ :=
    exists_mergeClasses (some (mergeClasses existing extra)) extra
  rw [hmerged, Option.getD_some, words_classText hclasses] at hclasses'
  have hextra : ∀ c ∈ Text.words extra.toList, c ∈ classes :=
    fun c hc => (hclasses.mem_iff c).2 (List.mem_append_right _ hc)
  rw [hagain, hmerged, hclasses'.unique (.of_nodup hclasses.nodup hextra)]

/-! ### Saving -/

/-- The classes that the attributes of an element list; none where the attribute is missing or no
string. -/
def listedClasses (props : Fields) : List (List Char) :=
  match props.get? "className" with
  | some (.str s) => Text.words s.toList
  | _ => []

theorem listedClasses_eq (props : Fields) :
    listedClasses props =
      Text.words (((props.get? savedClasses).bind Value.string?).getD "").toList := by
  unfold listedClasses savedClasses
  cases props.get? "className" with
  | none => rfl
  | some value => cases value <;> rfl

/-- The attributes of an element under other names. -/
def without (names : List String) (props : Fields) : Fields :=
  props.filter fun entry => entry.1 ∉ names

theorem without_insert {names : List String} {name : String} (h : name ∈ names) (props : Fields)
    (value : Value) : without names (props.insert name value) = without names props :=
  Fields.filter_insert (p := fun other => other ∉ names) (by simpa using h) props value

/-- What saving a block makes of the attributes of an element. -/
structure Saved (b : Block) (t : BlockType) (props saved : Fields) : Prop where
  /-- A block without styles adds nothing. -/
  unstyled : b.styleAttributes.styles = [] → saved = props
  /-- A block with styles adds its CSS. -/
  css : b.styleAttributes.styles ≠ [] → ∃ css, b.exportStyles? t = some css ∧
    saved.get? "data-ghostkit-styles" = some (.str css)
  /-- A block without a class name adds nothing else. -/
  unclassed : b.styleAttributes.className = "" →
    without ["data-ghostkit-styles"] saved = without ["data-ghostkit-styles"] props
  /-- The class name of a block with styles adds its classes to those of the element. -/
  classes : b.styleAttributes.styles ≠ [] → b.styleAttributes.className ≠ "" →
    ∃ classes, FirstOccurrences
        (listedClasses props ++ Text.words b.styleAttributes.className.toList) classes ∧
      saved.get? "className" = some (.str (classText classes))
  /-- The other attributes stay as they are. -/
  others : without ["data-ghostkit-styles", "className"] saved =
    without ["data-ghostkit-styles", "className"] props
  /-- What is new comes last. -/
  keys : props.map Prod.fst <+: saved.map Prod.fst

theorem exportStyles?_eq_none_iff {b : Block} {t : BlockType} :
    b.exportStyles? t = none ↔ b.styleAttributes.styles = [] := by
  simp [Block.exportStyles?]

section Save

variable {b : Block} {t : BlockType} {css : String} (props : Fields)

theorem saveProps_of_none (h : b.exportStyles? t = none) : saveProps props b t = props := by
  rw [saveProps, h]

theorem saveProps_of_no_class (h : b.exportStyles? t = some css)
    (hclass : b.styleAttributes.className = "") :
    saveProps props b t = props.insert savedStyles (.str css) := by
  simp [saveProps, h, hclass]

theorem saveProps_of_class (h : b.exportStyles? t = some css)
    (hclass : b.styleAttributes.className ≠ "") :
    saveProps props b t = (props.insert savedStyles (.str css)).insert savedClasses
      (.str (mergeClasses ((props.get? savedClasses).bind Value.string?)
        b.styleAttributes.className)) := by
  have hne : savedStyles ≠ savedClasses := by decide
  simp [saveProps, h, hclass, Fields.get?_insert, hne]

theorem get?_savedStyles (h : b.exportStyles? t = some css) :
    (saveProps props b t).get? savedStyles = some (.str css) := by
  by_cases hclass : b.styleAttributes.className = ""
  · rw [saveProps_of_no_class props h hclass, Fields.get?_insert_self]
  · rw [saveProps_of_class props h hclass, Fields.get?_insert, if_neg (by decide),
      Fields.get?_insert_self]

theorem get?_savedClasses (h : b.exportStyles? t = some css)
    (hclass : b.styleAttributes.className ≠ "") :
    (saveProps props b t).get? savedClasses =
      some (.str (mergeClasses ((props.get? savedClasses).bind Value.string?)
        b.styleAttributes.className)) := by
  rw [saveProps_of_class props h hclass, Fields.get?_insert_self]

/-- What an element has got by saving it has when it is saved once more. -/
theorem saveProps_again : saveProps (saveProps props b t) b t = saveProps props b t := by
  cases hcss : b.exportStyles? t with
  | none => exact saveProps_of_none _ hcss
  | some css =>
      have hstyles := get?_savedStyles props hcss
      by_cases hclass : b.styleAttributes.className = ""
      · rw [saveProps_of_no_class (saveProps props b t) hcss hclass]
        exact Fields.insert_of_get? hstyles
      · have hclasses := get?_savedClasses props hcss hclass
        rw [saveProps_of_class (saveProps props b t) hcss hclass, Fields.insert_of_get? hstyles,
          hclasses, Option.bind_some, Value.string?, mergeClasses_again]
        exact Fields.insert_of_get? hclasses

end Save

theorem saved_saveProps (props : Fields) (b : Block) (t : BlockType) :
    Saved b t props (saveProps props b t) := by
  cases hcss : b.exportStyles? t with
  | none =>
      have hstyles := exportStyles?_eq_none_iff.1 hcss
      rw [saveProps_of_none props hcss]
      exact ⟨fun _ => rfl, fun h => absurd hstyles h, fun _ => rfl, fun h => absurd hstyles h, rfl,
        List.prefix_refl _⟩
  | some css =>
      have hstyles : b.styleAttributes.styles ≠ [] := by
        rw [Ne, ← exportStyles?_eq_none_iff (t := t), hcss]
        exact Option.some_ne_none css
      have hsaved := get?_savedStyles props hcss
      by_cases hclass : b.styleAttributes.className = ""
      · refine ⟨fun h => absurd h hstyles, fun _ => ⟨css, hcss, hsaved⟩, fun _ => ?_,
          fun _ h => absurd hclass h, ?_, ?_⟩
        all_goals rw [saveProps_of_no_class props hcss hclass]
        · rw [without_insert (by decide)]
        · rw [without_insert (by decide)]
        · exact Fields.keys_prefix_insert _ _ _
      · refine ⟨fun h => absurd h hstyles, fun _ => ⟨css, hcss, hsaved⟩, fun h => absurd h hclass,
          fun _ _ => ?_, ?_, ?_⟩
        · obtain ⟨classes, hclasses, hmerged⟩ := exists_mergeClasses
            ((props.get? savedClasses).bind Value.string?) b.styleAttributes.className
          rw [← listedClasses_eq] at hclasses
          refine ⟨classes, hclasses, ?_⟩
          rw [← hmerged]
          exact get?_savedClasses props hcss hclass
        · rw [saveProps_of_class props hcss hclass, without_insert (by decide),
            without_insert (by decide)]
        · rw [saveProps_of_class props hcss hclass]
          exact (Fields.keys_prefix_insert _ _ _).trans (Fields.keys_prefix_insert _ _ _)

/-- **Saving is done after one time and loses no class.** The attributes of an element that has been
saved stay as they are when it is saved once more; and the first time they change in nothing but the
CSS and, if the block has a class name, in the classes, which are those of the element followed by
those of the block, each once and in the order in which they first occur. -/
theorem saveProps_settled (props : Fields) (b : Block) (t : BlockType) :
    saveProps (saveProps props b t) b t = saveProps props b t ∧
      Saved b t props (saveProps props b t) :=
  ⟨saveProps_again props, saved_saveProps props b t⟩

/-- Blanks of any kind tell classes apart. -/
example : mergeClasses (some " b\u2003a\u00a0b ") "c\ta c" = "b a c" := by cbv

end BlockSheet
