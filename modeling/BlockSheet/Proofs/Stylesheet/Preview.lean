import BlockSheet.Breakpoints
import BlockSheet.Proofs.Stylesheet.Gathering
import BlockSheet.Proofs.Variable

/-!
# The preview of a page

The editor shows the CSS of every block by itself (`Block.liveStyles?`), the page has a stylesheet
for the whole document (`Collector.collect`). The two take different ways: the editor asks for the
class name and keeps an empty text, the page leaves a block out that has no CSS before the variables
are resolved. Where no block stands for a reusable one and the styled blocks have class names, they
show the same (`Collector.collect_eq_live`), provided that filters make no difference between the
surfaces: resolving widths never makes a text empty nor an empty text not.
-/

namespace BlockSheet

/-! ### Empty texts -/

/-- Texts of variables that are not empty leave nothing empty that was not. -/
theorem resolveVariables_eq_empty_iff {resolver : Resolver}
    (hresolver : ∀ name text, resolver name = some text → text ≠ "") (css : String) :
    resolveVariables css resolver = "" ↔ css = "" := by
  -- The first step of the scan writes something, be it a token, its text or a character.
  have hchars : ∀ text, resolveChars resolver text = [] → text = [] := by
    intro text hempty
    cases htoken : token? text with
    | some found =>
        obtain ⟨name, rest⟩ := found
        rw [resolveChars_of_token resolver htoken, List.append_eq_nil_iff] at hempty
        cases hname : resolver (String.ofList name) with
        | none => simp [hname, variableChars] at hempty
        | some value =>
            have hvalue := hresolver _ value hname
            rw [hname, Option.map_some, Option.getD_some] at hempty
            exact absurd (String.toList_eq_nil_iff.1 hempty.1) hvalue
    | none =>
        cases text with
        | nil => rfl
        | cons c text =>
            rw [resolveChars_cons_of_none resolver htoken] at hempty
            cases hempty
  constructor
  · intro hempty
    have hlist := congrArg String.toList hempty
    rw [resolveVariables, String.toList_ofList] at hlist
    exact String.toList_eq_nil_iff.1 (hchars _ hlist)
  · rintro rfl
    rw [resolveVariables]
    simp

/-- The condition of a width is not empty. -/
theorem MediaSizes.resolver_ne_empty (sizes : MediaSizes) (name text : String)
    (h : sizes.resolver name = some text) : text ≠ "" := by
  obtain ⟨width, -, rfl⟩ := Option.map_eq_some_iff.1 h
  intro hempty
  have hlist := congrArg String.toList hempty
  rw [String.toList_ofList] at hlist
  cases hlist

/-! ### One block -/

/-- A group with styles and a class name, and in it a block without. -/
def styledGroup : Block :=
  ⟨"", "core/group", [("className", .str "c"),
    ("styles", .obj [(".c", .obj [("margin", .str "0")])])], [.new "" "core/paragraph"]⟩

/-- A block type for groups, whose filter adds a blank. -/
def spacedGroups : Registry := ⟨[⟨"core/group", none, none, some fun css _ _ _ => css ++ " "⟩]⟩

end BlockSheet
