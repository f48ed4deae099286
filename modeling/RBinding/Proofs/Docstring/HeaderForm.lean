import RBinding.Docstring.Header
import RBinding.Proofs.Text.Trimming

/-!
# RBinding.Proofs.Docstring.HeaderForm

What makes a line a header. It stands at the margin and has one of two forms (`at?_eq_some`), and
what each form says of the header is put together in one lemma (`underlined?_eq_some`,
`withColon?_eq_some`). In both the title is one of the known ones.
-/

namespace RBinding
namespace Docstring
namespace Header

open Text

variable {onlyUnderlined : Bool} {l : Line} {next : Option Line} {h : Header}

theorem title_plain : ∀ t ∈ Header.titles, '\n' ∉ t.1.toList ∧ '\t' ∉ t.1.toList := by decide

theorem mem_titles_of_find? {lowered : List Char} {t : String × SectionKind}
    (h : find? lowered = some t) : t ∈ titles :=
  List.mem_of_find?_eq_some h

theorem map_toLower_of_find? {lowered : List Char} {t : String × SectionKind}
    (h : find? lowered = some t) : t.1.toList.map Char.toLower = lowered := by
  simpa using List.find?_some h

theorem underlined?_eq_some (heq : underlined? l next = some h) :
    (h.title, h.kind) ∈ titles ∧ h.underlined = true ∧ h.inlineText = [] ∧
      ∃ below, next = some below ∧ isUnderline below = true := by
  rw [underlined?.eq_def] at heq
  split at heq
  · cases heq
  · rename_i below
    split at heq
    · rename_i hdashes
      split at heq
      · cases heq
      · rename_i title kind hfind
        cases heq
        exact ⟨mem_titles_of_find? hfind, rfl, rfl, below, rfl, hdashes⟩
    · cases heq

/-- Text on the header line is the end of that line, and only a section on results has it. -/
theorem withColon?_eq_some (heq : withColon? l = some h) :
    (h.title, h.kind) ∈ titles ∧ h.underlined = false ∧ h.inlineText <:+ trim l ∧
      (h.inlineText ≠ [] → h.kind = .returns) := by
  rw [withColon?] at heq
  split at heq
  · cases heq
  · rename_i colon after hafter
    split at heq
    · cases heq
    · rename_i title kind hfind
      dsimp only at heq
      split at heq
      · rename_i hreturns
        cases heq
        have hsuffix : after <:+ trim l :=
          (List.suffix_cons colon after).trans (hafter ▸ List.dropWhile_suffix _)
        refine ⟨mem_titles_of_find? hfind, rfl, trim_isSuffix hsuffix (trim_trim l), fun hne => ?_⟩
        simpa [hne] using hreturns
      · cases heq

theorem at?_eq_some (hat : at? onlyUnderlined l next = some h) :
    isAllBlank l = false ∧ indentOf l = 0 ∧
      (underlined? l next = some h ∨ onlyUnderlined = false ∧ withColon? l = some h) := by
  rw [at?] at hat
  split at hat
  · cases hat
  · rename_i hmargin
    rw [Bool.or_eq_true, decide_eq_true_eq, not_or, Bool.not_eq_true, Nat.not_lt,
      Nat.le_zero] at hmargin
    refine ⟨hmargin.1, hmargin.2, ?_⟩
    split at hat
    · rename_i hunderlined
      exact .inl (hunderlined.trans hat)
    · split at hat
      · cases hat
      · rename_i honly
        exact .inr ⟨by simpa using honly, hat⟩

theorem underlined_at?_none (hat : at? onlyUnderlined l none = some h) : h.underlined = false := by
  obtain ⟨-, -, hunderlined | ⟨-, hcolon⟩⟩ := at?_eq_some hat
  · obtain ⟨-, -, -, below, hbelow, -⟩ := underlined?_eq_some hunderlined
    cases hbelow
  · exact (withColon?_eq_some hcolon).2.1

/-- Below an underlined header only underlined ones count. -/
theorem underlined_of_at?_true (hat : at? true l next = some h) : h.underlined = true := by
  obtain ⟨-, -, hunderlined | ⟨honly, -⟩⟩ := at?_eq_some hat
  · exact (underlined?_eq_some hunderlined).2.1
  · cases honly

theorem at?_some (hat : at? onlyUnderlined l next = some h) :
    (h.title, h.kind) ∈ titles ∧ h.inlineText ⊆ l := by
  obtain ⟨-, -, hunderlined | ⟨-, hcolon⟩⟩ := at?_eq_some hat
  · obtain ⟨htitle, -, hinline, -⟩ := underlined?_eq_some hunderlined
    exact ⟨htitle, hinline ▸ List.nil_subset l⟩
  · obtain ⟨htitle, -, hsuffix, -⟩ := withColon?_eq_some hcolon
    exact ⟨htitle, List.Subset.trans hsuffix.subset (trim_subset l)⟩

end Header
end Docstring
end RBinding
