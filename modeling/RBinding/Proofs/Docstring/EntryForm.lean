import RBinding.Docstring.Arguments
import RBinding.Proofs.Text.Trimming

/-!
# RBinding.Proofs.Docstring.EntryForm

Entry lines taken apart. Stars and annotations are recognised by their form (`exists_stars`,
`afterAnnotation?_eq_some_iff`); after them the line ends with the text of the entry, which is
trimmed (`exists_text_isSuffix`). What an entry says of name, parameter and text comes from one form
of the line (`Entry.ofLine?_eq_some`), and in a section from its place as well (`entryAt?_eq_some`).
-/

namespace RBinding
namespace Docstring

open Text

def IsStars (stars : List Char) : Prop :=
  stars = [] ∨ stars = ['*'] ∨ stars = ['*', '*']

namespace EntryForm

theorem exists_stars (line : Line) : ∃ stars, IsStars stars ∧ line = stars ++ dropStars line := by
  rw [dropStars.eq_def]
  split
  · exact ⟨['*', '*'], .inr (.inr rfl), rfl⟩
  · exact ⟨['*'], .inr (.inl rfl), rfl⟩
  · exact ⟨[], .inl rfl, rfl⟩

theorem dropStars_isSuffix (line : Line) : dropStars line <:+ line := by
  obtain ⟨stars, -, h⟩ := exists_stars line
  exact ⟨stars, h.symm⟩

theorem afterAnnotation?_eq_some_iff {cs rest : List Char} :
    afterAnnotation? cs = some rest ↔ ∃ type, ')' ∉ type ∧ cs = '(' :: (type ++ ')' :: rest) := by
  constructor
  · intro h
    rw [afterAnnotation?.eq_def] at h
    split at h
    · rename_i cs
      split at h
      · rename_i hclosed
        have hnot : ∀ c ∈ cs.takeWhile (· != ')'), c ≠ ')' := fun c hc => by
          simpa using List.mem_takeWhile_imp hc
        have hsplit : cs.takeWhile (· != ')') ++ cs.dropWhile (· != ')') = cs :=
          List.takeWhile_append_dropWhile
        refine ⟨cs.takeWhile (· != ')'), fun hmem => hnot _ hmem rfl, ?_⟩
        cases hdrop : cs.dropWhile (· != ')') with
        | nil =>
          rw [hdrop, List.append_nil] at hsplit
          rw [List.contains_iff_mem, ← hsplit] at hclosed
          exact absurd rfl (hnot _ hclosed)
        | cons c ds =>
          have hhead := List.head?_dropWhile_not (· != ')') cs
          rw [hdrop] at h hhead hsplit
          obtain rfl : c = ')' := by simpa using hhead
          obtain rfl : ds = rest := Option.some.inj h
          rw [hsplit]
      · cases h
    · cases h
  · rintro ⟨type, htype, rfl⟩
    have hpos : ∀ c ∈ type, (c != ')') = true := fun c hc => by
      rw [bne_iff_ne]
      rintro rfl
      exact htype hc
    rw [afterAnnotation?, if_pos (by simp), List.dropWhile_append_of_pos hpos]
    simp

theorem afterAnnotation?_isSuffix {cs rest : List Char} (h : afterAnnotation? cs = some rest) :
    rest <:+ cs := by
  obtain ⟨type, -, rfl⟩ := afterAnnotation?_eq_some_iff.mp h
  exact ⟨'(' :: (type ++ [')']), by simp⟩

theorem afterDashes?_isSuffix {cs rest : List Char} (h : afterDashes? cs = some rest) :
    rest <:+ cs := by
  rw [afterDashes?.eq_def] at h
  split at h
  · split at h
    · cases h
      exact (List.suffix_cons _ _).trans ((List.suffix_cons _ _).trans (List.suffix_cons _ _))
    · cases h
  · split at h
    · cases h
      exact (List.suffix_cons _ _).trans (List.suffix_cons _ _)
    · cases h
  · cases h

theorem afterGap_isSuffix {cs text : List Char} {separator : Separator}
    (h : afterGap cs = (separator, text)) : text <:+ cs := by
  rw [afterGap] at h
  split at h
  · rename_i text' hdashes
    cases h
    exact afterDashes?_isSuffix hdashes
  · cases h
    exact List.suffix_refl _

theorem afterGap?_isSuffix {before after text : List Char} {separator : Separator}
    (h : afterGap? before after = some (separator, text)) : text <:+ after := by
  rw [afterGap?] at h
  split at h
  · exact afterGap_isSuffix (Option.some.inj h)
  · cases h

theorem afterToken?_isSuffix {cs text : List Char} {separator : Separator}
    (h : afterToken? cs = some (separator, text)) : text <:+ cs := by
  have hrest : trimStart cs <:+ cs := List.dropWhile_suffix _
  rw [afterToken?] at h
  split at h
  · rename_i beyond hbeyond
    have hsuffix : trimStart beyond <:+ cs :=
      (List.dropWhile_suffix _).trans ((afterAnnotation?_isSuffix hbeyond).trans hrest)
    split at h
    · rename_i hcolon
      cases h
      rw [hcolon] at hsuffix
      exact (List.suffix_cons _ _).trans hsuffix
    · cases h
      exact List.nil_suffix
    · split at h
      · exact (afterGap_isSuffix (Option.some.inj h)).trans hsuffix
      · split at h
        · cases h
          exact hrest
        · cases h
  · split at h
    · rename_i hcolon
      cases h
      rw [hcolon] at hrest
      exact (List.suffix_cons _ _).trans hrest
    · cases h
      exact List.nil_suffix
    · exact (afterGap?_isSuffix h).trans hrest

/-- An entry is a name after the stars, and what follows it as far as the text. -/
theorem ofLine?_eq_some {line : Line} {form : EntryForm} (h : ofLine? line = some form) :
    ∃ c cs text, dropStars line = c :: cs ∧ isTokenStart c = true ∧
      form.token = c :: cs.takeWhile isTokenChar ∧
      afterToken? (cs.dropWhile isTokenChar) = some (form.separator, text) ∧
      form.text = trim text := by
  rw [ofLine?] at h
  split at h
  · cases h
  · rename_i c cs hcs
    split at h
    · rename_i hc
      dsimp only at h
      split at h
      · cases h
      · rename_i separator text hafter
        cases h
        exact ⟨c, cs, text, hcs, hc, rfl, hafter, rfl⟩
    · cases h

theorem exists_text_isSuffix {line : Line} {form : EntryForm} (h : ofLine? line = some form) :
    ∃ text, text <:+ line ∧ form.text = trim text := by
  obtain ⟨c, cs, text, hcs, -, -, hafter, htext⟩ := ofLine?_eq_some h
  have hline : c :: cs <:+ line := hcs ▸ dropStars_isSuffix line
  exact ⟨text, (afterToken?_isSuffix hafter).trans
    ((List.dropWhile_suffix _).trans ((List.suffix_cons _ _).trans hline)), htext⟩

end EntryForm

namespace Entry

/-- Where no name is known the form with a colon counts, and the name stands for itself. -/
theorem ofLine?_eq_some {known : Option (Table String)} {line : Line} {e : Entry}
    (h : ofLine? known line = some e) :
    ∃ form, EntryForm.ofLine? line = some form ∧ e.token = String.ofList form.token ∧
      e.text = String.ofList form.text ∧
      (known = none → form.separator = .colon ∧ e.parameter = e.token) ∧
      ∀ table, known = some table → table.get? e.token = some e.parameter := by
  rw [ofLine?] at h
  split at h
  · cases h
  · rename_i form hform
    dsimp only at h
    refine ⟨form, hform, ?_⟩
    split at h
    · split at h
      · rename_i hcolon
        cases h
        exact ⟨rfl, rfl, fun _ => ⟨hcolon, rfl⟩, fun _ htable => nomatch htable⟩
      · cases h
    · rename_i table
      split at h
      · cases h
      · rename_i parameter hget
        cases h
        refine ⟨rfl, rfl, fun hnone => (nomatch hnone), fun table' htable => ?_⟩
        cases htable
        exact hget

theorem exists_text_isSuffix {known : Option (Table String)} {line : Line} {e : Entry}
    (h : ofLine? known line = some e) : ∃ text, text <:+ line ∧ e.text.toList = trim text := by
  obtain ⟨form, hform, -, htext, -⟩ := ofLine?_eq_some h
  obtain ⟨text, hsuffix, htrim⟩ := EntryForm.exists_text_isSuffix hform
  exact ⟨text, hsuffix, by rw [htext, String.toList_ofList, htrim]⟩

theorem newline_not_mem {known : Option (Table String)} {line : Line} {e : Entry}
    (h : ofLine? known line = some e) (hline : '\n' ∉ line) : '\n' ∉ e.text.toList := by
  obtain ⟨text, hsuffix, htext⟩ := exists_text_isSuffix h
  rw [htext]
  exact fun hmem => hline (hsuffix.subset (trim_subset text hmem))

end Entry

namespace Arguments

variable {known : Option (Table String)} {indent : Nat} {line : Line}

theorem entryAt?_eq_some {e : Entry} (h : entryAt? known indent line = some e) :
    indentOf line = indent ∧ Entry.ofLine? known (trim line) = some e := by
  rw [entryAt?] at h
  split at h
  · rename_i hindent
    exact ⟨hindent, h⟩
  · cases h

theorem entryAt?_of_ne (h : indentOf line ≠ indent) : entryAt? known indent line = none := by
  rw [entryAt?, if_neg h]

end Arguments

end Docstring
end RBinding
