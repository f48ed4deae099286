import Mathlib.Data.List.Chain
import RBinding.Proofs.Text.Dedenting

/-!
# RBinding.Proofs.Text.Paragraphs

Text in paragraphs. It is trimmed, and one empty line stands wherever lines that are not blank are
apart (`InParagraphs`). A trimmed text is put into paragraphs by leaving one empty line for each run
of blank lines (`inParagraphs_squeeze`), which keeps the other lines as they are
(`nonblank_squeeze`), and a line may be added to it as a paragraph of its own
(`InParagraphs.append_line`).
-/

namespace RBinding
namespace Text

/-- The text is trimmed and has no line of blank characters and no two empty lines in a row. -/
structure InParagraphs (cs : List Char) : Prop where
  trimmed : trim cs = cs
  singleSpaced : SingleSpaced (lines cs)

theorem exists_lines_eq_concat {cs : List Char} (h : trim cs = cs) (hne : cs ≠ []) :
    ∃ before last, lines cs = before ++ [last] ∧ isAllBlank last = false ∧
      trimEnd last = last := by
  have hend := (trim_eq_self_iff.mp h).2
  obtain ⟨before, last, hlines⟩ := (List.eq_nil_or_concat (lines cs)).resolve_left (lines_ne_nil cs)
  rw [List.concat_eq_append] at hlines
  have hcs := unlines_lines cs
  rw [hlines] at hcs
  rcases List.eq_nil_or_concat before with rfl | ⟨more, l, hbefore⟩
  · rw [List.nil_append, unlines, List.intercalate_singleton] at hcs
    subst hcs
    refine ⟨[], last, hlines, ?_, hend⟩
    rw [← Bool.not_eq_true, ← trim_eq_nil_iff, h]
    exact hne
  · have hne' : before ≠ [] := by simp [hbefore]
    rw [unlines_concat hne'] at hcs
    have hsuffix : '\n' :: last <:+ cs := ⟨_, hcs⟩
    have hnewline := trimEnd_eq_self_of_isSuffix hsuffix hend
    refine ⟨before, last, hlines, ?_,
      trimEnd_eq_self_of_isSuffix ((List.suffix_cons _ _).trans hsuffix) hend⟩
    -- A blank line at the end would go together with the line feed before it.
    rw [← Bool.not_eq_true]
    intro hblank
    have hnil : trimEnd ('\n' :: last) = [] := by
      rw [trimEnd_eq_nil_iff, isAllBlank_cons, isBlank_newline, hblank]
      rfl
    rw [hnil] at hnewline
    cases hnewline

theorem squeeze_cons_of_not_blank {l : Line} (h : isAllBlank l = false) (ls : List Line) :
    squeeze (l :: ls) = l :: squeeze ls := by
  rw [squeeze, h]
  rfl

theorem squeeze_cons_of_blank {l : Line} (h : isAllBlank l = true) (ls : List Line) :
    squeeze (l :: ls) =
      if (squeeze ls).head? = some [] then squeeze ls else [] :: squeeze ls := by
  rw [squeeze, h, if_pos rfl]
  split
  · rename_i more hmore
    rw [hmore]
    rfl
  · rename_i hmore
    refine (if_neg fun hhead => ?_).symm
    obtain ⟨more, hcons⟩ := List.head?_eq_some_iff.mp hhead
    exact hmore more hcons

theorem singleSpaced_cons {l : Line} {ls : List Line} (h : SingleSpaced ls)
    (hl : isAllBlank l = true → l = []) (hapart : l = [] → ls.head? ≠ some []) :
    SingleSpaced (l :: ls) where
  blank_eq_nil := List.forall_mem_cons.mpr ⟨hl, h.blank_eq_nil⟩
  apart := by
    refine List.isChain_cons.mpr ⟨fun l' hl' => ?_, h.apart⟩
    rintro ⟨rfl, rfl⟩
    exact hapart rfl hl'

theorem singleSpaced_squeeze (ls : List Line) : SingleSpaced (squeeze ls) := by
  induction ls with
  | nil => exact ⟨by simp [squeeze], by simp [squeeze]⟩
  | cons l ls ih =>
    cases hb : isAllBlank l with
    | true =>
      rw [squeeze_cons_of_blank hb]
      split
      · exact ih
      · rename_i hhead
        exact singleSpaced_cons ih (fun _ => rfl) fun _ => hhead
    | false =>
      rw [squeeze_cons_of_not_blank hb]
      refine singleSpaced_cons ih (fun h => ?_) (fun h => ?_)
      · rw [hb] at h
        cases h
      · rw [h] at hb
        cases hb

theorem nonblank_squeeze (ls : List Line) : nonblank (squeeze ls) = nonblank ls := by
  induction ls with
  | nil => rfl
  | cons l ls ih =>
    cases hb : isAllBlank l with
    | true =>
      rw [nonblank_cons_of_blank hb, ← ih, squeeze_cons_of_blank hb]
      split
      · rfl
      · exact nonblank_cons_of_blank isAllBlank_nil _
    | false =>
      rw [squeeze_cons_of_not_blank hb, nonblank_cons_of_not_blank hb,
        nonblank_cons_of_not_blank hb, ih]

theorem mem_squeeze {ls : List Line} {l : Line} (h : l ∈ squeeze ls) : l = [] ∨ l ∈ ls := by
  induction ls with
  | nil => cases h
  | cons l' ls ih =>
    have hrest : l ∈ squeeze ls → l = [] ∨ l ∈ l' :: ls := fun hl =>
      (ih hl).imp_right (List.mem_cons_of_mem l')
    cases hb : isAllBlank l' with
    | true =>
      rw [squeeze_cons_of_blank hb] at h
      split at h
      · exact hrest h
      · exact (List.mem_cons.mp h).elim .inl hrest
    | false =>
      rw [squeeze_cons_of_not_blank hb] at h
      rcases List.mem_cons.mp h with rfl | h
      · exact .inr List.mem_cons_self
      · exact hrest h

theorem squeeze_ne_nil {ls : List Line} (h : ls ≠ []) : squeeze ls ≠ [] := by
  obtain ⟨l, ls, rfl⟩ := List.exists_cons_of_ne_nil h
  cases hb : isAllBlank l with
  | true =>
    rw [squeeze_cons_of_blank hb]
    split
    · rename_i hhead
      obtain ⟨more, hcons⟩ := List.head?_eq_some_iff.mp hhead
      simp [hcons]
    · simp
  | false => simp [squeeze_cons_of_not_blank hb]

theorem squeeze_concat {l : Line} (h : isAllBlank l = false) (ls : List Line) :
    squeeze (ls ++ [l]) = squeeze ls ++ [l] := by
  induction ls with
  | nil => exact squeeze_cons_of_not_blank h []
  | cons l' ls ih =>
    cases hb : isAllBlank l' with
    | true =>
      have hne : l ≠ [] := by
        rintro rfl
        cases h
      rw [List.cons_append, squeeze_cons_of_blank hb, squeeze_cons_of_blank hb, ih]
      cases squeeze ls with
      | nil => simp [hne]
      | cons l'' more =>
        rw [List.cons_append, List.head?_cons, List.head?_cons]
        split <;> rfl
    | false =>
      rw [List.cons_append, squeeze_cons_of_not_blank hb, squeeze_cons_of_not_blank hb, ih]
      rfl

theorem lines_unlines_squeeze (cs : List Char) :
    lines (unlines (squeeze (lines cs))) = squeeze (lines cs) := by
  refine lines_unlines (fun l hl => ?_) (squeeze_ne_nil (lines_ne_nil cs))
  rcases mem_squeeze hl with rfl | hl
  · exact List.not_mem_nil
  · exact not_mem_of_mem_lines hl

theorem inParagraphs_of_line {l : Line} (h : trim l = l) (hnl : '\n' ∉ l) : InParagraphs l := by
  refine ⟨h, ?_⟩
  rw [lines_eq_singleton hnl]
  refine ⟨fun l' hl' hb => ?_, List.isChain_singleton l⟩
  rw [List.mem_singleton.mp hl'] at hb ⊢
  rw [← h, trim_eq_nil_iff.mpr hb]

/-- A trimmed text starts and ends with a line that is not blank, and those stay. -/
theorem inParagraphs_squeeze {cs : List Char} (h : trim cs = cs) :
    InParagraphs (unlines (squeeze (lines cs))) := by
  refine ⟨?_, by rw [lines_unlines_squeeze]; exact singleSpaced_squeeze _⟩
  by_cases hne : cs = []
  · subst hne
    rfl
  · obtain ⟨c, first, rest, hfirst, hc⟩ := exists_lines_eq_cons h hne
    obtain ⟨before, last, hlast, hblank, hend⟩ := exists_lines_eq_concat h hne
    have hstart : isAllBlank (c :: first) = false := by rw [isAllBlank_cons, hc, Bool.false_and]
    rw [trim_eq_self_iff]
    constructor
    · rw [hfirst, squeeze_cons_of_not_blank hstart, trimStart_unlines_cons hstart,
        trimStart_cons_of_not_isBlank hc]
    · rw [hlast, squeeze_concat hblank, trimEnd_unlines_concat hblank, hend]

theorem InParagraphs.append_line {cs : List Char} (h : InParagraphs cs) (hne : cs ≠ []) {l : Line}
    (hl : trim l = l) (hlne : l ≠ []) (hnl : '\n' ∉ l) :
    InParagraphs (cs ++ ['\n', '\n'] ++ l) := by
  refine ⟨trim_append_append h.trimmed hne hl hlne _, ?_⟩
  have hblank : isAllBlank l = false := by
    rw [← Bool.not_eq_true, ← trim_eq_nil_iff, hl]
    exact hlne
  have hlines : lines (cs ++ ['\n', '\n'] ++ l) = lines cs ++ [[], l] := by
    rw [List.append_assoc]
    change lines (cs ++ '\n' :: ([] ++ '\n' :: l)) = _
    rw [lines_append_newline, lines_append_newline, lines_eq_singleton hnl]
    rfl
  obtain ⟨before, last, hlast, hlastblank, -⟩ := exists_lines_eq_concat h.trimmed hne
  have hapart : ∀ x ∈ (lines cs).getLast?, ∀ y ∈ [([] : Line), l].head?, ¬ (x = [] ∧ y = []) := by
    rw [hlast, List.getLast?_concat]
    rintro x hx y hy ⟨rfl, -⟩
    cases hx
    cases hlastblank
  rw [hlines]
  constructor
  · intro l' hl' hb
    rcases List.mem_append.mp hl' with hl' | hl'
    · exact h.singleSpaced.blank_eq_nil l' hl' hb
    · simp only [List.mem_cons, List.not_mem_nil, or_false] at hl'
      rcases hl' with rfl | rfl
      · rfl
      · rw [hb] at hblank
        cases hblank
  · refine h.singleSpaced.apart.append ?_ hapart
    simpa using hlne

end Text
end RBinding
