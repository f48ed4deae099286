import RBinding.Assembly
import RBinding.Proofs.Text.Margin

/-!
# RBinding.Proofs.Assembly

Lines of documentation. A line that documentation is written on is a comment as long as nothing in
it ends the line (`isComment_commentLine`); tags break their text into lines, so only the names of
tags count (`isComment_docLines`). A text without a line feed takes a single line
(`tagLines_of_newline_not_mem`).
-/

namespace RBinding

open Text

/-- The line starts like a line of documentation and nothing in it ends it. -/
structure IsComment (line : String) : Prop where
  starts : Settings.docPrefix.toList <+: line.toList
  oneLine : '\n' ∉ line.toList

namespace Assembly

/-- Trimming does not reach the start of a comment. -/
theorem toList_commentLine (text : String) :
    (commentLine text).toList = Settings.docPrefix.toList ++ trimEnd (' ' :: text.toList) := by
  have hline : (Settings.docPrefix ++ " " ++ text).toList =
      ['#'] ++ '\'' :: ' ' :: text.toList := by
    rw [String.toList_append, String.toList_append]
    rfl
  rw [commentLine, trimmedEnd, String.toList_ofList, hline, trimEnd_append_cons ['#'] (by decide)]
  rfl

theorem isComment_commentLine {text : String} (h : '\n' ∉ text.toList) :
    IsComment (commentLine text) where
  starts := by
    rw [toList_commentLine]
    exact List.prefix_append _ _
  oneLine := by
    rw [toList_commentLine, List.mem_append]
    rintro (hmem | hmem)
    · revert hmem
      decide
    · rcases List.mem_cons.mp (trimEnd_subset _ hmem) with heq | hmem
      · cases heq
      · exact h hmem

theorem isComment_docPrefix : IsComment Settings.docPrefix :=
  ⟨List.prefix_refl _, by decide⟩

theorem newline_not_mem_linesOf {s l : String} (h : l ∈ linesOf s) : '\n' ∉ l.toList := by
  obtain ⟨l, hl, rfl⟩ := List.mem_map.mp h
  rw [String.toList_ofList]
  exact not_mem_of_mem_lines hl

theorem newline_not_mem_append {s t : String} (hs : '\n' ∉ s.toList) (ht : '\n' ∉ t.toList) :
    '\n' ∉ (s ++ t).toList := by
  rw [String.toList_append, List.mem_append]
  exact fun h => h.elim hs ht

theorem isComment_tagLines {tag : String} (htag : '\n' ∉ tag.toList) (text : String) :
    ∀ l ∈ tagLines tag text, IsComment l := by
  have htext : ∀ l ∈ linesOf text, '\n' ∉ l.toList := fun _ hl => newline_not_mem_linesOf hl
  intro l hl
  rw [tagLines] at hl
  split at hl
  · cases hl
  · rename_i first rest hlines
    rw [hlines] at htext
    rcases List.mem_cons.mp hl with rfl | hl
    · refine isComment_commentLine (newline_not_mem_append ?_ (htext first List.mem_cons_self))
      exact newline_not_mem_append (newline_not_mem_append (by decide) htag) (by decide)
    · obtain ⟨l, hmem, rfl⟩ := List.mem_map.mp hl
      exact isComment_commentLine (htext l (List.mem_cons_of_mem first hmem))

theorem linesOf_of_newline_not_mem {text : String} (h : '\n' ∉ text.toList) :
    linesOf text = [text] := by
  have hsplit : lines (unlines [text.toList]) = [text.toList] :=
    lines_unlines (by simpa using h) (List.cons_ne_nil _ _)
  rw [unlines, List.intercalate_singleton] at hsplit
  rw [linesOf, hsplit, List.map_singleton, String.ofList_toList]

theorem tagLines_of_newline_not_mem (tag : String) {text : String} (h : '\n' ∉ text.toList) :
    tagLines tag text = [commentLine ("@" ++ tag ++ " " ++ text)] := by
  rw [tagLines, linesOf_of_newline_not_mem h]
  rfl

theorem isComment_docLines {a : Assembly} (hparameters : ∀ p ∈ a.parameters, '\n' ∉ p.name.toList)
    (hsections : ∀ title ∈ a.doc.sections.keys, '\n' ∉ title.toList)
    (htags : ∀ tag ∈ a.extraTags.keys, '\n' ∉ tag.toList) : ∀ l ∈ a.docLines, IsComment l := by
  intro l hl
  simp only [docLines, List.mem_append, List.mem_flatMap, List.mem_singleton] at hl
  rcases hl with (((((((hl | hl) | rfl) | ⟨p, hp, hl⟩) | hl) | ⟨e, he, hl⟩) | ⟨w, _, hl⟩) |
    ⟨e, he, hl⟩) | hl
  · exact isComment_tagLines (by decide) _ l hl
  · exact isComment_tagLines (by decide) _ l hl
  · exact isComment_docPrefix
  · exact isComment_tagLines (newline_not_mem_append (by decide) (hparameters p hp)) _ l hl
  · exact isComment_tagLines (by decide) _ l hl
  · have htitle := hsections e.1 (List.mem_map_of_mem he)
    refine isComment_tagLines (newline_not_mem_append ?_ (by decide)) _ l hl
    exact newline_not_mem_append (by decide) htitle
  · exact isComment_tagLines (by decide) _ l hl
  · exact isComment_tagLines (htags e.1 (List.mem_map_of_mem he)) _ l hl
  · rw [exportLines] at hl
    split at hl
    · rw [List.mem_singleton.mp hl]
      exact ⟨List.prefix_append _ _, by decide⟩
    · cases hl

end Assembly

end RBinding
