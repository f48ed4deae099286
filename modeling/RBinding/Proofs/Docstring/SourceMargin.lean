import RBinding.Proofs.Docstring.Parts
import RBinding.Proofs.Text.Dedenting

/-!
# RBinding.Proofs.Docstring.SourceMargin

A docstring reads the same wherever it stands in source code. Spaces in front of every line after
the first move the margin, and `clean` takes the margin off, so nothing is left of them if one of
these lines is not blank (`cleanLines_indented`). If all are blank there is no margin and they keep
the spaces, but below the first line blank lines say nothing (`readLines_cons_of_blank`). The first
line stands beside the quotes and loses its spaces in any case.

A tab is as wide as its column makes it, so the text has to be without one.
-/

namespace RBinding

namespace Text

/-- A text as it may stand in source code: `m` spaces in front of its first line and `n` in front of
every other line. -/
def inSource (m n : Nat) (cs : List Char) : List Char :=
  match lines cs with
  | [] => []
  | first :: rest => unlines (indented m first :: rest.map (indented n))

section InSource

variable {cs : List Char} {first : Line} {rest : List Line}

theorem forall_not_mem_indented {x : Char} (hx : x ≠ ' ') (h : ∀ l ∈ first :: rest, x ∉ l)
    (m n : Nat) : ∀ l ∈ indented m first :: rest.map (indented n), x ∉ l := by
  obtain ⟨hfirst, hrest⟩ := List.forall_mem_cons.mp h
  refine List.forall_mem_cons.mpr ⟨not_mem_indented hx hfirst m, fun l hl => ?_⟩
  obtain ⟨l, hmem, rfl⟩ := List.mem_map.mp hl
  exact not_mem_indented hx (hrest l hmem) n

theorem lines_inSource (h : lines cs = first :: rest) (m n : Nat) :
    lines (inSource m n cs) = indented m first :: rest.map (indented n) := by
  have hlines : ∀ l ∈ first :: rest, '\n' ∉ l := h ▸ fun l hl => not_mem_of_mem_lines hl
  rw [inSource, h]
  exact lines_unlines (forall_not_mem_indented (by decide) hlines m n) (List.cons_ne_nil _ _)

theorem tab_not_mem_inSource (h : '\t' ∉ cs) (m n : Nat) : '\t' ∉ inSource m n cs := by
  obtain ⟨first, rest, hls⟩ := List.exists_cons_of_ne_nil (lines_ne_nil cs)
  have hlines : ∀ l ∈ first :: rest, '\t' ∉ l :=
    hls ▸ fun l hl hmem => h (mem_of_mem_lines hl hmem)
  rw [inSource, hls]
  exact not_mem_intercalate (by decide) (forall_not_mem_indented (by decide) hlines m n)

theorem isAllBlank_inSource (m n : Nat) (cs : List Char) :
    isAllBlank (inSource m n cs) = isAllBlank cs := by
  have hblank : isAllBlank ∘ indented n = isAllBlank := funext (isAllBlank_indented n)
  obtain ⟨first, rest, h⟩ := List.exists_cons_of_ne_nil (lines_ne_nil cs)
  rw [← unlines_lines (inSource m n cs), ← unlines_lines cs, isAllBlank_unlines, isAllBlank_unlines,
    unlines_lines, lines_inSource h, h, List.all_cons, List.all_cons, List.all_map, hblank,
    isAllBlank_indented]

end InSource

theorem indentations_map_indented (n : Nat) (ls : List Line) :
    indentations (ls.map (indented n)) = (indentations ls).map (n + ·) := by
  have hblank : (fun l => !isAllBlank l) ∘ indented n = fun l => !isAllBlank l := by
    funext l
    simp [isAllBlank_indented]
  have hindent : indentOf ∘ indented n = (n + ·) ∘ indentOf := funext (indentOf_indented n)
  rw [indentations, indentations, nonblank, nonblank, List.filter_map, hblank, List.map_map,
    List.map_map, hindent]

theorem leastIndent_map_indented {ls : List Line} (h : indentations ls ≠ []) (n : Nat) :
    leastIndent (ls.map (indented n)) = n + leastIndent ls := by
  have hmin : (indentations (ls.map (indented n))).min? = some (n + leastIndent ls) := by
    rw [indentations_map_indented, List.min?_eq_some_iff]
    refine ⟨List.mem_map_of_mem (leastIndent_mem_indentations h), fun i hi => ?_⟩
    obtain ⟨j, hj, rfl⟩ := List.mem_map.mp hi
    exact Nat.add_le_add_left (leastIndent_le_of_mem_indentations hj) n
  rw [leastIndent_eq_min?, hmin]
  rfl

theorem cleanLines_indented {first : Line} {rest : List Line} (h : indentations rest ≠ [])
    (m n : Nat) :
    cleanLines (indented m first :: rest.map (indented n)) = cleanLines (first :: rest) := by
  have hdrop : List.drop (n + leastIndent rest) ∘ indented n = List.drop (leastIndent rest) :=
    funext (drop_indented n (leastIndent rest))
  rw [cleanLines, cleanLines, trimStart_indented, leastIndent_map_indented h, List.map_map, hdrop]

end Text

namespace Docstring

open Text

theorem Header.at?_next_of_blank {l' : Line} (h : isAllBlank l' = true) (onlyUnderlined : Bool)
    (l : Line) : at? onlyUnderlined l (some l') = at? onlyUnderlined l none := by
  have hunder : isUnderline l' = false := by
    rw [isUnderline, trim_eq_nil_iff.mpr h]
    rfl
  rw [at?, at?, underlined?_of_not_isUnderline hunder]
  rfl

theorem readParts_section_of_blank {blanks : List Line} (h : ∀ b ∈ blanks, isAllBlank b = true)
    (names : List String) (aliases : Table String) (preamble : List Line) (header : Header) :
    readParts names aliases (preamble, [⟨header, blanks⟩]) =
      readParts names aliases (preamble, [⟨header, []⟩]) := by
  have hread : ∀ known a, Arguments.readSection known a ⟨header, blanks⟩ =
      Arguments.readSection known a ⟨header, []⟩ := fun known a =>
    readSection_append_of_blank h known a header []
  have htext : Section.text ⟨header, blanks⟩ = Section.text ⟨header, []⟩ :=
    Section.text_append_of_blank h header []
  cases hkind : header.kind <;>
    simp [readParts, readArguments, readReturns, readSections, addSection, hkind, hread, htext]

theorem readLines_cons_of_blank {blanks : List Line} (h : ∀ b ∈ blanks, isAllBlank b = true)
    (names : List String) (aliases : Table String) (l : Line) :
    readLines names aliases (l :: blanks) = readLines names aliases [l] := by
  have hnext : Header.at? false l blanks.head? = Header.at? false l none := by
    cases blanks with
    | nil => rfl
    | cons b blanks => exact Header.at?_next_of_blank (h b List.mem_cons_self) false l
  have hblanks : ∀ m, Section.split m blanks = (blanks, []) := by
    intro m
    have hsplit := Section.split_append_of_blank h m []
    rwa [Section.split, List.append_nil] at hsplit
  rw [readLines_eq, readLines_eq]
  cases hat : Header.at? false l none with
  | none =>
    have hpreamble : readPreamble (l :: blanks) = readPreamble [l] :=
      readPreamble_append_of_blank h [l]
    rw [Section.split_cons_of_none (hnext.trans hat), Section.split_cons_of_none hat, hblanks,
      readParts, hpreamble]
    rfl
  | some header =>
    have hunderlined := Header.underlined_at?_none hat
    rw [Section.split_cons_of_some (hnext.trans hat) hunderlined,
      Section.split_cons_of_some hat hunderlined, hblanks]
    exact readParts_section_of_blank h names aliases [] header

/-- Where all lines below the first are blank, the first one without its spaces is all there is. -/
theorem readLines_cleanLines_of_blank {first : Line} {rest : List Line}
    (hfirst : isAllBlank first = false) (hrest : ∀ l ∈ rest, isAllBlank l = true)
    (names : List String) (aliases : Table String) :
    readLines names aliases (cleanLines (first :: rest)) =
      readLines names aliases [trimStart first] := by
  have hne : trimStart first ≠ [] := by
    rw [Ne, trimStart_eq_nil_iff, hfirst]
    exact Bool.false_ne_true
  rw [cleanLines, dropOuterEmpty_cons hne, readLines_dropTail]
  refine readLines_cons_of_blank (fun b hb => ?_) names aliases _
  obtain ⟨l, hl, rfl⟩ := List.mem_map.mp hb
  exact isAllBlank_drop_of_isAllBlank (hrest l hl) _

theorem readLines_cleanLines_indented {first : Line} {rest : List Line}
    (h : (first :: rest).all isAllBlank = false) (names : List String) (aliases : Table String)
    (m n : Nat) :
    readLines names aliases (cleanLines (indented m first :: rest.map (indented n))) =
      readLines names aliases (cleanLines (first :: rest)) := by
  by_cases hrest : indentations rest = []
  · rw [indentations, List.map_eq_nil_iff, nonblank_eq_nil_iff] at hrest
    have hfirst : isAllBlank first = false := by
      rwa [List.all_cons, List.all_eq_true.mpr hrest, Bool.and_true] at h
    have hindented : ∀ l ∈ rest.map (indented n), isAllBlank l = true := by
      intro l hl
      obtain ⟨l, hmem, rfl⟩ := List.mem_map.mp hl
      rw [isAllBlank_indented, hrest l hmem]
    rw [readLines_cleanLines_of_blank (by rw [isAllBlank_indented, hfirst]) hindented,
      readLines_cleanLines_of_blank hfirst hrest, trimStart_indented]
  · rw [cleanLines_indented hrest]

/-- The margin that a docstring has in source code does not matter, neither to what is read nor to
what is reported. -/
theorem read_inSource {raw : String} (h : '\t' ∉ raw.toList) (names : List String)
    (aliases : Table String) (m n : Nat) :
    read (some (String.ofList (inSource m n raw.toList))) names aliases =
      read (some raw) names aliases := by
  rw [read, read, blankText, blankText, String.toList_ofList, isAllBlank_inSource]
  split
  · rfl
  · rename_i hblank
    obtain ⟨first, rest, hls⟩ := List.exists_cons_of_ne_nil (lines_ne_nil raw.toList)
    rw [clean_eq_of_not_mem_tab (tab_not_mem_inSource h m n), lines_inSource hls,
      clean_eq_of_not_mem_tab h, hls]
    refine readLines_cleanLines_indented ?_ names aliases m n
    rw [← hls, ← isAllBlank_unlines, unlines_lines]
    simpa using hblank

def addDoc : String := "Adds.\n \nArgs:\n    x: left\n    y: right,\n      or none"

def addBlock : DocBlock where
  title := "Adds."
  parameters := .ofList [("x", "left"), ("y", "right, or none")]

theorem read_inSource_add :
    '\t' ∉ addDoc.toList ∧ read (some addDoc) ["x", "y"] .empty = { block := addBlock } ∧
      read (some (String.ofList (inSource 1 4 addDoc.toList))) ["x", "y"] .empty =
        read (some addDoc) ["x", "y"] .empty :=
  ⟨by decide, by decide +kernel, read_inSource (by decide) _ _ 1 4⟩

end Docstring
end RBinding
