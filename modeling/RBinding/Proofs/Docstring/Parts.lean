import RBinding.Docstring.Reading
import RBinding.Proofs.Docstring.Splitting
import RBinding.Proofs.Table

/-!
# RBinding.Proofs.Docstring.Parts

Reading a docstring in two stages: it is split, and the parts are read (`readLines_eq`). No part
sees the blank lines at its end (`readPreamble_append_of_blank`, `Section.text_append_of_blank`,
`readSection_append_of_blank`), so a docstring may be cleaned of the empty lines at its end without
a change (`readLines_dropTail`). A text that starts at the margin, has something at the margin below
its first line and holds no tab is read line by line as it stands (`read_unlines`).

Of the documented parameters the declared ones come first (`keys_inDeclaredOrder`), and a declared
name always stands for itself (`get?_knownNames`).
-/

namespace RBinding
namespace Docstring

open Text

/-- Reads a preamble and the sections after it. -/
def readParts (names : List String) (aliases : Table String)
    (parts : List Line × List Section) : Reading :=
  let arguments := readArguments (knownNames names aliases) parts.2
  { block :=
      { title := (readPreamble parts.1).1
        description := withLeftover (readPreamble parts.1).2 arguments.leftover
        parameters := inDeclaredOrder names arguments.docs
        returns := readReturns parts.2
        sections := readSections parts.2 }
    repeated := arguments.repeated }

theorem readLines_eq (names : List String) (aliases : Table String) (ls : List Line) :
    readLines names aliases ls = readParts names aliases (Section.split false ls) := rfl

theorem readPreamble_of_blank {ls : List Line} (h : ∀ l ∈ ls, isAllBlank l = true) :
    readPreamble ls = ("", "") := by
  induction ls with
  | nil => rfl
  | cons l ls ih =>
    obtain ⟨hl, hls⟩ := List.forall_mem_cons.mp h
    rw [readPreamble, if_pos hl, ih hls]

theorem readPreamble_append_of_blank {blanks : List Line}
    (h : ∀ b ∈ blanks, isAllBlank b = true) (ls : List Line) :
    readPreamble (ls ++ blanks) = readPreamble ls := by
  induction ls with
  | nil => exact readPreamble_of_blank h
  | cons l ls ih => rw [List.cons_append, readPreamble, readPreamble, ih, dedent_append_of_blank h]

theorem Section.lines_append_body (h : Header) (body more : List Line) :
    Section.lines ⟨h, body ++ more⟩ = Section.lines ⟨h, body⟩ ++ more := by
  rw [Section.lines, Section.lines]
  split <;> rfl

theorem Section.text_append_of_blank {blanks : List Line}
    (h : ∀ b ∈ blanks, isAllBlank b = true) (header : Header) (body : List Line) :
    Section.text ⟨header, body ++ blanks⟩ = Section.text ⟨header, body⟩ := by
  rw [Section.text, Section.lines_append_body, dedent_append_of_blank h]
  rfl

theorem readSection_append_of_blank {blanks : List Line}
    (h : ∀ b ∈ blanks, isAllBlank b = true) (known : Option (Table String)) (a : Arguments)
    (header : Header) (body : List Line) :
    a.readSection known ⟨header, body ++ blanks⟩ = a.readSection known ⟨header, body⟩ := by
  have hfilter : (Section.lines ⟨header, body ++ blanks⟩).filter (!isAllBlank ·) =
      (Section.lines ⟨header, body⟩).filter (!isAllBlank ·) := by
    have hnil : blanks.filter (!isAllBlank ·) = [] := by simpa using h
    rw [Section.lines_append_body, List.filter_append, hnil, List.append_nil]
  rw [Arguments.readSection, Arguments.readSection]
  simp only [hfilter]

theorem Section.text_dropTail (s : Section) : s.dropTail.text = s.text :=
  apply_dropTail (f := fun body => Section.text ⟨s.header, body⟩)
    (fun body => Section.text_append_of_blank (by simp) s.header body) s.body

theorem readSection_dropTail (known : Option (Table String)) (a : Arguments) (s : Section) :
    a.readSection known s.dropTail = a.readSection known s :=
  apply_dropTail (f := fun body => a.readSection known ⟨s.header, body⟩)
    (fun body => readSection_append_of_blank (by simp) known a s.header body) s.body

theorem filter_map_dropTail (kind : SectionKind) (sections : List Section) :
    (sections.map Section.dropTail).filter (·.header.kind == kind) =
      (sections.filter (·.header.kind == kind)).map Section.dropTail := by
  rw [List.filter_map]
  rfl

theorem readArguments_map_dropTail (known : Option (Table String)) (sections : List Section) :
    readArguments known (sections.map Section.dropTail) = readArguments known sections := by
  have hstep : (fun a s => Arguments.readSection known a s.dropTail) =
      Arguments.readSection known := by
    funext a s
    exact readSection_dropTail known a s
  rw [readArguments, filter_map_dropTail, List.foldl_map, hstep]
  rfl

theorem readReturns_map_dropTail (sections : List Section) :
    readReturns (sections.map Section.dropTail) = readReturns sections := by
  have htext : Section.text ∘ Section.dropTail = Section.text := funext Section.text_dropTail
  rw [readReturns, filter_map_dropTail, List.map_map, htext]
  rfl

theorem readSections_map_dropTail (sections : List Section) :
    readSections (sections.map Section.dropTail) = readSections sections := by
  have hstep : (fun t s => addSection t (Section.dropTail s)) = addSection := by
    funext t s
    rw [addSection, addSection, Section.text_dropTail]
    rfl
  rw [readSections, filter_map_dropTail, List.foldl_map, hstep]
  rfl

/-- Empty lines at the end of a preamble or of a section do not change what is read. -/
theorem readParts_withoutTails (names : List String) (aliases : Table String)
    (parts : List Line × List Section) :
    readParts names aliases (withoutTails parts) = readParts names aliases parts := by
  have hpreamble : readPreamble (dropTail parts.1) = readPreamble parts.1 :=
    apply_dropTail (fun ls => readPreamble_append_of_blank (by simp) ls) parts.1
  simp only [readParts, withoutTails, hpreamble, readArguments_map_dropTail,
    readReturns_map_dropTail, readSections_map_dropTail]

theorem readLines_of_split {ls : List Line} {parts : List Line × List Section}
    (h : withoutTails (Section.split false ls) = withoutTails parts) (names : List String)
    (aliases : Table String) : readLines names aliases ls = readParts names aliases parts := by
  rw [readLines_eq, ← readParts_withoutTails, h, readParts_withoutTails]

theorem readLines_dropTail (names : List String) (aliases : Table String) (ls : List Line) :
    readLines names aliases (dropTail ls) = readLines names aliases ls := by
  rw [readLines_of_split (withoutTails_split_dropTail false ls), readLines_eq]

/-- Lines are read as they stand, once their tabs are spaces, if the text starts at the margin and
the lines after the first do not all stand to the right of it. -/
theorem read_unlines {first : Line} {rest : List Line} (hfirst : trim first = first)
    (hne : first ≠ []) (htab : '\t' ∉ first) (hnl : ∀ l ∈ first :: rest, '\n' ∉ l)
    (hmargin : leastIndent (rest.map expandTabs) = 0) (names : List String)
    (aliases : Table String) :
    read (some (String.ofList (unlines (first :: rest)))) names aliases =
      readLines names aliases (first :: rest.map expandTabs) := by
  obtain ⟨c, cs, hc, hblank⟩ := exists_cons_of_trim_eq_self hfirst hne
  have hnonblank : isAllBlank first = false := by
    rw [hc, isAllBlank_cons, hblank, Bool.false_and]
  have hsame : expandTabs first = first := expandTabsAt_eq_self htab 0
  rw [read, blankText, String.toList_ofList, isAllBlank_unlines, List.all_cons, hnonblank,
    Bool.false_and, if_neg Bool.false_ne_true, clean_unlines hnl (List.cons_ne_nil first rest),
    List.map_cons, hsame,
    cleanLines_of_leastIndent_eq_zero (trim_eq_self_iff.mp hfirst).1 hne hmargin,
    readLines_dropTail]

theorem inDeclaredOrder_eq_self {names : List String} {docs : Table String}
    (h : names = [] ∨ names.Nodup ∧ docs.keys.Sublist names) :
    inDeclaredOrder names docs = docs := by
  rcases h with rfl | ⟨hnodup, hsub⟩
  · rfl
  · rw [inDeclaredOrder]
    split
    · rfl
    · rw [Table.filterMap_get?_eq_entries hsub hnodup, Table.ofList_entries_append_entries]

/-- Declared names come first, and documented names that are not declared after them. -/
theorem keys_inDeclaredOrder (names : List String) (docs : Table String) :
    (inDeclaredOrder names docs).keys =
      (names.filter (docs.keys.contains ·)).eraseDups ++ docs.keys.filter (!names.contains ·) := by
  rw [inDeclaredOrder]
  split
  · rename_i hnames
    rw [List.isEmpty_iff.mp hnames]
    simp
  · have hremove : docs.keys.removeAll (names.filter (docs.keys.contains ·)) =
        docs.keys.filter (!names.contains ·) := by
      refine List.filter_congr fun name hname => ?_
      simp [hname]
    rw [Table.keys_ofList, List.map_append, List.eraseDups_append, Table.map_fst_filterMap_get?,
      ← Table.keys_eq, hremove, Table.eraseDups_eq_self (docs.keys_nodup.filter _)]

theorem knownNames_eq_none_iff {names : List String} {aliases : Table String} :
    knownNames names aliases = none ↔ names = [] ∧ aliases.entries = [] := by
  rw [knownNames]
  split <;> simp_all [Table.isEmpty]

theorem get?_knownNames {names : List String} {aliases table : Table String}
    (h : knownNames names aliases = some table) (token : String) :
    table.get? token = if token ∈ names then some token else aliases.get? token := by
  rw [knownNames] at h
  split at h
  · cases h
  · cases h
    rw [Table.get?_foldl_insertNew, Table.get?_ofList_map_self]
    split <;> rfl

theorem exists_knownNames {names : List String} {name : String} (h : name ∈ names)
    (aliases : Table String) :
    ∃ t, knownNames names aliases = some t ∧ t.get? name = some name := by
  have hne : knownNames names aliases ≠ none := fun hnone =>
    List.ne_nil_of_mem h (knownNames_eq_none_iff.mp hnone).1
  obtain ⟨t, ht⟩ := Option.ne_none_iff_exists'.mp hne
  exact ⟨t, ht, by rw [get?_knownNames ht, if_pos h]⟩

end Docstring
end RBinding
