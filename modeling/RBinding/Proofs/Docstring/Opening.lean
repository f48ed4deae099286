import RBinding.Proofs.Docstring.Fragments
import RBinding.Proofs.Docstring.Parts
import RBinding.Proofs.Docstring.Shape
import RBinding.Proofs.Docstring.Splitting
import RBinding.Proofs.Text.Paragraphs

/-!
# RBinding.Proofs.Docstring.Opening

What a docstring opens with. Its title is the first line that is not blank, unless that is a header
(`HasTitle`). The description is in paragraphs: what stands below the title up to the first header,
and after that, as a paragraph of its own, the lines of sections on parameters that belong to no
entry (`Opens`). Those are the lines before the first entry of each such section
(`leftover_readArguments`).
-/

namespace RBinding
namespace Docstring

open Text

def cleanedLines (raw : Option String) : List Line :=
  match raw with
  | none => []
  | some text => clean text.toList

/-- The title of a docstring, by its lines. -/
inductive HasTitle : List Line → String → Prop
  | blank {ls : List Line} (blank : ∀ l ∈ ls, isAllBlank l = true) : HasTitle ls ""
  | header {before after : List Line} {l : Line} (blank : ∀ b ∈ before, isAllBlank b = true)
      (nonblank : isAllBlank l = false) (header : Header.at? false l after.head? ≠ none) :
      HasTitle (before ++ l :: after) ""
  | line {before after : List Line} {l : Line} (blank : ∀ b ∈ before, isAllBlank b = true)
      (nonblank : isAllBlank l = false) (plain : Header.at? false l after.head? = none) :
      HasTitle (before ++ l :: after) (String.ofList (trim l))

theorem ofList_trim_eq_empty_iff {l : Line} :
    String.ofList (trim l) = "" ↔ isAllBlank l = true := by
  rw [← trim_eq_nil_iff, String.ofList_eq_empty_iff]

theorem blank_or_exists_first (ls : List Line) :
    (∀ l ∈ ls, isAllBlank l = true) ∨
      ∃ before l after, ls = before ++ l :: after ∧ (∀ b ∈ before, isAllBlank b = true) ∧
        isAllBlank l = false := by
  induction ls with
  | nil => exact .inl fun l hl => nomatch hl
  | cons l ls ih =>
    cases hb : isAllBlank l with
    | false => exact .inr ⟨[], l, ls, rfl, fun b hb => (nomatch hb), hb⟩
    | true =>
      rcases ih with hblank | ⟨before, l', after, rfl, hbefore, hl'⟩
      · exact .inl (List.forall_mem_cons.mpr ⟨hb, hblank⟩)
      · exact .inr ⟨l :: before, l', after, rfl, List.forall_mem_cons.mpr ⟨hb, hbefore⟩, hl'⟩

theorem readPreamble_blank_append {before : List Line} (h : ∀ b ∈ before, isAllBlank b = true)
    (ls : List Line) : readPreamble (before ++ ls) = readPreamble ls := by
  induction before with
  | nil => rfl
  | cons b before ih =>
    obtain ⟨hb, hbefore⟩ := List.forall_mem_cons.mp h
    rw [List.cons_append, readPreamble, hb, if_pos rfl, ih hbefore]

theorem readPreamble_cons {l : Line} (h : isAllBlank l = false) (rest : List Line) :
    readPreamble (l :: rest) =
      (String.ofList (trim l), String.ofList (unlines (squeeze (lines (dedent rest))))) := by
  rw [readPreamble, h]
  rfl

namespace Section

theorem split_fst_of_header {onlyUnderlined : Bool} {l : Line} {rest : List Line}
    (h : Header.at? onlyUnderlined l rest.head? ≠ none) :
    (split onlyUnderlined (l :: rest)).1 = [] := by
  rw [split]
  cases hat : Header.at? onlyUnderlined l rest.head? with
  | none => exact absurd hat h
  | some header =>
    simp only
    split
    · cases rest <;> rfl
    · rfl

end Section

/-- The lines of sections on parameters before the first entry of each, in order and trimmed. -/
def unmatchedLines (known : Option (Table String)) (sections : List Section) : List String :=
  ((sections.filter (·.header.kind == .parameters)).flatMap (Section.unopened known)).map fun l =>
    String.ofList (trim l)

theorem leftover_readArguments (known : Option (Table String)) (sections : List Section) :
    (readArguments known sections).leftover = unmatchedLines known sections := by
  rw [readArguments_eq]
  rfl

/-- A line that is not blank, trimmed. -/
structure IsEntire (text : String) : Prop where
  trimmed : trim text.toList = text.toList
  ne_empty : text ≠ ""
  oneLine : '\n' ∉ text.toList

theorem isEntire_of_mem_unmatchedLines {known : Option (Table String)} {sections : List Section}
    (h : ∀ s ∈ sections, ∀ l ∈ s.lines, '\n' ∉ l) {text : String}
    (ht : text ∈ unmatchedLines known sections) : IsEntire text := by
  obtain ⟨l, hl, rfl⟩ := List.mem_map.mp ht
  obtain ⟨s, hs, hl⟩ := List.mem_flatMap.mp hl
  have hcontent : l ∈ Arguments.content s.lines := by
    rw [← (Block.isCut_cut known (leastIndent s.lines) (Arguments.content s.lines)).lines_eq]
    exact List.mem_append_left _ hl
  obtain ⟨hmem, hb⟩ := List.mem_filter.mp hcontent
  have hnl := h s (List.mem_of_mem_filter hs) l hmem
  constructor
  · rw [String.toList_ofList, trim_trim]
  · rw [Ne, ofList_trim_eq_empty_iff]
    simpa using hb
  · rw [String.toList_ofList]
    exact fun hmem => hnl (trim_subset l hmem)

theorem isEntire_intercalate {f : String} {fragments : List String}
    (h : ∀ f' ∈ f :: fragments, IsEntire f') : IsEntire (" ".intercalate (f :: fragments)) := by
  have hf := h f List.mem_cons_self
  constructor
  · rw [trim_intercalate_iff hf.ne_empty fun f' hf' => (h f' hf').trimmed]
    intro hlast
    exact (h "" (List.mem_of_getLast? hlast)).ne_empty rfl
  · intro hempty
    have hlength := congrArg String.length hempty
    rw [length_intercalate, totalLength] at hlength
    have hpos : 0 < f.length := by
      rw [Nat.pos_iff_ne_zero]
      simpa using hf.ne_empty
    simp only [String.length_empty] at hlength
    omega
  · rw [String.toList_intercalate]
    refine not_mem_intercalate (by decide) fun t ht => ?_
    obtain ⟨f', hf', rfl⟩ := List.mem_map.mp ht
    exact (h f' hf').oneLine

/-- A description has the prose and the lines left over as paragraphs, as far as there are any. -/
theorem withLeftover_eq {leftover : List String} (h : ∀ f ∈ leftover, IsEntire f) (prose : String) :
    withLeftover prose leftover =
      "\n\n".intercalate ([prose, " ".intercalate leftover].filter (!·.isEmpty)) := by
  cases leftover with
  | nil =>
    by_cases hp : prose = ""
    · subst hp
      rfl
    · simp [withLeftover, hp]
  | cons f fragments =>
    have hne := (isEntire_intercalate h).ne_empty
    by_cases hp : prose = ""
    · simp [withLeftover, hp, hne]
    · simp [withLeftover, hp, hne, String.append_assoc]

theorem inParagraphs_withLeftover {leftover : List String} (h : ∀ f ∈ leftover, IsEntire f)
    {prose : String} (hp : InParagraphs prose.toList) :
    InParagraphs (withLeftover prose leftover).toList := by
  cases leftover with
  | nil => exact hp
  | cons f fragments =>
    have hextra := isEntire_intercalate h
    rw [withLeftover, List.isEmpty_cons, if_neg Bool.false_ne_true]
    by_cases hempty : prose.isEmpty
    · rw [if_pos hempty]
      exact inParagraphs_of_line hextra.trimmed hextra.oneLine
    · rw [if_neg hempty, String.toList_append, String.toList_append]
      have hne : (" ".intercalate (f :: fragments)).toList ≠ [] := by
        rw [Ne, String.toList_eq_nil_iff]
        exact hextra.ne_empty
      exact hp.append_line (by simpa using hempty) hextra.trimmed hne hextra.oneLine

/-- What the lines of a docstring and the lines that belong to no entry make of its title and its
description. The lines of the preamble that are not blank are those of the title and the prose. -/
structure Opens (ls : List Line) (unmatched : List String) (title description : String) : Prop where
  hasTitle : HasTitle ls title
  title_trimmed : trim title.toList = title.toList
  title_oneLine : '\n' ∉ title.toList
  inParagraphs : InParagraphs description.toList
  paragraphs : ∃ prose : String, InParagraphs prose.toList ∧
    (nonblank (lines title.toList ++ lines prose.toList)).map trim =
      (nonblank (Section.split false ls).1).map trim ∧
    description = "\n\n".intercalate ([prose, " ".intercalate unmatched].filter (!·.isEmpty))
  without_title : title = "" → description = " ".intercalate unmatched

variable {ls : List Line} {leftover : List String}

theorem opens_without_title (h : ∀ f ∈ leftover, IsEntire f) (htitle : HasTitle ls "")
    (hblank : ∀ l ∈ (Section.split false ls).1, isAllBlank l = true) :
    Opens ls leftover (readPreamble (Section.split false ls).1).1
      (withLeftover (readPreamble (Section.split false ls).1).2 leftover) := by
  have hprose : InParagraphs "".toList := inParagraphs_of_line rfl List.not_mem_nil
  rw [readPreamble_of_blank hblank]
  refine ⟨htitle, rfl, List.not_mem_nil, inParagraphs_withLeftover h hprose,
    ⟨"", hprose, ?_, withLeftover_eq h ""⟩, fun _ => ?_⟩
  · rw [nonblank_eq_nil_iff.mpr hblank]
    rfl
  · cases leftover <;> rfl

theorem opens_of_blank (hblank : ∀ l ∈ ls, isAllBlank l = true) : Opens ls [] "" "" := by
  have hpreamble : ∀ l ∈ (Section.split false ls).1, isAllBlank l = true :=
    fun l hl => hblank l ((Section.comesFrom_split false ls).1 hl)
  have hnone : ∀ f ∈ ([] : List String), IsEntire f := fun f hf => nomatch hf
  have hopens := opens_without_title hnone (.blank hblank) hpreamble
  rwa [readPreamble_of_blank hpreamble] at hopens

theorem opens_with_title (hls : ∀ l ∈ (Section.split false ls).1, '\n' ∉ l)
    (h : ∀ f ∈ leftover, IsEntire f) {before : List Line} {l : Line} {rest : List Line}
    (hsplit : (Section.split false ls).1 = before ++ l :: rest)
    (hbefore : ∀ b ∈ before, isAllBlank b = true) (hl : isAllBlank l = false)
    (htitle : HasTitle ls (String.ofList (trim l))) :
    Opens ls leftover (readPreamble (Section.split false ls).1).1
      (withLeftover (readPreamble (Section.split false ls).1).2 leftover) := by
  rw [hsplit] at hls
  have hnl : '\n' ∉ trim l := fun hmem => hls l (by simp) (trim_subset l hmem)
  have hrest : ∀ l' ∈ rest, '\n' ∉ l' := fun l' hl' => hls l' (by simp [hl'])
  have hprose : InParagraphs (unlines (squeeze (lines (dedent rest)))) :=
    inParagraphs_squeeze (trim_trim _)
  have hblank : isAllBlank (trim l) = false := by rw [isAllBlank_trim, hl]
  rw [hsplit, readPreamble_blank_append hbefore, readPreamble_cons hl]
  constructor
  · exact htitle
  · rw [String.toList_ofList, trim_trim]
  · rwa [String.toList_ofList]
  · exact inParagraphs_withLeftover h (by rwa [String.toList_ofList])
  · refine ⟨_, by rwa [String.toList_ofList], ?_, withLeftover_eq h _⟩
    rw [hsplit, String.toList_ofList, String.toList_ofList, nonblank_append, nonblank_append,
      lines_eq_singleton hnl, nonblank_cons_of_not_blank hblank, lines_unlines_squeeze,
      nonblank_squeeze, nonblank_eq_nil_iff.mpr hbefore, nonblank_cons_of_not_blank hl,
      List.map_append, map_trim_nonblank_dedent hrest, List.nil_append, List.map_cons]
    simp [nonblank, trim_trim]
  · intro hempty
    rw [ofList_trim_eq_empty_iff, hl] at hempty
    cases hempty

/-- Where a docstring opens with a header or is blank it has no title. -/
theorem opens_preamble (hls : ∀ l ∈ ls, '\n' ∉ l) (h : ∀ f ∈ leftover, IsEntire f) :
    Opens ls leftover (readPreamble (Section.split false ls).1).1
      (withLeftover (readPreamble (Section.split false ls).1).2 leftover) := by
  have hsub := (Section.comesFrom_split false ls).1
  rcases blank_or_exists_first ls with hblank | ⟨before, l, after, rfl, hbefore, hl⟩
  · exact opens_without_title h (.blank hblank) fun l hl => hblank l (hsub hl)
  · cases hat : Header.at? false l after.head? with
    | some header =>
      have hheader : Header.at? false l after.head? ≠ none := by simp [hat]
      refine opens_without_title h (.header hbefore hl hheader) ?_
      rw [Section.split_append_of_blank hbefore, Section.split_fst_of_header hheader,
        List.append_nil]
      exact hbefore
    | none =>
      have hsplit : (Section.split false (before ++ l :: after)).1 =
          before ++ l :: (Section.split false after).1 := by
        rw [Section.split_append_of_blank hbefore, Section.split_cons_of_none hat]
      exact opens_with_title (fun l' hl' => hls l' (hsub hl')) h hsplit hbefore hl
        (.line hbefore hl hat)

theorem isAllBlank_of_mem_clean {cs : List Char} (h : isAllBlank cs = true) :
    ∀ l ∈ clean cs, isAllBlank l = true := by
  have hlines : ∀ l ∈ lines (expandTabs cs), isAllBlank l = true := by
    rwa [← List.all_eq_true, ← isAllBlank_unlines, unlines_lines, expandTabs,
      isAllBlank_expandTabsAt]
  intro l hl
  obtain ⟨l', hl', hsuffix⟩ := exists_isSuffix_of_mem_clean hl
  exact isAllBlank_iff.mpr fun c hc => isAllBlank_iff.mp (hlines l' hl') c (hsuffix.subset hc)

/-- Every docstring has its title and its description in their form: the title is its first line
that is not blank, unless that is a header, and the description is in paragraphs, of which the last
may be the lines that belong to no entry. -/
theorem read_opens (raw : Option String) (names : List String) (aliases : Table String) :
    Opens (cleanedLines raw) (unmatchedLines (knownNames names aliases) (sectionsOf raw))
      (read raw names aliases).block.title (read raw names aliases).block.description := by
  cases raw with
  | none => exact opens_of_blank fun l hl => nomatch hl
  | some text =>
    rw [read, cleanedLines, sectionsOf]
    split
    · rename_i hblank
      exact opens_of_blank (isAllBlank_of_mem_clean hblank)
    · have hls : ∀ l ∈ clean text.toList, '\n' ∉ l := fun l hl => newline_not_mem_clean hl
      have hsections := (Section.comesFrom_split false (clean text.toList)).2
      rw [← leftover_readArguments]
      refine opens_preamble hls ?_
      rw [leftover_readArguments]
      exact fun f hf => isEntire_of_mem_unmatchedLines
        (fun s hs => (hsections s hs).newline_not_mem hls) hf

end Docstring
end RBinding
