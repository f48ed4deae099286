import RBinding.Proofs.Docstring.Entries
import RBinding.Proofs.Docstring.Parts
import RBinding.Proofs.Docstring.Shape

/-!
# RBinding.Proofs.Docstring.Styles

What a style of writing has to do for a written block to be read back. `Style.Recognised` asks that
its headers open sections; then a written docstring is split into the parts it was written from
(`split_parts`), as long as no line of them looks like a header. Each part gives back its field of
the block: `readPreamble_preamble`, `readArguments_parts`, `readReturns_parts`,
`readSections_parts`.

`read_print` puts these together for a block that is `Legible` in its style.
-/

namespace RBinding
namespace Docstring

open Text Arguments

namespace Style

def toSection (s : Style) (p : Part) : Section :=
  ⟨⟨p.title, p.kind, s.underlined, []⟩, s.body p⟩

/-- The headers of the style open sections. In a style with underlines they do so below underlined
headers too. -/
structure Recognised (s : Style) : Prop where
  split_header : ∀ {title : String} {kind : SectionKind}, (title, kind) ∈ Header.titles →
    ∀ m : Bool, (m = true → s.underlined = true) → ∀ rest : List Line,
      Section.split m (s.header title ++ rest) =
        ([], ⟨⟨title, kind, s.underlined, []⟩, (Section.split s.underlined rest).1⟩ ::
          (Section.split s.underlined rest).2)
  header_at_margin : ∀ t ∈ Header.titles,
    ∃ l ∈ s.header t.1, isAllBlank l = false ∧ indentOf l = 0
  header_plain : ∀ t ∈ Header.titles, ∀ l ∈ s.header t.1, '\n' ∉ l ∧ '\t' ∉ l
  parametersTitle_mem : (s.parametersTitle, .parameters) ∈ Header.titles

theorem title_starts : ∀ t ∈ Header.titles,
    (isAllBlank t.1.toList = false ∧ indentOf t.1.toList = 0) ∧
      isAllBlank (t.1.toList ++ [':']) = false ∧ indentOf (t.1.toList ++ [':']) = 0 := by
  decide

theorem parameters_titles :
    ("Args", SectionKind.parameters) ∈ Header.titles ∧
      ("Parameters", SectionKind.parameters) ∈ Header.titles := by
  decide

theorem returnsTitle_mem : (returnsTitle, SectionKind.returns) ∈ Header.titles := by decide

theorem recognised_colons (bare : Bool) : (colons bare).Recognised where
  split_header h m hm rest := by
    cases m with
    | true => exact absurd (hm rfl) Bool.false_ne_true
    | false => exact Section.split_colon h rest
  header_at_margin t ht := ⟨_, List.mem_singleton_self _, (title_starts t ht).2⟩
  header_plain t ht l hl := by
    have hl : l = t.1.toList ++ [':'] := List.mem_singleton.mp hl
    have ht := Header.title_plain t ht
    rw [hl]
    simp [ht.1, ht.2]
  parametersTitle_mem := parameters_titles.1

theorem recognised_underlines (dashes : String → Nat) (types : String → Option String) :
    (underlines dashes types).Recognised where
  split_header h m _ rest := Section.split_underline h m _ rest
  header_at_margin t ht := ⟨_, List.mem_cons_self, (title_starts t ht).1⟩
  header_plain t ht l hl := by
    rcases List.mem_cons.mp hl with rfl | hl
    · exact Header.title_plain t ht
    · rw [List.mem_singleton.mp hl, List.mem_replicate, List.mem_replicate]
      exact ⟨fun h => absurd h.2 (by decide), fun h => absurd h.2 (by decide)⟩
  parametersTitle_mem := parameters_titles.2

variable {s : Style} {doc : DocBlock} {cut : String → List String}

theorem forall_mem_parameterParts {P : Part → Prop}
    (h : P ⟨s.parametersTitle, .parameters,
      doc.parameters.keys.flatMap fun n => s.entry n (cut n)⟩) :
    ∀ p ∈ s.parameterParts doc cut, P p := by
  intro p hp
  rw [parameterParts] at hp
  split at hp
  · cases hp
  · rwa [List.mem_singleton.mp hp]

theorem forall_mem_returnsParts {P : Part → Prop}
    (h : P ⟨returnsTitle, .returns, lines doc.returns.toList⟩) : ∀ p ∈ returnsParts doc, P p := by
  intro p hp
  rw [returnsParts] at hp
  split at hp
  · cases hp
  · rwa [List.mem_singleton.mp hp]

theorem forall_mem_otherParts {P : Part → Prop}
    (h : ∀ e ∈ doc.sections.entries, P ⟨e.1, .other, lines e.2.toList⟩) :
    ∀ p ∈ otherParts doc, P p := by
  intro p hp
  obtain ⟨e, he, rfl⟩ := List.mem_map.mp hp
  exact h e he

theorem forall_mem_parts {P : Part → Prop}
    (hparameters : P ⟨s.parametersTitle, .parameters,
      doc.parameters.keys.flatMap fun n => s.entry n (cut n)⟩)
    (hreturns : P ⟨returnsTitle, .returns, lines doc.returns.toList⟩)
    (hother : ∀ e ∈ doc.sections.entries, P ⟨e.1, .other, lines e.2.toList⟩) :
    ∀ p ∈ s.parts doc cut, P p := by
  intro p hp
  rw [parts, List.mem_append, List.mem_append] at hp
  rcases hp with (hp | hp) | hp
  · exact forall_mem_parameterParts hparameters p hp
  · exact forall_mem_returnsParts hreturns p hp
  · exact forall_mem_otherParts hother p hp

theorem mem_titles_of_mem_parts (hs : s.Recognised) (h : Printable doc cut) :
    ∀ p ∈ s.parts doc cut, (p.title, p.kind) ∈ Header.titles :=
  forall_mem_parts hs.parametersTitle_mem returnsTitle_mem fun e he =>
    h.section_title e.1 (Table.mem_keys_of_mem_entries he)

/-- Written parts are split where they were put together, by induction on the parts: the lines
before a part belong to what came before it, and its own lines are those before the next part. -/
theorem split_parts (hs : s.Recognised) {ps : List Part}
    (htitle : ∀ p ∈ ps, (p.title, p.kind) ∈ Header.titles)
    (hfree : ∀ p ∈ ps, HeaderFree s.underlined (s.body p)) {m : Bool}
    (hm : m = true → s.underlined = true) {before : List Line} (hbefore : HeaderFree m before) :
    withoutTails (Section.split m (before ++ ps.flatMap s.partLines)) =
      withoutTails (before, ps.map s.toSection) := by
  induction ps generalizing m before with
  | nil =>
    rw [List.flatMap_nil, Section.split_append hbefore rfl, Section.split]
    simp
  | cons p ps ih =>
    have hlines : (p :: ps).flatMap s.partLines =
        [] :: (s.header p.title ++ (s.body p ++ ps.flatMap s.partLines)) := by
      simp [partLines]
    have hrest := ih (fun q hq => htitle q (List.mem_cons_of_mem _ hq))
      (fun q hq => hfree q (List.mem_cons_of_mem _ hq)) (m := s.underlined) id
      (hfree p List.mem_cons_self)
    rw [hlines, Section.split_append hbefore rfl, Section.split_empty_cons,
      hs.split_header (htitle p List.mem_cons_self) m hm]
    rw [withoutTails, withoutTails, Prod.mk.injEq] at hrest ⊢
    constructor
    · exact dropTail_concat_nil before
    · simp only [List.map_cons, toSection, Section.dropTail] at hrest ⊢
      rw [hrest.1, hrest.2]

theorem readPreamble_preamble (h : Printable doc cut) :
    readPreamble (preamble doc) = (doc.title, doc.description) := by
  have hne : doc.title.toList ≠ [] := fun hnil => h.title_ne_empty (by simpa using hnil)
  obtain ⟨c, cs, hc, hblank⟩ := exists_cons_of_trim_eq_self h.title_trimmed hne
  have hnonblank : isAllBlank doc.title.toList = false := by
    rw [hc, isAllBlank_cons, hblank, Bool.false_and]
  have hdedent : dedent (lines doc.description.toList) = doc.description.toList := by
    have hback := dedent_map_shifted h.description_trimmed false 0
    rwa [map_shifted_zero] at hback
  rw [preamble, readPreamble, hnonblank, if_neg Bool.false_ne_true, h.title_trimmed,
    String.ofList_toList]
  split
  · rename_i hempty
    rw [String.isEmpty_iff] at hempty
    rw [hempty]
    rfl
  · rw [dedent_nil_cons, hdedent, squeeze_eq_self h.description_spaced, unlines_lines,
      String.ofList_toList]

theorem filter_kind {ps : List Part} {kind : SectionKind} (h : ∀ p ∈ ps, p.kind = kind)
    (kind' : SectionKind) :
    (ps.map s.toSection).filter (·.header.kind == kind') =
      if kind = kind' then ps.map s.toSection else [] := by
  have hkind : ∀ t ∈ ps.map s.toSection, t.header.kind = kind := by
    intro t ht
    obtain ⟨p, hp, rfl⟩ := List.mem_map.mp ht
    exact h p hp
  split
  · rename_i heq
    rw [List.filter_eq_self]
    intro t ht
    rw [hkind t ht, heq, BEq.rfl]
  · rename_i hne
    rw [List.filter_eq_nil_iff]
    intro t ht
    rw [hkind t ht, beq_iff_eq]
    exact hne

theorem filter_parts (s : Style) (doc : DocBlock) (cut : String → List String)
    (kind : SectionKind) :
    ((s.parts doc cut).map s.toSection).filter (·.header.kind == kind) =
      match kind with
      | .parameters => (s.parameterParts doc cut).map s.toSection
      | .returns => (returnsParts doc).map s.toSection
      | .other => (otherParts doc).map s.toSection := by
  have hparameters : ∀ p ∈ s.parameterParts doc cut, p.kind = .parameters :=
    forall_mem_parameterParts rfl
  have hreturns : ∀ p ∈ returnsParts doc, p.kind = .returns := forall_mem_returnsParts rfl
  have hother : ∀ p ∈ otherParts doc, p.kind = .other := forall_mem_otherParts fun _ _ => rfl
  rw [parts, List.map_append, List.map_append, List.filter_append, List.filter_append,
    filter_kind hparameters, filter_kind hreturns, filter_kind hother]
  cases kind <;> simp

theorem readArguments_parts {known : Option (Table String)}
    (h : ∀ e ∈ doc.parameters.entries,
      IsEntry known s.underlined e.1 e.2 (s.entry e.1 (cut e.1))) :
    readArguments known ((s.parts doc cut).map s.toSection) =
      { docs := doc.parameters, seen := doc.parameters.keys } := by
  rw [readArguments, filter_parts]
  dsimp only
  rw [parameterParts]
  split
  · rename_i hempty
    have hentries : doc.parameters.entries = [] := by
      rwa [Table.isEmpty, List.isEmpty_iff] at hempty
    have htable : doc.parameters = .empty := Table.ext hentries
    rw [htable]
    rfl
  · rename_i hne
    have hentries : doc.parameters.entries ≠ [] := by
      intro hnil
      rw [Table.isEmpty, hnil] at hne
      exact hne rfl
    have htable : Table.ofList doc.parameters.entries = doc.parameters :=
      Table.ext (Table.entries_ofList doc.parameters.nodup)
    have hread := readSection_entries (fun n => s.entry n (cut n)) h hentries
      doc.parameters.nodup s.parametersTitle .parameters s.bare s.margin
    rw [htable] at hread
    exact hread

theorem text_toSection {text : String} (h : trim text.toList = text.toList) (s : Style)
    (title : String) (kind : SectionKind) :
    (s.toSection ⟨title, kind, lines text.toList⟩).text = text := by
  rw [toSection, Section.text, Section.lines]
  simp only [List.isEmpty_nil, if_true, body]
  rw [dedent_map_shifted h, String.ofList_toList]

theorem readReturns_parts (h : Printable doc cut) :
    readReturns ((s.parts doc cut).map s.toSection) = doc.returns := by
  rw [readReturns, filter_parts]
  dsimp only
  rw [returnsParts]
  split
  · rename_i hempty
    rw [String.isEmpty_iff] at hempty
    rw [hempty]
    rfl
  · rename_i hne
    rw [List.map_singleton, List.map_singleton, text_toSection h.returns_trimmed,
      List.filter_cons_of_pos (by simpa using hne)]
    simp

theorem foldl_addSection {es : List (String × String)} {f : String × String → Section}
    (htitle : ∀ e ∈ es, (f e).header.title = e.1) (htext : ∀ e ∈ es, (f e).text = e.2)
    (t : Table String) (hnew : (Entries.names (t.entries ++ es)).Nodup) :
    (es.map f).foldl addSection t = es.foldl (fun t e => t.insert e.1 e.2) t := by
  induction es generalizing t with
  | nil => rfl
  | cons e es ih =>
    have hfresh : e.1 ∉ t.keys := by
      rw [Entries.names, List.map_append, List.nodup_append] at hnew
      exact fun hm => hnew.2.2 _ hm _ (by simp) rfl
    have hstep : addSection t (f e) = t.insert e.1 e.2 := by
      rw [addSection, htitle e List.mem_cons_self, htext e List.mem_cons_self,
        Table.get?_eq_none_iff.mpr hfresh]
    rw [List.map_cons, List.foldl_cons, hstep, List.foldl_cons]
    refine ih (fun e he => htitle e (List.mem_cons_of_mem _ he))
      (fun e he => htext e (List.mem_cons_of_mem _ he)) _ ?_
    rwa [Table.entries_insert_of_not_mem hfresh, List.append_assoc]

theorem readSections_parts (h : Printable doc cut) :
    readSections ((s.parts doc cut).map s.toSection) = doc.sections := by
  rw [readSections, filter_parts]
  dsimp only
  rw [otherParts, List.map_map, foldl_addSection (t := .empty) _ _ doc.sections.nodup]
  · exact Table.ext (Table.entries_ofList doc.sections.nodup)
  · intro e _
    rfl
  · intro e he
    exact text_toSection (h.section_trimmed e he) s e.1 .other

theorem leastIndent_tail (hs : s.Recognised) (h : Printable doc cut) :
    leastIndent (s.printLines doc cut).tail = 0 := by
  have htail : (s.printLines doc cut).tail =
      (if doc.description.isEmpty then [] else [] :: lines doc.description.toList) ++
        (s.parts doc cut).flatMap s.partLines := rfl
  rw [htail]
  by_cases hempty : doc.description.isEmpty = true
  · rw [if_pos hempty, List.nil_append]
    cases hparts : s.parts doc cut with
    | nil => rfl
    | cons p ps =>
      have hp := mem_titles_of_mem_parts hs h p (hparts ▸ List.mem_cons_self)
      obtain ⟨l, hl, hat⟩ := hs.header_at_margin _ hp
      refine leastIndent_eq_zero ⟨l, ?_, hat⟩
      simp [partLines, hl]
  · rw [if_neg hempty]
    have hne : doc.description.toList ≠ [] := by simpa using hempty
    obtain ⟨c, first, rest, hls, hc⟩ := exists_lines_eq_cons h.description_trimmed hne
    refine leastIndent_eq_zero ⟨c :: first, ?_, ?_, ?_⟩
    · rw [hls]
      simp
    · rw [isAllBlank_cons, hc, Bool.false_and]
    · exact indentOf_indented_cons hc 0 first

/-- The block, written in one style, is a docstring of another, in which nothing is mistaken for
something else: they differ where tabs become spaces. -/
structure Legible (written s : Style) (doc : DocBlock) (cut : String → List String)
    (known : Option (Table String)) : Prop where
  recognised : s.Recognised
  oneLine : ∀ l ∈ written.printLines doc cut, '\n' ∉ l
  expanded : (written.printLines doc cut).map expandTabs = s.printLines doc cut
  headerFree : ∀ p ∈ s.parts doc cut, HeaderFree s.underlined (s.body p)
  isEntry : ∀ e ∈ doc.parameters.entries,
    IsEntry known s.underlined e.1 e.2 (s.entry e.1 (cut e.1))

theorem read_print {written : Style} {names : List String} {aliases : Table String}
    (h : Printable doc cut) (hs : Legible written s doc cut (knownNames names aliases))
    (hnames : names = [] ∨ names.Nodup ∧ doc.parameters.keys.Sublist names) :
    read (some (written.print doc cut)) names aliases = ⟨doc, []⟩ := by
  have hne : doc.title.toList ≠ [] := fun hnil => h.title_ne_empty (by simpa using hnil)
  have hcons : ∀ t : Style,
      t.printLines doc cut = doc.title.toList :: (t.printLines doc cut).tail :=
    fun _ => rfl
  have htail : (written.printLines doc cut).tail.map expandTabs = (s.printLines doc cut).tail := by
    rw [← hs.expanded, List.map_tail]
  have hsplit := split_parts hs.recognised (mem_titles_of_mem_parts hs.recognised h) hs.headerFree
    (m := false) (fun hm => absurd hm Bool.false_ne_true) h.no_header
  rw [print, hcons written, read_unlines h.title_trimmed hne h.title_tabFree, htail, ← hcons s,
    printLines, readLines_of_split hsplit, readParts, readPreamble_preamble h,
    readArguments_parts hs.isEntry, readReturns_parts h, readSections_parts h]
  · simp only [inDeclaredOrder_eq_self hnames]
    rfl
  · exact fun l hl => hs.oneLine l (hcons written ▸ hl)
  · rw [htail]
    exact leastIndent_tail hs.recognised h

end Style
end Docstring
end RBinding
