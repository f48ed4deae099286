import RBinding.Proofs.Docstring.Headings
import RBinding.Proofs.Docstring.Opening

/-!
# RBinding.Proofs.Docstring.Merging

Sections that come again. Texts of sections on results, and texts of further sections under one
title, are joined by line feeds, and those that are empty do not count (`joined`). Sections on
results are joined at once and further sections one by one, with the blank characters at the ends
cut off each time. Both are the same, as the text of a section is trimmed (`trim_text`), so what is
joined so far is trimmed as well (`trim_joined`), and to merge one text more is to join it
(`mergeText_joined`).

A title stands in one letter case in the table of titles, so it counts once whatever the letter case
of the header lines is (`Header.Names`).
-/

namespace RBinding
namespace Docstring

open Text

/-- The texts that are not empty, joined by line feeds. -/
def joined (texts : List String) : String :=
  "\n".intercalate (texts.filter (!·.isEmpty))

theorem joined_singleton (text : String) : joined [text] = text := by
  by_cases h : text = ""
  · simp [joined, h]
  · rw [joined, List.filter_cons_of_pos (by simpa using h), List.filter_nil,
      String.intercalate_singleton]

theorem joined_concat_empty (texts : List String) : joined (texts ++ [""]) = joined texts := by
  simp [joined]

theorem joined_eq_empty_iff {texts : List String} :
    joined texts = "" ↔ texts.filter (!·.isEmpty) = [] := by
  constructor
  · intro h
    rw [joined] at h
    rcases hkept : texts.filter (!·.isEmpty) with _ | ⟨a, _ | ⟨b, kept⟩⟩
    · exact hkept
    · have ha := List.of_mem_filter (hkept ▸ List.mem_cons_self (a := a))
      rw [hkept, String.intercalate_singleton] at h
      simp [h] at ha
    · rw [hkept, String.intercalate_cons_cons, String.append_eq_empty_iff,
        String.append_eq_empty_iff] at h
      simp at h
  · intro h
    rw [joined, h, String.intercalate_nil]

theorem joined_concat_of_eq_empty {texts : List String} (h : joined texts = "") (text : String) :
    joined (texts ++ [text]) = text := by
  rw [joined, List.filter_append, joined_eq_empty_iff.mp h, List.nil_append]
  exact joined_singleton text

theorem joined_concat_of_ne {texts : List String} {text : String} (h : joined texts ≠ "")
    (htext : text ≠ "") : joined (texts ++ [text]) = joined texts ++ "\n" ++ text := by
  have hkept : texts.filter (!·.isEmpty) ≠ [] := fun hnil => h (joined_eq_empty_iff.mpr hnil)
  have hlast : [text].filter (!·.isEmpty) = [text] := by simp [htext]
  rw [joined, List.filter_append, hlast,
    String.intercalate_append_of_ne_nil hkept (List.cons_ne_nil text []),
    String.intercalate_singleton]
  rfl

def Trimmed (text : String) : Prop :=
  trim text.toList = text.toList

theorem trim_text (s : Section) : Trimmed s.text := by
  rw [Trimmed, Section.text, String.toList_ofList]
  exact trim_trim _

theorem Trimmed.append {before after : String} (hbefore : Trimmed before) (hne : before ≠ "")
    (hafter : Trimmed after) (hne' : after ≠ "") : Trimmed (before ++ "\n" ++ after) := by
  rw [Trimmed, String.toList_append, String.toList_append]
  exact trim_append_append hbefore (by simpa using hne) hafter (by simpa using hne') _

theorem trim_joined {texts : List String} (h : ∀ text ∈ texts, Trimmed text) :
    Trimmed (joined texts) := by
  induction texts using List.reverseRecOn with
  | nil => rfl
  | append_singleton texts text ih =>
    obtain ⟨htexts, htext⟩ := List.forall_mem_append.mp h
    have htext : Trimmed text := htext text List.mem_cons_self
    by_cases hempty : joined texts = ""
    · rwa [joined_concat_of_eq_empty hempty]
    · by_cases hlast : text = ""
      · rw [hlast, joined_concat_empty]
        exact ih htexts
      · rw [joined_concat_of_ne hempty hlast]
        exact (ih htexts).append hempty htext hlast

/-- Merging keeps to the joined texts: the line feed that it adds next to an empty text is cut off
again, and otherwise nothing is. -/
theorem mergeText_joined {texts : List String} (h : ∀ text ∈ texts, Trimmed text) {text : String}
    (htext : Trimmed text) : mergeText (joined texts) text = joined (texts ++ [text]) := by
  have hfeed : isAllBlank "\n".toList = true := rfl
  have htexts := trim_joined h
  rw [mergeText]
  by_cases hlast : text = ""
  · rw [hlast, joined_concat_empty, String.append_empty, String.toList_append,
      trim_append_of_isAllBlank _ hfeed, htexts, String.ofList_toList]
  · by_cases hempty : joined texts = ""
    · rw [hempty, joined_concat_of_eq_empty hempty, String.empty_append, String.toList_append,
        trim_of_isAllBlank_append hfeed, htext, String.ofList_toList]
    · rw [joined_concat_of_ne hempty hlast, htexts.append hempty htext hlast, String.ofList_toList]

def furtherTitles (sections : List Section) : List String :=
  ((sections.filter (·.header.kind == .other)).map (·.header.title)).eraseDups

theorem keys_readSections (sections : List Section) :
    (readSections sections).keys = furtherTitles sections := by
  have hwrite : ∀ (t : Table String) (s : Section),
      ∃ value, addSection t s = t.insert s.header.title value := by
    intro t s
    rw [addSection]
    split
    · exact ⟨_, rfl⟩
    · exact ⟨_, rfl⟩
  rw [readSections, Table.keys_foldl_write hwrite]
  simp [furtherTitles]

theorem get?_addSection_of_ne (t : Table String) {s : Section} {title : String}
    (h : title ≠ s.header.title) : (addSection t s).get? title = t.get? title := by
  rw [addSection]
  split
  · exact t.get?_insert_of_ne h _
  · exact t.get?_insert_of_ne h _

theorem get?_addSection_none {t : Table String} {s : Section}
    (h : t.get? s.header.title = none) : (addSection t s).get? s.header.title = some s.text := by
  rw [addSection, h]
  exact t.get?_insert_self _ _

theorem get?_addSection_some {t : Table String} {s : Section} {before : String}
    (h : t.get? s.header.title = some before) :
    (addSection t s).get? s.header.title = some (mergeText before s.text) := by
  rw [addSection, h]
  exact t.get?_insert_self _ _

/-- The texts of the sections under a title, in order. -/
def textsUnder (title : String) (sections : List Section) : List String :=
  (sections.filter (·.header.title == title)).map Section.text

theorem textsUnder_concat_of_ne {title : String} {s : Section} (h : title ≠ s.header.title)
    (sections : List Section) :
    textsUnder title (sections ++ [s]) = textsUnder title sections := by
  simp [textsUnder, Ne.symm h]

theorem textsUnder_concat_self (sections : List Section) (s : Section) :
    textsUnder s.header.title (sections ++ [s]) =
      textsUnder s.header.title sections ++ [s.text] := by
  simp [textsUnder]

theorem textsUnder_eq_nil {title : String} {sections : List Section}
    (h : title ∉ sections.map (·.header.title)) : textsUnder title sections = [] := by
  rw [textsUnder, List.map_eq_nil_iff, List.filter_eq_nil_iff]
  intro s hs heq
  exact h (List.mem_map.mpr ⟨s, hs, by simpa using heq⟩)

/-- What stands under a title after some sections. By induction on the sections, from the last: one
under another title changes nothing, and one under this title is merged with what is joined so
far. -/
theorem get?_foldl_addSection (sections : List Section) (title : String) :
    (sections.foldl addSection .empty).get? title =
      if title ∈ sections.map (·.header.title) then some (joined (textsUnder title sections))
      else none := by
  induction sections using List.reverseRecOn with
  | nil => rfl
  | append_singleton sections s ih =>
    have htrimmed : ∀ text ∈ textsUnder title sections, Trimmed text := by
      intro text htext
      obtain ⟨s', -, rfl⟩ := List.mem_map.mp htext
      exact trim_text s'
    rw [List.foldl_append, List.foldl_cons, List.foldl_nil]
    by_cases htitle : title = s.header.title
    · subst htitle
      rw [if_pos (by simp), textsUnder_concat_self]
      by_cases hbefore : s.header.title ∈ sections.map (·.header.title)
      · rw [if_pos hbefore] at ih
        rw [get?_addSection_some ih, mergeText_joined htrimmed (trim_text s)]
      · rw [if_neg hbefore] at ih
        rw [get?_addSection_none ih, textsUnder_eq_nil hbefore, List.nil_append, joined_singleton]
    · rw [get?_addSection_of_ne _ htitle, ih, textsUnder_concat_of_ne htitle]
      simp [htitle]

namespace Header

theorem kind_unique : ∀ t ∈ titles, ∀ t' ∈ titles, t.1 = t'.1 → t = t' := by decide

/-- What a header line says before the underline or the colon. -/
def written (underlined : Bool) (l : Line) : List Char :=
  if underlined then trim l else trimEnd ((trim l).takeWhile (· != ':'))

/-- The line names the header by its title, in any letter case. -/
def Names (h : Header) (l : Line) : Prop :=
  (written h.underlined l).map lowerCase = h.title.toList.map Char.toLower

theorem names_of_underlined? {l : Line} {next : Option Line} {h : Header}
    (heq : underlined? l next = some h) : h.Names l := by
  obtain ⟨_, title, kind, -, -, ht, hspells, rfl⟩ := underlined?_eq_some_iff.mp heq
  exact hspells.trans (title_lowerCase _ ht)

theorem names_of_withColon? {l : Line} {h : Header} (heq : withColon? l = some h) : h.Names l := by
  rw [withColon?] at heq
  split at heq
  · cases heq
  · split at heq
    · cases heq
    · rename_i hfind
      obtain ⟨ht, -, hspells⟩ := find?_map_toLower.mp hfind
      dsimp only at heq
      split at heq
      · cases heq
        exact hspells.trans (title_lowerCase _ ht)
      · cases heq

theorem names_of_at? {onlyUnderlined : Bool} {l : Line} {next : Option Line} {h : Header}
    (hat : at? onlyUnderlined l next = some h) : h.Names l := by
  obtain ⟨-, -, hunderlined | ⟨-, hcolon⟩⟩ := at?_eq_some hat
  · exact names_of_underlined? hunderlined
  · exact names_of_withColon? hcolon

end Header

theorem comesFrom_sectionsOf (raw : Option String) :
    ∀ s ∈ sectionsOf raw, s.ComesFrom (cleanedLines raw) := by
  cases raw with
  | none =>
    intro s hs
    cases hs
  | some text =>
    rw [sectionsOf]
    split
    · intro s hs
      cases hs
    · exact (Section.comesFrom_split false (clean text.toList)).2

theorem textsUnder_filter_other {raw : Option String} {title : String}
    (h : title ∈ ((sectionsOf raw).filter (·.header.kind == .other)).map (·.header.title)) :
    textsUnder title ((sectionsOf raw).filter (·.header.kind == .other)) =
      textsUnder title (sectionsOf raw) := by
  obtain ⟨s, hs, rfl⟩ := List.mem_map.mp h
  obtain ⟨hs, hkind⟩ := List.mem_filter.mp hs
  rw [textsUnder, textsUnder, List.filter_filter]
  congr 1
  refine List.filter_congr fun s' hs' => ?_
  by_cases htitle : s'.header.title = s.header.title
  · have hsame := Header.kind_unique _ (comesFrom_sectionsOf raw s' hs').title_mem _
      (comesFrom_sectionsOf raw s hs).title_mem htitle
    have hkind' : s'.header.kind = s.header.kind := congrArg Prod.snd hsame
    rw [hkind', hkind, Bool.and_true]
  · simp [htitle]

/-- What is read of the result and of further sections comes from the sections alone, and the title
is read before the parameters are known. -/
theorem read_of_sections (raw : Option String) (names : List String) (aliases : Table String) :
    (read raw names aliases).block.returns = readReturns (sectionsOf raw) ∧
      (read raw names aliases).block.sections = readSections (sectionsOf raw) ∧
      (read raw names aliases).block.title = (read raw [] .empty).block.title := by
  cases raw with
  | none => exact ⟨rfl, rfl, rfl⟩
  | some text =>
    rw [read, read, sectionsOf]
    split
    · exact ⟨rfl, rfl, rfl⟩
    · exact ⟨rfl, rfl, rfl⟩

/-- Sections that come again are merged without loss, and neither they nor the title depend on what
parameters there are. -/
theorem sections_merged (raw : Option String) (names : List String) (aliases : Table String) :
    (read raw names aliases).block.returns =
        joined (((sectionsOf raw).filter (·.header.kind == .returns)).map Section.text) ∧
      (read raw names aliases).block.sections.entries =
        (furtherTitles (sectionsOf raw)).map
          (fun title => (title, joined (textsUnder title (sectionsOf raw)))) ∧
      (∀ s ∈ sectionsOf raw, ∃ l ∈ cleanedLines raw, s.header.Names l) ∧
      ∀ (names' : List String) (aliases' : Table String),
        (read raw names' aliases').block.title = (read raw names aliases).block.title ∧
          (read raw names' aliases').block.returns = (read raw names aliases).block.returns ∧
          (read raw names' aliases').block.sections = (read raw names aliases).block.sections := by
  obtain ⟨hreturns, hsections, htitle⟩ := read_of_sections raw names aliases
  refine ⟨hreturns, ?_, ?_, ?_⟩
  · have hunder : ∀ title ∈ (readSections (sectionsOf raw)).keys,
        (readSections (sectionsOf raw)).get? title =
          some (joined (textsUnder title (sectionsOf raw))) := by
      intro title hmem
      rw [keys_readSections, furtherTitles, List.mem_eraseDups] at hmem
      rw [readSections, get?_foldl_addSection, if_pos hmem, textsUnder_filter_other hmem]
    rw [hsections, Table.entries_eq_map_keys hunder, keys_readSections]
  · intro s hs
    obtain ⟨_, l, hl, _, hat⟩ := (comesFrom_sectionsOf raw s hs).header
    exact ⟨l, hl, Header.names_of_at? hat⟩
  · intro names' aliases'
    obtain ⟨hreturns', hsections', htitle'⟩ := read_of_sections raw names' aliases'
    exact ⟨htitle'.trans htitle.symm, hreturns'.trans hreturns.symm,
      hsections'.trans hsections.symm⟩

end Docstring
end RBinding
