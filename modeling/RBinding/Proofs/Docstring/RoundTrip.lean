import RBinding.Proofs.Docstring.Styles

/-!
# RBinding.Proofs.Docstring.RoundTrip

Reading undoes writing. A printable block that is written with colons is read back, whatever way
the texts of its parameters are cut into lines (`read_colons`). Written with underlines it is read
back as well, whatever the types are that its entries state (`read_underlines_eq_read_colons`), as
long as no line of a text is made of dashes: such a line below a title is an underline, also where
blank characters stand around it (`read_indented_dashes`).
-/

namespace RBinding
namespace Docstring

open Text Arguments

theorem not_mem_of_isIdentifier {x : Char} (hx : EntryForm.isTokenChar x = false) {name : String}
    (h : isIdentifier name = true) : x ∉ name.toList := by
  obtain ⟨c, cs, hname, hc, hcs⟩ := exists_cons_of_isIdentifier h
  rw [hname]
  intro hmem
  have hchar : EntryForm.isTokenChar x = true := by
    rcases List.mem_cons.mp hmem with rfl | hmem
    · exact EntryForm.isTokenChar_of_isTokenStart hc
    · exact hcs x hmem
  rw [hx] at hchar
  cases hchar

namespace Style

variable {s : Style} {doc : DocBlock} {cut : String → List String}

theorem not_mem_preamble {x : Char} (htitle : x ∉ doc.title.toList)
    (hdescription : ∀ l ∈ lines doc.description.toList, x ∉ l) : ∀ l ∈ preamble doc, x ∉ l := by
  intro l hl
  rw [preamble] at hl
  rcases List.mem_cons.mp hl with rfl | hl
  · exact htitle
  · split at hl
    · cases hl
    · rcases List.mem_cons.mp hl with rfl | hl
      · exact List.not_mem_nil
      · exact hdescription l hl

theorem not_mem_partLines {x : Char} (hx : x ≠ ' ') {p : Part}
    (hheader : ∀ l ∈ s.header p.title, x ∉ l) (hbody : ∀ l ∈ p.body, x ∉ l) :
    ∀ l ∈ s.partLines p, x ∉ l := by
  intro l hl
  rw [partLines, List.cons_append, List.mem_cons, List.mem_append] at hl
  rcases hl with rfl | hl | hl
  · exact List.not_mem_nil
  · exact hheader l hl
  · obtain ⟨l', hl', rfl⟩ := List.mem_map.mp hl
    exact not_mem_shifted hx (hbody l' hl') _ _

theorem oneLine_printLines (hs : s.Recognised) (h : Printable doc cut)
    (hentry : ∀ name ∈ doc.parameters.keys, ∀ l ∈ s.entry name (cut name), '\n' ∉ l) :
    ∀ l ∈ s.printLines doc cut, '\n' ∉ l := by
  have hbody : ∀ p ∈ s.parts doc cut, ∀ l ∈ p.body, '\n' ∉ l := by
    refine forall_mem_parts ?_ (fun l hl => not_mem_of_mem_lines hl) fun e _ l hl =>
      not_mem_of_mem_lines hl
    intro l hl
    obtain ⟨name, hname, hl⟩ := List.mem_flatMap.mp hl
    exact hentry name hname l hl
  intro l hl
  rw [printLines, List.mem_append, List.mem_flatMap] at hl
  rcases hl with hl | ⟨p, hp, hl⟩
  · exact not_mem_preamble h.title_oneLine (fun l hl => not_mem_of_mem_lines hl) l hl
  · have htitle := mem_titles_of_mem_parts hs h p hp
    exact not_mem_partLines (by decide) (fun l hl => (hs.header_plain _ htitle l hl).1)
      (hbody p hp) l hl

theorem map_expandTabs_eq_self {ls : List Line} (h : ∀ l ∈ ls, '\t' ∉ l) :
    ls.map expandTabs = ls := by
  calc ls.map expandTabs = ls.map id :=
        List.map_congr_left fun l hl => expandTabsAt_eq_self (h l hl) 0
    _ = ls := List.map_id ls

theorem map_expandTabs_flatMap {ps : List Part} (h : ∀ p ∈ ps, ∀ l ∈ s.partLines p, '\t' ∉ l) :
    (ps.flatMap s.partLines).map expandTabs = ps.flatMap s.partLines := by
  apply map_expandTabs_eq_self
  intro l hl
  obtain ⟨p, hp, hl⟩ := List.mem_flatMap.mp hl
  exact h p hp l hl

/-- Tabs of a written block become spaces in its entries, and nowhere else. -/
theorem map_expandTabs_printLines (hs : s.Recognised) (h : Printable doc cut)
    (entry : String → List String → List Line)
    (hentry : ∀ name ∈ doc.parameters.keys,
      ((s.entry name (cut name)).map (shifted s.bare s.margin)).map expandTabs =
        (entry name (cut name)).map (shifted s.bare s.margin)) :
    (s.printLines doc cut).map expandTabs = { s with entry := entry }.printLines doc cut := by
  have hheader : ∀ t ∈ Header.titles, ∀ l ∈ s.header t.1, '\t' ∉ l := fun t ht l hl =>
    (hs.header_plain t ht l hl).2
  have hlines : ∀ text : String, '\t' ∉ text.toList → ∀ l ∈ lines text.toList, '\t' ∉ l :=
    fun text htext l hl hmem => htext (mem_of_mem_lines hl hmem)
  have hpreamble : (preamble doc).map expandTabs = preamble doc :=
    map_expandTabs_eq_self (not_mem_preamble h.title_tabFree (hlines _ h.description_tabFree))
  have hparameters : ((s.parameterParts doc cut).flatMap s.partLines).map expandTabs =
      ({ s with entry := entry }.parameterParts doc cut).flatMap s.partLines := by
    rw [parameterParts, parameterParts]
    split
    · rfl
    · simp only [List.flatMap_singleton, partLines, body, List.cons_append, List.map_cons,
        List.map_append, List.map_flatMap]
      congr 1
      congr 1
      · exact map_expandTabs_eq_self (hheader _ hs.parametersTitle_mem)
      · exact List.flatMap_congr fun name hname => hentry name hname
  have hreturns : ((returnsParts doc).flatMap s.partLines).map expandTabs =
      (returnsParts doc).flatMap s.partLines := by
    apply map_expandTabs_flatMap
    exact forall_mem_returnsParts (not_mem_partLines (by decide) (hheader _ returnsTitle_mem)
      (hlines _ h.returns_tabFree))
  have hother : ((otherParts doc).flatMap s.partLines).map expandTabs =
      (otherParts doc).flatMap s.partLines := by
    apply map_expandTabs_flatMap
    refine forall_mem_otherParts fun e he => ?_
    exact not_mem_partLines (by decide)
      (hheader _ (h.section_title e.1 (Table.mem_keys_of_mem_entries he)))
      (hlines _ (h.section_tabFree e he))
  rw [printLines, parts, List.flatMap_append, List.flatMap_append, List.map_append,
    List.map_append, List.map_append, hpreamble, hparameters, hreturns, hother]
  rw [printLines, parts, List.flatMap_append, List.flatMap_append]
  rfl

theorem not_mem_entry_colons {x : Char} (hcolon : x ≠ ':') (hspace : x ≠ ' ') {name : String}
    {fragments : List String} (hname : x ∉ name.toList)
    (hfragments : ∀ f ∈ fragments, x ∉ f.toList) (bare : Bool) :
    ∀ l ∈ (colons bare).entry name fragments, x ∉ l := by
  have hhead : x ∉ (fragments.headD "").toList := by
    cases fragments with
    | nil => exact List.not_mem_nil
    | cons f fragments => exact hfragments f List.mem_cons_self
  intro l hl
  rcases List.mem_cons.mp hl with rfl | hl
  · rw [List.mem_append, List.mem_cons, List.mem_cons]
    rintro (hm | hm | hm | hm)
    · exact hname hm
    · exact hcolon hm
    · exact hspace hm
    · exact hhead hm
  · obtain ⟨f, hf, rfl⟩ := List.mem_map.mp hl
    exact not_mem_shifted hspace (hfragments f (List.mem_of_mem_tail hf)) false 4

theorem headerFree_body_colons (bare : Bool) (p : Part) :
    HeaderFree false ((colons bare).body p) := by
  apply headerFree_of_forall
  intro l hl
  obtain ⟨l, _, rfl⟩ := List.mem_map.mp hl
  cases hb : isAllBlank l with
  | true =>
    left
    rw [isAllBlank_shifted, hb]
  | false =>
    right
    rw [shifted_of_not_isAllBlank hb, indentOf_indented]
    exact Nat.add_pos_left (Nat.succ_pos 3) _

theorem legible_colons (h : Printable doc cut) (bare : Bool) {known : Option (Table String)}
    (hknown : ∀ name ∈ doc.parameters.keys, Admits known name) :
    Legible (colons bare) (colons bare) doc cut known := by
  have hentry : ∀ x, (x = '\n' ∨ x = '\t') → ∀ name ∈ doc.parameters.keys,
      ∀ l ∈ (colons bare).entry name (cut name), x ∉ l := by
    intro x hx name hname
    have hf := h.text_fragments name hname
    rcases hx with rfl | rfl
    · exact not_mem_entry_colons (by decide) (by decide)
        (not_mem_of_isIdentifier (by decide) (h.name_identifier name hname))
        (fun f hm => (hf f hm).oneLine) bare
    · exact not_mem_entry_colons (by decide) (by decide)
        (not_mem_of_isIdentifier (by decide) (h.name_identifier name hname))
        (fun f hm => (hf f hm).tabFree) bare
  refine ⟨recognised_colons bare,
    oneLine_printLines (recognised_colons bare) h (hentry '\n' (.inl rfl)), ?_,
    fun p _ => headerFree_body_colons bare p, ?_⟩
  · refine map_expandTabs_printLines (recognised_colons bare) h _ fun name hname => ?_
    apply map_expandTabs_eq_self
    intro l hl
    obtain ⟨l', hl', rfl⟩ := List.mem_map.mp hl
    exact not_mem_shifted (by decide) (hentry '\t' (.inr rfl) name hname l' hl') _ _
  · intro e he
    have hkey := Table.mem_keys_of_mem_entries he
    have hread := isEntry_colons bare (h.name_identifier e.1 hkey) (hknown e.1 hkey)
      (h.text_fragments e.1 hkey)
    rwa [h.text_joined e he] at hread

def isDashes (l : Line) : Bool :=
  3 ≤ l.length && l.all (· == '-')

/-- The fragments of texts of parameters, and the lines of the texts of results and of further
sections. -/
@[mk_iff]
structure TextLines (doc : DocBlock) (cut : String → List String) (P : Line → Prop) : Prop where
  fragment : ∀ name ∈ doc.parameters.keys, ∀ f ∈ cut name, P f.toList
  returns : ∀ l ∈ lines doc.returns.toList, P l
  sections : ∀ e ∈ doc.sections.entries, ∀ l ∈ lines e.2.toList, P l

instance (doc : DocBlock) (cut : String → List String) (P : Line → Prop) [DecidablePred P] :
    Decidable (TextLines doc cut P) :=
  decidable_of_iff' _ (textLines_iff doc cut P)

theorem isUnderline_eq (l : Line) : Header.isUnderline l = isDashes (trim l) := rfl

theorem isUnderline_of_not_dash {c : Char} (hblank : isBlank c = false) (hdash : c ≠ '-')
    (cs : List Char) : Header.isUnderline (c :: cs) = false := by
  have htrim : trim (c :: cs) = c :: trimEnd cs := by
    rw [trim, trimStart_cons_of_not_isBlank hblank]
    exact trimEnd_append_cons [] hblank cs
  rw [isUnderline_eq, htrim, isDashes, List.all_cons, beq_eq_false_iff_ne.mpr hdash,
    Bool.false_and, Bool.and_false]

theorem exists_typedName_eq_cons {name : String} (h : isIdentifier name = true)
    (type : Option String) :
    ∃ c cs, typedName name type = c :: cs ∧ isBlank c = false ∧ c ≠ '-' := by
  obtain ⟨c, cs, hname, hc, _⟩ := exists_cons_of_isIdentifier h
  have hblank := EntryForm.isBlank_of_isTokenChar (EntryForm.isTokenChar_of_isTokenStart hc)
  have hdash : c ≠ '-' := by
    rintro rfl
    cases hc
  cases type with
  | none => exact ⟨c, cs, hname, hblank, hdash⟩
  | some type => exact ⟨c, _, by rw [typedName, hname]; rfl, hblank, hdash⟩

theorem headerFree_body_underlines (h : Printable doc cut)
    (hdashes : TextLines doc cut fun l => isDashes (trim l) = false)
    (dashes : String → Nat) (types : String → Option String) :
    ∀ p ∈ (underlines dashes types).parts doc cut,
      HeaderFree true ((underlines dashes types).body p) := by
  have hlines : ∀ p ∈ (underlines dashes types).parts doc cut,
      ∀ l ∈ p.body, Header.isUnderline l = false := by
    refine forall_mem_parts ?_ hdashes.returns hdashes.sections
    intro l hl
    obtain ⟨name, hname, hl⟩ := List.mem_flatMap.mp hl
    rcases List.mem_cons.mp hl with rfl | hl
    · obtain ⟨c, cs, hline, hblank, hdash⟩ :=
        exists_typedName_eq_cons (h.name_identifier name hname) (types name)
      rw [hline]
      exact isUnderline_of_not_dash hblank hdash cs
    · obtain ⟨f, hf, rfl⟩ := List.mem_map.mp hl
      rw [isUnderline_eq, trim_indented]
      exact hdashes.fragment name hname f hf
  intro p hp
  change HeaderFree true (p.body.map (shifted false 0))
  rw [map_shifted_zero]
  exact headerFree_of_not_isUnderline (hlines p hp)

/-- The types as they are once tabs are spaces. -/
def expandedTypes (types : String → Option String) (name : String) : Option String :=
  (types name).map fun type => String.ofList (expandTabsAt (name.toList.length + 3) type.toList)

theorem expandTabs_typedName {name : String} (h : isIdentifier name = true)
    (types : String → Option String) :
    expandTabs (typedName name (types name)) = typedName name (expandedTypes types name) := by
  have hplain : ∀ c ∈ name.toList, c ≠ '\t' ∧ c ≠ '\n' ∧ c ≠ '\r' := by
    intro c hc
    refine ⟨?_, ?_, ?_⟩ <;>
      exact fun heq => not_mem_of_isIdentifier (by decide) h (heq ▸ hc)
  rw [expandedTypes]
  cases types name with
  | none => exact expandTabsAt_eq_self (fun hm => (hplain _ hm).1 rfl) 0
  | some type =>
    have hsplit : typedName name (some type) = (name.toList ++ [' ', ':', ' ']) ++ type.toList := by
      simp [typedName]
    rw [hsplit, expandTabs, expandTabsAt_append]
    · simp [typedName]
    · intro c hc
      rcases List.mem_append.mp hc with hc | hc
      · exact hplain c hc
      · refine ⟨?_, ?_, ?_⟩ <;> rintro rfl <;> revert hc <;> decide

theorem oneLine_typedName {name : String} (h : isIdentifier name = true)
    {types : String → Option String}
    (htypes : ∀ type, types name = some type → '\n' ∉ type.toList) :
    '\n' ∉ typedName name (types name) := by
  have hname := not_mem_of_isIdentifier (x := '\n') (by decide) h
  cases htype : types name with
  | none => exact hname
  | some type =>
    rw [typedName, List.mem_append]
    rintro (hm | hm)
    · exact hname hm
    · exact htypes type htype (by simpa using hm)

theorem legible_underlines (h : Printable doc cut)
    (hdashes : TextLines doc cut fun l => isDashes (trim l) = false)
    (dashes : String → Nat) {types : String → Option String}
    (htypes : ∀ name type, types name = some type → '\n' ∉ type.toList)
    {known : Option (Table String)}
    (hknown : ∀ name ∈ doc.parameters.keys, ∃ t, known = some t ∧ t.get? name = some name) :
    Legible (underlines dashes types) (underlines dashes (expandedTypes types)) doc cut known := by
  refine ⟨recognised_underlines dashes _, ?_, ?_, headerFree_body_underlines h hdashes dashes _, ?_⟩
  · refine oneLine_printLines (recognised_underlines dashes types) h fun name hname l hl => ?_
    rcases List.mem_cons.mp hl with rfl | hl
    · exact oneLine_typedName (h.name_identifier name hname) (htypes name)
    · obtain ⟨f, hf, rfl⟩ := List.mem_map.mp hl
      exact not_mem_shifted (by decide) (h.text_fragments name hname f hf).oneLine false 4
  · refine map_expandTabs_printLines (recognised_underlines dashes types) h
      (underlines dashes (expandedTypes types)).entry fun name hname => ?_
    have hfragments : ∀ l ∈ (cut name).map (fun f => indented 4 f.toList), '\t' ∉ l := by
      intro l hl
      obtain ⟨f, hf, rfl⟩ := List.mem_map.mp hl
      exact not_mem_shifted (by decide) (h.text_fragments name hname f hf).tabFree false 4
    change ((typedName name (types name) :: (cut name).map fun f => indented 4 f.toList).map
      (shifted false 0)).map expandTabs = (typedName name (expandedTypes types name) ::
        (cut name).map fun f => indented 4 f.toList).map (shifted false 0)
    rw [map_shifted_zero, map_shifted_zero, List.map_cons,
      expandTabs_typedName (h.name_identifier name hname), map_expandTabs_eq_self hfragments]
  · intro e he
    have hkey := Table.mem_keys_of_mem_entries he
    obtain ⟨t, rfl, hget⟩ := hknown e.1 hkey
    have hread := isEntry_underlines dashes (expandedTypes types) (h.name_identifier e.1 hkey) hget
      (h.text_fragments e.1 hkey)
    rwa [h.text_joined e he] at hread

end Style

open Style

/-- Declared names that leave the parameters of a block as they are: none, or all of its
parameters and possibly others, in the same order. -/
def Fits (doc : DocBlock) (names : List String) (aliases : Table String) : Prop :=
  names = [] ∧ aliases.isEmpty = true ∨ names.Nodup ∧ doc.parameters.keys.Sublist names

instance (doc : DocBlock) (names : List String) (aliases : Table String) :
    Decidable (Fits doc names aliases) :=
  inferInstanceAs (Decidable (_ ∨ _))

theorem admits_of_fits {doc : DocBlock} {names : List String} {aliases : Table String}
    (h : Fits doc names aliases) : ∀ name ∈ doc.parameters.keys,
      Admits (knownNames names aliases) name := by
  intro name hname t ht
  rcases h with ⟨rfl, haliases⟩ | ⟨_, hsub⟩
  · rw [knownNames, haliases] at ht
    cases ht
  · obtain ⟨t', ht', hget⟩ := exists_knownNames (hsub.subset hname) aliases
    rw [ht'] at ht
    cases ht
    exact hget

/-- Reading undoes writing with colons. -/
theorem read_colons {doc : DocBlock} {cut : String → List String} (h : Printable doc cut)
    (bare : Bool) {names : List String} {aliases : Table String} (hnames : Fits doc names aliases) :
    read (some ((colons bare).print doc cut)) names aliases = ⟨doc, []⟩ :=
  read_print h (legible_colons h bare (admits_of_fits hnames)) (hnames.imp_left And.left)

/-- Documentation of a function that clamps, with names of parameters that are titles of sections
and texts that look like entries and headers. -/
def clampDoc : DocBlock where
  title := "Clamp a value."
  description := "Keeps it in range:\n  Returns: never\n\nno more."
  parameters := Table.ofList [("value", "What to clamp. low: not this"), ("returns", "")]
  returns := "number\n    Notes:\n\n- within range"
  sections := Table.ofList [("See Also", ""), ("Note", "a\n  b")]

def clampCut (name : String) : List String :=
  if name = "value" then ["What to clamp.", "low: not this"] else []

theorem read_colons_clampDoc :
    (Printable clampDoc clampCut ∧ Fits clampDoc ["low", "value", "returns"] .empty) ∧
      read (some ((colons true).print clampDoc clampCut)) ["low", "value", "returns"] .empty =
        ⟨clampDoc, []⟩ :=
  have h : Printable clampDoc clampCut := by decide
  have hnames : Fits clampDoc ["low", "value", "returns"] .empty := by decide
  ⟨⟨h, hnames⟩, read_colons h true hnames⟩

/-- What is written with underlines reads like what is written with colons. -/
theorem read_underlines_eq_read_colons {doc : DocBlock} {cut : String → List String}
    (h : Printable doc cut)
    (hdashes : TextLines doc cut fun l => isDashes (trim l) = false)
    (dashes : String → Nat) {types : String → Option String}
    (htypes : ∀ name type, types name = some type → '\n' ∉ type.toList) (bare : Bool)
    {names : List String} (hnodup : names.Nodup) (hsub : doc.parameters.keys.Sublist names)
    (aliases : Table String) :
    read (some ((underlines dashes types).print doc cut)) names aliases =
        read (some ((colons bare).print doc cut)) names aliases ∧
      read (some ((underlines dashes types).print doc cut)) names aliases = ⟨doc, []⟩ := by
  have hknown : ∀ name ∈ doc.parameters.keys,
      ∃ t, knownNames names aliases = some t ∧ t.get? name = some name := fun name hname =>
    exists_knownNames (hsub.subset hname) aliases
  have hfits : Fits doc names aliases := .inr ⟨hnodup, hsub⟩
  have hunderlines := read_print h (legible_underlines h hdashes dashes htypes hknown)
    (.inr ⟨hnodup, hsub⟩)
  have hcolons := read_print h (legible_colons h bare (admits_of_fits hfits))
    (.inr ⟨hnodup, hsub⟩)
  exact ⟨hunderlines.trans hcolons.symm, hunderlines⟩

def clampTypes (name : String) : Option String :=
  if name = "value" then some "int or\tfloat" else none

theorem read_underlines_clampDoc :
    (Printable clampDoc clampCut ∧
        (TextLines clampDoc clampCut fun l => isDashes (trim l) = false) ∧
        (∀ name type, clampTypes name = some type → '\n' ∉ type.toList) ∧
        ["low", "value", "returns"].Nodup ∧
        clampDoc.parameters.keys.Sublist ["low", "value", "returns"]) ∧
      read (some ((underlines String.length clampTypes).print clampDoc clampCut))
          ["low", "value", "returns"] .empty =
        read (some ((colons false).print clampDoc clampCut)) ["low", "value", "returns"] .empty ∧
      read (some ((underlines String.length clampTypes).print clampDoc clampCut))
          ["low", "value", "returns"] .empty = ⟨clampDoc, []⟩ := by
  have h : Printable clampDoc clampCut := by decide
  have hdashes : TextLines clampDoc clampCut fun l => isDashes (trim l) = false := by decide
  have htypes : ∀ name type, clampTypes name = some type → '\n' ∉ type.toList := by
    intro name type htype
    rw [clampTypes] at htype
    split at htype
    · cases htype
      decide
    · cases htype
  have hnodup : ["low", "value", "returns"].Nodup := by decide
  have hsub : clampDoc.parameters.keys.Sublist ["low", "value", "returns"] := by decide
  exact ⟨⟨h, hdashes, htypes, hnodup, hsub⟩,
    read_underlines_eq_read_colons h hdashes String.length htypes false hnodup hsub .empty⟩

def notedDoc : DocBlock where
  title := "Clamp a value."
  returns := "Notes\n ---\nnone"

/-- Dashes with a space before them are an underline too, so it is not enough that no line
consists of dashes only. -/
theorem read_indented_dashes :
    Printable notedDoc (fun _ => []) ∧
      (TextLines notedDoc (fun _ => []) fun l => isDashes l = false) ∧
      read (some ((underlines (fun _ => 4) fun _ => none).print notedDoc fun _ => [])) [] .empty ≠
        read (some ((colons false).print notedDoc fun _ => [])) [] .empty := by
  have h : Printable notedDoc fun _ => [] := by decide
  have hdashes : TextLines notedDoc (fun _ => []) fun l => isDashes l = false := by decide
  refine ⟨h, hdashes, fun heq => ?_⟩
  have hfits : Fits notedDoc [] .empty := .inl ⟨rfl, rfl⟩
  have hcolons := read_print h (legible_colons h false (admits_of_fits hfits)) (.inl rfl)
  have hreturns := congrArg (fun reading => reading.1.returns) (heq.trans hcolons)
  revert hreturns
  decide +kernel

end Docstring
end RBinding
