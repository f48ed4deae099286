import RBinding.Docstring.Reading
import RBinding.Proofs.Docstring.EntryForm
import RBinding.Proofs.Docstring.HeaderForm
import RBinding.Proofs.Table
import RBinding.Proofs.Text.Margin

/-!
# RBinding.Proofs.Docstring.Shape

What every docstring is read as. A section consists of lines of the docstring, and its header is
one of them (`Section.ComesFrom`). The lines hold no line feed, the title is one of them, and a text
of a parameter is put together from parts of lines, so both are single lines
(`newline_not_mem_title`, `newline_not_mem_parameter`). The titles of further sections are the known
ones (`sections_titles`).
-/

namespace RBinding

namespace Text

theorem dropOuterEmpty_subset (ls : List Line) : dropOuterEmpty ls ⊆ ls := by
  intro l hl
  have hmem := (List.dropWhile_sublist _).subset (List.mem_reverse.mp hl)
  exact (List.dropWhile_sublist _).subset (List.mem_reverse.mp hmem)

theorem exists_isSuffix_of_mem_clean {cs : List Char} {l : Line} (h : l ∈ clean cs) :
    ∃ l' ∈ lines (expandTabs cs), l <:+ l' := by
  rw [clean] at h
  cases hls : lines (expandTabs cs) with
  | nil =>
    rw [hls] at h
    cases h
  | cons first rest =>
    rw [hls] at h
    rcases List.mem_cons.mp (dropOuterEmpty_subset _ h) with rfl | h
    · exact ⟨first, List.mem_cons_self, List.dropWhile_suffix _⟩
    · obtain ⟨l', hl', rfl⟩ := List.mem_map.mp h
      exact ⟨l', List.mem_cons_of_mem _ hl', List.drop_suffix _ _⟩

theorem newline_not_mem_clean {cs : List Char} {l : Line} (h : l ∈ clean cs) : '\n' ∉ l := by
  obtain ⟨l', hl', hsuffix⟩ := exists_isSuffix_of_mem_clean h
  exact fun hmem => not_mem_of_mem_lines hl' (hsuffix.subset hmem)

end Text

namespace Docstring

open Text

namespace Arguments

/-- Every text is a single line. -/
def OneLine (a : Arguments) : Prop :=
  ∀ e ∈ a.docs.entries, '\n' ∉ e.2.toList

theorem newline_not_mem_join {text fragment : String} (htext : '\n' ∉ text.toList)
    (hfragment : '\n' ∉ fragment.toList) : '\n' ∉ (join text fragment).toList := by
  rw [join]
  split
  · exact hfragment
  · rw [String.toList_append, String.toList_append, List.mem_append, List.mem_append]
    rintro ((hmem | hmem) | hmem)
    · exact htext hmem
    · revert hmem
      decide
    · exact hfragment hmem

theorem oneLine_document {a : Arguments} (h : a.OneLine) (name : String) {fragment : String}
    (hfragment : '\n' ∉ fragment.toList) : (a.document name fragment).OneLine := by
  intro e he
  rcases Table.mem_entries_insert he with rfl | he
  · refine newline_not_mem_join ?_ hfragment
    cases hget : a.docs.get? name with
    | none => exact List.not_mem_nil
    | some text => exact h _ (Table.mem_entries_of_get? hget)
  · exact h e he

theorem oneLine_readLine {known : Option (Table String)} {underlined : Bool} {indent : Nat}
    {state : Arguments × Current} (h : state.1.OneLine) {line : Line} (hline : '\n' ∉ line) :
    (readLine known underlined indent state line).1.OneLine := by
  have htrim : '\n' ∉ trim line := fun hmem => hline (trim_subset line hmem)
  rw [readLine]
  split
  · cases state.2 with
    | nowhere => exact h
    | skipped => exact h
    | parameter name => exact oneLine_document h name (by rwa [String.toList_ofList])
  · rename_i e hentry
    have htext := Entry.newline_not_mem (entryAt?_eq_some hentry).2 htrim
    rw [openEntry]
    split
    · exact h
    · have hseen : { state.1 with seen := state.1.seen ++ [e.token] }.OneLine := h
      refine oneLine_document hseen e.parameter ?_
      cases underlined with
      | true => exact List.not_mem_nil
      | false => exact htext

theorem oneLine_foldl_readLine {known : Option (Table String)} {underlined : Bool} {indent : Nat}
    {ls : List Line} (hls : ∀ l ∈ ls, '\n' ∉ l) {state : Arguments × Current}
    (h : state.1.OneLine) : (ls.foldl (readLine known underlined indent) state).1.OneLine := by
  induction ls generalizing state with
  | nil => exact h
  | cons l ls ih =>
    exact ih (fun l hl => hls l (List.mem_cons_of_mem _ hl))
      (oneLine_readLine h (hls l List.mem_cons_self))

end Arguments

namespace Section

/-- The section is a header among the lines, with lines from among them. -/
structure ComesFrom (ls : List Line) (s : Section) : Prop where
  header : ∃ onlyUnderlined, ∃ l ∈ ls, ∃ next, Header.at? onlyUnderlined l next = some s.header
  body : ∀ l ∈ s.body, l ∈ ls

theorem ComesFrom.mono {ls ls' : List Line} {s : Section} (h : s.ComesFrom ls) (hsub : ls ⊆ ls') :
    s.ComesFrom ls' := by
  obtain ⟨m, l, hl, hat⟩ := h.header
  exact ⟨⟨m, l, hsub hl, hat⟩, fun l hl => hsub (h.body l hl)⟩

theorem forall_comesFrom_cons {onlyUnderlined : Bool} {l : Line} {next : Option Line} {h : Header}
    (hat : Header.at? onlyUnderlined l next = some h) {rest below : List Line}
    (hsub : below ⊆ rest) (parts : List Line × List Section)
    (hparts : parts.1 ⊆ below ∧ ∀ s ∈ parts.2, s.ComesFrom below) :
    ∀ s ∈ ⟨h, parts.1⟩ :: parts.2, s.ComesFrom (l :: rest) := by
  have hrest : below ⊆ l :: rest := List.subset_cons_of_subset l hsub
  intro s hs
  rcases List.mem_cons.mp hs with rfl | hs
  · exact ⟨⟨onlyUnderlined, l, List.mem_cons_self, next, hat⟩, fun l hl => hrest (hparts.1 hl)⟩
  · exact (hparts.2 s hs).mono hrest

theorem comesFrom_split (onlyUnderlined : Bool) (ls : List Line) :
    (split onlyUnderlined ls).1 ⊆ ls ∧ ∀ s ∈ (split onlyUnderlined ls).2, s.ComesFrom ls := by
  fun_induction split onlyUnderlined ls with
  | case1 => exact ⟨List.Subset.refl _, fun s hs => nomatch hs⟩
  | case2 _ l rest hat body sections hparts ih =>
    rw [hparts] at ih
    have hsub := List.subset_cons_self l rest
    exact ⟨List.cons_subset_cons l ih.1, fun s hs => (ih.2 s hs).mono hsub⟩
  | case3 _ l h hunderlined hat =>
    exact ⟨List.nil_subset _, forall_comesFrom_cons hat (List.Subset.refl []) ([], [])
      ⟨List.Subset.refl _, fun s hs => nomatch hs⟩⟩
  | case4 _ l h hunderlined below rest body sections hparts hat ih =>
    rw [hparts] at ih
    exact ⟨List.nil_subset _, forall_comesFrom_cons hat (List.subset_cons_self below rest) _ ih⟩
  | case5 _ l rest h hat hunderlined body sections hparts ih =>
    rw [hparts] at ih
    exact ⟨List.nil_subset _, forall_comesFrom_cons hat (List.Subset.refl rest) _ ih⟩

end Section

namespace Section

theorem ComesFrom.title_mem {ls : List Line} {s : Section} (h : s.ComesFrom ls) :
    (s.header.title, s.header.kind) ∈ Header.titles := by
  obtain ⟨_, _, _, _, hat⟩ := h.header
  exact (Header.at?_some hat).1

theorem ComesFrom.newline_not_mem {ls : List Line} {s : Section} (h : s.ComesFrom ls)
    (hls : ∀ l ∈ ls, '\n' ∉ l) : ∀ l ∈ s.lines, '\n' ∉ l := by
  have hbody : ∀ l ∈ s.body, '\n' ∉ l := fun l hl => hls l (h.body l hl)
  intro l hl
  rw [Section.lines] at hl
  split at hl
  · exact hbody l hl
  · rcases List.mem_cons.mp hl with rfl | hl
    · obtain ⟨_, l, hmem, _, hat⟩ := h.header
      exact fun hnl => hls l hmem ((Header.at?_some hat).2 hnl)
    · exact hbody l hl

end Section

/-- What every section on parameters keeps holds after all of them. -/
theorem readArguments_induction {known : Option (Table String)} {P : Arguments → Prop}
    (hempty : P {}) (sections : List Section)
    (hstep : ∀ s ∈ sections, ∀ a, P a → P (Arguments.readSection known a s)) :
    P (readArguments known sections) := by
  have hfold : ∀ (ss : List Section) (a : Arguments), ss ⊆ sections → P a →
      P (ss.foldl (Arguments.readSection known) a) := by
    intro ss
    induction ss with
    | nil => exact fun a _ ha => ha
    | cons s ss ih =>
      intro a hss ha
      obtain ⟨hs, hss⟩ := List.cons_subset.mp hss
      exact ih _ hss (hstep s hs a ha)
  exact hfold _ _ (fun s hs => List.mem_of_mem_filter hs) hempty

theorem oneLine_readArguments {sections : List Section}
    (h : ∀ s ∈ sections, ∀ l ∈ s.lines, '\n' ∉ l) (known : Option (Table String)) :
    (readArguments known sections).OneLine := by
  refine readArguments_induction (fun e he => nomatch he) sections fun s hs a ha => ?_
  refine Arguments.oneLine_foldl_readLine (fun l hl => ?_) ha
  exact h s hs l (List.mem_of_mem_filter hl)

theorem mem_entries_inDeclaredOrder {names : List String} {docs : Table String}
    {e : String × String} (h : e ∈ (inDeclaredOrder names docs).entries) : e ∈ docs.entries := by
  rw [inDeclaredOrder] at h
  split at h
  · exact h
  · rcases List.mem_append.mp (Table.mem_of_mem_entries_ofList h) with h | h
    · obtain ⟨name, _, hname⟩ := List.mem_filterMap.mp h
      obtain ⟨text, hget, rfl⟩ := Option.map_eq_some_iff.mp hname
      exact Table.mem_entries_of_get? hget
    · exact h

theorem keys_readSections_subset {sections : List Section} {titles : List String}
    (h : ∀ s ∈ sections, s.header.title ∈ titles) : (readSections sections).keys ⊆ titles := by
  have hstep : ∀ (t : Table String) (s : Section), t.keys ⊆ titles → s.header.title ∈ titles →
      (addSection t s).keys ⊆ titles := by
    intro t s ht hs name hname
    have hkeys : name ∈ t.keys ∨ name = s.header.title := by
      rw [addSection] at hname
      split at hname <;> exact Table.mem_keys_insert hname
    rcases hkeys with hname | rfl
    · exact ht hname
    · exact hs
  have hfold : ∀ (ss : List Section) (t : Table String), (∀ s ∈ ss, s.header.title ∈ titles) →
      t.keys ⊆ titles → (ss.foldl addSection t).keys ⊆ titles := by
    intro ss
    induction ss with
    | nil => exact fun t _ ht => ht
    | cons s ss ih =>
      intro t hss ht
      exact ih _ (fun s' hs' => hss s' (List.mem_cons_of_mem _ hs'))
        (hstep t s ht (hss s List.mem_cons_self))
  exact hfold _ _ (fun s hs => h s (List.mem_of_mem_filter hs)) (List.nil_subset _)

/-- Either there is no block, or its parts come from lines without line feeds. -/
theorem read_eq (raw : Option String) (names : List String) (aliases : Table String) :
    read raw names aliases = {} ∨
      ∃ ls, (∀ l ∈ ls, '\n' ∉ l) ∧ read raw names aliases = readLines names aliases ls := by
  rw [read.eq_def]
  split
  · exact .inl rfl
  · rename_i text
    split
    · exact .inl rfl
    · exact .inr ⟨_, fun l hl => newline_not_mem_clean hl, rfl⟩

theorem newline_not_mem_parameter (raw : Option String) (names : List String)
    (aliases : Table String) (name : String) :
    '\n' ∉ ((read raw names aliases).block.parameter name).toList := by
  rcases read_eq raw names aliases with hread | ⟨ls, hls, hread⟩
  · rw [hread]
    exact List.not_mem_nil
  · rw [hread, DocBlock.parameter]
    cases hget : (readLines names aliases ls).block.parameters.get? name with
    | none => exact List.not_mem_nil
    | some text =>
      have hsections := (Section.comesFrom_split false ls).2
      have hargs := oneLine_readArguments (fun s hs => (hsections s hs).newline_not_mem hls)
        (knownNames names aliases)
      exact hargs (name, text) (mem_entries_inDeclaredOrder (Table.mem_entries_of_get? hget))

theorem newline_not_mem_readPreamble {ls : List Line} (h : ∀ l ∈ ls, '\n' ∉ l) :
    '\n' ∉ (readPreamble ls).1.toList := by
  induction ls with
  | nil => exact List.not_mem_nil
  | cons l ls ih =>
    obtain ⟨hl, hls⟩ := List.forall_mem_cons.mp h
    rw [readPreamble]
    split
    · exact ih hls
    · rw [String.toList_ofList]
      exact fun hmem => hl (trim_subset l hmem)

theorem newline_not_mem_title (raw : Option String) (names : List String)
    (aliases : Table String) : '\n' ∉ (read raw names aliases).block.title.toList := by
  rcases read_eq raw names aliases with hread | ⟨ls, hls, hread⟩
  · rw [hread]
    exact List.not_mem_nil
  · have hpreamble := (Section.comesFrom_split false ls).1
    rw [hread]
    exact newline_not_mem_readPreamble fun l hl => hls l (hpreamble hl)

theorem sections_titles (raw : Option String) (names : List String) (aliases : Table String) :
    (read raw names aliases).block.sections.keys ⊆ Header.titles.map Prod.fst := by
  rcases read_eq raw names aliases with hread | ⟨ls, _, hread⟩
  · rw [hread]
    exact List.nil_subset _
  · rw [hread]
    refine keys_readSections_subset fun s hs => ?_
    exact List.mem_map_of_mem (f := Prod.fst) ((Section.comesFrom_split false ls).2 s hs).title_mem

end Docstring

end RBinding
