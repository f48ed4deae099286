import RBinding.Docstring.Reading
import RBinding.Proofs.Docstring.Blocks

/-!
# RBinding.Proofs.Docstring.Appending

One line more at the end of a section on parameters. Reading a line never takes back what has been
documented (`grows_readLine`), and a line that is no entry goes to the last entry before it
(`snd_foldl_readLine`). But which lines are entries depends on the least indentation of the whole
section. A line that stands no further to the left than the section leaves it as it is; one that
does moves the margin to itself, so that none of the lines before it is an entry any more
(`readSection_append`).
-/

namespace RBinding
namespace Docstring

open Text

namespace Section

def append (s : Section) (l : Line) : Section :=
  { s with body := s.body ++ [l] }

theorem lines_append (s : Section) (l : Line) : (s.append l).lines = s.lines ++ [l] := by
  rw [lines, lines]
  cases h : s.header.inlineText.isEmpty <;> simp [append, h]

end Section

namespace Block

/-- Where a line goes that follows blocks: to the parameter of the last of them, unless the name of
that block has been seen before it. -/
def currentAfter (seen : List String) (current : Current) (bs : List Block) : Current :=
  match bs.getLast? with
  | none => current
  | some b =>
    if b.entry.token ∈ seen ++ bs.dropLast.map (·.entry.token) then .skipped
    else .parameter b.entry.parameter

theorem currentAfter_concat (seen : List String) (current : Current) (bs : List Block) (b : Block) :
    currentAfter seen current (bs ++ [b]) =
      if b.entry.token ∈ seen ++ bs.map (·.entry.token) then .skipped
      else .parameter b.entry.parameter := by
  simp [currentAfter]

theorem currentAfter_cons_repeated {seen : List String} {b : Block} (h : b.entry.token ∈ seen)
    (current : Current) (bs : List Block) :
    currentAfter seen current (b :: bs) = currentAfter seen .skipped bs := by
  rcases List.eq_nil_or_concat bs with rfl | ⟨bs, c, rfl⟩
  · simp [currentAfter, h]
  · have hmem : c.entry.token ∈ seen ++ (b :: bs).map (·.entry.token) ↔
        c.entry.token ∈ seen ++ bs.map (·.entry.token) := by
      simp only [List.map_cons, List.mem_append, List.mem_cons]
      constructor
      · rintro (hs | hb | hm)
        · exact .inl hs
        · exact .inl (hb ▸ h)
        · exact .inr hm
      · exact Or.imp_right .inr
    rw [List.concat_eq_append, ← List.cons_append, currentAfter_concat, currentAfter_concat]
    simp only [hmem]

theorem currentAfter_cons_new {seen : List String} {b : Block} (h : b.entry.token ∉ seen)
    (current : Current) (bs : List Block) :
    currentAfter seen current (b :: bs) =
      currentAfter (seen ++ [b.entry.token]) (.parameter b.entry.parameter) bs := by
  rcases List.eq_nil_or_concat bs with rfl | ⟨bs, c, rfl⟩
  · simp [currentAfter, h]
  · rw [List.concat_eq_append, ← List.cons_append, currentAfter_concat, currentAfter_concat,
      List.map_cons, List.append_assoc]
    rfl

theorem length_sift (seen : List String) (bs : List Block) :
    (sift seen bs).1.length + (sift seen bs).2.length = bs.length := by
  induction bs generalizing seen with
  | nil => rfl
  | cons b bs ih =>
    by_cases h : b.entry.token ∈ seen
    · simp [sift, h, ← ih seen, Nat.add_assoc]
    · simp [sift, h, ← ih (seen ++ [b.entry.token]), Nat.add_right_comm]

end Block

namespace Arguments

variable {known : Option (Table String)} {underlined : Bool} {indent : Nat}

theorem seen_continueEntry (a : Arguments) (fragment : String) (current : Current) :
    (a.continueEntry fragment current).seen = a.seen := by
  cases current <;> rfl

theorem repeated_continueEntry (a : Arguments) (fragment : String) (current : Current) :
    (a.continueEntry fragment current).repeated = a.repeated := by
  cases current <;> rfl

theorem readLine_none {l : Line} (h : entryAt? known indent l = none) (a : Arguments)
    (current : Current) :
    readLine known underlined indent (a, current) l =
      (a.continueEntry (String.ofList (trim l)) current, current) := by
  simp only [readLine, h]

theorem readLine_some {l : Line} {e : Entry} (h : entryAt? known indent l = some e)
    (a : Arguments) (current : Current) :
    readLine known underlined indent (a, current) l = a.openEntry underlined e := by
  simp only [readLine, h]

theorem snd_foldl_readLine (a : Arguments) (current : Current) (ls : List Line) :
    (ls.foldl (readLine known underlined indent) (a, current)).2 =
      Block.currentAfter a.seen current (Block.cut known indent ls).2 := by
  induction ls generalizing a current with
  | nil => rfl
  | cons l ls ih =>
    rw [List.foldl_cons]
    cases h : entryAt? known indent l with
    | none => rw [readLine_none h, Block.cut_cons_none h, ih, seen_continueEntry]
    | some e =>
      rw [readLine_some h, Block.cut_cons_some h]
      by_cases hseen : e.token ∈ a.seen
      · rw [openEntry_repeated hseen, ih, Block.currentAfter_cons_repeated hseen]
      · rw [openEntry_new hseen, ih, Block.currentAfter_cons_new hseen]
        rfl

/-- What is documented stays documented, and its text only gets longer at its end. -/
def Grows (a a' : Arguments) : Prop :=
  ∀ name text, a.docs.get? name = some text → ∃ more, a'.docs.get? name = some (text ++ more)

theorem grows_of_docs_eq {a a' : Arguments} (h : a'.docs = a.docs) : a.Grows a' := by
  intro name text htext
  exact ⟨"", by rw [h, htext, String.append_empty]⟩

theorem exists_join_eq (text fragment : String) : ∃ more, join text fragment = text ++ more := by
  by_cases h : text = ""
  · exact ⟨fragment, by simp [join, h]⟩
  · exact ⟨" " ++ fragment, by simp [join, h, String.append_assoc]⟩

theorem grows_document (a : Arguments) (name fragment : String) :
    a.Grows (a.document name fragment) := by
  intro other text htext
  by_cases hname : other = name
  · subst hname
    obtain ⟨more, hmore⟩ := exists_join_eq text fragment
    refine ⟨more, ?_⟩
    rw [document, Table.get?_insert_self, htext, Option.getD_some, hmore]
  · refine ⟨"", ?_⟩
    rw [document, Table.get?_insert_of_ne _ hname, htext, String.append_empty]

theorem grows_readLine (a : Arguments) (current : Current) (l : Line) :
    a.Grows (readLine known underlined indent (a, current) l).1 := by
  cases h : entryAt? known indent l with
  | none =>
    rw [readLine_none h]
    cases current with
    | nowhere => exact grows_of_docs_eq rfl
    | skipped => exact grows_of_docs_eq rfl
    | parameter name => exact grows_document a name _
  | some e =>
    rw [readLine_some h]
    by_cases hseen : e.token ∈ a.seen
    · rw [openEntry_repeated hseen]
      exact grows_of_docs_eq rfl
    · rw [openEntry_new hseen]
      exact grows_document { a with seen := a.seen ++ [e.token] } e.parameter _

theorem content_concat {l : Line} (h : isAllBlank l = false) (ls : List Line) :
    content (ls ++ [l]) = content ls ++ [l] := by
  simp [content, h]

theorem leastIndent_concat_of_forall {ls : List Line} {l : Line} (h : isAllBlank l = false)
    (hle : ∀ x ∈ ls, isAllBlank x = false → indentOf l ≤ indentOf x) :
    leastIndent (ls ++ [l]) = indentOf l := by
  refine Text.leastIndent_eq ⟨l, by simp, h, rfl⟩ fun x hx hblank => ?_
  rcases List.mem_append.mp hx with hx | hx
  · exact hle x hx hblank
  · rw [List.mem_singleton.mp hx]

theorem leastIndent_concat_of_le {ls : List Line} {l : Line} (hne : content ls ≠ [])
    (hle : leastIndent ls ≤ indentOf l) : leastIndent (ls ++ [l]) = leastIndent ls := by
  obtain ⟨n, hn⟩ := Option.isSome_iff_exists.mp
    (List.isSome_min?_of_ne_nil (l := (content ls).map indentOf) (by simpa using hne))
  have hleast : leastIndent ls = n := by
    rw [leastIndent]
    rw [content] at hn
    rw [hn]
  obtain ⟨x, hx, hindent⟩ := List.mem_map.mp (List.min?_eq_some_iff.mp hn).1
  obtain ⟨hx, hblank⟩ := List.mem_filter.mp hx
  refine Text.leastIndent_eq ⟨x, List.mem_append_left _ hx, by simpa using hblank,
    hindent.trans hleast.symm⟩ fun y hy hy' => ?_
  rcases List.mem_append.mp hy with hy | hy
  · exact leastIndent_le hy hy'
  · rw [List.mem_singleton.mp hy]
    exact hle

/-- The state in which the last line of a section is read. -/
def beforeEnd (known : Option (Table String)) (indent : Nat) (a : Arguments) (s : Section) :
    Arguments × Current :=
  (content s.lines).foldl (readLine known s.header.underlined indent) (a, .nowhere)

theorem readSection_eq_beforeEnd (known : Option (Table String)) (a : Arguments) (s : Section) :
    readSection known a s = (beforeEnd known (leastIndent s.lines) a s).1 := by
  rw [← leastIndent_content]
  rfl

theorem readSection_append_eq (known : Option (Table String)) (a : Arguments) (s : Section)
    {l : Line} (h : isAllBlank l = false) :
    readSection known a (s.append l) =
      (readLine known s.header.underlined (leastIndent (s.append l).lines)
        (beforeEnd known (leastIndent (s.append l).lines) a s) l).1 := by
  rw [readSection_eq_beforeEnd, beforeEnd, s.lines_append, content_concat h, List.foldl_concat]
  rfl

/-- A line no further to the left than the section is read after the section as it was. -/
theorem readSection_append_of_le {s : Section} {l : Line} (h : isAllBlank l = false)
    (hle : leastIndent s.lines ≤ indentOf l) (known : Option (Table String)) (a : Arguments) :
    readSection known a (s.append l) =
      (readLine known s.header.underlined (leastIndent (s.append l).lines)
        (readSection known a s, Block.currentAfter a.seen .nowhere (s.blocks known)) l).1 := by
  have hstate : beforeEnd known (leastIndent (s.append l).lines) a s =
      beforeEnd known (leastIndent s.lines) a s := by
    by_cases hne : content s.lines = []
    · rw [beforeEnd, beforeEnd, hne]
      rfl
    · rw [s.lines_append, leastIndent_concat_of_le hne hle]
  have hcurrent : (beforeEnd known (leastIndent s.lines) a s).2 =
      Block.currentAfter a.seen .nowhere (s.blocks known) := snd_foldl_readLine _ _ _
  rw [readSection_append_eq known a s h, hstate, readSection_eq_beforeEnd, ← hcurrent]

theorem leastIndent_append_of_lt {s : Section} {l : Line} (h : isAllBlank l = false)
    (hlt : indentOf l < leastIndent s.lines) : leastIndent (s.append l).lines = indentOf l := by
  rw [s.lines_append]
  refine leastIndent_concat_of_forall h fun x hx hblank => ?_
  exact Nat.le_of_lt (Nat.lt_of_lt_of_le hlt (leastIndent_le hx hblank))

/-- In front of a line further to the left nothing is an entry. -/
theorem readSection_append_of_lt {s : Section} {l : Line} (h : isAllBlank l = false)
    (hlt : indentOf l < leastIndent s.lines) (known : Option (Table String)) (a : Arguments) :
    readSection known a (s.append l) =
      (readLine known s.header.underlined (indentOf l)
        (a.addLeftover (content s.lines), .nowhere) l).1 := by
  have hnone : ∀ x ∈ content s.lines, entryAt? known (indentOf l) x = none := by
    intro x hx
    obtain ⟨hx, hblank⟩ := List.mem_filter.mp hx
    have hright := Nat.lt_of_lt_of_le hlt (leastIndent_le hx (by simpa using hblank))
    exact entryAt?_of_ne (Nat.ne_of_gt hright)
  have hstate : beforeEnd known (indentOf l) a s = (a.addLeftover (content s.lines), .nowhere) := by
    refine Prod.ext ?_ ?_
    · rw [beforeEnd, foldl_readLine, Block.cut_of_none hnone, continueLines_nowhere]
      simp [addBlocks, Block.sift]
    · rw [beforeEnd, snd_foldl_readLine, Block.cut_of_none hnone]
      rfl
  rw [readSection_append_eq known a s h, leastIndent_append_of_lt h hlt, hstate]

theorem readSection_of_blocks_eq_nil {known : Option (Table String)} {s : Section}
    (h : s.blocks known = []) (a : Arguments) :
    readSection known a s = a.addLeftover (content s.lines) := by
  have hlines := (Block.isCut_cut known (leastIndent s.lines) (content s.lines)).lines_eq
  rw [Section.blocks] at h
  rw [h, List.flatMap_nil, List.append_nil] at hlines
  rw [readSection_eq, h, hlines]
  simp [addBlocks, Block.sift]

theorem seen_repeated_readSection (known : Option (Table String)) (a : Arguments) (s : Section) :
    (readSection known a s).seen.length + (readSection known a s).repeated.length =
      a.seen.length + a.repeated.length + (s.blocks known).length := by
  rw [readSection_eq, Section.blocks, ← Block.length_sift a.seen]
  simp only [addBlocks, addLeftover, List.length_append, List.length_map]
  omega

/-- A line appended to a section, no further to the left than the section, takes back nothing of
what is documented. One that is no entry goes to the last entry before it if and only if it stands
there or the section has no entry. Further to the left it leaves over all lines of the section. -/
theorem readSection_append (known : Option (Table String)) (a : Arguments) (s : Section) {l : Line}
    (h : isAllBlank l = false) :
    (leastIndent s.lines ≤ indentOf l →
      (readSection known a s).Grows (readSection known a (s.append l))) ∧
    (entryAt? known (leastIndent (s.append l).lines) l = none →
      (readSection known a (s.append l) =
          (readSection known a s).continueEntry (String.ofList (trim l))
            (Block.currentAfter a.seen .nowhere (s.blocks known)) ↔
        leastIndent s.lines ≤ indentOf l ∨ s.blocks known = [])) ∧
    (indentOf l < leastIndent s.lines →
      readSection known a (s.append l) =
        match entryAt? known (indentOf l) l with
        | none => a.addLeftover (content s.lines ++ [l])
        | some e => ((a.addLeftover (content s.lines)).openEntry s.header.underlined e).1) := by
  refine ⟨fun hle => ?_, fun hnone => ⟨fun heq => ?_, fun hor => ?_⟩, fun hlt => ?_⟩
  · rw [readSection_append_of_le h hle]
    exact grows_readLine _ _ l
  · by_contra hnot
    rw [not_or, Nat.not_le] at hnot
    obtain ⟨hlt, hblocks⟩ := hnot
    -- The blocks of the section have left names behind, but lines that are left over leave none.
    have hcount := seen_repeated_readSection known a s
    have hseen := congrArg seen heq
    have hrepeated := congrArg repeated heq
    rw [leastIndent_append_of_lt h hlt] at hnone
    rw [readSection_append_of_lt h hlt, readLine_none hnone, seen_continueEntry,
      seen_continueEntry] at hseen
    rw [readSection_append_of_lt h hlt, readLine_none hnone, repeated_continueEntry,
      repeated_continueEntry] at hrepeated
    have hpos := List.length_pos_of_ne_nil hblocks
    rw [← hseen, ← hrepeated] at hcount
    change a.seen.length + a.repeated.length = _ at hcount
    omega
  · by_cases hle : leastIndent s.lines ≤ indentOf l
    · rw [readSection_append_of_le h hle, readLine_none hnone]
    · have hlt := Nat.lt_of_not_le hle
      have hblocks := hor.resolve_left hle
      rw [leastIndent_append_of_lt h hlt] at hnone
      rw [readSection_append_of_lt h hlt, readLine_none hnone,
        readSection_of_blocks_eq_nil hblocks, hblocks]
      rfl
  · rw [readSection_append_of_lt h hlt]
    cases hat : entryAt? known (indentOf l) l with
    | none =>
      rw [readLine_none hat]
      simp [continueEntry, addLeftover]
    | some e => rw [readLine_some hat]

def scaleKnown : Option (Table String) :=
  some (Table.ofList [("factor", "factor"), ("offset", "offset")])

def scaleSection : Section :=
  ⟨⟨"Args", .parameters, false, []⟩,
    ["    factor: by how much".toList, "    offset (float): what is".toList]⟩

def scaleInside : Line :=
  "      added last".toList

def scaleOutside : Line :=
  "See the manual.".toList

theorem readSection_append_scale :
    isAllBlank scaleInside = false ∧ isAllBlank scaleOutside = false ∧
      (readSection scaleKnown {} scaleSection).Grows
        (readSection scaleKnown {} (scaleSection.append scaleInside)) ∧
      readSection scaleKnown {} (scaleSection.append scaleInside) =
        (readSection scaleKnown {} scaleSection).document "offset" "added last" ∧
      readSection scaleKnown {} (scaleSection.append scaleOutside) =
        { leftover := ["factor: by how much", "offset (float): what is", "See the manual."] } := by
  have hinside : isAllBlank scaleInside = false := by decide
  have houtside : isAllBlank scaleOutside = false := by decide
  have hle : leastIndent scaleSection.lines ≤ indentOf scaleInside := by decide
  obtain ⟨hgrows, hcontinues, -⟩ := readSection_append scaleKnown {} scaleSection hinside
  obtain ⟨-, -, hleft⟩ := readSection_append scaleKnown {} scaleSection houtside
  refine ⟨hinside, houtside, hgrows hle, ?_, ?_⟩
  · rw [(hcontinues (by decide +kernel)).mpr (.inl hle)]
    decide +kernel
  · rw [hleft (by decide)]
    decide +kernel

/-- A line at the margin takes back what the section documents, so the description has it. -/
theorem appended_line_undocuments :
    isAllBlank scaleOutside = false ∧
      ¬ (readSection scaleKnown {} scaleSection).Grows
        (readSection scaleKnown {} (scaleSection.append scaleOutside)) ∧
      (read (some "Scale.\n\nArgs:\n    factor: by how much") ["factor"] .empty).block =
        { title := "Scale.", parameters := .ofList [("factor", "by how much")] } ∧
      (read (some "Scale.\n\nArgs:\n    factor: by how much\nSee the manual.") ["factor"]
          .empty).block =
        { title := "Scale.", description := "factor: by how much See the manual." } := by
  refine ⟨by decide, fun hgrows => ?_, by decide +kernel, by decide +kernel⟩
  obtain ⟨more, hmore⟩ := hgrows "factor" "by how much" (by decide +kernel)
  have hnone : (readSection scaleKnown {} (scaleSection.append scaleOutside)).docs.get? "factor" =
      none := by decide +kernel
  rw [hnone] at hmore
  cases hmore

end Arguments
end Docstring
end RBinding
