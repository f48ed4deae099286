import RBinding.Docstring.Reading
import RBinding.Proofs.Docstring.Blocks
import RBinding.Proofs.Docstring.Entries

/-!
# RBinding.Proofs.Docstring.Fragments

The text of a parameter, put together from its fragments: the texts of its entries and the lines
that continue them. All sections on parameters are read as one sequence of blocks
(`readArguments_eq`), of which the first under each name counts, and the fragments of a parameter
are those of the blocks on it, under whichever of its names (`get?_docs_readArguments`).

The fragments are joined by single spaces from the first that is not empty (`parameter_text`). An
empty one after that still takes its space, so the text is the fragments that are not empty, joined,
just when none is (`intercalate_filter_iff`). Lines that continue an entry are not blank, so an
empty fragment comes from an entry without text or from one of an underlined section.
-/

namespace RBinding
namespace Docstring

open Text

/-- No fragment is empty after one that is not. -/
def Gapless (fragments : List String) : Prop :=
  ∀ f ∈ fragments.dropWhile String.isEmpty, f ≠ ""

instance (fragments : List String) : Decidable (Gapless fragments) :=
  inferInstanceAs (Decidable (∀ f ∈ fragments.dropWhile String.isEmpty, f ≠ ""))

def totalLength : List String → Nat
  | [] => 0
  | f :: fragments => f.length + totalLength fragments

theorem length_intercalate (f : String) (fragments : List String) :
    (" ".intercalate (f :: fragments)).length =
      totalLength (f :: fragments) + fragments.length := by
  induction fragments generalizing f with
  | nil => simp [totalLength]
  | cons g fragments ih =>
    have hspace : " ".length = 1 := by decide
    rw [String.intercalate_cons_cons, String.length_append, String.length_append, ih, hspace,
      List.length_cons]
    simp only [totalLength]
    omega

theorem totalLength_filter (fragments : List String) :
    totalLength (fragments.filter (!·.isEmpty)) = totalLength fragments := by
  induction fragments with
  | nil => rfl
  | cons f fragments ih =>
    by_cases h : f = ""
    · subst h
      simpa [totalLength] using ih
    · rw [List.filter_cons_of_pos (by simpa using h), totalLength, totalLength, ih]

theorem filter_dropWhile_isEmpty (fragments : List String) :
    (fragments.dropWhile String.isEmpty).filter (!·.isEmpty) = fragments.filter (!·.isEmpty) := by
  induction fragments with
  | nil => rfl
  | cons f fragments ih =>
    by_cases h : f.isEmpty = true
    · rw [List.dropWhile_cons_of_pos h, ih, List.filter_cons_of_neg (by simp [h])]
    · rw [List.dropWhile_cons_of_neg h]

/-- The fragments that are not empty are joined as all are, if and only if there is no gap: an empty
one takes a space, so the lengths differ. -/
theorem intercalate_filter_iff (fragments : List String) :
    " ".intercalate (fragments.dropWhile String.isEmpty) =
        " ".intercalate (fragments.filter (!·.isEmpty)) ↔ Gapless fragments := by
  rw [← filter_dropWhile_isEmpty, Gapless]
  constructor
  · intro heq
    cases hdrop : fragments.dropWhile String.isEmpty with
    | nil => exact fun f hf => nomatch hf
    | cons g gs =>
      have hg : g.isEmpty = false := by
        have hhead := List.head?_dropWhile_not String.isEmpty fragments
        rw [hdrop] at hhead
        simpa using hhead
      have hfilter : (g :: gs).filter (!·.isEmpty) = g :: gs.filter (!·.isEmpty) :=
        List.filter_cons_of_pos (by simp [hg])
      have htotal := totalLength_filter (g :: gs)
      have hlength := congrArg String.length heq
      rw [hdrop, hfilter, length_intercalate, length_intercalate] at hlength
      rw [hfilter] at htotal
      have hall := List.length_filter_eq_length_iff.mp
        (show (gs.filter (!·.isEmpty)).length = gs.length by omega)
      intro f hf
      rcases List.mem_cons.mp hf with rfl | hf
      · simpa using hg
      · simpa using hall f hf
  · intro h
    congr 1
    refine (List.filter_eq_self.mpr fun f hf => ?_).symm
    simpa using h f hf

theorem trimStart_intercalate {f : String} (hne : f ≠ "") (h : trim f.toList = f.toList)
    (fragments : List String) :
    trimStart (" ".intercalate (f :: fragments)).toList =
      (" ".intercalate (f :: fragments)).toList := by
  obtain ⟨c, cs, hcs, hc⟩ := exists_cons_of_trim_eq_self h (by simpa using hne)
  cases fragments with
  | nil => simp [hcs, trimStart_cons_of_not_isBlank hc]
  | cons g fragments =>
    rw [String.intercalate_cons_cons, String.toList_append, String.toList_append, hcs,
      List.append_assoc, List.cons_append, trimStart_cons_of_not_isBlank hc]

theorem exists_intercalate_eq (f g : String) (fragments : List String) :
    ∃ between, " ".intercalate (f :: (fragments ++ [g])) = f ++ between ++ " " ++ g := by
  induction fragments generalizing f with
  | nil => exact ⟨"", by simp⟩
  | cons f' fragments ih =>
    obtain ⟨between, h⟩ := ih f'
    refine ⟨" " ++ f' ++ between, ?_⟩
    rw [List.cons_append, String.intercalate_cons_cons, h]
    simp only [String.append_assoc]

/-- A text put together from trimmed fragments, of which the first is not empty, is trimmed if and
only if the last is not empty either. -/
theorem trim_intercalate_iff {f : String} {fragments : List String} (hf : f ≠ "")
    (h : ∀ f' ∈ f :: fragments, trim f'.toList = f'.toList) :
    trim (" ".intercalate (f :: fragments)).toList = (" ".intercalate (f :: fragments)).toList ↔
      (f :: fragments).getLast? ≠ some "" := by
  have hfirst := h f List.mem_cons_self
  have hfne : f.toList ≠ [] := by simpa using hf
  rcases List.eq_nil_or_concat fragments with rfl | ⟨fragments, g, rfl⟩
  · simp [hfirst, hf]
  · rw [List.concat_eq_append] at h ⊢
    obtain ⟨between, heq⟩ := exists_intercalate_eq f g fragments
    rw [heq, ← List.cons_append, List.getLast?_concat]
    by_cases hg : g = ""
    · subst hg
      constructor
      · intro htrim
        exfalso
        have hend := (trim_eq_self_iff.mp htrim).2
        have hspace : (f ++ between ++ " " ++ "").toList = (f ++ between).toList ++ [' '] := by
          simp
        rw [hspace, trimEnd_append_of_isAllBlank _ (by decide)] at hend
        have hle := (List.rdropWhile_prefix isBlank (f ++ between).toList).length_le
        rw [← trimEnd_eq_rdropWhile, hend, List.length_append, List.length_singleton] at hle
        omega
      · exact fun hne => absurd rfl hne
    · have hlast := h g (by simp)
      have htext : (f ++ between ++ " " ++ g).toList =
          f.toList ++ (between ++ " ").toList ++ g.toList := by simp
      rw [htext, trim_append_append hfirst hfne hlast (by simpa using hg)]
      simpa using hg

namespace Block

/-- In an underlined section the entry of a block tells the type, which is not documentation. -/
def untyped (underlined : Bool) (b : Block) : Block :=
  { b with entry := { b.entry with text := if underlined then "" else b.entry.text } }

theorem sift_map_untyped (underlined : Bool) (seen : List String) (bs : List Block) :
    sift seen (bs.map (untyped underlined)) =
      ((sift seen bs).1.map (untyped underlined), (sift seen bs).2.map (untyped underlined)) := by
  induction bs generalizing seen with
  | nil => rfl
  | cons b bs ih =>
    by_cases h : b.entry.token ∈ seen <;> simp [sift, untyped, h, ih]

end Block

theorem Arguments.addBlocks_map_untyped (a : Arguments) (underlined : Bool) (bs : List Block) :
    a.addBlocks false (bs.map (Block.untyped underlined)) = a.addBlocks underlined bs := by
  have hdocument : (fun docs b => Block.document false docs (Block.untyped underlined b)) =
      Block.document underlined := rfl
  simp only [addBlocks, Block.sift_map_untyped, List.map_map, List.foldl_map, hdocument]
  rfl

theorem Arguments.addLeftover_addBlocks (a : Arguments) (underlined : Bool) (bs : List Block)
    (ls : List Line) :
    (a.addBlocks underlined bs).addLeftover ls = (a.addLeftover ls).addBlocks underlined bs := rfl

theorem Arguments.addLeftover_append (a : Arguments) (xs ys : List Line) :
    a.addLeftover (xs ++ ys) = (a.addLeftover xs).addLeftover ys := by
  simp [addLeftover]

def Section.unopened (known : Option (Table String)) (s : Section) : List Line :=
  (Block.cut known (leastIndent s.lines) (Arguments.content s.lines)).1

def parameterBlocks (known : Option (Table String)) (sections : List Section) : List Block :=
  (sections.filter (·.header.kind == .parameters)).flatMap fun s =>
    (s.blocks known).map (Block.untyped s.header.underlined)

/-- Sections on parameters are read as one sequence of blocks, with the lines that belong to none of
them left over. By induction on the sections. -/
theorem readArguments_eq (known : Option (Table String)) (sections : List Section) :
    readArguments known sections =
      (({} : Arguments).addLeftover ((sections.filter (·.header.kind == .parameters)).flatMap
        (Section.unopened known))).addBlocks false (parameterBlocks known sections) := by
  have hfold : ∀ (ss : List Section) (a : Arguments),
      ss.foldl (Arguments.readSection known) a =
        (a.addLeftover (ss.flatMap (Section.unopened known))).addBlocks false
          (ss.flatMap fun s => (s.blocks known).map (Block.untyped s.header.underlined)) := by
    intro ss
    induction ss with
    | nil =>
      intro a
      simp [Arguments.addLeftover, Arguments.addBlocks, Block.sift]
    | cons s ss ih =>
      intro a
      rw [List.foldl_cons, ih, Arguments.readSection_eq, List.flatMap_cons, List.flatMap_cons,
        Arguments.addLeftover_append, Arguments.addBlocks_append, Arguments.addBlocks_map_untyped,
        Arguments.addLeftover_addBlocks]
      rfl
  exact hfold _ {}

theorem docs_readArguments (known : Option (Table String)) (sections : List Section) :
    (readArguments known sections).docs =
      (Block.sift [] (parameterBlocks known sections)).1.foldl (Block.document false) .empty := by
  rw [readArguments_eq]
  rfl

def blocksOn (known : Option (Table String)) (sections : List Section) (name : String) :
    List Block :=
  (Block.sift [] (parameterBlocks known sections)).1.filter (·.entry.parameter == name)

/-- What is said of a parameter, entry by entry and line by line. -/
def fragmentsOn (known : Option (Table String)) (sections : List Section) (name : String) :
    List String :=
  (blocksOn known sections name).flatMap (Block.fragments false)

theorem get?_docs_readArguments (known : Option (Table String)) (sections : List Section)
    (name : String) :
    (readArguments known sections).docs.get? name =
      if blocksOn known sections name = [] then none
      else some (" ".intercalate
        ((fragmentsOn known sections name).dropWhile String.isEmpty)) := by
  rw [docs_readArguments, Block.get?_foldl_document, ← foldl_join]
  rfl

theorem trim_of_mem_fragmentsOn {known : Option (Table String)} {sections : List Section}
    {name f : String} (hf : f ∈ fragmentsOn known sections name) : trim f.toList = f.toList := by
  obtain ⟨b, hb, hf⟩ := List.mem_flatMap.mp hf
  obtain ⟨s, -, hb⟩ := List.mem_flatMap.mp
    (Block.sift_fst_subset _ _ (List.mem_of_mem_filter hb))
  obtain ⟨b', hb', rfl⟩ := List.mem_map.mp hb
  rcases List.mem_cons.mp hf with rfl | hf
  · cases hunderlined : s.header.underlined with
    | true => rfl
    | false =>
      have hentry := (Block.isCut_cut _ _ _).opening_some b' hb'
      obtain ⟨text, -, htext⟩ := Entry.exists_text_isSuffix (Arguments.entryAt?_eq_some hentry).2
      change trim b'.entry.text.toList = b'.entry.text.toList
      rw [htext, trim_trim]
  · obtain ⟨l, -, rfl⟩ := List.mem_map.mp hf
    rw [String.toList_ofList, trim_trim]

theorem get?_inDeclaredOrder (names : List String) (docs : Table String) (name : String) :
    (inDeclaredOrder names docs).get? name = docs.get? name := by
  rw [inDeclaredOrder]
  split
  · rfl
  · refine Table.get?_ofList_append_entries (fun e he => ?_) name
    obtain ⟨n, -, hn⟩ := List.mem_filterMap.mp he
    obtain ⟨text, htext, rfl⟩ := Option.map_eq_some_iff.mp hn
    exact htext

def sectionsOf (raw : Option String) : List Section :=
  match raw with
  | none => []
  | some text => if blankText text then [] else (Section.split false (clean text.toList)).2

/-- What a docstring says of a parameter. -/
def fragmentsOf (raw : Option String) (names : List String) (aliases : Table String)
    (name : String) : List String :=
  fragmentsOn (knownNames names aliases) (sectionsOf raw) name

theorem get?_parameters_read (raw : Option String) (names : List String) (aliases : Table String)
    (name : String) :
    (read raw names aliases).block.parameters.get? name =
      (readArguments (knownNames names aliases) (sectionsOf raw)).docs.get? name := by
  cases raw with
  | none => rfl
  | some text =>
    rw [read, sectionsOf]
    split
    · rfl
    · exact get?_inDeclaredOrder _ _ _

/-- A parameter is documented if a block is on it. Its text is what those blocks say, joined by
single spaces from the first fragment that is not empty. Empty fragments take up nothing just when
none comes after that one, and the text ends with a space just when one is the last. -/
theorem parameter_text (raw : Option String) (names : List String) (aliases : Table String)
    (name : String) :
    ((read raw names aliases).block.parameters.get? name = none ↔
      blocksOn (knownNames names aliases) (sectionsOf raw) name = []) ∧
    ∀ text, (read raw names aliases).block.parameters.get? name = some text →
      text = " ".intercalate ((fragmentsOf raw names aliases name).dropWhile String.isEmpty) ∧
      (text = " ".intercalate ((fragmentsOf raw names aliases name).filter (!·.isEmpty)) ↔
        Gapless (fragmentsOf raw names aliases name)) ∧
      trimStart text.toList = text.toList ∧
      (trim text.toList = text.toList ↔
        ((fragmentsOf raw names aliases name).dropWhile String.isEmpty).getLast? ≠ some "") := by
  have hread := get?_parameters_read raw names aliases name
  rw [get?_docs_readArguments] at hread
  constructor
  · rw [hread]
    split <;> simp [*]
  · intro text htext
    rw [hread] at htext
    split at htext
    · cases htext
    · cases htext
      have htrim : ∀ f ∈ fragmentsOf raw names aliases name, trim f.toList = f.toList :=
        fun f hf => trim_of_mem_fragmentsOn hf
      have hhead := List.head?_dropWhile_not String.isEmpty (fragmentsOf raw names aliases name)
      have hsub := (List.dropWhile_suffix String.isEmpty
        (l := fragmentsOf raw names aliases name)).subset
      rw [← fragmentsOf]
      refine ⟨rfl, intercalate_filter_iff _, ?_⟩
      cases hdrop : (fragmentsOf raw names aliases name).dropWhile String.isEmpty with
      | nil => exact ⟨rfl, fun _ => nofun, fun _ => rfl⟩
      | cons f rest =>
        rw [hdrop] at hhead hsub
        have hf : f ≠ "" := by simpa using hhead
        exact ⟨trimStart_intercalate hf (htrim f (hsub List.mem_cons_self)) rest,
          trim_intercalate_iff hf fun f' hf' => htrim f' (hsub hf')⟩

def furtherAliases : Table String :=
  Table.ofList [("args", "..."), ("kwargs", "...")]

def furtherColons : Option String :=
  some "Call.\n\nArgs:\n    *args: By place,\n        in order.\n    **kwargs: By name."

def furtherUnderlined : Option String :=
  some "Call.\n\nParameters\n----------\n*args\n    A\n**kwargs\n    B"

def furtherUnfinished : Option String :=
  some "Call.\n\nArgs:\n    *args: A\n    **kwargs:"

theorem parameter_text_further :
    (read furtherColons ["..."] furtherAliases).block.parameters.get? "..." =
        some "By place, in order. By name." ∧
      fragmentsOf furtherColons ["..."] furtherAliases "..." =
        ["By place,", "in order.", "By name."] ∧
      " ".intercalate ((fragmentsOf furtherColons ["..."] furtherAliases "...").filter
        (!·.isEmpty)) = "By place, in order. By name." := by
  have hget : (read furtherColons ["..."] furtherAliases).block.parameters.get? "..." =
      some "By place, in order. By name." := by decide +kernel
  have hfragments : fragmentsOf furtherColons ["..."] furtherAliases "..." =
      ["By place,", "in order.", "By name."] := by decide +kernel
  obtain ⟨-, htext⟩ := parameter_text furtherColons ["..."] furtherAliases "..."
  have hgapless : Gapless (fragmentsOf furtherColons ["..."] furtherAliases "...") := by
    rw [hfragments]
    decide
  exact ⟨hget, hfragments, ((htext _ hget).2.1.mpr hgapless).symm⟩

/-- Where two entries of a parameter meet there are two spaces if the second has no text, and a
space ends the text if nothing follows. -/
theorem empty_fragment_takes_space :
    (read furtherUnderlined ["..."] furtherAliases).block.parameters.get? "..." = some "A  B" ∧
      " ".intercalate ((fragmentsOf furtherUnderlined ["..."] furtherAliases "...").filter
        (!·.isEmpty)) = "A B" ∧
      (read furtherUnfinished ["..."] furtherAliases).block.parameters.get? "..." = some "A " ∧
      trim "A ".toList ≠ "A ".toList := by
  refine ⟨?_, ?_, ?_, ?_⟩ <;> decide +kernel

end Docstring
end RBinding
