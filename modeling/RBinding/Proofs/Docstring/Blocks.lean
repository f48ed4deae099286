import RBinding.Proofs.Docstring.EntryForm
import RBinding.Proofs.Table
import RBinding.Proofs.Text.Margin

/-!
# RBinding.Proofs.Docstring.Blocks

A section on parameters, read block by block. An entry at the least indentation opens a block, and
the lines up to the next one continue it (`Block.cut`, `isCut_cut`). Of the blocks under a name the
first counts (`Block.sift`), and it adds its fragments to what has been said of its parameter
(`Block.get?_foldl_document`); lines before the first block are left over, and a block under a name
that has been seen is only reported.

Reading line by line comes to the same (`foldl_readLine`): what is left of the lines up to the next
entry goes where the last entry sent it, and after that every block stands for itself. So a block
under a name that has been seen can be put between two others, or taken out, without a trace but its
report (`addBlocks_repetition`).
-/

namespace RBinding
namespace Docstring

open Text

/-- A line that opens the documentation of a parameter, with the lines that continue it. -/
structure Block where
  opening : Line
  entry : Entry
  continuation : List Line
  deriving DecidableEq, Repr

namespace Block

def lines (b : Block) : List Line :=
  b.opening :: b.continuation

/-- What the block says: the text of its entry, then the lines that continue it. In an underlined
section the entry only tells the type. -/
def fragments (underlined : Bool) (b : Block) : List String :=
  (if underlined then "" else b.entry.text) ::
    b.continuation.map fun l => String.ofList (trim l)

/-- The lines before the first entry at the indentation, and the blocks from there on. -/
def cut (known : Option (Table String)) (indent : Nat) : List Line → List Line × List Block
  | [] => ([], [])
  | line :: rest =>
    let (own, blocks) := cut known indent rest
    match Arguments.entryAt? known indent line with
    | none => (line :: own, blocks)
    | some e => ([], ⟨line, e, own⟩ :: blocks)

/-- The blocks whose names are new where they stand, and the others. -/
def sift (seen : List String) : List Block → List Block × List Block
  | [] => ([], [])
  | b :: bs =>
    if seen.contains b.entry.token then
      let (new, repeated) := sift seen bs
      (new, b :: repeated)
    else
      let (new, repeated) := sift (seen ++ [b.entry.token]) bs
      (b :: new, repeated)

/-- Adds what the block says to what has been said of its parameter. -/
def document (underlined : Bool) (docs : Table String) (b : Block) : Table String :=
  docs.insert b.entry.parameter
    ((b.fragments underlined).foldl Arguments.join ((docs.get? b.entry.parameter).getD ""))

variable {known : Option (Table String)} {indent : Nat}

/-- The lines are cut at every entry, and nowhere else. -/
structure IsCut (known : Option (Table String)) (indent : Nat) (ls before : List Line)
    (bs : List Block) : Prop where
  lines_eq : before ++ bs.flatMap lines = ls
  before_none : ∀ l ∈ before, Arguments.entryAt? known indent l = none
  opening_some : ∀ b ∈ bs, Arguments.entryAt? known indent b.opening = some b.entry
  continuation_none : ∀ b ∈ bs, ∀ l ∈ b.continuation, Arguments.entryAt? known indent l = none

theorem cut_cons_none {l : Line} (h : Arguments.entryAt? known indent l = none) (ls : List Line) :
    cut known indent (l :: ls) = (l :: (cut known indent ls).1, (cut known indent ls).2) := by
  simp [cut, h]

theorem cut_cons_some {l : Line} {e : Entry} (h : Arguments.entryAt? known indent l = some e)
    (ls : List Line) :
    cut known indent (l :: ls) =
      ([], ⟨l, e, (cut known indent ls).1⟩ :: (cut known indent ls).2) := by
  simp [cut, h]

theorem isCut_cut (known : Option (Table String)) (indent : Nat) (ls : List Line) :
    IsCut known indent ls (cut known indent ls).1 (cut known indent ls).2 := by
  induction ls with
  | nil => constructor <;> simp [cut]
  | cons l ls ih =>
    cases h : Arguments.entryAt? known indent l with
    | none =>
      rw [cut_cons_none h]
      exact ⟨by simp [ih.lines_eq], by simpa [h] using ih.before_none, ih.opening_some,
        ih.continuation_none⟩
    | some e =>
      rw [cut_cons_some h]
      refine ⟨?_, by simp, by simpa [h] using ih.opening_some, ?_⟩
      · simpa [lines] using ih.lines_eq
      · simpa using ⟨ih.before_none, ih.continuation_none⟩

theorem cut_of_none {ls : List Line} (h : ∀ l ∈ ls, Arguments.entryAt? known indent l = none) :
    cut known indent ls = (ls, []) := by
  induction ls with
  | nil => rfl
  | cons l ls ih =>
    obtain ⟨hl, hls⟩ := List.forall_mem_cons.mp h
    rw [cut_cons_none hl, ih hls]

theorem cut_fst_eq_nil {ls : List Line}
    (h : ∀ l, ls.head? = some l → (Arguments.entryAt? known indent l).isSome) :
    (cut known indent ls).1 = [] := by
  cases ls with
  | nil => rfl
  | cons l ls =>
    obtain ⟨e, he⟩ := Option.isSome_iff_exists.mp (h l rfl)
    rw [cut_cons_some he]

/-- Lines that start with an entry do not change how the lines before them are cut. -/
theorem cut_append (xs : List Line) {ys : List Line}
    (h : ∀ l, ys.head? = some l → (Arguments.entryAt? known indent l).isSome) :
    cut known indent (xs ++ ys) =
      ((cut known indent xs).1, (cut known indent xs).2 ++ (cut known indent ys).2) := by
  induction xs with
  | nil => exact Prod.ext (cut_fst_eq_nil h) rfl
  | cons x xs ih =>
    cases hx : Arguments.entryAt? known indent x with
    | none => rw [List.cons_append, cut_cons_none hx, cut_cons_none hx, ih]
    | some e =>
      rw [List.cons_append, cut_cons_some hx, cut_cons_some hx, ih]
      rfl

theorem exists_mem_cut {ls : List Line} {l : Line} {e : Entry} (hl : l ∈ ls)
    (h : Arguments.entryAt? known indent l = some e) :
    ∃ b ∈ (cut known indent ls).2, b.entry = e := by
  induction ls with
  | nil => cases hl
  | cons x xs ih =>
    rcases List.mem_cons.mp hl with rfl | hl
    · rw [cut_cons_some h]
      exact ⟨_, List.mem_cons_self, rfl⟩
    · obtain ⟨b, hb, hentry⟩ := ih hl
      cases hx : Arguments.entryAt? known indent x with
      | none =>
        rw [cut_cons_none hx]
        exact ⟨b, hb, hentry⟩
      | some e' =>
        rw [cut_cons_some hx]
        exact ⟨b, List.mem_cons_of_mem _ hb, hentry⟩

theorem sift_fst_subset (seen : List String) (bs : List Block) :
    (sift seen bs).1 ⊆ bs := by
  induction bs generalizing seen with
  | nil => simp [sift]
  | cons b bs ih =>
    by_cases h : b.entry.token ∈ seen
    · simpa [sift, h] using List.subset_cons_of_subset b (ih seen)
    · simpa [sift, h] using List.subset_cons_of_subset b (ih (seen ++ [b.entry.token]))

/-- What is written of a parameter depends on the blocks on it alone. -/
theorem get?_foldl_document (underlined : Bool) (name : String) (bs : List Block)
    (docs : Table String) :
    (bs.foldl (document underlined) docs).get? name =
      if bs.filter (·.entry.parameter == name) = [] then docs.get? name
      else some (((bs.filter (·.entry.parameter == name)).flatMap
        (fragments underlined)).foldl Arguments.join ((docs.get? name).getD "")) := by
  induction bs generalizing docs with
  | nil => rfl
  | cons b bs ih =>
    rw [List.foldl_cons, ih]
    by_cases h : b.entry.parameter = name
    · rw [List.filter_cons_of_pos (by simpa using h), if_neg (List.cons_ne_nil _ _),
        List.flatMap_cons, List.foldl_append, document, h, Table.get?_insert_self,
        Option.getD_some]
      split
      · rename_i hnil
        rw [hnil]
        rfl
      · rfl
    · rw [List.filter_cons_of_neg (by simpa using h), document,
        Table.get?_insert_of_ne _ (Ne.symm h)]

end Block

namespace Arguments

variable {known : Option (Table String)} {underlined : Bool} {indent : Nat}

def addLeftover (a : Arguments) (ls : List Line) : Arguments :=
  { a with leftover := a.leftover ++ ls.map fun l => String.ofList (trim l) }

def addBlocks (underlined : Bool) (a : Arguments) (bs : List Block) : Arguments where
  docs := (Block.sift a.seen bs).1.foldl (Block.document underlined) a.docs
  seen := a.seen ++ (Block.sift a.seen bs).1.map (·.entry.token)
  leftover := a.leftover
  repeated := a.repeated ++ (Block.sift a.seen bs).2.map (·.entry.token)

def continueLines (a : Arguments) (current : Current) (ls : List Line) : Arguments :=
  ls.foldl (fun a l => a.continueEntry (String.ofList (trim l)) current) a

theorem continueLines_nowhere (a : Arguments) (ls : List Line) :
    a.continueLines .nowhere ls = a.addLeftover ls := by
  induction ls generalizing a with
  | nil => simp [continueLines, addLeftover]
  | cons l ls ih =>
    refine (ih _).trans ?_
    simp [addLeftover, continueEntry]

theorem continueLines_skipped (a : Arguments) (ls : List Line) :
    a.continueLines .skipped ls = a := by
  induction ls with
  | nil => rfl
  | cons l ls ih => exact ih

theorem continueLines_parameter {a : Arguments} {name text : String}
    (h : a.docs.get? name = some text) (ls : List Line) :
    a.continueLines (.parameter name) ls =
      { a with
        docs :=
          a.docs.insert name ((ls.map fun l => String.ofList (trim l)).foldl join text) } := by
  induction ls generalizing a text with
  | nil => simp [continueLines, Table.insert_eq_self h]
  | cons l ls ih =>
    have hget : (a.document name (String.ofList (trim l))).docs.get? name =
        some (join text (String.ofList (trim l))) := by
      simp [document, h, Table.get?_insert_self]
    refine (ih hget).trans ?_
    simp [document, h, Table.insert_insert]

theorem addBlocks_cons_repeated {a : Arguments} {b : Block} (h : b.entry.token ∈ a.seen)
    (bs : List Block) :
    a.addBlocks underlined (b :: bs) =
      ({ a with repeated := a.repeated ++ [b.entry.token] } :
        Arguments).addBlocks underlined bs := by
  simp [addBlocks, Block.sift, h]

theorem addBlocks_cons_new {a : Arguments} {b : Block} (h : b.entry.token ∉ a.seen)
    (bs : List Block) :
    a.addBlocks underlined (b :: bs) =
      ({ a with
        docs := b.document underlined a.docs
        seen := a.seen ++ [b.entry.token] } : Arguments).addBlocks underlined bs := by
  simp [addBlocks, Block.sift, h]

theorem openEntry_repeated {a : Arguments} {e : Entry} (h : e.token ∈ a.seen) :
    a.openEntry underlined e = ({ a with repeated := a.repeated ++ [e.token] }, .skipped) := by
  simp [openEntry, h]

theorem openEntry_new {a : Arguments} {e : Entry} (h : e.token ∉ a.seen) :
    a.openEntry underlined e =
      (({ a with seen := a.seen ++ [e.token] } : Arguments).document e.parameter
        (if underlined then "" else e.text), .parameter e.parameter) := by
  simp [openEntry, h]

theorem addBlocks_cons (a : Arguments) (b : Block) (bs : List Block) :
    a.addBlocks underlined (b :: bs) =
      ((a.openEntry underlined b.entry).1.continueLines (a.openEntry underlined b.entry).2
        b.continuation).addBlocks underlined bs := by
  by_cases h : b.entry.token ∈ a.seen
  · rw [openEntry_repeated h, continueLines_skipped, addBlocks_cons_repeated h]
  · rw [openEntry_new h, continueLines_parameter (Table.get?_insert_self _ _ _),
      addBlocks_cons_new h]
    simp [document, Block.document, Block.fragments, Table.insert_insert]

/-- Reading line by line is reading block by block, by induction on the lines. Those before the
first entry go where an earlier entry sends them. -/
theorem foldl_readLine (a : Arguments) (current : Current) (ls : List Line) :
    (ls.foldl (readLine known underlined indent) (a, current)).1 =
      (a.continueLines current (Block.cut known indent ls).1).addBlocks underlined
        (Block.cut known indent ls).2 := by
  induction ls generalizing a current with
  | nil => simp [Block.cut, addBlocks, Block.sift, continueLines]
  | cons l ls ih =>
    rw [List.foldl_cons, readLine]
    cases h : entryAt? known indent l with
    | none =>
      rw [Block.cut_cons_none h]
      exact ih _ _
    | some e =>
      rw [Block.cut_cons_some h, addBlocks_cons]
      exact ih _ _

theorem get?_addBlocks_of_ne {a : Arguments} {bs : List Block} {name : String}
    (h : ∀ b ∈ (Block.sift a.seen bs).1, b.entry.parameter ≠ name) :
    (a.addBlocks underlined bs).docs.get? name = a.docs.get? name := by
  have hnone : (Block.sift a.seen bs).1.filter (·.entry.parameter == name) = [] :=
    List.filter_eq_nil_iff.mpr fun b hb => by simpa using h b hb
  exact (Block.get?_foldl_document _ _ _ _).trans (if_pos hnone)

theorem addBlocks_append (a : Arguments) (xs ys : List Block) :
    a.addBlocks underlined (xs ++ ys) =
      (a.addBlocks underlined xs).addBlocks underlined ys := by
  induction xs generalizing a with
  | nil => simp [addBlocks, Block.sift]
  | cons x xs ih =>
    by_cases h : x.entry.token ∈ a.seen
    · rw [List.cons_append, addBlocks_cons_repeated h, ih, addBlocks_cons_repeated h]
    · rw [List.cons_append, addBlocks_cons_new h, ih, addBlocks_cons_new h]

theorem mem_seen_addBlocks {a : Arguments} {bs : List Block} {token : String}
    (h : token ∈ a.seen ∨ ∃ b ∈ bs, b.entry.token = token) :
    token ∈ (a.addBlocks underlined bs).seen := by
  induction bs generalizing a with
  | nil => simpa [addBlocks, Block.sift] using h
  | cons b bs ih =>
    by_cases hb : b.entry.token ∈ a.seen
    · rw [addBlocks_cons_repeated hb]
      refine ih ?_
      rcases h with h | ⟨b', hb', rfl⟩
      · exact .inl h
      · rcases List.mem_cons.mp hb' with rfl | hb'
        · exact .inl hb
        · exact .inr ⟨b', hb', rfl⟩
    · rw [addBlocks_cons_new hb]
      refine ih ?_
      rcases h with h | ⟨b', hb', rfl⟩
      · exact .inl (List.mem_append_left _ h)
      · rcases List.mem_cons.mp hb' with rfl | hb'
        · exact .inl (by simp)
        · exact .inr ⟨b', hb', rfl⟩

/-- The two agree but for one report more in the second. -/
structure SameButReport (token : String) (a a' : Arguments) : Prop where
  docs : a.docs = a'.docs
  seen : a.seen = a'.seen
  leftover : a.leftover = a'.leftover
  repeated : ∃ before after, a.repeated = before ++ after ∧ a'.repeated = before ++ token :: after

/-- A block under a name that has been seen may be put anywhere after that. -/
theorem addBlocks_repetition {a : Arguments} {d : Block} {xs : List Block} (ys : List Block)
    (h : d.entry.token ∈ a.seen ∨ ∃ b ∈ xs, b.entry.token = d.entry.token) :
    SameButReport d.entry.token (a.addBlocks underlined (xs ++ ys))
      (a.addBlocks underlined (xs ++ d :: ys)) := by
  rw [addBlocks_append, addBlocks_append, addBlocks_cons_repeated (mem_seen_addBlocks h)]
  exact ⟨rfl, rfl, rfl, _, _, rfl, by simp [addBlocks]⟩

def content (ls : List Line) : List Line :=
  ls.filter (!isAllBlank ·)

end Arguments

def Section.blocks (known : Option (Table String)) (s : Section) : List Block :=
  (Block.cut known (leastIndent s.lines) (Arguments.content s.lines)).2

namespace Arguments

variable {known : Option (Table String)} {indent : Nat}

/-- The lines `opening :: more`, put between two parts of a section, are a whole block there, under
a name that has been seen before. -/
structure IsRepetition (known : Option (Table String)) (a : Arguments) (indent : Nat)
    (before after : List Line) (opening : Line) (more : List Line) (e : Entry) : Prop where
  entry : entryAt? known indent opening = some e
  seen : e.token ∈ a.seen ∨
    ∃ l ∈ before, ∃ e', entryAt? known indent l = some e' ∧ e'.token = e.token
  continues : ∀ l ∈ more, isAllBlank l = false →
    indent ≤ indentOf l ∧ entryAt? known indent l = none
  whole : ∀ l, (content after).head? = some l → (entryAt? known indent l).isSome

theorem leastIndent_content (ls : List Line) : leastIndent (content ls) = leastIndent ls := by
  simp [leastIndent, content, List.filter_filter]

theorem readSection_eq (known : Option (Table String)) (a : Arguments) (s : Section) :
    readSection known a s =
      (a.addLeftover (Block.cut known (leastIndent s.lines) (content s.lines)).1).addBlocks
        s.header.underlined (Block.cut known (leastIndent s.lines) (content s.lines)).2 := by
  rw [← leastIndent_content, ← continueLines_nowhere, ← foldl_readLine]
  rfl

theorem isAllBlank_of_entryAt? {l : Line} {e : Entry} (h : entryAt? known indent l = some e) :
    isAllBlank l = false := by
  by_contra hblank
  rw [Bool.not_eq_false, ← trim_eq_nil_iff] at hblank
  obtain ⟨-, hentry⟩ := entryAt?_eq_some h
  rw [hblank] at hentry
  cases hentry

namespace IsRepetition

variable {a : Arguments} {before after : List Line} {opening : Line} {more : List Line} {e : Entry}

theorem content_eq (h : IsRepetition known a indent before after opening more e) :
    content (before ++ opening :: more ++ after) =
      content before ++ (opening :: content more ++ content after) := by
  simp [content, isAllBlank_of_entryAt? h.entry]

theorem leastIndent_eq (h : IsRepetition known a (leastIndent (before ++ after)) before after
    opening more e) :
    leastIndent (before ++ opening :: more ++ after) = leastIndent (before ++ after) := by
  have hopening := (entryAt?_eq_some h.entry).1
  refine Text.leastIndent_eq ⟨opening, by simp, isAllBlank_of_entryAt? h.entry, hopening⟩ ?_
  intro l hl hblank
  simp only [List.append_assoc, List.mem_append, List.cons_append, List.mem_cons] at hl
  rcases hl with hl | rfl | hl | hl
  · exact leastIndent_le (List.mem_append_left _ hl) hblank
  · exact hopening.ge
  · exact (h.continues l hl hblank).1
  · exact leastIndent_le (List.mem_append_right _ hl) hblank

theorem cut_eq (h : IsRepetition known a indent before after opening more e) :
    Block.cut known indent (content (before ++ opening :: more ++ after)) =
      ((Block.cut known indent (content before)).1,
        (Block.cut known indent (content before)).2 ++
          ⟨opening, e, content more⟩ :: (Block.cut known indent (content after)).2) := by
  have hmore : Block.cut known indent (content more) = (content more, []) := by
    refine Block.cut_of_none fun l hl => ?_
    obtain ⟨hl, hblank⟩ := List.mem_filter.mp hl
    exact (h.continues l hl (by simpa using hblank)).2
  have hblock : Block.cut known indent (opening :: content more ++ content after) =
      ([], ⟨opening, e, content more⟩ :: (Block.cut known indent (content after)).2) := by
    rw [Block.cut_append _ h.whole, Block.cut_cons_some h.entry, hmore]
    rfl
  rw [h.content_eq, Block.cut_append, hblock]
  intro l hl
  cases hl
  simp [h.entry]

theorem sameButReport (h : IsRepetition known a (leastIndent (before ++ after)) before after opening
    more e) {s s' : Section} (hunderlined : s'.header.underlined = s.header.underlined)
    (hs : s.lines = before ++ after) (hs' : s'.lines = before ++ opening :: more ++ after) :
    SameButReport e.token (readSection known a s) (readSection known a s') := by
  have hcontent : content (before ++ after) = content before ++ content after := by
    simp [content]
  rw [readSection_eq, readSection_eq, hs, hs', h.leastIndent_eq, h.cut_eq, hcontent,
    Block.cut_append _ h.whole, hunderlined]
  refine addBlocks_repetition (d := ⟨opening, e, content more⟩) _ ?_
  rcases h.seen with hseen | ⟨l, hl, e', he', htoken⟩
  · exact .inl hseen
  · have hmem : l ∈ content before :=
      List.mem_filter.mpr ⟨hl, by simp [isAllBlank_of_entryAt? he']⟩
    obtain ⟨b, hb, rfl⟩ := Block.exists_mem_cut hmem he'
    exact .inr ⟨b, hb, htoken⟩

end IsRepetition

/-- A section on parameters is read block by block, and the first block under a name counts.
Nothing is said of other parameters, and a block under a name that has been seen before leaves no
trace but its report. -/
theorem readSection_block_by_block (known : Option (Table String)) (a : Arguments) (s : Section) :
    (∃ before bs,
      Block.IsCut known (leastIndent s.lines) (content s.lines) before bs ∧
        readSection known a s = (a.addLeftover before).addBlocks s.header.underlined bs ∧
        ∀ name, (∀ b ∈ (Block.sift a.seen bs).1, b.entry.parameter ≠ name) →
          (readSection known a s).docs.get? name = a.docs.get? name) ∧
      ∀ (before after : List Line) (opening : Line) (more : List Line) (e : Entry),
        s.lines = before ++ after →
        IsRepetition known a (leastIndent s.lines) before after opening more e →
        ∀ s' : Section, s'.header.underlined = s.header.underlined →
          s'.lines = before ++ opening :: more ++ after →
          SameButReport e.token (readSection known a s) (readSection known a s') := by
  refine ⟨⟨_, _, Block.isCut_cut _ _ _, readSection_eq known a s, fun name h => ?_⟩, ?_⟩
  · rw [readSection_eq]
    exact get?_addBlocks_of_ne h
  · intro before after opening more e hs hrepetition s' hunderlined hs'
    rw [hs] at hrepetition
    exact hrepetition.sameButReport hunderlined hs hs'

def clampKnown : Option (Table String) :=
  some (Table.ofList [("lo", "lo"), ("hi", "hi"), ("kw", "lo")])

def clampBefore : Arguments where
  docs := Table.ofList [("hi", "upper end")]
  seen := ["hi"]

def clampFirst : List Line :=
  ["  both ends count".toList, "  lo: lower".toList, "    end".toList, [],
    "  kw: 0 if not given".toList]

def clampRest : List Line :=
  ["  hi: highest".toList, "    value".toList]

def clampAgain : List Line :=
  ["      lo: smallest".toList, [], "   value".toList]

def clampSection (ls : List Line) : Section :=
  ⟨⟨"Args", .parameters, false, []⟩, ls⟩

theorem readSection_block_by_block_clamp :
    IsRepetition clampKnown clampBefore (leastIndent (clampSection (clampFirst ++ clampRest)).lines)
        clampFirst clampRest "  lo (int): least".toList clampAgain ⟨"lo", "lo", "least"⟩ ∧
      readSection clampKnown clampBefore (clampSection (clampFirst ++ clampRest)) =
        { docs := Table.ofList [("hi", "upper end"), ("lo", "lower end 0 if not given")]
          seen := ["hi", "lo", "kw"]
          leftover := ["both ends count"]
          repeated := ["hi"] } ∧
      SameButReport "lo"
        (readSection clampKnown clampBefore (clampSection (clampFirst ++ clampRest)))
        (readSection clampKnown clampBefore
          (clampSection
            (clampFirst ++ "  lo (int): least".toList :: clampAgain ++ clampRest))) := by
  have hrepetition : IsRepetition clampKnown clampBefore
      (leastIndent (clampSection (clampFirst ++ clampRest)).lines) clampFirst clampRest
      "  lo (int): least".toList clampAgain ⟨"lo", "lo", "least"⟩ := by
    refine ⟨by decide +kernel, .inr ⟨"  lo: lower".toList, by decide, ⟨"lo", "lo", "lower"⟩,
      by decide +kernel, rfl⟩, by decide +kernel, ?_⟩
    intro l hl
    obtain rfl : "  hi: highest".toList = l := Option.some.inj hl
    decide +kernel
  have hread := readSection_block_by_block clampKnown clampBefore
    (clampSection (clampFirst ++ clampRest))
  exact ⟨hrepetition, by decide +kernel, hread.2 _ _ _ _ _ rfl hrepetition _ rfl rfl⟩

end Arguments
end Docstring
end RBinding
