import RBinding.Proofs.Docstring.Splitting

/-!
# RBinding.Proofs.Docstring.Arrangement

What splitting a docstring into sections keeps: everything. The preamble and then, section by
section, the lines of the header and the lines below it are the lines of the docstring, in their
order (`IsArrangement`). Where a header is expected depends on the section before it: below an
underlined header only underlined ones count, so from the first underlined section on all sections
are underlined (`IsArrangement.underlined_after`).

One line more in front is either a line of the preamble (`IsArrangement.cons_line`) or opens a
section, whose body is what was the preamble (`IsArrangement.cons_section`).
-/

namespace RBinding
namespace Docstring

open Text

namespace Header

/-- The header at a line of a docstring, by the number of lines before it. -/
def atIndex? (onlyUnderlined : Bool) (ls : List Line) (i : Nat) : Option Header :=
  match ls[i]? with
  | none => none
  | some l => at? onlyUnderlined l ls[i + 1]?

theorem atIndex?_zero (onlyUnderlined : Bool) (l : Line) (ls : List Line) :
    atIndex? onlyUnderlined (l :: ls) 0 = at? onlyUnderlined l ls.head? := by
  simp [atIndex?, List.head?_eq_getElem?]

theorem atIndex?_append (onlyUnderlined : Bool) (before ls : List Line) (i : Nat) :
    atIndex? onlyUnderlined (before ++ ls) (before.length + i) = atIndex? onlyUnderlined ls i := by
  have hget : ∀ j, (before ++ ls)[before.length + j]? = ls[j]? := fun j => by
    rw [List.getElem?_append_right (Nat.le_add_right _ j), Nat.add_sub_cancel_left]
  rw [atIndex?, hget, Nat.add_assoc, hget]
  rfl

/-- The lines that a header takes. Its title stands at the margin. Text on the header line is the
end of that line, and only a section on results has it. -/
inductive Takes (h : Header) : List Line → Prop
  | colon {l : Line} (underlined : h.underlined = false) (nonblank : isAllBlank l = false)
      (margin : indentOf l = 0) (ending : h.inlineText <:+ trim l)
      (returns : h.inlineText ≠ [] → h.kind = .returns) : Takes h [l]
  | underline {l below : Line} (underlined : h.underlined = true) (nonblank : isAllBlank l = false)
      (margin : indentOf l = 0) (dashes : isUnderline below = true)
      (ending : h.inlineText = []) : Takes h [l, below]

variable {onlyUnderlined : Bool} {l : Line} {next : Option Line} {h : Header}

theorem takes_of_at?_colon (hat : at? onlyUnderlined l next = some h)
    (hu : h.underlined = false) : h.Takes [l] := by
  obtain ⟨hblank, hmargin, hunderlined | ⟨-, hcolon⟩⟩ := at?_eq_some hat
  · rw [(underlined?_eq_some hunderlined).2.1] at hu
    cases hu
  · obtain ⟨-, -, hending, hreturns⟩ := withColon?_eq_some hcolon
    exact .colon hu hblank hmargin hending hreturns

theorem takes_of_at?_underline {below : Line}
    (hat : at? onlyUnderlined l (some below) = some h) (hu : h.underlined = true) :
    h.Takes [l, below] := by
  obtain ⟨hblank, hmargin, hunderlined | ⟨-, hcolon⟩⟩ := at?_eq_some hat
  · obtain ⟨-, -, hinline, below', hbelow, hdashes⟩ := underlined?_eq_some hunderlined
    cases hbelow
    exact .underline hu hblank hmargin hdashes hinline
  · rw [(withColon?_eq_some hcolon).2.1] at hu
    cases hu

end Header

/-- A section with the lines that its header takes. -/
structure Placed where
  heading : List Line
  part : Section

namespace Placed

def lines (p : Placed) : List Line :=
  p.heading ++ p.part.body

def underlined (p : Placed) : Bool :=
  p.part.header.underlined

/-- Whether only underlined headers count after the sections. -/
def onlyUnderlinedAfter (start : Bool) (ps : List Placed) : Bool :=
  (ps.map underlined).getLastD start

def offset (preamble : List Line) (ps : List Placed) : Nat :=
  (preamble ++ ps.flatMap lines).length

theorem onlyUnderlinedAfter_cons (start : Bool) (p : Placed) (ps : List Placed) :
    onlyUnderlinedAfter start (p :: ps) = onlyUnderlinedAfter p.underlined ps := by
  rw [onlyUnderlinedAfter, List.map_cons, List.getLastD_cons]
  rfl

theorem onlyUnderlinedAfter_concat (start : Bool) (ps : List Placed) (p : Placed) :
    onlyUnderlinedAfter start (ps ++ [p]) = p.underlined := by
  simp [onlyUnderlinedAfter]

end Placed

/-- The lines are the preamble followed by the sections, each below its header, and no line but the
titles is a header where it stands. -/
structure IsArrangement (start : Bool) (ls preamble : List Line) (ps : List Placed) : Prop where
  lines_eq : preamble ++ ps.flatMap Placed.lines = ls
  preamble_free : ∀ i < preamble.length, Header.atIndex? start ls i = none
  takes : ∀ p ∈ ps, p.part.header.Takes p.heading
  header_eq : ∀ before p after, ps = before ++ p :: after →
    Header.atIndex? (Placed.onlyUnderlinedAfter start before) ls (Placed.offset preamble before) =
      some p.part.header
  body_free : ∀ before p after, ps = before ++ p :: after → ∀ i < p.part.body.length,
    Header.atIndex? p.underlined ls (Placed.offset preamble before + p.heading.length + i) = none

namespace IsArrangement

variable {start : Bool} {ls preamble : List Line} {ps : List Placed}

theorem cons_line (h : IsArrangement start ls preamble ps) {l : Line}
    (hl : Header.at? start l ls.head? = none) :
    IsArrangement start (l :: ls) (l :: preamble) ps := by
  have hshift : ∀ (m : Bool) (i : Nat),
      Header.atIndex? m (l :: ls) (i + 1) = Header.atIndex? m ls i := by
    intro m i
    rw [Nat.add_comm]
    exact Header.atIndex?_append m [l] ls i
  have hoffset : ∀ before : List Placed,
      Placed.offset (l :: preamble) before = Placed.offset preamble before + 1 := fun _ => rfl
  constructor
  · rw [List.cons_append, h.lines_eq]
  · intro i hi
    cases i with
    | zero => rw [Header.atIndex?_zero, hl]
    | succ i => rw [hshift, h.preamble_free i (Nat.lt_of_succ_lt_succ hi)]
  · exact h.takes
  · intro before p after hps
    rw [hoffset, hshift, h.header_eq before p after hps]
  · intro before p after hps i hi
    have hindex : Placed.offset (l :: preamble) before + p.heading.length + i =
        Placed.offset preamble before + p.heading.length + i + 1 := by
      rw [hoffset]
      omega
    rw [hindex, hshift, h.body_free before p after hps i hi]

theorem cons_section {h : Header} {body : List Line}
    (hrest : IsArrangement h.underlined ls body ps) {heading : List Line}
    (htakes : h.Takes heading) (hat : Header.atIndex? start (heading ++ ls) 0 = some h) :
    IsArrangement start (heading ++ ls) [] (⟨heading, ⟨h, body⟩⟩ :: ps) := by
  have hoffset : ∀ before : List Placed,
      Placed.offset [] (⟨heading, ⟨h, body⟩⟩ :: before) =
        heading.length + Placed.offset body before := by
    intro before
    simp [Placed.offset, Placed.lines]
  constructor
  · rw [List.nil_append, List.flatMap_cons, Placed.lines, List.append_assoc, hrest.lines_eq]
  · intro i hi
    cases hi
  · exact List.forall_mem_cons.mpr ⟨htakes, hrest.takes⟩
  · intro before p after hps
    cases before with
    | nil =>
      obtain ⟨rfl, rfl⟩ := List.cons.inj hps
      exact hat
    | cons q before =>
      obtain ⟨rfl, htail⟩ := List.cons.inj hps
      rw [hoffset, Header.atIndex?_append, Placed.onlyUnderlinedAfter_cons]
      exact hrest.header_eq before p after htail
  · intro before p after hps i hi
    cases before with
    | nil =>
      obtain ⟨rfl, rfl⟩ := List.cons.inj hps
      rw [show Placed.offset [] [] = 0 from rfl, Nat.zero_add, Header.atIndex?_append]
      exact hrest.preamble_free i hi
    | cons q before =>
      obtain ⟨rfl, htail⟩ := List.cons.inj hps
      rw [hoffset, Nat.add_assoc, Nat.add_assoc, Header.atIndex?_append, ← Nat.add_assoc]
      exact hrest.body_free before p after htail i hi

/-- From an underlined section on all sections are underlined, by induction on those after it: each
is read where only underlined headers count. -/
theorem underlined_after (h : IsArrangement start ls preamble ps) {before after : List Placed}
    {p : Placed} (hps : ps = before ++ p :: after) (hp : p.underlined = true) :
    ∀ q ∈ after, q.underlined = true := by
  induction after generalizing before p with
  | nil => exact fun q hq => nomatch hq
  | cons q after ih =>
    have hps' : ps = (before ++ [p]) ++ q :: after := by rw [hps, List.append_assoc]; rfl
    have hq : q.underlined = true := by
      have hat := h.header_eq _ _ _ hps'
      rw [Placed.onlyUnderlinedAfter_concat, hp, Header.atIndex?] at hat
      split at hat
      · cases hat
      · exact Header.underlined_of_at?_true hat
    exact List.forall_mem_cons.mpr ⟨hq, ih hps' hq⟩

end IsArrangement

theorem exists_isArrangement_split (start : Bool) (ls : List Line) :
    ∃ ps, ps.map Placed.part = (Section.split start ls).2 ∧
      IsArrangement start ls (Section.split start ls).1 ps := by
  fun_induction Section.split start ls with
  | case1 start =>
    exact ⟨[], rfl, rfl, by simp, by simp, by simp, by simp⟩
  | case2 start l rest hat body sections hsplit ih =>
    rw [hsplit] at ih
    obtain ⟨ps, hparts, h⟩ := ih
    exact ⟨ps, hparts, h.cons_line hat⟩
  | case3 start l h hu hat =>
    rw [Header.underlined_at?_none hat] at hu
    cases hu
  | case4 start l h hu below rest body sections hsplit hat ih =>
    rw [hsplit, ← hu] at ih
    obtain ⟨ps, hparts, hrest⟩ := ih
    refine ⟨⟨[l, below], ⟨h, body⟩⟩ :: ps, by rw [List.map_cons, hparts], ?_⟩
    exact hrest.cons_section (Header.takes_of_at?_underline hat hu)
      (Header.atIndex?_zero _ _ _ ▸ hat)
  | case5 start l rest h hat hu body sections hsplit ih =>
    have hu' : h.underlined = false := by simpa using hu
    rw [hsplit, ← hu'] at ih
    obtain ⟨ps, hparts, hrest⟩ := ih
    refine ⟨⟨[l], ⟨h, body⟩⟩ :: ps, by rw [List.map_cons, hparts], ?_⟩
    exact hrest.cons_section (Header.takes_of_at?_colon hat hu') (Header.atIndex?_zero _ _ _ ▸ hat)

/-- Splitting loses, repeats and moves no line: the preamble, and each section below the lines of
its header, are the lines of the docstring. Headers are found where they stand and nowhere else, and
from the first underlined section on all are underlined. -/
theorem split_keeps_every_line (ls : List Line) :
    ∃ ps, ps.map Placed.part = (Section.split false ls).2 ∧
      IsArrangement false ls (Section.split false ls).1 ps ∧
      ∀ before p after, ps = before ++ p :: after → p.underlined = true →
        ∀ q ∈ after, q.underlined = true := by
  obtain ⟨ps, hparts, h⟩ := exists_isArrangement_split false ls
  exact ⟨ps, hparts, h, fun _ _ _ hps hp => h.underlined_after hps hp⟩

end Docstring
end RBinding
