import Mathlib.Data.List.TakeWhile
import Mathlib.Tactic.MkIffOfInductiveProp
import RBinding.Proofs.AccessPath

/-!
# RBinding.Proofs.AccessPath.Spelling

The targets that lead along the same segments. A target spells its segments with a run of separators
between any two of them; runs in front and at the end may be there or not (`spell`, `Separates`).

Segments are found again however they are spelled (`segments_spell`), and every target is a spelling
of its segments (`exists_spell`), so the segments of a target are the only ones that it spells
(`segments_eq_iff`).

* `pieces_append`: a text that goes on at a separator is cut there. All else follows from it and
  from `pieces_run_append`, which says that separators in front do not matter.
-/

namespace RBinding
namespace AccessPath

instance (s : String) : Decidable (IsSegment s) :=
  haveI : Decidable (∀ c ∈ s.toList, isSeparator c = false) := List.decidableBAll _ _
  decidable_of_iff (s.toList ≠ [] ∧ ∀ c ∈ s.toList, isSeparator c = false)
    ⟨fun h => ⟨h.1, h.2⟩, fun h => ⟨h.nonempty, h.plain⟩⟩

/-- The parts of a text between separators, without the empty ones. -/
def pieces (cs : List Char) : List (List Char) :=
  (cs.splitOnP isSeparator).filter (!·.isEmpty)

/-- The text is at its end, or goes on with a separator. -/
def AtBoundary (cs : List Char) : Prop :=
  ∀ c, cs.head? = some c → isSeparator c = true

theorem segments_eq (target : String) :
    segments target = (pieces target.toList).map String.ofList := rfl

theorem segments_of_pieces {target : String} {segs : List String}
    (h : pieces target.toList = segs.map String.toList) : segments target = segs := by
  rw [segments_eq, h, List.map_map]
  simp

theorem pieces_append_cons {c : Char} (hc : isSeparator c = true) (x y : List Char) :
    pieces (x ++ c :: y) = pieces x ++ pieces y := by
  rw [pieces, List.splitOnP_append_cons x y hc, List.filter_append]
  rfl

theorem pieces_cons {c : Char} (hc : isSeparator c = true) (y : List Char) :
    pieces (c :: y) = pieces y :=
  pieces_append_cons hc [] y

theorem pieces_run_append {run : List Char} (h : ∀ c ∈ run, isSeparator c = true)
    (y : List Char) : pieces (run ++ y) = pieces y := by
  induction run with
  | nil => rfl
  | cons c run ih =>
    rw [List.cons_append, pieces_cons (h c List.mem_cons_self)]
    exact ih fun c' hc' => h c' (List.mem_cons_of_mem c hc')

theorem pieces_run {run : List Char} (h : ∀ c ∈ run, isSeparator c = true) : pieces run = [] := by
  simpa [pieces] using pieces_run_append h []

theorem pieces_append {y : List Char} (h : AtBoundary y) (x : List Char) :
    pieces (x ++ y) = pieces x ++ pieces y := by
  cases y with
  | nil => simp [pieces]
  | cons c y =>
    have hc := h c rfl
    rw [pieces_append_cons hc, pieces_cons hc]

theorem pieces_of_plain {cs : List Char} (hne : cs ≠ []) (h : ∀ c ∈ cs, isSeparator c = false) :
    pieces cs = [cs] := by
  rw [pieces, List.splitOnP_eq_singleton h]
  exact List.filter_cons_of_pos (by simpa using hne)

theorem IsSegment.pieces_eq {s : String} (h : IsSegment s) : pieces s.toList = [s.toList] :=
  pieces_of_plain h.nonempty h.plain

theorem segments_intercalate {run : String} (hne : run ≠ "")
    (hrun : ∀ c ∈ run.toList, isSeparator c = true) {segs : List String}
    (hsegs : ∀ s ∈ segs, IsSegment s) : segments (run.intercalate segs) = segs := by
  apply segments_of_pieces
  induction segs with
  | nil => rfl
  | cons s segs ih =>
    have hs := hsegs s List.mem_cons_self
    have ih := ih fun s' hs' => hsegs s' (List.mem_cons_of_mem s hs')
    cases segs with
    | nil => simp [hs.pieces_eq]
    | cons t segs =>
      have hboundary : AtBoundary (run.toList ++ (run.intercalate (t :: segs)).toList) := by
        intro c hc
        rw [List.head?_append_of_ne_nil _ (by simpa using hne)] at hc
        exact hrun c (List.mem_of_mem_head? hc)
      rw [String.intercalate_cons_cons, String.toList_append, String.toList_append,
        List.append_assoc, pieces_append hboundary, pieces_run_append hrun, hs.pieces_eq, ih]
      rfl

/-- The segments with a gap in front of each and one at the end. -/
def spell : (Nat → String) → List String → String
  | gap, [] => gap 0
  | gap, s :: segs => gap 0 ++ s ++ spell (fun i => gap (i + 1)) segs

/-- The gaps around `n` segments are runs of separators, which are not empty between two of them. -/
@[mk_iff]
structure Separates (gap : Nat → String) (n : Nat) : Prop where
  separators : ∀ i ≤ n, ∀ c ∈ (gap i).toList, isSeparator c = true
  between : ∀ i < n, 0 < i → gap i ≠ ""

instance (gap : Nat → String) (n : Nat) : Decidable (Separates gap n) :=
  haveI (i : Nat) : Decidable (∀ c ∈ (gap i).toList, isSeparator c = true) :=
    List.decidableBAll _ _
  haveI : Decidable (∀ i ≤ n, ∀ c ∈ (gap i).toList, isSeparator c = true) :=
    Nat.decidableBallLE n _
  haveI : Decidable (∀ i < n, 0 < i → gap i ≠ "") := Nat.decidableBallLT n _
  decidable_of_iff' _ (separates_iff gap n)

namespace Separates

variable {gap : Nat → String} {n : Nat}

theorem tail (h : Separates gap (n + 1)) : Separates (fun i => gap (i + 1)) n where
  separators i hi := h.separators (i + 1) (Nat.succ_le_succ hi)
  between i hi _ := h.between (i + 1) (Nat.succ_lt_succ hi) (Nat.succ_pos i)

theorem atBoundary {segs : List String} (h : Separates gap (segs.length + 1)) :
    AtBoundary (spell (fun i => gap (i + 1)) segs).toList := by
  intro c hc
  refine h.separators 1 (Nat.succ_le_succ (Nat.zero_le _)) c ?_
  cases segs with
  | nil => exact List.mem_of_mem_head? hc
  | cons s segs =>
    have hgap : (gap 1).toList ≠ [] := by
      simpa using h.between 1 (Nat.succ_lt_succ (Nat.succ_pos _)) Nat.one_pos
    rw [spell, String.toList_append, String.toList_append, List.append_assoc,
      List.head?_append_of_ne_nil _ hgap] at hc
    exact List.mem_of_mem_head? hc

end Separates

/-- The segments are found in any spelling. By induction on them: the gap in front does not matter,
and what follows the first one is at a boundary. -/
theorem segments_spell {gap : Nat → String} {segs : List String} (hsegs : ∀ s ∈ segs, IsSegment s)
    (h : Separates gap segs.length) : segments (spell gap segs) = segs := by
  apply segments_of_pieces
  induction segs generalizing gap with
  | nil => exact pieces_run (h.separators 0 (Nat.zero_le _))
  | cons s segs ih =>
    have hs := hsegs s List.mem_cons_self
    rw [spell, String.toList_append, String.toList_append, List.append_assoc,
      pieces_run_append (h.separators 0 (Nat.zero_le _)), pieces_append h.atBoundary,
      hs.pieces_eq, ih (fun s' hs' => hsegs s' (List.mem_cons_of_mem s hs')) h.tail]
    rfl

def withFront (run : List Char) (gap : Nat → String) : Nat → String
  | 0 => String.ofList run
  | i + 1 => gap i

theorem Separates.withFront {run : List Char} {gap : Nat → String} {n : Nat} (h : Separates gap n)
    (hrun : ∀ c ∈ run, isSeparator c = true) (hfront : 0 < n → gap 0 ≠ "") :
    Separates (withFront run gap) (n + 1) where
  separators := by
    rintro (_ | i) hi
    · simpa [AccessPath.withFront] using hrun
    · exact h.separators i (Nat.le_of_succ_le_succ hi)
  between := by
    rintro (_ | _ | i) hi hpos
    · cases hpos
    · exact hfront (Nat.lt_of_succ_lt_succ hi)
    · exact h.between (i + 1) (Nat.lt_of_succ_lt_succ hi) (Nat.succ_pos i)

theorem IsSegment.front_ne_empty {gap : Nat → String} {s : String} {segs : List String}
    (hs : IsSegment s) (h : AtBoundary (spell gap (s :: segs)).toList) : gap 0 ≠ "" := by
  intro hgap
  obtain ⟨c, cs, hcs⟩ := List.exists_cons_of_ne_nil hs.nonempty
  have hplain : isSeparator c = false := hs.plain c (by simp [hcs])
  have hseparator : isSeparator c = true := h c (by simp [spell, hgap, hcs])
  rw [hplain] at hseparator
  cases hseparator

theorem exists_first_piece {cs : List Char} (h : ¬∀ c ∈ cs, isSeparator c = true) :
    ∃ run piece rest, cs = run ++ (piece ++ rest) ∧ (∀ c ∈ run, isSeparator c = true) ∧
      piece ≠ [] ∧ (∀ c ∈ piece, isSeparator c = false) ∧ AtBoundary rest := by
  let tail := cs.dropWhile isSeparator
  have htail : tail ≠ [] := by
    intro hnil
    exact h fun c hc => List.dropWhile_eq_nil_iff.mp hnil c hc
  refine ⟨cs.takeWhile isSeparator, tail.takeWhile (!isSeparator ·),
    tail.dropWhile (!isSeparator ·), ?_, fun c hc => List.mem_takeWhile_imp hc, ?_, ?_, ?_⟩
  · rw [List.takeWhile_append_dropWhile, List.takeWhile_append_dropWhile]
  · have hhead := List.head?_dropWhile_not isSeparator cs
    obtain ⟨d, ds, hds⟩ := List.exists_cons_of_ne_nil htail
    have hd : isSeparator d = false := by simpa [tail, hds] using hhead
    simp [hds, hd]
  · intro c hc
    simpa using List.mem_takeWhile_imp hc
  · intro c hc
    have hhead := List.head?_dropWhile_not (!isSeparator ·) tail
    rw [hc] at hhead
    simpa using hhead

/-- Every text is a spelling of its segments. By induction on its length, since what follows the
first piece is shorter. -/
theorem exists_spell_ofList (cs : List Char) :
    ∃ gap, Separates gap (segments (String.ofList cs)).length ∧
      spell gap (segments (String.ofList cs)) = String.ofList cs := by
  induction hn : cs.length using Nat.strongRecOn generalizing cs with
  | ind n ih =>
    by_cases hall : ∀ c ∈ cs, isSeparator c = true
    · have hsegments : segments (String.ofList cs) = [] := by
        rw [segments_eq, String.toList_ofList, pieces_run hall, List.map_nil]
      rw [hsegments]
      refine ⟨fun _ => String.ofList cs, ⟨?_, fun i hi => absurd hi (Nat.not_lt_zero i)⟩, rfl⟩
      simpa using hall
    · obtain ⟨run, piece, rest, rfl, hrun, hne, hpiece, hrest⟩ := exists_first_piece hall
      have hsegments : segments (String.ofList (run ++ (piece ++ rest))) =
          String.ofList piece :: segments (String.ofList rest) := by
        simp only [segments_eq, String.toList_ofList]
        rw [pieces_run_append hrun, pieces_append hrest, pieces_of_plain hne hpiece]
        rfl
      have hlength : rest.length < n := by
        have hpos := List.length_pos_of_ne_nil hne
        simp only [List.length_append] at hn
        omega
      obtain ⟨gap, hgap, hspell⟩ := ih rest.length hlength rest rfl
      -- The front gap of the rest comes to stand between two segments, unless it is the last one.
      have hfront : 0 < (segments (String.ofList rest)).length → gap 0 ≠ "" := by
        intro hpos
        obtain ⟨s, segs, hsegs⟩ := List.exists_cons_of_ne_nil (List.ne_nil_of_length_pos hpos)
        have hs : IsSegment s := isSegment_of_mem (hsegs ▸ List.mem_cons_self)
        have hboundary : AtBoundary (spell gap (s :: segs)).toList := by
          rwa [← hsegs, hspell, String.toList_ofList]
        exact hs.front_ne_empty hboundary
      rw [hsegments]
      refine ⟨withFront run gap, hgap.withFront hrun hfront, ?_⟩
      simp only [spell, withFront, hspell, String.ofList_append, String.append_assoc]

theorem exists_spell (target : String) :
    ∃ gap, Separates gap (segments target).length ∧ spell gap (segments target) = target := by
  have h := exists_spell_ofList target.toList
  rwa [String.ofList_toList] at h

theorem segments_eq_iff {target : String} {segs : List String} :
    segments target = segs ↔
      (∀ s ∈ segs, IsSegment s) ∧ ∃ gap, Separates gap segs.length ∧ spell gap segs = target := by
  constructor
  · rintro rfl
    exact ⟨fun s hs => isSegment_of_mem hs, exists_spell target⟩
  · rintro ⟨hsegs, gap, hgap, rfl⟩
    exact segments_spell hsegs hgap

end AccessPath
end RBinding
