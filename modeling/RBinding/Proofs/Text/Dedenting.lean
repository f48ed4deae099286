import RBinding.Proofs.Text.Margin

/-!
# RBinding.Proofs.Text.Dedenting

What dedenting does to the lines of a text that are not blank. All of them are kept in their order,
and each loses the margin. The text is trimmed after that, so the first of them loses its
indentation beside the margin as well (`indentations_dedent`): any two lines after it are as far
apart as they were, and the first one is as far from them as it was just when no line stands further
to the left (`dedent_indentation`).
-/

namespace RBinding
namespace Text

def nonblank (ls : List Line) : List Line :=
  ls.filter (!isAllBlank ·)

theorem nonblank_cons_of_blank {l : Line} (h : isAllBlank l = true) (ls : List Line) :
    nonblank (l :: ls) = nonblank ls :=
  List.filter_cons_of_neg (by simp [h])

theorem nonblank_cons_of_not_blank {l : Line} (h : isAllBlank l = false) (ls : List Line) :
    nonblank (l :: ls) = l :: nonblank ls :=
  List.filter_cons_of_pos (by simp [h])

theorem nonblank_append (ls ls' : List Line) :
    nonblank (ls ++ ls') = nonblank ls ++ nonblank ls' :=
  List.filter_append ls ls'

theorem mem_nonblank {ls : List Line} {l : Line} :
    l ∈ nonblank ls ↔ l ∈ ls ∧ isAllBlank l = false := by
  simp [nonblank]

theorem nonblank_eq_nil_iff {ls : List Line} :
    nonblank ls = [] ↔ ∀ l ∈ ls, isAllBlank l = true := by
  simp [nonblank]

/-- The indentations of the lines that are not blank. -/
def indentations (ls : List Line) : List Nat :=
  (nonblank ls).map indentOf

theorem leastIndent_eq_min? (ls : List Line) : leastIndent ls = (indentations ls).min?.getD 0 := by
  rw [leastIndent, indentations, nonblank]
  cases ((ls.filter (!isAllBlank ·)).map indentOf).min? <;> rfl

theorem trimStart_unlines_cons {l : Line} (h : isAllBlank l = false) (ls : List Line) :
    trimStart (unlines (l :: ls)) = unlines (trimStart l :: ls) := by
  cases ls with
  | nil => simp [unlines]
  | cons l' ls => rw [unlines_cons_cons, unlines_cons_cons, trimStart_append_of_not_isAllBlank h]

theorem trimEnd_unlines_concat {l : Line} (h : isAllBlank l = false) (ls : List Line) :
    trimEnd (unlines (ls ++ [l])) = unlines (ls ++ [trimEnd l]) := by
  cases ls with
  | nil => simp [unlines]
  | cons l' ls =>
    rw [unlines_concat (by simp), unlines_concat (by simp), List.append_cons,
      trimEnd_append_of_not_isAllBlank _ h, ← List.append_cons]

/-- Trimming the start of a text drops the blank lines there and trims the first line that is left,
by induction on the lines. -/
theorem nonblank_lines_trimStart {ls : List Line} (h : ∀ l ∈ ls, '\n' ∉ l) :
    nonblank (lines (trimStart (unlines ls))) = (nonblank ls).modifyHead trimStart := by
  induction ls with
  | nil => rfl
  | cons l ls ih =>
    obtain ⟨hl, hls⟩ := List.forall_mem_cons.mp h
    cases hb : isAllBlank l with
    | true =>
      have hdrop : trimStart (unlines (l :: ls)) = trimStart (unlines ls) := by
        cases ls with
        | nil => simp [unlines, trimStart_eq_nil_iff.mpr hb]
        | cons l' ls =>
          have hnewline : isAllBlank ['\n'] = true := by decide
          rw [unlines_cons_cons, trimStart_of_isAllBlank_append hb]
          exact trimStart_of_isAllBlank_append hnewline _
      rw [hdrop, ih hls, nonblank_cons_of_blank hb]
    | false =>
      have hl' : '\n' ∉ trimStart l := fun hmem => hl (trimStart_subset l hmem)
      rw [trimStart_unlines_cons hb,
        lines_unlines (List.forall_mem_cons.mpr ⟨hl', hls⟩) (List.cons_ne_nil _ _),
        nonblank_cons_of_not_blank hb,
        nonblank_cons_of_not_blank (by rw [isAllBlank_trimStart, hb])]
      rfl

theorem nonblank_lines_trimEnd {ls : List Line} (h : ∀ l ∈ ls, '\n' ∉ l) :
    (nonblank (lines (trimEnd (unlines ls)))).map trimEnd = (nonblank ls).map trimEnd := by
  induction ls with
  | nil => rfl
  | cons l ls ih =>
    obtain ⟨hl, hls⟩ := List.forall_mem_cons.mp h
    cases hb : isAllBlank (unlines ls) with
    | true =>
      have hnone : nonblank ls = [] := by
        rw [nonblank_eq_nil_iff]
        rw [isAllBlank_unlines, List.all_eq_true] at hb
        exact hb
      have hcut : trimEnd (unlines (l :: ls)) = trimEnd l := by
        cases ls with
        | nil => simp [unlines]
        | cons l' ls =>
          rw [unlines_cons_cons]
          exact trimEnd_append_of_isAllBlank l (by rw [isAllBlank_cons, hb, isBlank_newline]; rfl)
      have hl' : '\n' ∉ trimEnd l := fun hmem => hl (trimEnd_subset l hmem)
      have hidem : trimEnd (trimEnd l) = trimEnd l := List.rdropWhile_idempotent isBlank l
      rw [hcut, lines_eq_singleton hl']
      cases hbl : isAllBlank l with
      | true =>
        rw [nonblank_cons_of_blank hbl, nonblank_cons_of_blank (by rw [isAllBlank_trimEnd, hbl]),
          hnone]
        rfl
      | false =>
        rw [nonblank_cons_of_not_blank hbl,
          nonblank_cons_of_not_blank (by rw [isAllBlank_trimEnd, hbl]), hnone]
        simp [nonblank, hidem]
    | false =>
      have hne : ls ≠ [] := by
        rintro rfl
        cases hb
      have hcut : trimEnd (unlines (l :: ls)) = l ++ '\n' :: trimEnd (unlines ls) := by
        rw [unlines_cons l hne, List.append_cons, trimEnd_append_of_not_isAllBlank _ hb,
          ← List.append_cons]
      rw [hcut, lines_append_newline, lines_eq_singleton hl, List.singleton_append]
      cases hbl : isAllBlank l with
      | true => rw [nonblank_cons_of_blank hbl, nonblank_cons_of_blank hbl, ih hls]
      | false =>
        rw [nonblank_cons_of_not_blank hbl, nonblank_cons_of_not_blank hbl, List.map_cons,
          List.map_cons, ih hls]

theorem nonblank_map_cutMargin (ls : List Line) :
    nonblank (ls.map (cutMargin (leastIndent ls))) =
      (nonblank ls).map (List.drop (leastIndent ls)) := by
  have hcut : ∀ l ∈ ls, isAllBlank l = false →
      cutMargin (leastIndent ls) l = l.drop (leastIndent ls) := fun l hl hb =>
    if_pos (Nat.le_trans (leastIndent_le hl hb) (indentOf_le_length l))
  have hblank : ∀ l ∈ ls, isAllBlank (cutMargin (leastIndent ls) l) = isAllBlank l := by
    intro l hl
    cases hb : isAllBlank l with
    | true => exact isAllBlank_cutMargin hb _
    | false => rw [hcut l hl hb, isAllBlank_drop (leastIndent_le hl hb), hb]
  rw [nonblank, List.filter_map]
  have hfilter : ls.filter ((!isAllBlank ·) ∘ cutMargin (leastIndent ls)) = nonblank ls :=
    List.filter_congr fun l hl => by simp [hblank l hl]
  rw [hfilter]
  refine List.map_congr_left fun l hl => ?_
  obtain ⟨hl, hb⟩ := mem_nonblank.mp hl
  exact hcut l hl hb

theorem not_mem_cutMargin {l : Line} (h : '\n' ∉ l) (n : Nat) : '\n' ∉ cutMargin n l := by
  rw [cutMargin]
  split
  · exact fun hmem => h (List.mem_of_mem_drop hmem)
  · exact h

/-- Up to blank characters at their ends, the lines that are not blank lose the margin and the first
of them its indentation. -/
theorem nonblank_dedent {ls : List Line} (h : ∀ l ∈ ls, '\n' ∉ l) :
    (nonblank (lines (dedent ls))).map trimEnd =
      (((nonblank ls).map (List.drop (leastIndent ls))).modifyHead trimStart).map trimEnd := by
  have hcut : ∀ l ∈ ls.map (cutMargin (leastIndent ls)), '\n' ∉ l := by
    intro l hl
    obtain ⟨l, hmem, rfl⟩ := List.mem_map.mp hl
    exact not_mem_cutMargin (h l hmem) _
  have hlines : ∀ cs : List Char, ∀ l ∈ lines cs, '\n' ∉ l := fun _ _ => not_mem_of_mem_lines
  rw [dedent, trim, ← unlines_lines (trimStart _), nonblank_lines_trimEnd (hlines _),
    nonblank_lines_trimStart hcut, nonblank_map_cutMargin]

theorem map_indentOf_map_trimEnd {ls : List Line} (h : ∀ l ∈ ls, isAllBlank l = false) :
    (ls.map trimEnd).map indentOf = ls.map indentOf := by
  rw [List.map_map]
  exact List.map_congr_left fun l hl => indentOf_trimEnd (h l hl)

theorem map_trim_map_trimEnd (ls : List Line) : (ls.map trimEnd).map trim = ls.map trim := by
  rw [List.map_map]
  exact List.map_congr_left fun l _ => trim_trimEnd l

theorem map_trim_nonblank_dedent {ls : List Line} (h : ∀ l ∈ ls, '\n' ∉ l) :
    (nonblank (lines (dedent ls))).map trim = (nonblank ls).map trim := by
  rw [← map_trim_map_trimEnd, nonblank_dedent h, map_trim_map_trimEnd]
  have hleast : ∀ l ∈ nonblank ls, leastIndent ls ≤ indentOf l := fun l hl =>
    leastIndent_le (mem_nonblank.mp hl).1 (mem_nonblank.mp hl).2
  have htrim : ∀ l ∈ nonblank ls, trim (l.drop (leastIndent ls)) = trim l := fun l hl =>
    trim_drop (hleast l hl)
  cases hls : nonblank ls with
  | nil => rfl
  | cons first rest =>
    rw [hls] at htrim
    obtain ⟨hfirst, hrest⟩ := List.forall_mem_cons.mp htrim
    rw [List.map_cons, List.modifyHead_cons, List.map_cons, List.map_cons, trim_trimStart, hfirst,
      List.map_map]
    exact congrArg _ (List.map_congr_left hrest)

/-- Every line that is not blank comes to stand where it stood, seen from the margin, and the first
one at the margin. -/
theorem indentations_dedent {ls : List Line} (h : ∀ l ∈ ls, '\n' ∉ l) :
    indentations (lines (dedent ls)) =
      ((indentations ls).map (· - leastIndent ls)).modifyHead fun _ => 0 := by
  have hleast : ∀ l ∈ nonblank ls, leastIndent ls ≤ indentOf l := fun l hl =>
    leastIndent_le (mem_nonblank.mp hl).1 (mem_nonblank.mp hl).2
  have hblank : ∀ l ∈ nonblank ls, isAllBlank (l.drop (leastIndent ls)) = false := fun l hl => by
    rw [isAllBlank_drop (hleast l hl), (mem_nonblank.mp hl).2]
  have hindent : ∀ l ∈ nonblank ls, indentOf (l.drop (leastIndent ls)) =
      indentOf l - leastIndent ls := fun l hl => indentOf_drop (hleast l hl)
  rw [indentations, ← map_indentOf_map_trimEnd fun l hl => (mem_nonblank.mp hl).2,
    nonblank_dedent h, indentations]
  cases hls : nonblank ls with
  | nil => rfl
  | cons first rest =>
    rw [hls] at hblank hindent
    obtain ⟨hfirst, hrest⟩ := List.forall_mem_cons.mp hblank
    have hlines : ∀ l ∈ trimStart (first.drop (leastIndent ls)) ::
        rest.map (List.drop (leastIndent ls)), isAllBlank l = false := by
      refine List.forall_mem_cons.mpr ⟨by rw [isAllBlank_trimStart, hfirst], fun l hl => ?_⟩
      obtain ⟨l, hmem, rfl⟩ := List.mem_map.mp hl
      exact hrest l hmem
    rw [List.map_cons, List.modifyHead_cons, map_indentOf_map_trimEnd hlines, List.map_cons,
      indentOf_trimStart, List.map_map, List.map_cons, List.map_cons, List.modifyHead_cons,
      List.map_map]
    exact congrArg _ (List.map_congr_left fun l hl => hindent l (List.mem_cons_of_mem _ hl))

/-- Any two numbers of the first list are as far apart as their counterparts in the second. -/
def SameDistances (as bs : List Nat) : Prop :=
  ∀ p ∈ as.zip bs, ∀ q ∈ as.zip bs, (p.1 : Int) - q.1 = (p.2 : Int) - q.2

instance (as bs : List Nat) : Decidable (SameDistances as bs) :=
  inferInstanceAs (Decidable (∀ p ∈ as.zip bs, ∀ q ∈ as.zip bs, _))

theorem zip_map_sub (as : List Nat) (n : Nat) :
    as.zip (as.map (· - n)) = as.map fun a => (a, a - n) := by
  simpa using List.zip_map' (f := id) (g := (· - n)) (l := as)

theorem sameDistances_map_sub {as : List Nat} {n : Nat} (h : ∀ a ∈ as, n ≤ a) :
    SameDistances as (as.map (· - n)) := by
  rw [SameDistances, zip_map_sub]
  intro p hp q hq
  obtain ⟨a, ha, rfl⟩ := List.mem_map.mp hp
  obtain ⟨b, hb, rfl⟩ := List.mem_map.mp hq
  have := h a ha
  have := h b hb
  simp only
  omega

theorem sameDistances_zero_cons_iff {a n : Nat} {as : List Nat} (h : ∀ b ∈ a :: as, n ≤ b)
    (hn : n ∈ a :: as) : SameDistances (a :: as) (0 :: as.map (· - n)) ↔ a = n := by
  constructor
  · intro hsame
    rcases List.mem_cons.mp hn with rfl | hmem
    · rfl
    · have hpair : (n, 0) ∈ as.zip (as.map (· - n)) := by
        rw [zip_map_sub]
        exact List.mem_map.mpr ⟨n, hmem, by rw [Nat.sub_self]⟩
      have hdistance := hsame (a, 0) List.mem_cons_self (n, 0) (List.mem_cons_of_mem _ hpair)
      simp only at hdistance
      omega
  · rintro rfl
    have hself := sameDistances_map_sub h
    rwa [List.map_cons, Nat.sub_self] at hself

theorem leastIndent_le_of_mem_indentations {ls : List Line} {i : Nat} (h : i ∈ indentations ls) :
    leastIndent ls ≤ i := by
  obtain ⟨l, hl, rfl⟩ := List.mem_map.mp h
  exact leastIndent_le (mem_nonblank.mp hl).1 (mem_nonblank.mp hl).2

theorem leastIndent_mem_indentations {ls : List Line} (h : indentations ls ≠ []) :
    leastIndent ls ∈ indentations ls := by
  rw [leastIndent_eq_min?]
  cases hmin : (indentations ls).min? with
  | none => exact absurd (List.min?_eq_none_iff.mp hmin) h
  | some n => exact (List.min?_eq_some_iff.mp hmin).1

theorem leastIndent_dedent {ls : List Line} (h : ∀ l ∈ ls, '\n' ∉ l) :
    leastIndent (lines (dedent ls)) = 0 := by
  rw [leastIndent_eq_min?, indentations_dedent h]
  cases indentations ls with
  | nil => rfl
  | cons a as =>
    rw [List.map_cons, List.modifyHead_cons,
      List.min?_eq_some_iff.mpr ⟨List.mem_cons_self, fun _ _ => Nat.zero_le _⟩]
    rfl

/-- Dedenting keeps the lines that are not blank and sets the least indentation to zero. The lines
after the first of them stay as far apart as they were. That one comes to stand at the margin, so
its distances from the others stay just when it had the least indentation. -/
theorem dedent_indentation (text : List Char) :
    (nonblank (lines (dedent (lines text)))).map trim = (nonblank (lines text)).map trim ∧
      indentations (lines (dedent (lines text))) =
        ((indentations (lines text)).map (· - leastIndent (lines text))).modifyHead (fun _ => 0) ∧
      leastIndent (lines (dedent (lines text))) = 0 ∧
      SameDistances (indentations (lines text)).tail
        (indentations (lines (dedent (lines text)))).tail ∧
      (SameDistances (indentations (lines text)) (indentations (lines (dedent (lines text)))) ↔
        ∀ first, (indentations (lines text)).head? = some first →
          first = leastIndent (lines text)) := by
  have hlines : ∀ l ∈ lines text, '\n' ∉ l := fun l hl => not_mem_of_mem_lines hl
  refine ⟨map_trim_nonblank_dedent hlines, indentations_dedent hlines,
    leastIndent_dedent hlines, ?_⟩
  rw [indentations_dedent hlines]
  have hle : ∀ b ∈ indentations (lines text), leastIndent (lines text) ≤ b := fun b hb =>
    leastIndent_le_of_mem_indentations hb
  cases has : indentations (lines text) with
  | nil => simp [SameDistances]
  | cons a as =>
    rw [has] at hle
    have hmem : leastIndent (lines text) ∈ a :: as :=
      has ▸ leastIndent_mem_indentations (by simp [has])
    constructor
    · exact sameDistances_map_sub fun b hb => hle b (List.mem_cons_of_mem a hb)
    · simpa using sameDistances_zero_cons_iff hle hmem

/-- A line that stands to the right of the next one comes to stand right above it. -/
theorem dedent_moves_first_line :
    indentations (lines "        sum of a\n    and b".toList) = [8, 4] ∧
      dedent (lines "        sum of a\n    and b".toList) = "sum of a\nand b".toList ∧
      ¬ SameDistances (indentations (lines "        sum of a\n    and b".toList))
        (indentations (lines (dedent (lines "        sum of a\n    and b".toList)))) := by
  refine ⟨?_, ?_, ?_⟩ <;> decide

end Text
end RBinding
