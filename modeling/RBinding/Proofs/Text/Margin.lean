import Mathlib.Tactic.MkIffOfInductiveProp
import RBinding.Proofs.Text.Trimming
import RBinding.Text.Margin

/-!
# RBinding.Proofs.Text.Margin

Removing the margin undoes indenting. A trimmed text, indented by any number of spaces line by
line, is what `dedent` gives back (`dedent_map_shifted`). Documentation lines that start at the
margin and hold no tab come out of `clean` as they went in, up to empty lines at their end
(`cleanLines_of_leastIndent_eq_zero`), and a text without runs of blank lines is not changed by
`squeeze` (`squeeze_eq_self`).

Empty lines at the end of a text never count; `dropTail` takes them off. Nor do blank lines there
count for `dedent` (`dedent_append_of_blank`).
-/

namespace RBinding
namespace Text

/-- The lines without the empty ones at the end. -/
def dropTail (ls : List Line) : List Line :=
  ls.rdropWhile List.isEmpty

theorem dropTail_concat_nil (ls : List Line) : dropTail (ls ++ [[]]) = dropTail ls :=
  List.rdropWhile_concat_pos _ _ _ rfl

/-- What does not see an empty line at the end does not see any number of them. -/
theorem apply_dropTail {α : Type} {f : List Line → α} (h : ∀ ls, f (ls ++ [[]]) = f ls)
    (ls : List Line) : f (dropTail ls) = f ls := by
  induction ls using List.reverseRecOn with
  | nil => rfl
  | append_singleton ls l ih =>
    cases l with
    | nil => rw [dropTail_concat_nil, ih, h]
    | cons c cs => rw [dropTail, List.rdropWhile_concat_neg _ _ _ (by simp)]

theorem unlines_cons_cons (l l' : Line) (ls : List Line) :
    unlines (l :: l' :: ls) = l ++ '\n' :: unlines (l' :: ls) := by
  rw [unlines, List.intercalate_cons_cons]
  simp [unlines]

theorem unlines_cons (l : Line) {ls : List Line} (h : ls ≠ []) :
    unlines (l :: ls) = l ++ '\n' :: unlines ls := by
  obtain ⟨l', ls, rfl⟩ := List.exists_cons_of_ne_nil h
  exact unlines_cons_cons l l' ls

theorem unlines_append {as bs : List Line} (ha : as ≠ []) (hb : bs ≠ []) :
    unlines (as ++ bs) = unlines as ++ '\n' :: unlines bs := by
  induction as with
  | nil => exact absurd rfl ha
  | cons l as ih =>
    cases as with
    | nil => rw [List.singleton_append, unlines_cons l hb, unlines, unlines,
        List.intercalate_singleton]
    | cons l' as =>
      rw [List.cons_append, unlines_cons l (by simp), ih (List.cons_ne_nil _ _), unlines_cons_cons,
        List.append_assoc]
      rfl

theorem unlines_concat {ls : List Line} (h : ls ≠ []) (l : Line) :
    unlines (ls ++ [l]) = unlines ls ++ '\n' :: l := by
  rw [unlines_append h (List.cons_ne_nil _ _), unlines, unlines, List.intercalate_singleton]

theorem not_mem_intercalate {c : Char} {separator : List Char} (hc : c ∉ separator)
    {texts : List (List Char)} (h : ∀ t ∈ texts, c ∉ t) : c ∉ separator.intercalate texts := by
  induction texts with
  | nil => exact List.not_mem_nil
  | cons t ts ih =>
    obtain ⟨ht, hts⟩ := List.forall_mem_cons.mp h
    cases ts with
    | nil => rwa [List.intercalate_singleton]
    | cons t' ts => simp [List.intercalate_cons_cons, ht, hc, ih hts]

theorem lines_ne_nil (cs : List Char) : lines cs ≠ [] :=
  List.splitOn_ne_nil '\n' cs

theorem not_mem_of_mem_lines {cs : List Char} {l : Line} (h : l ∈ lines cs) : '\n' ∉ l := by
  induction cs generalizing l with
  | nil =>
    rw [lines, List.splitOn_nil, List.mem_singleton] at h
    subst h
    exact List.not_mem_nil
  | cons c cs ih =>
    rw [lines, List.splitOn_cons_eq_if_modifyHead] at h
    split at h
    · rcases List.mem_cons.mp h with rfl | h
      · exact List.not_mem_nil
      · exact ih h
    · rename_i hc
      obtain ⟨first, rest, hls⟩ := List.exists_cons_of_ne_nil (lines_ne_nil cs)
      rw [lines] at hls
      rw [hls, List.modifyHead_cons] at h
      rcases List.mem_cons.mp h with rfl | h
      · intro hn
        rcases List.mem_cons.mp hn with rfl | hn
        · exact hc (by simp)
        · exact ih (by rw [lines, hls]; exact List.mem_cons_self) hn
      · exact ih (by rw [lines, hls]; exact List.mem_cons_of_mem _ h)

theorem mem_of_mem_lines {cs : List Char} {l : Line} (hl : l ∈ lines cs) {c : Char}
    (hc : c ∈ l) : c ∈ cs := by
  rw [← unlines_lines cs]
  have h : ∀ ls : List Line, l ∈ ls → c ∈ unlines ls := by
    intro ls
    induction ls with
    | nil => intro h; cases h
    | cons l' ls ih =>
      intro h
      cases ls with
      | nil =>
        rw [List.mem_singleton] at h
        subst h
        simpa [unlines] using hc
      | cons l'' ls =>
        rw [unlines_cons_cons]
        rcases List.mem_cons.mp h with rfl | h
        · exact List.mem_append_left _ hc
        · exact List.mem_append_right _ (List.mem_cons_of_mem _ (ih h))
  exact h _ hl

theorem lines_eq_singleton {l : Line} (h : '\n' ∉ l) : lines l = [l] := by
  have hlines : ∀ l' ∈ [l], '\n' ∉ l' := by simpa using h
  have hsplit := lines_unlines hlines (List.cons_ne_nil _ _)
  rwa [unlines, List.intercalate_singleton] at hsplit

theorem lines_append_newline (cs ds : List Char) :
    lines (cs ++ '\n' :: ds) = lines cs ++ lines ds := by
  have hlines : ∀ l ∈ lines cs ++ lines ds, '\n' ∉ l := by
    intro l hl
    exact (List.mem_append.mp hl).elim not_mem_of_mem_lines not_mem_of_mem_lines
  have hsplit := lines_unlines hlines (by simp [lines_ne_nil])
  rwa [unlines_append (lines_ne_nil cs) (lines_ne_nil ds), unlines_lines, unlines_lines] at hsplit

theorem isAllBlank_unlines (ls : List Line) : isAllBlank (unlines ls) = ls.all isAllBlank := by
  induction ls with
  | nil => rfl
  | cons l ls ih =>
    rw [List.all_cons, ← ih]
    cases ls with
    | nil => simp [unlines]
    | cons l' ls =>
      rw [unlines_cons_cons, isAllBlank_append, isAllBlank_cons, isBlank_newline, Bool.true_and]

theorem exists_lines_eq_cons {cs : List Char} (h : trim cs = cs) (hne : cs ≠ []) :
    ∃ c first rest, lines cs = (c :: first) :: rest ∧ isBlank c = false := by
  obtain ⟨c, more, rfl, hc⟩ := exists_cons_of_trim_eq_self h hne
  have hnl : ¬ (c == '\n') = true := by
    intro hn
    rw [beq_iff_eq] at hn
    rw [hn, isBlank_newline] at hc
    cases hc
  obtain ⟨first, rest, hls⟩ := List.exists_cons_of_ne_nil (lines_ne_nil more)
  refine ⟨c, first, rest, ?_, hc⟩
  rw [lines] at hls ⊢
  rw [List.splitOn_cons_eq_if_modifyHead, if_neg hnl, hls, List.modifyHead_cons]

theorem leastIndent_eq {ls : List Line} {n : Nat}
    (hmem : ∃ l ∈ ls, isAllBlank l = false ∧ indentOf l = n)
    (hle : ∀ l ∈ ls, isAllBlank l = false → n ≤ indentOf l) : leastIndent ls = n := by
  have hmin : ((ls.filter (!isAllBlank ·)).map indentOf).min? = some n := by
    rw [List.min?_eq_some_iff]
    constructor
    · obtain ⟨l, hl, hb, hn⟩ := hmem
      exact List.mem_map.mpr ⟨l, List.mem_filter.mpr ⟨hl, by simp [hb]⟩, hn⟩
    · intro k hk
      obtain ⟨l, hl, rfl⟩ := List.mem_map.mp hk
      obtain ⟨hl, hb⟩ := List.mem_filter.mp hl
      exact hle l hl (by simpa using hb)
  rw [leastIndent, hmin]

theorem leastIndent_le {ls : List Line} {l : Line} (hl : l ∈ ls) (h : isAllBlank l = false) :
    leastIndent ls ≤ indentOf l := by
  have hmem : indentOf l ∈ (ls.filter (!isAllBlank ·)).map indentOf :=
    List.mem_map_of_mem (List.mem_filter.mpr ⟨hl, by simp [h]⟩)
  rw [leastIndent]
  cases hmin : ((ls.filter (!isAllBlank ·)).map indentOf).min? with
  | none => exact Nat.zero_le _
  | some n => exact (List.min?_eq_some_iff.mp hmin).2 _ hmem

theorem leastIndent_eq_zero {ls : List Line}
    (h : ∃ l ∈ ls, isAllBlank l = false ∧ indentOf l = 0) : leastIndent ls = 0 :=
  leastIndent_eq h fun _ _ _ => Nat.zero_le _

theorem leastIndent_append_of_blank {blanks : List Line} (h : ∀ b ∈ blanks, isAllBlank b = true)
    (ls : List Line) : leastIndent (ls ++ blanks) = leastIndent ls := by
  have hnil : blanks.filter (!isAllBlank ·) = [] := by
    rw [List.filter_eq_nil_iff]
    intro b hb
    simp [h b hb]
  rw [leastIndent, leastIndent, List.filter_append, hnil, List.append_nil]

theorem leastIndent_of_blank {ls : List Line} (h : ∀ l ∈ ls, isAllBlank l = true) :
    leastIndent ls = 0 :=
  leastIndent_append_of_blank h []

theorem cutMargin_indented (n : Nat) (l : Line) : cutMargin n (indented n l) = l := by
  rw [cutMargin, if_pos (by simp [indented])]
  exact drop_indented n 0 l

theorem isAllBlank_cutMargin {l : Line} (h : isAllBlank l = true) (n : Nat) :
    isAllBlank (cutMargin n l) = true := by
  rw [cutMargin]
  split
  · exact isAllBlank_drop_of_isAllBlank h n
  · exact h

theorem dedent_append_of_blank {blanks : List Line} (h : ∀ b ∈ blanks, isAllBlank b = true)
    (ls : List Line) : dedent (ls ++ blanks) = dedent ls := by
  have hcut : ∀ n, (blanks.map (cutMargin n)).all isAllBlank = true := by
    intro n
    rw [List.all_map, List.all_eq_true]
    exact fun b hb => isAllBlank_cutMargin (h b hb) n
  rw [dedent, dedent, leastIndent_append_of_blank h, List.map_append]
  by_cases hblanks : blanks = []
  · rw [hblanks, List.map_nil, List.append_nil]
  by_cases hls : ls = []
  · rw [hls, List.map_nil, List.nil_append, trim_eq_nil_iff.mpr (by rw [isAllBlank_unlines, hcut])]
    rfl
  · rw [unlines_append (by simpa using hls) (by simpa using hblanks)]
    refine trim_append_of_isAllBlank _ ?_
    rw [isAllBlank_cons, isBlank_newline, isAllBlank_unlines, hcut, Bool.and_self]

theorem dedent_nil_cons (ls : List Line) : dedent ([] :: ls) = dedent ls := by
  have hleast : leastIndent ([] :: ls) = leastIndent ls := by simp [leastIndent]
  rw [dedent, dedent, hleast, List.map_cons]
  have hcut : ∀ n, cutMargin n [] = [] := by
    intro n
    simp [cutMargin]
  rw [hcut]
  cases ls with
  | nil => rfl
  | cons l ls =>
    have hnewline : isAllBlank ['\n'] = true := by decide
    rw [unlines_cons [] (by simp), List.nil_append]
    exact trim_of_isAllBlank_append hnewline _

theorem cutMargin_shifted (bare : Bool) (n : Nat) (l : Line) :
    cutMargin n (shifted bare n l) = l := by
  rw [shifted]
  split
  · rename_i h
    rw [Bool.and_eq_true, List.isEmpty_iff] at h
    rw [h.2, cutMargin, List.drop_nil, ite_self]
  · exact cutMargin_indented n l

theorem leastIndent_map_shifted {cs : List Char} (h : trim cs = cs) (hne : cs ≠ []) (bare : Bool)
    (n : Nat) : leastIndent ((lines cs).map (shifted bare n)) = n := by
  obtain ⟨c, first, rest, hls, hc⟩ := exists_lines_eq_cons h hne
  have hfirst : isAllBlank (c :: first) = false := by rw [isAllBlank_cons, hc, Bool.false_and]
  apply leastIndent_eq
  · refine ⟨shifted bare n (c :: first), ?_, ?_, ?_⟩
    · exact List.mem_map.mpr ⟨c :: first, by rw [hls]; exact List.mem_cons_self, rfl⟩
    · rw [isAllBlank_shifted, hfirst]
    · rw [shifted_of_not_isAllBlank hfirst, indentOf_indented_cons hc]
  · intro l hl hb
    obtain ⟨l, _, rfl⟩ := List.mem_map.mp hl
    rw [isAllBlank_shifted] at hb
    rw [shifted_of_not_isAllBlank hb, indentOf_indented]
    exact Nat.le_add_right n _

/-- A trimmed text that has been indented line by line is given back. -/
theorem dedent_map_shifted {cs : List Char} (h : trim cs = cs) (bare : Bool) (n : Nat) :
    dedent ((lines cs).map (shifted bare n)) = cs := by
  by_cases hne : cs = []
  · subst hne
    have hblank : isAllBlank (shifted bare n []) = true := isAllBlank_shifted bare n []
    rw [lines, List.splitOn_nil, List.map_singleton, dedent,
      leastIndent_of_blank fun l hl => by rw [List.mem_singleton.mp hl, hblank],
      List.map_singleton, unlines, List.intercalate_singleton, trim_eq_nil_iff]
    rwa [cutMargin, if_pos (Nat.zero_le _), List.drop_zero]
  · have hid : (cutMargin n ∘ shifted bare n) = id := funext (cutMargin_shifted bare n)
    rw [dedent, leastIndent_map_shifted h hne, List.map_map, hid, List.map_id, unlines_lines, h]

/-- No line consists of blank characters, and no two empty lines follow each other. -/
@[mk_iff]
structure SingleSpaced (ls : List Line) : Prop where
  blank_eq_nil : ∀ l ∈ ls, isAllBlank l = true → l = []
  apart : ls.IsChain fun l l' => ¬ (l = [] ∧ l' = [])

instance (ls : List Line) : Decidable (SingleSpaced ls) :=
  decidable_of_iff' _ (singleSpaced_iff ls)

theorem SingleSpaced.tail {l : Line} {ls : List Line} (h : SingleSpaced (l :: ls)) :
    SingleSpaced ls where
  blank_eq_nil l' hl' := h.blank_eq_nil l' (List.mem_cons_of_mem l hl')
  apart := h.apart.of_cons

theorem squeeze_eq_self {ls : List Line} (h : SingleSpaced ls) : squeeze ls = ls := by
  induction ls with
  | nil => rfl
  | cons l ls ih =>
    rw [squeeze, ih h.tail]
    split
    · rename_i hb
      have hl : l = [] := h.blank_eq_nil l List.mem_cons_self hb
      subst hl
      split
      · rename_i more
        exact absurd ⟨rfl, rfl⟩ (List.isChain_cons_cons.mp h.apart).1
      · rfl
    · rfl

theorem expandTabsAt_append_newline (column : Nat) (l : Line) (cs : List Char) :
    expandTabsAt column (l ++ '\n' :: cs) = expandTabsAt column l ++ '\n' :: expandTabs cs := by
  induction l generalizing column with
  | nil => rfl
  | cons c l ih =>
    rw [List.cons_append, expandTabsAt, expandTabsAt]
    split
    · simp only [ih, List.append_assoc]
    · split <;> rw [ih] <;> rfl

theorem expandTabs_unlines (ls : List Line) :
    expandTabs (unlines ls) = unlines (ls.map expandTabs) := by
  induction ls with
  | nil => rfl
  | cons l ls ih =>
    cases ls with
    | nil => simp [unlines]
    | cons l' ls =>
      rw [unlines_cons_cons, expandTabs, expandTabsAt_append_newline, ih]
      simp only [List.map_cons]
      rw [unlines_cons_cons]
      rfl

theorem expandTabsAt_eq_self {cs : List Char} (h : '\t' ∉ cs) (column : Nat) :
    expandTabsAt column cs = cs := by
  induction cs generalizing column with
  | nil => rfl
  | cons c cs ih =>
    have hc : c ≠ '\t' := fun hc => h (hc ▸ List.mem_cons_self)
    have hcs : '\t' ∉ cs := fun hcs => h (List.mem_cons_of_mem c hcs)
    rw [expandTabsAt, if_neg hc]
    split <;> rw [ih hcs]

theorem expandTabsAt_append {as : List Char} (h : ∀ c ∈ as, c ≠ '\t' ∧ c ≠ '\n' ∧ c ≠ '\r')
    (column : Nat) (bs : List Char) :
    expandTabsAt column (as ++ bs) = as ++ expandTabsAt (column + as.length) bs := by
  induction as generalizing column with
  | nil => rfl
  | cons c as ih =>
    obtain ⟨ht, hn, hr⟩ := h c List.mem_cons_self
    rw [List.cons_append, expandTabsAt, if_neg ht, if_neg (by simp [hn, hr]),
      ih (fun c hc => h c (List.mem_cons_of_mem _ hc)), List.length_cons]
    congr 3
    omega

theorem not_mem_expandTabsAt {l : Line} (h : '\n' ∉ l) (column : Nat) :
    '\n' ∉ expandTabsAt column l := by
  induction l generalizing column with
  | nil => exact h
  | cons c l ih =>
    have hc : '\n' ≠ c := fun hc => h (hc ▸ List.mem_cons_self)
    have hl : '\n' ∉ l := fun hl => h (List.mem_cons_of_mem c hl)
    rw [expandTabsAt]
    split
    · rw [List.mem_append]
      rintro (hn | hn)
      · exact absurd (List.eq_of_mem_replicate hn) (by decide)
      · exact ih hl _ hn
    · split <;> exact fun hn => (List.mem_cons.mp hn).elim hc (ih hl _)

theorem isAllBlank_expandTabsAt (column : Nat) (cs : List Char) :
    isAllBlank (expandTabsAt column cs) = isAllBlank cs := by
  induction cs generalizing column with
  | nil => rfl
  | cons c cs ih =>
    have htab : isBlank '\t' = true := by decide
    rw [expandTabsAt]
    split
    · rename_i hc
      rw [isAllBlank_append, isAllBlank_spaces, ih, hc, isAllBlank_cons, htab]
    · split <;> rw [isAllBlank_cons, isAllBlank_cons, ih]

theorem clean_unlines {ls : List Line} (h : ∀ l ∈ ls, '\n' ∉ l) (hne : ls ≠ []) :
    clean (unlines ls) = cleanLines (ls.map expandTabs) := by
  rw [clean, expandTabs_unlines, lines_unlines]
  · intro l hl
    obtain ⟨l, hmem, rfl⟩ := List.mem_map.mp hl
    exact not_mem_expandTabsAt (h l hmem) 0
  · simpa using hne

theorem clean_eq_of_not_mem_tab {cs : List Char} (h : '\t' ∉ cs) :
    clean cs = cleanLines (lines cs) := by
  rw [clean, expandTabs, expandTabsAt_eq_self h]

theorem dropOuterEmpty_cons {l : Line} (h : l ≠ []) (ls : List Line) :
    dropOuterEmpty (l :: ls) = dropTail (l :: ls) := by
  rw [dropOuterEmpty, List.dropWhile_cons_of_neg (by simpa using h)]
  rfl

theorem cleanLines_of_leastIndent_eq_zero {first : Line} {rest : List Line}
    (hfirst : trimStart first = first) (hne : first ≠ []) (hrest : leastIndent rest = 0) :
    cleanLines (first :: rest) = dropTail (first :: rest) := by
  have hid : List.drop (α := Char) 0 = id := funext fun l => List.drop_zero
  rw [cleanLines, hfirst, hrest, hid, List.map_id, dropOuterEmpty_cons hne]

end Text
end RBinding
