import Mathlib.Data.List.DropRight
import RBinding.Text.Lines

/-!
# RBinding.Proofs.Text.Trimming

What trimming does to text put together from parts. A text is trimmed if `trim` leaves it as it
is, so both of its ends are no blank characters (`trim_eq_self_iff`).

* Blank characters before or after a text do not count: `trim_append_of_isAllBlank`,
  `trim_of_isAllBlank_append`.
* Up to a character that is not blank a text is left alone: `trimEnd_append_cons`.
* Spaces in front of a line move it to the right: `trim_indented`, `indentOf_indented`. Where a
  text is indented line by line (`shifted`), its empty lines may be left empty.
-/

namespace RBinding
namespace Text

theorem trimStart_eq_nil_iff {cs : List Char} : trimStart cs = [] ↔ isAllBlank cs = true := by
  rw [trimStart, List.dropWhile_eq_nil_iff, isAllBlank_iff]

theorem trimEnd_eq_nil_iff {cs : List Char} : trimEnd cs = [] ↔ isAllBlank cs = true := by
  rw [trimEnd, List.reverse_eq_nil_iff, List.dropWhile_eq_nil_iff, isAllBlank_iff]
  simp only [List.mem_reverse]

/-- A line with `n` spaces in front. -/
def indented (n : Nat) (l : Line) : Line :=
  List.replicate n ' ' ++ l

/-- A line of an indented text; with `bare`, empty lines of it have no spaces. -/
def shifted (bare : Bool) (n : Nat) (l : Line) : Line :=
  if bare && l.isEmpty then [] else indented n l

theorem isBlank_newline : isBlank '\n' = true := by decide

theorem isAllBlank_cons (c : Char) (cs : List Char) :
    isAllBlank (c :: cs) = (isBlank c && isAllBlank cs) := rfl

theorem isAllBlank_append (as bs : List Char) :
    isAllBlank (as ++ bs) = (isAllBlank as && isAllBlank bs) :=
  List.all_append

theorem isAllBlank_spaces (n : Nat) : isAllBlank (List.replicate n ' ') = true := by
  rw [isAllBlank_iff]
  intro c hc
  rw [List.eq_of_mem_replicate hc]
  decide

theorem trimStart_of_isAllBlank_append {ws : List Char} (h : isAllBlank ws = true)
    (cs : List Char) : trimStart (ws ++ cs) = trimStart cs :=
  List.dropWhile_append_of_pos (isAllBlank_iff.mp h)

theorem trimStart_cons_of_not_isBlank {c : Char} (h : isBlank c = false) (cs : List Char) :
    trimStart (c :: cs) = c :: cs := by
  simp [trimStart, h]

theorem trimStart_append_cons {before : List Char} (h : isAllBlank before = true) {c : Char}
    (hc : isBlank c = false) (cs : List Char) : trimStart (before ++ c :: cs) = c :: cs := by
  rw [trimStart_of_isAllBlank_append h, trimStart_cons_of_not_isBlank hc]

/-- Up to a character that is not blank only the start of a text changes. -/
theorem trimStart_append_of_not_isAllBlank {as : List Char} (h : isAllBlank as = false)
    (bs : List Char) : trimStart (as ++ bs) = trimStart as ++ bs := by
  have hne : (as.dropWhile isBlank).isEmpty = false := by
    rw [List.isEmpty_eq_false_iff]
    intro hnil
    rw [← trimStart, trimStart_eq_nil_iff, h] at hnil
    cases hnil
  rw [trimStart, List.dropWhile_append, hne]
  rfl

theorem exists_isAllBlank_append (cs : List Char) :
    ∃ blanks, isAllBlank blanks = true ∧ cs = blanks ++ trimStart cs :=
  ⟨cs.takeWhile isBlank, List.all_takeWhile, List.takeWhile_append_dropWhile.symm⟩

theorem trimStart_eq_self_iff {cs : List Char} :
    trimStart cs = cs ↔ ∀ c, cs.head? = some c → isBlank c = false := by
  cases cs with
  | nil => simp
  | cons c cs =>
    cases h : isBlank c with
    | false => simp [trimStart_cons_of_not_isBlank h, h]
    | true =>
      have hlt : (trimStart (c :: cs)).length < (c :: cs).length := by
        have hle : (trimStart cs).length ≤ cs.length := (List.dropWhile_suffix _).length_le
        have hdrop : trimStart (c :: cs) = trimStart cs := by simp [trimStart, h]
        rw [hdrop, List.length_cons]
        omega
      constructor
      · intro heq
        rw [heq] at hlt
        omega
      · intro hc
        rw [hc c rfl] at h
        cases h

theorem indentOf_eq_zero_iff {l : Line} : indentOf l = 0 ↔ trimStart l = l := by
  rw [trimStart_eq_self_iff, indentOf, List.length_eq_zero_iff]
  cases l with
  | nil => simp
  | cons c cs => cases h : isBlank c <;> simp [h]

theorem trimEnd_eq_rdropWhile (cs : List Char) : trimEnd cs = cs.rdropWhile isBlank := rfl

theorem trimEnd_append_of_isAllBlank (cs : List Char) {ws : List Char}
    (h : isAllBlank ws = true) : trimEnd (cs ++ ws) = trimEnd cs := by
  have hr : ∀ c ∈ ws.reverse, isBlank c = true := fun c hc =>
    isAllBlank_iff.mp h c (List.mem_reverse.mp hc)
  rw [trimEnd, List.reverse_append, List.dropWhile_append_of_pos hr]
  rfl

theorem trimEnd_append_of_not_isAllBlank (as : List Char) {bs : List Char}
    (h : isAllBlank bs = false) : trimEnd (as ++ bs) = as ++ trimEnd bs := by
  have hne : bs.reverse.dropWhile isBlank ≠ [] := by
    intro hnil
    have hb : trimEnd bs = [] := by rw [trimEnd, hnil]; rfl
    rw [trimEnd_eq_nil_iff, h] at hb
    cases hb
  rw [trimEnd, List.reverse_append, List.dropWhile_append, List.isEmpty_eq_false_iff.mpr hne]
  simp [trimEnd]

theorem trimEnd_append_cons (as : List Char) {c : Char} (h : isBlank c = false)
    (bs : List Char) : trimEnd (as ++ c :: bs) = as ++ c :: trimEnd bs := by
  have hc : isAllBlank (c :: bs) = false := by simp [isAllBlank_cons, h]
  rw [trimEnd_append_of_not_isAllBlank as hc]
  cases hb : isAllBlank bs with
  | true =>
    rw [show c :: bs = [c] ++ bs from rfl, trimEnd_append_of_isAllBlank [c] hb,
      trimEnd_eq_nil_iff.mpr hb]
    simp [trimEnd, h]
  | false => rw [show c :: bs = [c] ++ bs from rfl, trimEnd_append_of_not_isAllBlank [c] hb]; rfl

theorem trim_eq_nil_iff {cs : List Char} : trim cs = [] ↔ isAllBlank cs = true := by
  rw [trim, trimEnd_eq_nil_iff]
  constructor
  · intro h
    have hsplit : cs.takeWhile isBlank ++ trimStart cs = cs := List.takeWhile_append_dropWhile
    rw [← hsplit, isAllBlank_append, h, Bool.and_true, isAllBlank]
    exact List.all_takeWhile
  · intro h
    rw [trimStart_eq_nil_iff.mpr h]
    rfl

theorem trim_eq_self_iff {cs : List Char} :
    trim cs = cs ↔ trimStart cs = cs ∧ trimEnd cs = cs := by
  constructor
  · intro h
    have hstart : (trimStart cs).length ≤ cs.length := (List.dropWhile_suffix _).length_le
    have hend : (trim cs).length ≤ (trimStart cs).length :=
      (List.rdropWhile_prefix isBlank (l := trimStart cs)).length_le
    rw [h] at hend
    have hs : trimStart cs = cs :=
      (List.dropWhile_suffix _).eq_of_length (by omega : (trimStart cs).length = cs.length)
    refine ⟨hs, ?_⟩
    rwa [trim, hs] at h
  · rintro ⟨hs, he⟩
    rw [trim, hs, he]

theorem trim_eq_self_of_forall {cs : List Char} (h : ∀ c ∈ cs, isBlank c = false) :
    trim cs = cs := by
  rw [trim_eq_self_iff, trimStart_eq_self_iff, trimEnd_eq_rdropWhile, List.rdropWhile_eq_self_iff]
  constructor
  · intro c hc
    exact h c (List.mem_of_mem_head? hc)
  · intro hne
    rw [h _ (List.getLast_mem hne)]
    exact Bool.false_ne_true

theorem trim_of_isAllBlank_append {ws : List Char} (h : isAllBlank ws = true)
    (cs : List Char) : trim (ws ++ cs) = trim cs := by
  rw [trim, trimStart_of_isAllBlank_append h]
  rfl

theorem trim_append_of_isAllBlank (cs : List Char) {ws : List Char}
    (h : isAllBlank ws = true) : trim (cs ++ ws) = trim cs := by
  cases hc : isAllBlank cs with
  | true =>
    rw [trim_of_isAllBlank_append hc, trim_eq_nil_iff.mpr h, trim_eq_nil_iff.mpr hc]
  | false =>
    rw [trim, trimStart_append_of_not_isAllBlank hc, trimEnd_append_of_isAllBlank _ h]
    rfl

theorem trimStart_subset (cs : List Char) : trimStart cs ⊆ cs :=
  (List.dropWhile_sublist isBlank).subset

theorem trimEnd_subset (cs : List Char) : trimEnd cs ⊆ cs := by
  intro c hc
  exact List.mem_reverse.mp ((List.dropWhile_sublist isBlank).subset (List.mem_reverse.mp hc))

theorem trim_subset (cs : List Char) : trim cs ⊆ cs :=
  List.Subset.trans (trimEnd_subset _) (trimStart_subset cs)

theorem exists_append_isAllBlank (cs : List Char) :
    ∃ blanks, isAllBlank blanks = true ∧ cs = trimEnd cs ++ blanks :=
  ⟨cs.rtakeWhile isBlank, isAllBlank_iff.mpr fun _ hc => List.mem_rtakeWhile_imp hc,
    List.rdropWhile_append_rtakeWhile.symm⟩

theorem trim_trimEnd (cs : List Char) : trim (trimEnd cs) = trim cs := by
  obtain ⟨blanks, hblanks, hcs⟩ := exists_append_isAllBlank cs
  have htrim := trim_append_of_isAllBlank (trimEnd cs) hblanks
  rw [← hcs] at htrim
  exact htrim.symm

theorem trim_trim (cs : List Char) : trim (trim cs) = trim cs := by
  have hsplit : trim cs ++ (trimStart cs).rtakeWhile isBlank = trimStart cs :=
    List.rdropWhile_append_rtakeWhile
  rw [trim_eq_self_iff]
  constructor
  · have hstart : trimStart (trimStart cs) = trimStart cs := List.dropWhile_idempotent isBlank cs
    rw [trimStart_eq_self_iff] at hstart ⊢
    intro c hc
    refine hstart c ?_
    rw [← hsplit, List.head?_append, hc]
    rfl
  · exact List.rdropWhile_idempotent isBlank (trimStart cs)

theorem trim_trimStart (cs : List Char) : trim (trimStart cs) = trim cs :=
  congrArg trimEnd (List.dropWhile_idempotent isBlank cs)

theorem isAllBlank_trimStart (cs : List Char) : isAllBlank (trimStart cs) = isAllBlank cs := by
  rw [Bool.eq_iff_iff, ← trim_eq_nil_iff, ← trim_eq_nil_iff, trim_trimStart]

theorem isAllBlank_trimEnd (cs : List Char) : isAllBlank (trimEnd cs) = isAllBlank cs := by
  rw [Bool.eq_iff_iff, ← trim_eq_nil_iff, ← trim_eq_nil_iff, trim_trimEnd]

theorem isAllBlank_trim (cs : List Char) : isAllBlank (trim cs) = isAllBlank cs := by
  rw [trim, isAllBlank_trimEnd, isAllBlank_trimStart]

theorem exists_blanks_around (cs : List Char) :
    ∃ before after, isAllBlank before = true ∧ isAllBlank after = true ∧
      cs = before ++ trim cs ++ after := by
  obtain ⟨before, hbefore, hcs⟩ := exists_isAllBlank_append cs
  obtain ⟨after, hafter, hstart⟩ := exists_append_isAllBlank (trimStart cs)
  refine ⟨before, after, hbefore, hafter, ?_⟩
  rw [trim, List.append_assoc, ← hstart, ← hcs]

theorem trimEnd_eq_self_of_isSuffix {cs ds : List Char} (h : cs <:+ ds) (hds : trimEnd ds = ds) :
    trimEnd cs = cs := by
  rw [trimEnd_eq_rdropWhile, List.rdropWhile_eq_self_iff] at hds ⊢
  intro hne
  rw [h.getLast hne]
  exact hds _

/-- What a trimmed text ends with is trimmed at its end, so trimming only cuts off its start. -/
theorem trim_isSuffix {cs ds : List Char} (h : cs <:+ ds) (hds : trim ds = ds) :
    trim cs <:+ ds := by
  have hstart : trimStart cs <:+ ds := (List.dropWhile_suffix _).trans h
  rw [trim, trimEnd_eq_self_of_isSuffix hstart (trim_eq_self_iff.mp hds).2]
  exact hstart

theorem trim_cons_append_cons {c d : Char} (hc : isBlank c = false) (hd : isBlank d = false)
    (as bs : List Char) : trim (c :: as ++ d :: bs) = c :: as ++ d :: trimEnd bs := by
  rw [trim, List.cons_append, trimStart_cons_of_not_isBlank hc, ← List.cons_append,
    trimEnd_append_cons (c :: as) hd]

theorem trim_append_append {as bs : List Char} (ha : trim as = as) (hane : as ≠ [])
    (hb : trim bs = bs) (hbne : bs ≠ []) (cs : List Char) :
    trim (as ++ cs ++ bs) = as ++ cs ++ bs := by
  rw [trim_eq_self_iff] at ha hb ⊢
  constructor
  · obtain ⟨a, as, rfl⟩ := List.exists_cons_of_ne_nil hane
    rw [trimStart_eq_self_iff] at ha ⊢
    exact ha.1
  · have hblank : isAllBlank bs = false := by
      rw [← Bool.not_eq_true, ← trimEnd_eq_nil_iff, hb.2]
      exact hbne
    rw [trimEnd_append_of_not_isAllBlank _ hblank, hb.2]

theorem exists_cons_of_trim_eq_self {cs : List Char} (h : trim cs = cs) (hne : cs ≠ []) :
    ∃ c rest, cs = c :: rest ∧ isBlank c = false := by
  obtain ⟨c, rest, rfl⟩ := List.exists_cons_of_ne_nil hne
  exact ⟨c, rest, rfl, trimStart_eq_self_iff.mp (trim_eq_self_iff.mp h).1 c rfl⟩

theorem indentOf_le_length (l : Line) : indentOf l ≤ l.length :=
  (List.takeWhile_sublist isBlank).length_le

theorem indentOf_append_of_isAllBlank {ws : List Char} (h : isAllBlank ws = true) (l : Line) :
    indentOf (ws ++ l) = ws.length + indentOf l := by
  rw [indentOf, List.takeWhile_append_of_pos (isAllBlank_iff.mp h), List.length_append]
  rfl

theorem indentOf_trimStart (l : Line) : indentOf (trimStart l) = 0 :=
  indentOf_eq_zero_iff.mpr (List.dropWhile_idempotent isBlank l)

theorem indentOf_trimEnd {l : Line} (h : isAllBlank l = false) :
    indentOf (trimEnd l) = indentOf l := by
  obtain ⟨blanks, hblanks, hl⟩ := exists_isAllBlank_append l
  have hrest : isAllBlank (trimStart l) = false := by rw [isAllBlank_trimStart, h]
  have htrim : indentOf (trimEnd (trimStart l)) = 0 :=
    indentOf_eq_zero_iff.mpr (trim_eq_self_iff.mp (trim_trim l)).1
  rw [hl, trimEnd_append_of_not_isAllBlank _ hrest, indentOf_append_of_isAllBlank hblanks,
    indentOf_append_of_isAllBlank hblanks, indentOf_trimStart, htrim]

/-- Up to its indentation a line is blank, so nothing but indentation is taken off there. -/
theorem isAllBlank_take {l : Line} {n : Nat} (h : n ≤ indentOf l) :
    isAllBlank (l.take n) = true := by
  have hsplit : l.takeWhile isBlank ++ l.dropWhile isBlank = l := List.takeWhile_append_dropWhile
  rw [isAllBlank_iff, ← hsplit, List.take_append_of_le_length h]
  intro c hc
  exact List.mem_takeWhile_imp (List.mem_of_mem_take hc)

theorem indentOf_drop {l : Line} {n : Nat} (h : n ≤ indentOf l) :
    indentOf (l.drop n) = indentOf l - n := by
  have hsplit := indentOf_append_of_isAllBlank (isAllBlank_take h) (l.drop n)
  have hlength : (l.take n).length = n :=
    List.length_take_of_le (Nat.le_trans h (indentOf_le_length l))
  rw [List.take_append_drop, hlength] at hsplit
  omega

theorem isAllBlank_drop {l : Line} {n : Nat} (h : n ≤ indentOf l) :
    isAllBlank (l.drop n) = isAllBlank l := by
  have hsplit := isAllBlank_append (l.take n) (l.drop n)
  rw [List.take_append_drop, isAllBlank_take h, Bool.true_and] at hsplit
  exact hsplit.symm

theorem isAllBlank_drop_of_isAllBlank {l : Line} (h : isAllBlank l = true) (n : Nat) :
    isAllBlank (l.drop n) = true :=
  isAllBlank_iff.mpr fun c hc => isAllBlank_iff.mp h c (List.mem_of_mem_drop hc)

theorem trim_drop {l : Line} {n : Nat} (h : n ≤ indentOf l) : trim (l.drop n) = trim l := by
  have hsplit := trim_of_isAllBlank_append (isAllBlank_take h) (l.drop n)
  rw [List.take_append_drop] at hsplit
  exact hsplit.symm

theorem trim_indented (n : Nat) (l : Line) : trim (indented n l) = trim l :=
  trim_of_isAllBlank_append (isAllBlank_spaces n) l

theorem trimStart_indented (n : Nat) (l : Line) : trimStart (indented n l) = trimStart l :=
  trimStart_of_isAllBlank_append (isAllBlank_spaces n) l

/-- A margin that has grown by the spaces takes them off again. -/
theorem drop_indented (n k : Nat) (l : Line) : (indented n l).drop (n + k) = l.drop k := by
  rw [indented, ← List.drop_drop, List.drop_left' List.length_replicate]

theorem isAllBlank_indented (n : Nat) (l : Line) : isAllBlank (indented n l) = isAllBlank l := by
  rw [indented, isAllBlank_append, isAllBlank_spaces, Bool.true_and]

theorem indentOf_indented (n : Nat) (l : Line) : indentOf (indented n l) = n + indentOf l := by
  rw [indented, indentOf_append_of_isAllBlank (isAllBlank_spaces n), List.length_replicate]

theorem indentOf_indented_cons {c : Char} (h : isBlank c = false) (n : Nat) (cs : List Char) :
    indentOf (indented n (c :: cs)) = n := by
  have hstart : indentOf (c :: cs) = 0 := by
    rw [indentOf_eq_zero_iff, trimStart_cons_of_not_isBlank h]
  rw [indentOf_indented, hstart, Nat.add_zero]

theorem isAllBlank_shifted (bare : Bool) (n : Nat) (l : Line) :
    isAllBlank (shifted bare n l) = isAllBlank l := by
  rw [shifted]
  split
  · rename_i h
    rw [Bool.and_eq_true, List.isEmpty_iff] at h
    rw [h.2]
  · exact isAllBlank_indented n l

theorem shifted_of_not_isAllBlank {l : Line} (h : isAllBlank l = false) (bare : Bool) (n : Nat) :
    shifted bare n l = indented n l := by
  cases l with
  | nil => cases h
  | cons c cs => rw [shifted, List.isEmpty_cons, Bool.and_false, if_neg Bool.false_ne_true]

theorem map_shifted_zero (ls : List Line) : ls.map (shifted false 0) = ls := by
  have hid : shifted false 0 = id := funext fun _ => rfl
  rw [hid, List.map_id]

theorem not_mem_indented {x : Char} (hx : x ≠ ' ') {l : Line} (h : x ∉ l) (n : Nat) :
    x ∉ indented n l := by
  rw [indented, List.mem_append]
  rintro (hm | hm)
  · exact hx (List.eq_of_mem_replicate hm)
  · exact h hm

theorem not_mem_shifted {x : Char} (hx : x ≠ ' ') {l : Line} (h : x ∉ l) (bare : Bool) (n : Nat) :
    x ∉ shifted bare n l := by
  rw [shifted]
  split
  · exact List.not_mem_nil
  · exact not_mem_indented hx h n

end Text
end RBinding
