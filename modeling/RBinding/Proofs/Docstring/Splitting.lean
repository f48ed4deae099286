import RBinding.Docstring.Section
import RBinding.Proofs.Docstring.HeaderForm
import RBinding.Proofs.Text.Margin

/-!
# RBinding.Proofs.Docstring.Splitting

Where a docstring is split. Lines without a header among them (`HeaderFree`) stay together, so the
lines in front of a header are the end of what came before it (`split_append`). A title with its
colon, or with its underline, opens a section (`split_colon`, `split_underline`).

Empty lines at the end of the preamble or of a section come and go with the lines that separate
sections; `withoutTails` forgets them.
-/

namespace RBinding
namespace Docstring

open Text

/-- No line is a header where it stands. -/
def HeaderFree (onlyUnderlined : Bool) : List Line → Prop
  | [] => True
  | l :: ls => Header.at? onlyUnderlined l ls.head? = none ∧ HeaderFree onlyUnderlined ls

instance decidableHeaderFree (onlyUnderlined : Bool) :
    (ls : List Line) → Decidable (HeaderFree onlyUnderlined ls)
  | [] => isTrue trivial
  | l :: ls =>
    have := decidableHeaderFree onlyUnderlined ls
    inferInstanceAs (Decidable (Header.at? onlyUnderlined l ls.head? = none ∧ _))

namespace Header

theorem at?_of_isAllBlank {l : Line} (h : isAllBlank l = true) (onlyUnderlined : Bool)
    (next : Option Line) : at? onlyUnderlined l next = none := by
  rw [at?, h]
  rfl

theorem at?_of_indented {l : Line} (h : 0 < indentOf l) (onlyUnderlined : Bool)
    (next : Option Line) : at? onlyUnderlined l next = none := by
  rw [at?, decide_eq_true h, Bool.or_true, if_pos rfl]

theorem underlined?_of_not_isUnderline {below : Line} (h : isUnderline below = false) (l : Line) :
    underlined? l (some below) = none := by
  rw [underlined?, h]
  rfl

theorem at?_true_of_not_isUnderline {next : Option Line}
    (h : ∀ below, next = some below → isUnderline below = false) (l : Line) :
    at? true l next = none := by
  have hnone : underlined? l next = none := by
    cases next with
    | none => rfl
    | some below => exact underlined?_of_not_isUnderline (h below rfl) l
  rw [at?, hnone]
  split <;> rfl

theorem at?_next_nil (onlyUnderlined : Bool) (l : Line) :
    at? onlyUnderlined l (some []) = at? onlyUnderlined l none := rfl

end Header

theorem headerFree_of_forall {onlyUnderlined : Bool} {ls : List Line}
    (h : ∀ l ∈ ls, isAllBlank l = true ∨ 0 < indentOf l) : HeaderFree onlyUnderlined ls := by
  induction ls with
  | nil => trivial
  | cons l ls ih =>
    refine ⟨?_, ih fun l hl => h l (List.mem_cons_of_mem _ hl)⟩
    rcases h l List.mem_cons_self with hb | hi
    · exact Header.at?_of_isAllBlank hb _ _
    · exact Header.at?_of_indented hi _ _

theorem headerFree_of_not_isUnderline {ls : List Line}
    (h : ∀ l ∈ ls, Header.isUnderline l = false) : HeaderFree true ls := by
  induction ls with
  | nil => trivial
  | cons l ls ih =>
    have htail : ∀ l ∈ ls, Header.isUnderline l = false := fun l hl =>
      h l (List.mem_cons_of_mem _ hl)
    refine ⟨Header.at?_true_of_not_isUnderline ?_ l, ih htail⟩
    intro below hbelow
    exact htail below (List.mem_of_mem_head? hbelow)

namespace Section

theorem split_cons_of_none {onlyUnderlined : Bool} {l : Line} {rest : List Line}
    (h : Header.at? onlyUnderlined l rest.head? = none) :
    split onlyUnderlined (l :: rest) =
      (l :: (split onlyUnderlined rest).1, (split onlyUnderlined rest).2) := by
  rw [split, h]

/-- Lines without a header stay together, in front of an empty line or the end. -/
theorem split_append {onlyUnderlined : Bool} {ls rest : List Line}
    (h : HeaderFree onlyUnderlined ls) (hrest : rest.head?.getD [] = []) :
    split onlyUnderlined (ls ++ rest) =
      (ls ++ (split onlyUnderlined rest).1, (split onlyUnderlined rest).2) := by
  induction ls with
  | nil => rfl
  | cons l ls ih =>
    have hl : Header.at? onlyUnderlined l (ls ++ rest).head? = none := by
      cases ls with
      | cons l' ls => exact h.1
      | nil =>
        have hnext : Header.at? onlyUnderlined l none = none := h.1
        cases rest with
        | nil => exact hnext
        | cons r rest =>
          have hr : r = [] := hrest
          rw [List.nil_append, List.head?_cons, hr, Header.at?_next_nil, hnext]
    rw [List.cons_append, split_cons_of_none hl, ih h.2]
    rfl

theorem split_append_of_blank {before : List Line} (h : ∀ b ∈ before, isAllBlank b = true)
    (onlyUnderlined : Bool) (ls : List Line) :
    split onlyUnderlined (before ++ ls) =
      (before ++ (split onlyUnderlined ls).1, (split onlyUnderlined ls).2) := by
  induction before with
  | nil => rfl
  | cons b before ih =>
    obtain ⟨hb, hbefore⟩ := List.forall_mem_cons.mp h
    rw [List.cons_append, split_cons_of_none (Header.at?_of_isAllBlank hb _ _), ih hbefore]
    rfl

theorem split_empty_cons (onlyUnderlined : Bool) (rest : List Line) :
    split onlyUnderlined ([] :: rest) =
      ([] :: (split onlyUnderlined rest).1, (split onlyUnderlined rest).2) :=
  split_cons_of_none (Header.at?_of_isAllBlank rfl _ _)

theorem split_cons_of_some {onlyUnderlined : Bool} {l : Line} {rest : List Line} {h : Header}
    (hat : Header.at? onlyUnderlined l rest.head? = some h) (hu : h.underlined = false) :
    split onlyUnderlined (l :: rest) =
      ([], ⟨h, (split false rest).1⟩ :: (split false rest).2) := by
  rw [split, hat]
  simp only [hu]
  rfl

theorem split_cons_cons_of_some {onlyUnderlined : Bool} {l below : Line} {rest : List Line}
    {h : Header} (hat : Header.at? onlyUnderlined l (some below) = some h)
    (hu : h.underlined = true) :
    split onlyUnderlined (l :: below :: rest) =
      ([], ⟨h, (split true rest).1⟩ :: (split true rest).2) := by
  rw [split, List.head?_cons, hat]
  simp only [hu]
  rfl

theorem withColon?_title : ∀ t ∈ Header.titles,
    Header.withColon? (t.1.toList ++ [':']) = some ⟨t.1, t.2, false, []⟩ := by
  decide

theorem find?_title : ∀ t ∈ Header.titles,
    Header.find? ((trim t.1.toList).map Header.lowerCase) = some t ∧
      Header.find? ((trim (t.1.toList ++ [':'])).map Header.lowerCase) = none := by
  decide

theorem title_at_margin : ∀ t ∈ Header.titles,
    (isAllBlank t.1.toList || 0 < indentOf t.1.toList) = false ∧
      (isAllBlank (t.1.toList ++ [':']) || 0 < indentOf (t.1.toList ++ [':'])) = false := by
  decide

theorem split_colon {title : String} {kind : SectionKind} (h : (title, kind) ∈ Header.titles)
    (rest : List Line) :
    split false ((title.toList ++ [':']) :: rest) =
      ([], ⟨⟨title, kind, false, []⟩, (split false rest).1⟩ :: (split false rest).2) := by
  refine split_cons_of_some ?_ rfl
  have hunder : Header.underlined? (title.toList ++ [':']) rest.head? = none := by
    cases rest.head? with
    | none => rfl
    | some below =>
      simp only [Header.underlined?, (find?_title (title, kind) h).2]
      split <;> rfl
  simp only [Header.at?, (title_at_margin (title, kind) h).2, hunder, Bool.false_eq_true, if_false]
  exact withColon?_title (title, kind) h

theorem isUnderline_replicate (n : Nat) :
    Header.isUnderline (List.replicate (n + 3) '-') = true := by
  have hall : ∀ c ∈ List.replicate (n + 3) '-', c = '-' := fun c hc => List.eq_of_mem_replicate hc
  have htrim : trim (List.replicate (n + 3) '-') = List.replicate (n + 3) '-' := by
    rw [trim_eq_self_iff]
    constructor
    · rw [List.replicate_succ]
      exact trimStart_cons_of_not_isBlank (by decide) _
    · rw [List.replicate_succ', trimEnd_append_cons _ (by decide)]
      rfl
  rw [Header.isUnderline, htrim, Bool.and_eq_true]
  constructor
  · simp
  · rw [List.all_eq_true]
    intro c hc
    rw [hall c hc]
    rfl

theorem split_underline {title : String} {kind : SectionKind} (h : (title, kind) ∈ Header.titles)
    (onlyUnderlined : Bool) (n : Nat) (rest : List Line) :
    split onlyUnderlined (title.toList :: List.replicate (n + 3) '-' :: rest) =
      ([], ⟨⟨title, kind, true, []⟩, (split true rest).1⟩ :: (split true rest).2) := by
  refine split_cons_cons_of_some ?_ rfl
  have hunder : Header.underlined? title.toList (some (List.replicate (n + 3) '-')) =
      some ⟨title, kind, true, []⟩ := by
    simp only [Header.underlined?, isUnderline_replicate, if_true, (find?_title (title, kind) h).1]
  simp only [Header.at?, (title_at_margin (title, kind) h).1, hunder, Bool.false_eq_true, if_false]

def dropTail (s : Section) : Section :=
  { s with body := Text.dropTail s.body }

end Section

/-- Preamble and sections, each without the empty lines at its end. -/
def withoutTails (parts : List Line × List Section) : List Line × List Section :=
  (dropTail parts.1, parts.2.map Section.dropTail)

theorem dropTail_cons (l : Line) (ls : List Line) :
    dropTail (l :: ls) = if l.isEmpty && (dropTail ls).isEmpty then [] else l :: dropTail ls := by
  induction ls using List.reverseRecOn with
  | nil => cases l <;> rfl
  | append_singleton ls x ih =>
    rw [← List.cons_append]
    cases x with
    | nil => rw [dropTail_concat_nil, dropTail_concat_nil, ih]
    | cons c cs =>
      have hx : ¬ List.isEmpty (c :: cs) = true := by simp
      rw [dropTail, dropTail, List.rdropWhile_concat_neg _ _ _ hx,
        List.rdropWhile_concat_neg _ _ _ hx]
      simp

theorem withoutTails_cons {l : Line} {p q : List Line × List Section}
    (h : withoutTails p = withoutTails q) :
    withoutTails (l :: p.1, p.2) = withoutTails (l :: q.1, q.2) := by
  rw [withoutTails, withoutTails, Prod.mk.injEq] at h ⊢
  exact ⟨by rw [dropTail_cons, dropTail_cons, h.1], h.2⟩

theorem withoutTails_section {h : Header} {p q : List Line × List Section}
    (heq : withoutTails p = withoutTails q) :
    withoutTails ([], ⟨h, p.1⟩ :: p.2) = withoutTails ([], ⟨h, q.1⟩ :: q.2) := by
  rw [withoutTails, withoutTails, Prod.mk.injEq] at heq ⊢
  refine ⟨rfl, ?_⟩
  rw [List.map_cons, List.map_cons, heq.2, Section.dropTail, Section.dropTail, heq.1]

theorem withoutTails_split_concat_nil (onlyUnderlined : Bool) (ls : List Line) :
    withoutTails (Section.split onlyUnderlined (ls ++ [[]])) =
      withoutTails (Section.split onlyUnderlined ls) := by
  have hnext : ∀ (m : Bool) (l : Line) (rest : List Line),
      Header.at? m l (rest ++ [[]]).head? = Header.at? m l rest.head? := by
    intro m l rest
    cases rest with
    | nil => exact Header.at?_next_nil m l
    | cons r rest => rfl
  fun_induction Section.split onlyUnderlined ls with
  | case1 m =>
    rw [List.nil_append, Section.split_empty_cons]
    rfl
  | case2 m line rest hat body sections hsplit ih =>
    rw [List.cons_append, Section.split_cons_of_none (by rw [hnext, hat])]
    exact withoutTails_cons (hsplit ▸ ih)
  | case3 m line h hu hat =>
    rw [Header.underlined_at?_none hat] at hu
    cases hu
  | case4 m line h hu x rest body sections hsplit hat ih =>
    rw [List.cons_append, List.cons_append, Section.split_cons_cons_of_some hat hu]
    exact withoutTails_section (hsplit ▸ ih)
  | case5 m line rest h hat hu body sections hsplit ih =>
    rw [List.cons_append, Section.split_cons_of_some (by rw [hnext, hat]) (by simpa using hu)]
    exact withoutTails_section (hsplit ▸ ih)

/-- Empty lines at the end of a docstring do not change how it is split. -/
theorem withoutTails_split_dropTail (onlyUnderlined : Bool) (ls : List Line) :
    withoutTails (Section.split onlyUnderlined (dropTail ls)) =
      withoutTails (Section.split onlyUnderlined ls) :=
  apply_dropTail (f := fun ls => withoutTails (Section.split onlyUnderlined ls))
    (withoutTails_split_concat_nil onlyUnderlined) ls

end Docstring
end RBinding
