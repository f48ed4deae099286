import RBinding.Proofs.Docstring.Arrangement
import RBinding.Proofs.Docstring.Entries

/-!
# RBinding.Proofs.Docstring.Headings

Which lines of a text are headers. `Marks` says it without a reader: a line at the margin that
spells a title and has dashes below it, or one that spells a title in front of its first colon.
`headings_exact` is the main result: these lines are headers, and no others.

The form with a colon may also be given as a pattern, with blanks on both sides of the colon and a
title that is as short as the pattern allows. `isPreferred_iff` says that of all the ways in which
this pattern fits a line, the preferred one splits it at its first colon.
-/

namespace RBinding
namespace Docstring

open Text

namespace Header

variable {onlyUnderlined : Bool} {ls : List Line} {i : Nat} {l : Line} {h : Header}

/-- The text is the title but for the case of its letters. -/
def Spells (text : List Char) (title : String) : Prop :=
  text.map lowerCase = title.toList.map lowerCase

def IsPlain (text : List Char) : Prop :=
  ∀ c ∈ text, c.isAlpha = true ∨ c = ' '

instance (text : List Char) : Decidable (IsPlain text) :=
  List.decidableBAll _ text

theorem title_lowerCase :
    ∀ t ∈ titles, t.1.toList.map lowerCase = t.1.toList.map Char.toLower := by decide

theorem title_isPlain : ∀ t ∈ titles, IsPlain (t.1.toList.map Char.toLower) := by decide

theorem find?_title : ∀ t ∈ titles, find? (t.1.toList.map Char.toLower) = some t := by decide

theorem find?_eq_some_iff {lowered : List Char} {t : String × SectionKind} :
    find? lowered = some t ↔ t ∈ titles ∧ lowered = t.1.toList.map Char.toLower := by
  constructor
  · intro hfind
    exact ⟨mem_titles_of_find? hfind, (map_toLower_of_find? hfind).symm⟩
  · rintro ⟨ht, rfl⟩
    exact find?_title t ht

theorem isAlpha_of_isUpper {c : Char} (hc : c.isUpper = true) : c.isAlpha = true := by
  change (c.isUpper || c.isLower) = true
  rw [hc, Bool.true_or]

theorem toLower_of_not_isUpper {c : Char} (hc : c.isUpper = false) : c.toLower = c := by
  have hbounds : ¬(c.val ≥ 'A'.val ∧ c.val ≤ 'Z'.val) := of_decide_eq_false hc
  exact dif_neg hbounds

theorem isPlain_of_map_toLower {text : List Char} (h : IsPlain (text.map Char.toLower)) :
    IsPlain text := by
  intro c hc
  cases hupper : c.isUpper with
  | true => exact .inl (isAlpha_of_isUpper hupper)
  | false =>
    have hlower := h c.toLower (List.mem_map_of_mem hc)
    rwa [toLower_of_not_isUpper hupper] at hlower

/-- The Kelvin sign is no ASCII letter. -/
theorem map_lowerCase_of_isPlain {text : List Char} (hplain : IsPlain text) :
    text.map lowerCase = text.map Char.toLower := by
  refine List.map_congr_left fun c hc => ?_
  rw [lowerCase, if_neg]
  rintro rfl
  exact absurd (hplain _ hc) (by decide)

theorem find?_map_lowerCase {text : List Char} {t : String × SectionKind} :
    find? (text.map lowerCase) = some t ↔ t ∈ titles ∧ Spells text t.1 := by
  rw [find?_eq_some_iff, and_congr_right_iff]
  intro ht
  rw [Spells, title_lowerCase t ht]

theorem find?_map_toLower {text : List Char} {t : String × SectionKind} :
    find? (text.map Char.toLower) = some t ↔ t ∈ titles ∧ IsPlain text ∧ Spells text t.1 := by
  rw [find?_eq_some_iff, and_congr_right_iff]
  intro ht
  constructor
  · intro hlower
    have hplain : IsPlain text := isPlain_of_map_toLower (hlower ▸ title_isPlain t ht)
    exact ⟨hplain, by rw [Spells, map_lowerCase_of_isPlain hplain, hlower, title_lowerCase t ht]⟩
  · rintro ⟨hplain, hspells⟩
    rw [← map_lowerCase_of_isPlain hplain, hspells, title_lowerCase t ht]

/-- The line starts with a character that is not blank. -/
def AtMargin (l : Line) : Prop :=
  ∃ c cs, l = c :: cs ∧ isBlank c = false

theorem atMargin_iff : AtMargin l ↔ isAllBlank l = false ∧ indentOf l = 0 := by
  constructor
  · rintro ⟨c, cs, rfl, hc⟩
    exact ⟨by rw [isAllBlank_cons, hc, Bool.false_and],
      indentOf_eq_zero_iff.mpr (trimStart_cons_of_not_isBlank hc cs)⟩
  · rintro ⟨hblank, hindent⟩
    cases l with
    | nil => cases hblank
    | cons c cs =>
      exact ⟨c, cs, rfl, trimStart_eq_self_iff.mp (indentOf_eq_zero_iff.mp hindent) c rfl⟩

/-- Three or more dashes with blanks around them. -/
def IsDashes (below : Line) : Prop :=
  ∃ before n after, below = before ++ List.replicate n '-' ++ after ∧ 3 ≤ n ∧
    isAllBlank before = true ∧ isAllBlank after = true

theorem isUnderline_iff {below : Line} : isUnderline below = true ↔ IsDashes below := by
  constructor
  · intro hunder
    rw [isUnderline, Bool.and_eq_true, decide_eq_true_eq, List.all_eq_true] at hunder
    obtain ⟨before, after, hbefore, hafter, hbelow⟩ := exists_blanks_around below
    have hdashes : trim below = List.replicate (trim below).length '-' :=
      List.eq_replicate_of_mem fun c hc => eq_of_beq (hunder.2 c hc)
    rw [hdashes] at hbelow
    exact ⟨before, _, after, hbelow, hunder.1, hbefore, hafter⟩
  · rintro ⟨before, n, after, rfl, hn, hbefore, hafter⟩
    obtain ⟨n, rfl⟩ := Nat.exists_eq_add_of_le' hn
    have htrim : trim (before ++ List.replicate (n + 3) '-' ++ after) =
        trim (List.replicate (n + 3) '-') := by
      rw [trim_append_of_isAllBlank _ hafter, trim_of_isAllBlank_append hbefore]
    rw [isUnderline, htrim, ← isUnderline, Section.isUnderline_replicate]

theorem first_colon_unique {before after before' after' : List Char} (hfirst : ':' ∉ before)
    (hfirst' : ':' ∉ before') (heq : before ++ ':' :: after = before' ++ ':' :: after') :
    before = before' ∧ after = after' := by
  rcases List.append_eq_append_iff.mp heq with ⟨cs, hbefore, hafter⟩ | ⟨cs, hbefore, hafter⟩
  · cases cs with
    | nil => simpa using And.intro hbefore.symm hafter
    | cons c cs =>
      obtain ⟨rfl, -⟩ := List.cons.inj hafter
      exact absurd (hbefore ▸ List.mem_append_right before List.mem_cons_self) hfirst'
  · cases cs with
    | nil => simpa using And.intro hbefore hafter.symm
    | cons c cs =>
      obtain ⟨rfl, -⟩ := List.cons.inj hafter
      exact absurd (hbefore ▸ List.mem_append_right before' List.mem_cons_self) hfirst

theorem withColon?_of_not_mem {text : List Char} (h : ':' ∉ trim text) :
    withColon? text = none := by
  have hnil : (trim text).dropWhile (· != ':') = [] :=
    List.dropWhile_eq_nil_iff.mpr fun c hc => by
      rw [bne_iff_ne]
      rintro rfl
      exact h hc
  rw [withColon?, hnil]

/-- What stands in front of the first colon decides, and then what stands after it. -/
theorem withColon?_eq_some_iff {before after : List Char} (hfirst : ':' ∉ before)
    (htrim : trim l = before ++ ':' :: after) :
    withColon? l = some h ↔ ∃ title kind, (title, kind) ∈ titles ∧ IsPlain (trimEnd before) ∧
      Spells (trimEnd before) title ∧ (trim after = [] ∨ kind = .returns) ∧
      h = ⟨title, kind, false, trim after⟩ := by
  have hne : ∀ c ∈ before, (c != ':') = true := by
    intro c hc
    rw [bne_iff_ne]
    rintro rfl
    exact hfirst hc
  have hcolon : (':' != ':') = false := by decide
  rw [withColon?, htrim, List.dropWhile_append_of_pos hne, List.takeWhile_append_of_pos hne,
    List.dropWhile_cons_of_neg (by simp), List.takeWhile_cons_of_neg (by simp), List.append_nil]
  constructor
  · intro heq
    dsimp only at heq
    split at heq
    · cases heq
    · rename_i title kind hfind
      obtain ⟨ht, hplain, hspells⟩ := find?_map_toLower.mp hfind
      split at heq
      · rename_i htext
        cases heq
        exact ⟨title, kind, ht, hplain, hspells, by simpa using htext, rfl⟩
      · cases heq
  · rintro ⟨title, kind, ht, hplain, hspells, htext, rfl⟩
    have hfind := find?_map_toLower.mpr ⟨ht, hplain, hspells⟩
    have htext' : ((trim after).isEmpty || kind == .returns) = true := by simpa using htext
    simp only [hfind, htext', if_true]

theorem trim_of_atMargin {before after : List Char} {c : Char} (hc : isBlank c = false)
    (hmargin : AtMargin (before ++ c :: after)) :
    trim (before ++ c :: after) = before ++ c :: trimEnd after := by
  have hstart := indentOf_eq_zero_iff.mp (atMargin_iff.mp hmargin).2
  rw [trim, hstart, trimEnd_append_cons before hc]

theorem underlined?_eq_some_iff {next : Option Line} :
    underlined? l next = some h ↔ ∃ below title kind, next = some below ∧ IsDashes below ∧
      (title, kind) ∈ titles ∧ Spells (trim l) title ∧ h = ⟨title, kind, true, []⟩ := by
  constructor
  · intro heq
    rw [underlined?.eq_def] at heq
    split at heq
    · cases heq
    · rename_i below
      split at heq
      · rename_i hdashes
        split at heq
        · cases heq
        · rename_i title kind hfind
          cases heq
          obtain ⟨ht, hspells⟩ := find?_map_lowerCase.mp hfind
          exact ⟨below, title, kind, rfl, isUnderline_iff.mp hdashes, ht, hspells, rfl⟩
      · cases heq
  · rintro ⟨below, title, kind, rfl, hdashes, ht, hspells, rfl⟩
    simp only [underlined?, isUnderline_iff.mpr hdashes, if_true,
      find?_map_lowerCase.mpr ⟨ht, hspells⟩]

theorem colon_not_mem_of_spells {text : List Char} {t : String × SectionKind} (ht : t ∈ titles)
    (hspells : Spells text t.1) : ':' ∉ text := by
  intro hc
  have hcolon : lowerCase ':' = ':' := by decide
  have hmem : ':' ∈ t.1.toList.map Char.toLower := by
    rw [← title_lowerCase t ht, ← hspells, ← hcolon]
    exact List.mem_map_of_mem hc
  exact absurd (title_isPlain t ht _ hmem) (by decide)

/-- A line is a header in one form at most. -/
theorem underlined?_eq_none_of_mem {next : Option Line} (hcolon : ':' ∈ trim l) :
    underlined? l next = none := by
  cases heq : underlined? l next with
  | none => rfl
  | some h =>
    obtain ⟨_, title, kind, -, -, ht, hspells, -⟩ := underlined?_eq_some_iff.mp heq
    exact absurd hcolon (colon_not_mem_of_spells ht hspells)

theorem at?_of_atMargin (hmargin : AtMargin l) (onlyUnderlined : Bool) (next : Option Line) :
    at? onlyUnderlined l next =
      match underlined? l next with
      | some h => some h
      | none => if onlyUnderlined then none else withColon? l := by
  obtain ⟨hblank, hindent⟩ := atMargin_iff.mp hmargin
  rw [at?, hblank, hindent]
  rfl

/-- The line is a header where it stands. The first form takes the line below it as well. -/
inductive Marks (onlyUnderlined : Bool) (ls : List Line) (i : Nat) : Header → Prop
  | underline {l below : Line} {title : String} {kind : SectionKind} (line : ls[i]? = some l)
      (margin : AtMargin l) (next : ls[i + 1]? = some below) (dashes : IsDashes below)
      (known : (title, kind) ∈ titles) (spelled : Spells (trim l) title) :
      Marks onlyUnderlined ls i ⟨title, kind, true, []⟩
  | colon {before after : List Char} {title : String} {kind : SectionKind}
      (allowed : onlyUnderlined = false) (line : ls[i]? = some (before ++ ':' :: after))
      (margin : AtMargin (before ++ ':' :: after)) (first : ':' ∉ before)
      (plain : IsPlain (trimEnd before)) (known : (title, kind) ∈ titles)
      (spelled : Spells (trimEnd before) title)
      (bare : isAllBlank after = true ∨ kind = .returns) :
      Marks onlyUnderlined ls i ⟨title, kind, false, trim after⟩

theorem atIndex?_eq_some_iff :
    atIndex? onlyUnderlined ls i = some h ↔ Marks onlyUnderlined ls i h := by
  have hcolon : isBlank ':' = false := by decide
  constructor
  · intro hat
    rw [atIndex?] at hat
    split at hat
    · cases hat
    · rename_i l hl
      obtain ⟨hblank, hindent, hunder | ⟨honly, hwith⟩⟩ := at?_eq_some hat
      · obtain ⟨below, title, kind, hnext, hdashes, ht, hspells, rfl⟩ :=
          underlined?_eq_some_iff.mp hunder
        exact .underline hl (atMargin_iff.mpr ⟨hblank, hindent⟩) hnext hdashes ht hspells
      · have hmargin := atMargin_iff.mpr ⟨hblank, hindent⟩
        by_cases hmem : ':' ∈ l
        · obtain ⟨before, after, rfl, hfirst⟩ := List.eq_append_cons_of_mem hmem
          obtain ⟨title, kind, ht, hplain, hspells, htext, rfl⟩ :=
            (withColon?_eq_some_iff hfirst (trim_of_atMargin hcolon hmargin)).mp hwith
          rw [trim_trimEnd] at htext ⊢
          exact .colon honly hl hmargin hfirst hplain ht hspells
            (htext.imp_left trim_eq_nil_iff.mp)
        · rw [withColon?_of_not_mem fun hc => hmem (trim_subset l hc)] at hwith
          cases hwith
  · intro hmarks
    cases hmarks with
    | underline hl hmargin hnext hdashes ht hspells =>
      have hunder := underlined?_eq_some_iff.mpr ⟨_, _, _, hnext, hdashes, ht, hspells, rfl⟩
      simp only [atIndex?, hl, at?_of_atMargin hmargin, hunder]
    | colon honly hl hmargin hfirst hplain ht hspells hbare =>
      rename_i before after title kind
      have htrim := trim_of_atMargin hcolon hmargin
      have hnone : underlined? (before ++ ':' :: after) ls[i + 1]? = none :=
        underlined?_eq_none_of_mem (htrim ▸ List.mem_append_right before List.mem_cons_self)
      have hwith := (withColon?_eq_some_iff hfirst htrim).mpr
        ⟨title, kind, ht, hplain, hspells, by
          rw [trim_trimEnd, trim_eq_nil_iff]
          exact hbare, rfl⟩
      rw [trim_trimEnd] at hwith
      simp only [atIndex?, hl, at?_of_atMargin hmargin, hnone, honly, hwith, Bool.false_eq_true,
        if_false]

/-- One way to fit the pattern to a text: a name of letters and spaces that starts with a letter,
blanks, a colon, blanks, and the rest. -/
structure IsReading (text name before after rest : List Char) : Prop where
  text_eq : text = name ++ before ++ ':' :: (after ++ rest)
  starts : ∃ c cs, name = c :: cs ∧ c.isAlpha = true
  plain : IsPlain name
  before_blank : isAllBlank before = true
  after_blank : isAllBlank after = true

/-- The preferred one of all ways: the name is as short as possible, then there are as many blanks
as possible before the colon, and then after it. -/
structure IsPreferred (text name before after rest : List Char) : Prop
    extends IsReading text name before after rest where
  preferred : ∀ name' before' after' rest', IsReading text name' before' after' rest' →
    name.length < name'.length ∨ name.length = name'.length ∧
      (before'.length < before.length ∨
        before'.length = before.length ∧ after'.length ≤ after.length)

theorem not_isBlank_of_isAlpha {c : Char} (hc : c.isAlpha = true) : isBlank c = false := by
  apply EntryForm.isBlank_of_isTokenChar
  rw [EntryForm.isTokenChar, Char.isAlphanum, hc, Bool.true_or, Bool.true_or]

theorem IsPlain.mono {text text' : List Char} (h : IsPlain text) (hsub : text' ⊆ text) :
    IsPlain text' :=
  fun c hc => h c (hsub hc)

theorem not_mem_of_isPlain {text : List Char} (h : IsPlain text) : ':' ∉ text :=
  fun hc => absurd (h ':' hc) (by decide)

variable {text name before after rest b a : List Char}

theorem IsReading.split (hr : IsReading text name before after rest)
    (htext : text = b ++ ':' :: a) (hfirst : ':' ∉ b) :
    b = name ++ before ∧ a = after ++ rest := by
  have hnot : ':' ∉ name ++ before := by
    rw [List.mem_append]
    rintro (hc | hc)
    · exact not_mem_of_isPlain hr.plain hc
    · exact absurd (isAllBlank_iff.mp hr.before_blank ':' hc) (by decide)
  exact first_colon_unique hfirst hnot (htext.symm.trans hr.text_eq)

theorem IsReading.trimEnd_eq (hr : IsReading text name before after rest)
    (htext : text = b ++ ':' :: a) (hfirst : ':' ∉ b) : trimEnd b = trimEnd name := by
  rw [(hr.split htext hfirst).1, trimEnd_append_of_isAllBlank name hr.before_blank]

theorem IsReading.trimEnd (hr : IsReading text name before after rest) :
    ∃ before', IsReading text (trimEnd name) before' after rest := by
  obtain ⟨blanks, hblanks, hname⟩ := exists_append_isAllBlank name
  obtain ⟨c, cs, hcons, hc⟩ := hr.starts
  refine ⟨blanks ++ before, ?_, ⟨c, Text.trimEnd cs, ?_, hc⟩, ?_, ?_, hr.after_blank⟩
  · rw [← List.append_assoc (Text.trimEnd name), ← hname]
    exact hr.text_eq
  · rw [hcons]
    exact trimEnd_append_cons [] (not_isBlank_of_isAlpha hc) cs
  · exact hr.plain.mono (trimEnd_subset name)
  · rw [isAllBlank_append, hblanks, hr.before_blank, Bool.true_and]

theorem IsReading.trimStart (hr : IsReading text name before after rest) :
    ∃ blanks, rest = blanks ++ trimStart rest ∧
      IsReading text name before (after ++ blanks) (trimStart rest) := by
  obtain ⟨blanks, hblanks, hrest⟩ := exists_isAllBlank_append rest
  refine ⟨blanks, hrest, ?_, hr.starts, hr.plain, hr.before_blank, ?_⟩
  · rw [List.append_assoc after, ← hrest]
    exact hr.text_eq
  · rw [isAllBlank_append, hr.after_blank, hblanks, Bool.true_and]

theorem IsPreferred.trimEnd_eq (hp : IsPreferred text name before after rest) :
    Text.trimEnd name = name := by
  obtain ⟨before', hr⟩ := hp.toIsReading.trimEnd
  obtain ⟨blanks, -, hname⟩ := exists_append_isAllBlank name
  have hlength := congrArg List.length hname
  rw [List.length_append] at hlength
  have hle : name.length ≤ (Text.trimEnd name).length := by
    have hpref := hp.preferred _ _ _ _ hr
    omega
  have hnil : blanks = [] := List.length_eq_zero_iff.mp (by omega)
  rw [hnil, List.append_nil] at hname
  exact hname.symm

theorem IsPreferred.trimStart_eq (hp : IsPreferred text name before after rest) :
    Text.trimStart rest = rest := by
  obtain ⟨blanks, hrest, hr⟩ := hp.toIsReading.trimStart
  have hle : (after ++ blanks).length ≤ after.length := by
    have hpref := hp.preferred _ _ _ _ hr
    omega
  rw [List.length_append] at hle
  have hnil : blanks = [] := List.length_eq_zero_iff.mp (by omega)
  rw [hnil, List.nil_append] at hrest
  exact hrest.symm

/-- The preferred reading of a trimmed text splits it at its first colon, with the blanks around
the colon cut off. -/
theorem isPreferred_iff (htrim : trim text = text) (htext : text = b ++ ':' :: a)
    (hfirst : ':' ∉ b) :
    (∃ before after, IsPreferred text name before after rest) ↔
      name = trimEnd b ∧ rest = trim a ∧ IsPlain name ∧
        ∃ c cs, name = c :: cs ∧ c.isAlpha = true := by
  have hsuffix : a <:+ text := by
    rw [htext]
    exact (List.suffix_cons ':' a).trans (List.suffix_append b _)
  have ha : trimEnd a = a :=
    trimEnd_eq_self_of_isSuffix hsuffix (trim_eq_self_iff.mp htrim).2
  have hatrim : trim a = trimStart a :=
    trimEnd_eq_self_of_isSuffix (List.dropWhile_suffix isBlank) ha
  constructor
  · rintro ⟨before, after, hp⟩
    have hsplit := hp.toIsReading.split htext hfirst
    refine ⟨?_, ?_, hp.plain, hp.starts⟩
    · rw [hp.toIsReading.trimEnd_eq htext hfirst, hp.trimEnd_eq]
    · rw [hatrim, hsplit.2, trimStart_of_isAllBlank_append hp.after_blank, hp.trimStart_eq]
  · rintro ⟨rfl, rfl, hplain, hstarts⟩
    obtain ⟨before, hbefore, hb⟩ := exists_append_isAllBlank b
    have hpad : a.takeWhile isBlank ++ trim a = a := by
      rw [hatrim]
      exact List.takeWhile_append_dropWhile
    refine ⟨before, a.takeWhile isBlank, ⟨?_, hstarts, hplain, hbefore, List.all_takeWhile⟩, ?_⟩
    · rw [← hb, hpad, htext]
    · intro name' before' after' rest' hr
      obtain ⟨hb', ha'⟩ := hr.split htext hfirst
      have hname := hr.trimEnd_eq htext hfirst
      obtain ⟨blanks, -, hname'⟩ := exists_append_isAllBlank name'
      rw [← hname] at hname'
      have hlength := congrArg List.length hname'
      have hsum := congrArg List.length (hb.symm.trans hb')
      have hindent := indentOf_append_of_isAllBlank hr.after_blank rest'
      rw [← ha', indentOf] at hindent
      rw [List.length_append] at hlength
      rw [List.length_append, List.length_append] at hsum
      omega

theorem title_head? :
    ∀ t ∈ titles, t.1.toList.map lowerCase ≠ [] ∧
      (t.1.toList.map lowerCase).head? ≠ some ' ' := by decide

theorem exists_cons_of_spells {t : String × SectionKind} (ht : t ∈ titles) (hplain : IsPlain name)
    (hspells : Spells name t.1) : ∃ c cs, name = c :: cs ∧ c.isAlpha = true := by
  cases name with
  | nil =>
    have hnil : t.1.toList.map lowerCase = [] := hspells.symm
    exact absurd hnil (title_head? t ht).1
  | cons c cs =>
    refine ⟨c, cs, rfl, (hplain c List.mem_cons_self).resolve_right ?_⟩
    rintro rfl
    exact (title_head? t ht).2 (by rw [← hspells]; rfl)

/-- A line has a title with a colon if the preferred fit of the pattern finds one. -/
theorem withColon?_eq_some_iff_pattern :
    withColon? l = some h ↔ ∃ name before after rest title kind,
      IsPreferred (trim l) name before after rest ∧ (title, kind) ∈ titles ∧ Spells name title ∧
        (rest = [] ∨ kind = .returns) ∧ h = ⟨title, kind, false, rest⟩ := by
  by_cases hmem : ':' ∈ trim l
  · obtain ⟨b, a, htext, hfirst⟩ := List.eq_append_cons_of_mem hmem
    rw [withColon?_eq_some_iff hfirst htext]
    constructor
    · rintro ⟨title, kind, ht, hplain, hspells, hbare, rfl⟩
      obtain ⟨before, after, hp⟩ := (isPreferred_iff (trim_trim l) htext hfirst).mpr
        ⟨rfl, rfl, hplain, exists_cons_of_spells ht hplain hspells⟩
      exact ⟨_, before, after, _, title, kind, hp, ht, hspells, hbare, rfl⟩
    · rintro ⟨name, before, after, rest, title, kind, hp, ht, hspells, hbare, rfl⟩
      obtain ⟨rfl, rfl, hplain, -⟩ :=
        (isPreferred_iff (trim_trim l) htext hfirst).mp ⟨before, after, hp⟩
      exact ⟨title, kind, ht, hplain, hspells, hbare, rfl⟩
  · rw [withColon?_of_not_mem hmem]
    constructor
    · intro heq
      cases heq
    · rintro ⟨name, before, after, rest, _, _, hp, -⟩
      refine absurd ?_ hmem
      rw [hp.text_eq]
      exact List.mem_append_right _ List.mem_cons_self

def height (h : Header) : Nat :=
  if h.underlined then 2 else 1

theorem split_drop_of_marks (hmarks : Marks onlyUnderlined ls i h) :
    Section.split onlyUnderlined (ls.drop i) =
      ([], ⟨h, (Section.split h.underlined (ls.drop (i + h.height))).1⟩ ::
        (Section.split h.underlined (ls.drop (i + h.height))).2) := by
  have hat := atIndex?_eq_some_iff.mpr hmarks
  have hdrop : ∀ {j : Nat} {l : Line}, ls[j]? = some l → ls.drop j = l :: ls.drop (j + 1) := by
    intro j l hl
    obtain ⟨hj, rfl⟩ := List.getElem?_eq_some_iff.mp hl
    exact List.drop_eq_getElem_cons hj
  cases hmarks with
  | underline hl _ hnext =>
    rw [atIndex?, hl, hnext] at hat
    rw [hdrop hl, hdrop hnext]
    exact Section.split_cons_cons_of_some hat rfl
  | colon _ hl =>
    rw [atIndex?, hl, ← List.head?_drop] at hat
    rw [hdrop hl]
    exact Section.split_cons_of_some hat rfl

/-- A line is a header if and only if `Marks` says so. The form with a colon is the one that the
pattern prefers. Reading goes on below the lines of the header, and inside an underlined section
only underlined headers count from there on. -/
theorem headings_exact (onlyUnderlined : Bool) (ls : List Line) (i : Nat) (h : Header) :
    (atIndex? onlyUnderlined ls i = some h ↔ Marks onlyUnderlined ls i h) ∧
      (∀ l, withColon? l = some h ↔ ∃ name before after rest title kind,
        IsPreferred (trim l) name before after rest ∧ (title, kind) ∈ titles ∧
          Spells name title ∧ (rest = [] ∨ kind = .returns) ∧ h = ⟨title, kind, false, rest⟩) ∧
      (Marks onlyUnderlined ls i h →
        Section.split onlyUnderlined (ls.drop i) =
          ([], ⟨h, (Section.split h.underlined (ls.drop (i + h.height))).1⟩ ::
            (Section.split h.underlined (ls.drop (i + h.height))).2)) :=
  ⟨atIndex?_eq_some_iff, fun _ => withColon?_eq_some_iff_pattern, split_drop_of_marks⟩

theorem headings_exact_kelvin :
    Marks false ["Text".toList, "\u212aEYWORD args".toList, " --- ".toList, "x".toList] 1
        ⟨"Keyword Args", .parameters, true, []⟩ ∧
      Section.split false ["\u212aEYWORD args".toList, " --- ".toList, "x".toList] =
        ([], [⟨⟨"Keyword Args", .parameters, true, []⟩, ["x".toList]⟩]) := by
  obtain ⟨hmarks, -, hsplit⟩ := headings_exact false
    ["Text".toList, "\u212aEYWORD args".toList, " --- ".toList, "x".toList] 1
    ⟨"Keyword Args", .parameters, true, []⟩
  have hmarked := hmarks.mp (by decide)
  exact ⟨hmarked, hsplit hmarked⟩

end Header
end Docstring
end RBinding
