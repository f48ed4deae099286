import RBinding.Proofs.Docstring.Entries

/-!
# RBinding.Proofs.Docstring.EntryLines

Which lines are entries of parameters, and what they say. After at most two stars an entry starts
with its name, the longest there (`isLongestName_of_ofLine?`), and ends with its text
(`Entry.exists_text_isSuffix`). A name, possibly with an annotation, is the start of an entry
whatever way the text after it is set off (`Delimited`, `ofLine?_delimited`). Where no name is known
the entries are the lines with a colon after name and annotation (`ofLine?_none_iff`).

An annotation may be missing, so the reader tries for one first and goes on from where it ends. What
comes then is read in the same way with and without (`afterBlanks?`), which is why the cases of an
annotation and those of a delimiter are treated apart.
-/

namespace RBinding
namespace Docstring

open Text

/-- The name is the longest that the text starts with. -/
structure IsLongestName (cs : List Char) (name : String) : Prop where
  identifier : isIdentifier name = true
  starts : name.toList <+: cs
  longest : ∀ other : String, isIdentifier other = true → other.toList <+: cs →
    other.toList <+: name.toList

/-- Nothing, or a type in parentheses, possibly after blank characters. -/
inductive Annotates : List Char → Prop
  | absent : Annotates []
  | present {blanks type : List Char} :
      isAllBlank blanks = true → ')' ∉ type → Annotates (blanks ++ '(' :: (type ++ [')']))

/-- What follows a name and its annotation, with the text it gives. -/
inductive Delimited : List Char → List Char → Prop
  | colon {before after text : List Char} :
      isAllBlank before = true → isAllBlank after = true → trim text = text →
      Delimited (before ++ ':' :: (after ++ text)) text
  | dash {before dashes after text : List Char} :
      isAllBlank before = true → before ≠ [] → dashes = ['-'] ∨ dashes = ['-', '-'] →
      isAllBlank after = true → after ≠ [] → trim text = text → text ≠ [] →
      Delimited (before ++ (dashes ++ (after ++ text))) text
  | space {before text : List Char} :
      isAllBlank before = true → before ≠ [] → trim text = text → text ≠ [] →
      (∀ c, text.head? = some c → c ≠ ':' ∧ c ≠ '-' ∧ c ≠ '(') →
      Delimited (before ++ text) text
  | lineEnd : Delimited [] []

namespace EntryForm

theorem dropStars_append {stars : List Char} (h : IsStars stars) {c : Char}
    (hc : isTokenStart c = true) (cs : List Char) : dropStars (stars ++ c :: cs) = c :: cs := by
  have hstar : c ≠ '*' := by
    rintro rfl
    cases hc
  rcases h with rfl | rfl | rfl
  · exact dropStars_of_isTokenStart hc cs
  · rw [List.singleton_append, dropStars]
    rintro _ heq
    cases heq
    exact hstar rfl
  · rfl

theorem ofLine?_stars_append {stars : List Char} (h : IsStars stars) {name : String}
    (hname : isIdentifier name = true) (rest : List Char) :
    ofLine? (stars ++ (name.toList ++ rest)) = ofLine? (name.toList ++ rest) := by
  obtain ⟨c, cs, hcs, hc, -⟩ := exists_cons_of_isIdentifier hname
  rw [hcs, List.cons_append, ofLine?, ofLine?, dropStars_append h hc, dropStars_of_isTokenStart hc]

theorem isLongestName_takeWhile {c : Char} (hc : isTokenStart c = true) (cs : List Char) :
    IsLongestName (c :: cs) (String.ofList (c :: cs.takeWhile isTokenChar)) where
  identifier := by
    rw [isIdentifier, String.toList_ofList]
    exact Bool.and_eq_true_iff.mpr ⟨hc, List.all_takeWhile⟩
  starts := by
    rw [String.toList_ofList, List.cons_prefix_cons]
    exact ⟨rfl, List.takeWhile_prefix _⟩
  longest other hother hstarts := by
    obtain ⟨d, ds, hds, -, htoken⟩ := exists_cons_of_isIdentifier hother
    rw [hds, List.cons_prefix_cons] at hstarts
    obtain ⟨rfl, rest, rfl⟩ := hstarts
    rw [hds, String.toList_ofList, List.takeWhile_append_of_pos htoken, List.cons_prefix_cons]
    exact ⟨rfl, List.prefix_append _ _⟩

theorem isLongestName_of_ofLine? {line : Line} {form : EntryForm} (h : ofLine? line = some form) :
    IsLongestName (dropStars line) (String.ofList form.token) := by
  obtain ⟨c, cs, _, hcs, hc, htoken, -⟩ := ofLine?_eq_some h
  rw [hcs, htoken]
  exact isLongestName_takeWhile hc cs

/-- The text after a name and its annotation. -/
def afterBlanks? (tail : List Char) : Option (Separator × List Char) :=
  match trimStart tail with
  | ':' :: text => some (.colon, text)
  | [] => some (.lineEnd, [])
  | text => afterGap? tail text

theorem afterToken?_of_afterAnnotation?_eq_none {cs : List Char}
    (h : afterAnnotation? (trimStart cs) = none) : afterToken? cs = afterBlanks? cs := by
  simp only [afterToken?, h]
  rfl

theorem afterToken?_of_afterAnnotation?_eq_some {cs tail : List Char}
    (h : afterAnnotation? (trimStart cs) = some tail) {result : Separator × List Char}
    (htail : afterBlanks? tail = some result) : afterToken? cs = some result := by
  rw [afterBlanks?] at htail
  simp only [afterToken?, h]
  split at htail
  · rename_i hcolon
    simpa only [hcolon] using htail
  · rename_i hend
    simpa only [hend] using htail
  · rename_i text hcolon hend
    rw [afterGap?] at htail
    split at htail
    · rename_i hblank
      simpa only [hblank, if_true] using htail
    · cases htail

theorem startsBlank_append {before : List Char} (h : isAllBlank before = true) (hne : before ≠ [])
    (cs : List Char) : startsBlank (before ++ cs) = true := by
  obtain ⟨b, before, rfl⟩ := List.exists_cons_of_ne_nil hne
  exact isAllBlank_iff.mp h b List.mem_cons_self

theorem afterBlanks?_colon {before : List Char} (h : isAllBlank before = true) (text : List Char) :
    afterBlanks? (before ++ ':' :: text) = some (.colon, text) := by
  simp only [afterBlanks?, trimStart_append_cons h (show isBlank ':' = false by decide)]

theorem afterDashes?_one {c : Char} (h : isBlank c = true) (cs : List Char) :
    afterDashes? ('-' :: c :: cs) = some cs := by
  rw [afterDashes?.eq_def]
  split
  · rename_i heq
    cases heq
    exact absurd h (by decide)
  · rename_i heq
    cases heq
    rw [if_pos h]
  · rename_i hnone
    exact absurd rfl (hnone c cs)

theorem afterDashes?_two {c : Char} (h : isBlank c = true) (cs : List Char) :
    afterDashes? ('-' :: '-' :: c :: cs) = some cs :=
  if_pos h

theorem afterDashes?_eq_none {c : Char} (h : c ≠ '-') (cs : List Char) :
    afterDashes? (c :: cs) = none := by
  rw [afterDashes?.eq_def]
  split
  · rename_i heq
    cases heq
    exact absurd rfl h
  · rename_i heq
    cases heq
    exact absurd rfl h
  · rfl

theorem afterAnnotation?_eq_none {c : Char} (h : c ≠ '(') (cs : List Char) :
    afterAnnotation? (c :: cs) = none := by
  rw [afterAnnotation?.eq_def]
  split
  · rename_i heq
    cases heq
    exact absurd rfl h
  · rfl

/-- A text after blank characters is found if neither a parenthesis nor a colon opens it. -/
theorem afterBlanks?_gap {before : List Char} (h : isAllBlank before = true) (hne : before ≠ [])
    {c : Char} (hc : isBlank c = false) (hcolon : c ≠ ':') (cs : List Char) :
    afterBlanks? (before ++ c :: cs) = some (afterGap (c :: cs)) := by
  simp only [afterBlanks?, trimStart_append_cons h hc]
  split
  · rename_i heq
    cases heq
    exact absurd rfl hcolon
  · rename_i heq
    cases heq
  · rw [afterGap?, if_pos (startsBlank_append h hne _)]

theorem afterBlanks?_delimited {tail text : List Char} (h : Delimited tail text) :
    ∃ separator untrimmed, afterBlanks? tail = some (separator, untrimmed) ∧
      trim untrimmed = text := by
  cases h with
  | colon hbefore hafter htext =>
    exact ⟨_, _, afterBlanks?_colon hbefore _, by rw [trim_of_isAllBlank_append hafter, htext]⟩
  | @dash before dashes after text hbefore hne hdashes hafter hane htext =>
    -- The reader takes one blank character with the dashes; trimming takes the others.
    obtain ⟨a, after, rfl⟩ := List.exists_cons_of_ne_nil hane
    rw [isAllBlank_cons, Bool.and_eq_true] at hafter
    have htrim : trim (after ++ text) = text := by
      rw [trim_of_isAllBlank_append hafter.2, htext]
    rcases hdashes with rfl | rfl
    · have hgap : afterGap ('-' :: a :: (after ++ text)) = (.dash, after ++ text) := by
        rw [afterGap, afterDashes?_one hafter.1]
      exact ⟨_, _, (afterBlanks?_gap hbefore hne (by decide) (by decide) _).trans
        (congrArg some hgap), htrim⟩
    · have hgap : afterGap ('-' :: '-' :: a :: (after ++ text)) = (.dash, after ++ text) := by
        rw [afterGap, afterDashes?_two hafter.1]
      exact ⟨_, _, (afterBlanks?_gap hbefore hne (by decide) (by decide) _).trans
        (congrArg some hgap), htrim⟩
  | @space before text hbefore hne htext htne hhead =>
    obtain ⟨c, cs, rfl, hc⟩ := exists_cons_of_trim_eq_self htext htne
    obtain ⟨hcolon, hdash, -⟩ := hhead c rfl
    refine ⟨.space, c :: cs, ?_, htext⟩
    rw [afterBlanks?_gap hbefore hne hc hcolon, afterGap, afterDashes?_eq_none hdash]
  | lineEnd => exact ⟨.lineEnd, [], rfl, rfl⟩

theorem afterToken?_note {note tail : List Char} (h : Annotates note)
    (hnone : afterAnnotation? (trimStart tail) = none) {result : Separator × List Char}
    (htail : afterBlanks? tail = some result) : afterToken? (note ++ tail) = some result := by
  cases h with
  | absent => rw [List.nil_append, afterToken?_of_afterAnnotation?_eq_none hnone, htail]
  | @present blanks type hblanks htype =>
    refine afterToken?_of_afterAnnotation?_eq_some ?_ htail
    rw [List.append_assoc, List.cons_append, trimStart_append_cons hblanks (by decide),
      afterAnnotation?_eq_some_iff]
    exact ⟨type, htype, by simp⟩

theorem afterGap_ne_colon (cs text : List Char) : afterGap cs ≠ (.colon, text) := by
  rw [afterGap]
  split <;> simp

theorem exists_of_afterToken?_colon {cs text : List Char}
    (h : afterToken? cs = some (.colon, text)) :
    ∃ note before, Annotates note ∧ isAllBlank before = true ∧
      cs = note ++ (before ++ ':' :: text) := by
  obtain ⟨blanks, hblanks, hcs⟩ := exists_isAllBlank_append cs
  rw [afterToken?] at h
  split at h
  · rename_i beyond hbeyond
    obtain ⟨before, hbefore, hbeyondeq⟩ := exists_isAllBlank_append beyond
    obtain ⟨type, htype, hrest⟩ := afterAnnotation?_eq_some_iff.mp hbeyond
    split at h
    · rename_i hcolon
      cases h
      refine ⟨_, before, .present hblanks htype, hbefore, ?_⟩
      rw [← hcolon, ← hbeyondeq, hcs, hrest]
      simp
    · cases h
    -- Without a colon here the text is set off in another way, so the separator is another.
    · split at h
      · exact absurd (Option.some.inj h) (afterGap_ne_colon _ _)
      · split at h <;> cases h
  · split at h
    · rename_i hcolon
      cases h
      refine ⟨[], blanks, .absent, hblanks, ?_⟩
      rw [List.nil_append, ← hcolon, ← hcs]
    · cases h
    · rw [afterGap?] at h
      split at h
      · exact absurd (Option.some.inj h) (afterGap_ne_colon _ _)
      · cases h

/-- Here no name goes on and no annotation starts. -/
inductive Apart : List Char → Prop
  | nil : Apart []
  | cons {before : List Char} {c : Char} {cs : List Char} :
      isAllBlank before = true → isBlank c = false → c ≠ '(' →
      (before = [] → isTokenChar c = false) → Apart (before ++ c :: cs)

theorem apart_colon {before : List Char} (h : isAllBlank before = true) (text : List Char) :
    Apart (before ++ ':' :: text) :=
  .cons h (by decide) (by decide) fun _ => by decide

theorem Apart.of_delimited {tail text : List Char} (h : Delimited tail text) : Apart tail := by
  cases h with
  | colon hbefore _ _ => exact apart_colon hbefore _
  | dash hbefore hne hdashes _ _ _ =>
    rcases hdashes with rfl | rfl
    · exact .cons hbefore (by decide) (by decide) fun hnil => absurd hnil hne
    · exact .cons hbefore (by decide) (by decide) fun hnil => absurd hnil hne
  | space hbefore hne htext htne hhead =>
    obtain ⟨c, cs, rfl, hc⟩ := exists_cons_of_trim_eq_self htext htne
    exact .cons hbefore hc (hhead c rfl).2.2 fun hnil => absurd hnil hne
  | lineEnd => exact .nil

theorem Apart.afterAnnotation?_eq_none {tail : List Char} (h : Apart tail) :
    afterAnnotation? (trimStart tail) = none := by
  cases h with
  | nil => rfl
  | cons hbefore hc hparen _ =>
    rw [trimStart_append_cons hbefore hc]
    exact EntryForm.afterAnnotation?_eq_none hparen _

theorem isTokenChar_of_head?_append {before cs : List Char} (h : isAllBlank before = true)
    (hcs : before = [] → ∀ x, cs.head? = some x → isTokenChar x = false) :
    ∀ x, (before ++ cs).head? = some x → isTokenChar x = false := by
  intro x hx
  cases before with
  | nil => exact hcs rfl x hx
  | cons b before =>
    cases hx
    exact isTokenChar_of_isBlank (isAllBlank_iff.mp h _ List.mem_cons_self)

theorem Apart.isTokenChar_head {note tail : List Char} (h : Annotates note)
    (htail : Apart tail) :
    ∀ x, (note ++ tail).head? = some x → isTokenChar x = false := by
  cases h with
  | absent =>
    rw [List.nil_append]
    cases htail with
    | nil => exact fun x hx => nomatch hx
    | cons hbefore _ _ hchar =>
      refine isTokenChar_of_head?_append hbefore fun hnil x hx => ?_
      cases hx
      exact hchar hnil
  | present hblanks _ =>
    rw [List.append_assoc]
    refine isTokenChar_of_head?_append hblanks fun _ x hx => ?_
    cases hx
    decide

theorem ofLine?_of_apart {stars note tail text : List Char} {name : String}
    {separator : Separator} (hstars : IsStars stars) (hname : isIdentifier name = true)
    (hnote : Annotates note) (hapart : Apart tail)
    (htail : afterBlanks? tail = some (separator, text)) :
    ofLine? (stars ++ (name.toList ++ (note ++ tail))) =
      some ⟨name.toList, separator, trim text⟩ := by
  rw [ofLine?_stars_append hstars hname]
  exact ofLine?_append hname _ (hapart.isTokenChar_head hnote)
    (afterToken?_note hnote hapart.afterAnnotation?_eq_none htail)

end EntryForm

namespace Entry

theorem ofLine?_delimited {table : Table String} {name parameter : String}
    {stars note tail text : List Char} (hstars : IsStars stars)
    (hname : isIdentifier name = true) (hget : table.get? name = some parameter)
    (hnote : Annotates note) (htail : Delimited tail text) :
    ofLine? (some table) (stars ++ (name.toList ++ (note ++ tail))) =
      some ⟨name, parameter, String.ofList text⟩ := by
  obtain ⟨separator, untrimmed, hblanks, rfl⟩ := EntryForm.afterBlanks?_delimited htail
  have hform := EntryForm.ofLine?_of_apart hstars hname hnote (.of_delimited htail) hblanks
  refine ofLine?_of_form hform rfl (fun t ht => ?_) nofun
  cases ht
  exact hget

/-- Where no name is known the entries are the lines with a colon after name and annotation. -/
theorem ofLine?_none_iff {line : Line} {e : Entry} :
    ofLine? none line = some e ↔
      ∃ (stars note before text : List Char) (name : String),
        IsStars stars ∧ isIdentifier name = true ∧ Annotates note ∧
        isAllBlank before = true ∧
        line = stars ++ (name.toList ++ (note ++ (before ++ ':' :: text))) ∧
        e = ⟨name, name, String.ofList (trim text)⟩ := by
  constructor
  · intro h
    obtain ⟨form, hform, htoken, htext, hnone, -⟩ := ofLine?_eq_some h
    obtain ⟨hcolon, hparameter⟩ := hnone rfl
    obtain ⟨stars, hstars, hline⟩ := EntryForm.exists_stars line
    have hlongest := EntryForm.isLongestName_of_ofLine? hform
    obtain ⟨c, cs, text, hcs, -, hform, hafter, htrim⟩ := EntryForm.ofLine?_eq_some hform
    rw [hcolon] at hafter
    obtain ⟨note, before, hnote, hbefore, hrest⟩ :=
      EntryForm.exists_of_afterToken?_colon hafter
    refine ⟨stars, note, before, text, String.ofList form.token, hstars,
      hlongest.identifier, hnote, hbefore, ?_, ?_⟩
    · rw [← hrest, String.toList_ofList, hform, List.cons_append, List.takeWhile_append_dropWhile,
        ← hcs]
      exact hline
    · obtain ⟨token, parameter, text'⟩ := e
      dsimp only at htoken htext hparameter
      rw [hparameter, htoken, htext, htrim]
  · rintro ⟨stars, note, before, text, name, hstars, hname, hnote, hbefore, rfl, rfl⟩
    have hform := EntryForm.ofLine?_of_apart hstars hname hnote
      (EntryForm.apart_colon hbefore text) (EntryForm.afterBlanks?_colon hbefore text)
    exact ofLine?_of_form hform rfl nofun fun _ => ⟨rfl, rfl⟩

/-- An entry is known by the name that its line starts with after the stars: no longer name starts
there, its parameter is the one the name stands for, and its text is what the line ends with. A
known name makes a line an entry, whether or not an annotation follows and however the text is set
off. Where no name is known a colon makes it one. -/
theorem ofLine?_by_leading_name :
    (∀ (known : Option (Table String)) (line : Line) (e : Entry), ofLine? known line = some e →
      (∃ stars rest, IsStars stars ∧ line = stars ++ rest ∧ IsLongestName rest e.token) ∧
      (∀ table, known = some table → table.get? e.token = some e.parameter) ∧
      trim e.text.toList = e.text.toList ∧ (trim line = line → e.text.toList <:+ line)) ∧
    (∀ (table : Table String) (name parameter : String) (stars note tail text : List Char),
      IsStars stars → isIdentifier name = true → table.get? name = some parameter →
      Annotates note → Delimited tail text →
      ofLine? (some table) (stars ++ (name.toList ++ (note ++ tail))) =
        some ⟨name, parameter, String.ofList text⟩) ∧
    ∀ (line : Line) (e : Entry), ofLine? none line = some e ↔
      ∃ (stars note before text : List Char) (name : String),
        IsStars stars ∧ isIdentifier name = true ∧ Annotates note ∧
        isAllBlank before = true ∧
        line = stars ++ (name.toList ++ (note ++ (before ++ ':' :: text))) ∧
        e = ⟨name, name, String.ofList (trim text)⟩ := by
  refine ⟨fun known line e h => ⟨?_, ?_, ?_, fun hline => ?_⟩, ?_, fun _ _ => ofLine?_none_iff⟩
  · obtain ⟨form, hform, htoken, -⟩ := ofLine?_eq_some h
    obtain ⟨stars, hstars, hline⟩ := EntryForm.exists_stars line
    exact ⟨stars, _, hstars, hline, htoken ▸ EntryForm.isLongestName_of_ofLine? hform⟩
  · obtain ⟨-, -, -, -, -, hget⟩ := ofLine?_eq_some h
    exact hget
  · obtain ⟨text, -, htext⟩ := exists_text_isSuffix h
    rw [htext, trim_trim]
  · obtain ⟨text, hsuffix, htext⟩ := exists_text_isSuffix h
    rw [htext]
    exact trim_isSuffix hsuffix hline
  · intro table name parameter stars note tail text hstars hname hget hnote htail
    exact ofLine?_delimited hstars hname hget hnote htail

def leadingNames : Table String :=
  Table.ofList [("rest", "..."), ("k", "k")]

def leadingNote : List Char :=
  [' '] ++ '(' :: ("list, optional".toList ++ [')'])

def leadingTail : List Char :=
  [' '] ++ (['-', '-'] ++ ([' '] ++ "the others".toList))

theorem ofLine?_by_leading_name_rest :
    ofLine? (some leadingNames) "*rest (list, optional) -- the others".toList =
        some ⟨"rest", "...", "the others"⟩ ∧
      "the others".toList <:+ "*rest (list, optional) -- the others".toList ∧
      ofLine? (some leadingNames) "key: where to look".toList = none ∧
      ofLine? none "key : where to look".toList = some ⟨"key", "key", "where to look"⟩ := by
  obtain ⟨hsound, hcomplete, hnone⟩ := ofLine?_by_leading_name
  have hnote : Annotates leadingNote := .present (by decide) (by decide)
  have htail : Delimited leadingTail "the others".toList :=
    .dash (by decide) (by decide) (.inr rfl) (by decide) (by decide) (by decide) (by decide)
  have hrest : ofLine? (some leadingNames) "*rest (list, optional) -- the others".toList =
      some ⟨"rest", "...", "the others"⟩ :=
    hcomplete leadingNames "rest" "..." ['*'] _ _ _ (.inr (.inl rfl)) (by decide) (by decide)
      hnote htail
  obtain ⟨-, -, -, hsuffix⟩ := hsound _ _ _ hrest
  refine ⟨hrest, hsuffix (by decide), by decide +kernel, ?_⟩
  rw [hnone]
  exact ⟨[], [], [' '], " where to look".toList, "key", .inl rfl, by decide, .absent, by decide,
    by decide, by decide +kernel⟩

end Entry

end Docstring
end RBinding
