import RBinding.Proofs.Docstring.EntryForm
import RBinding.Proofs.Docstring.Printing
import RBinding.Proofs.Table

/-!
# RBinding.Proofs.Docstring.Entries

Entries of parameters, as they are written and as they are read.

* `ofLine?_append`: an identifier in front of a separator is read as the name.
* `IsEntry`: lines that are read as the documentation of one parameter, whatever has been read
  before. The entries of both styles are (`isEntry_colons`, `isEntry_underlines`).
* `readSection_entries`: a section made of such lines adds their documentation, in order, to what
  has been read. The step is `IsEntry.reads`, the induction is on the entries.
-/

namespace RBinding
namespace Docstring

open Text

theorem exists_cons_of_isIdentifier {name : String} (h : isIdentifier name = true) :
    ∃ c cs, name.toList = c :: cs ∧ EntryForm.isTokenStart c = true ∧
      ∀ x ∈ cs, EntryForm.isTokenChar x = true := by
  rw [isIdentifier] at h
  split at h
  · cases h
  · rename_i c cs hname
    rw [Bool.and_eq_true] at h
    exact ⟨c, cs, hname, h.1, List.all_eq_true.mp h.2⟩

namespace EntryForm

theorem isTokenChar_of_isTokenStart {c : Char} (h : isTokenStart c = true) :
    isTokenChar c = true := by
  rw [isTokenStart, Bool.or_eq_true] at h
  rw [isTokenChar, Char.isAlphanum, Bool.or_eq_true, Bool.or_eq_true]
  exact h.imp_left Or.inl

theorem isBlank_of_isTokenChar {c : Char} (h : isTokenChar c = true) : isBlank c = false := by
  rw [isTokenChar] at h
  delta Char.isAlphanum Char.isAlpha Char.isUpper Char.isLower Char.isDigit at h
  simp only [Bool.or_eq_true, Bool.and_eq_true, decide_eq_true_eq, beq_iff_eq, ge_iff_le,
    UInt32.le_iff_toNat_le] at h
  change (((65 ≤ c.toNat ∧ c.toNat ≤ 90) ∨ (97 ≤ c.toNat ∧ c.toNat ≤ 122)) ∨
    (48 ≤ c.toNat ∧ c.toNat ≤ 57)) ∨ c = '_' at h
  rcases h with h | rfl
  · simp only [isBlank, Bool.or_eq_false_iff, Bool.and_eq_false_iff, decide_eq_false_iff_not,
      beq_eq_false_iff_ne]
    omega
  · decide

theorem isTokenChar_of_isBlank {c : Char} (h : isBlank c = true) : isTokenChar c = false := by
  by_contra htoken
  rw [Bool.not_eq_false] at htoken
  rw [isBlank_of_isTokenChar htoken] at h
  cases h

theorem dropStars_of_ne {c : Char} (h : c ≠ '*') (cs : List Char) :
    dropStars (c :: cs) = c :: cs := by
  rw [dropStars]
  · rintro _ heq
    cases heq
    exact h rfl
  · rintro _ heq
    cases heq
    exact h rfl

theorem dropStars_of_isTokenStart {c : Char} (h : isTokenStart c = true) (cs : List Char) :
    dropStars (c :: cs) = c :: cs := by
  apply dropStars_of_ne
  rintro rfl
  cases h

theorem ofLine?_append {name : String} (h : isIdentifier name = true) (rest : List Char)
    {text : List Char} {separator : Separator}
    (hrest : ∀ x, rest.head? = some x → isTokenChar x = false)
    (hafter : afterToken? rest = some (separator, text)) :
    ofLine? (name.toList ++ rest) = some ⟨name.toList, separator, trim text⟩ := by
  obtain ⟨c, cs, hname, hc, hcs⟩ := exists_cons_of_isIdentifier h
  have htake : (cs ++ rest).takeWhile isTokenChar = cs := by
    rw [List.takeWhile_append_of_pos hcs]
    cases rest with
    | nil => simp
    | cons x rest => rw [List.takeWhile_cons_of_neg (by simp [hrest x rfl]), List.append_nil]
  have hdrop : (cs ++ rest).dropWhile isTokenChar = rest := by
    rw [List.dropWhile_append_of_pos hcs]
    cases rest with
    | nil => rfl
    | cons x rest => rw [List.dropWhile_cons_of_neg (by simp [hrest x rfl])]
  rw [ofLine?, hname, List.cons_append, dropStars_of_isTokenStart hc]
  simp only [hc, if_true, htake, hdrop, hafter]

theorem afterToken?_colon (text : List Char) : afterToken? (':' :: text) = some (.colon, text) :=
  rfl

theorem afterToken?_space_colon (text : List Char) :
    afterToken? (' ' :: ':' :: text) = some (.colon, text) := rfl

end EntryForm

/-- Where parameters are known by name, the name is one of theirs and stands for itself. -/
def Admits (known : Option (Table String)) (name : String) : Prop :=
  ∀ t, known = some t → t.get? name = some name

theorem Entry.ofLine?_of_form {known : Option (Table String)} {name parameter : String}
    {line : Line} {form : EntryForm} (hform : EntryForm.ofLine? line = some form)
    (htoken : form.token = name.toList)
    (hknown : ∀ t, known = some t → t.get? name = some parameter)
    (hnone : known = none → form.separator = .colon ∧ parameter = name) :
    Entry.ofLine? known line = some ⟨name, parameter, String.ofList form.text⟩ := by
  have hname : String.ofList form.token = name := by rw [htoken, String.ofList_toList]
  cases known with
  | none =>
    obtain ⟨hsep, rfl⟩ := hnone rfl
    simp only [Entry.ofLine?, hform, hname, hsep, if_true]
  | some t => simp only [Entry.ofLine?, hform, hname, hknown t rfl]

theorem Entry.ofLine?_of_admits {known : Option (Table String)} {name : String}
    (h : Admits known name) {line : Line} {form : EntryForm}
    (hform : EntryForm.ofLine? line = some form) (htoken : form.token = name.toList)
    (hsep : known = none → form.separator = .colon) :
    Entry.ofLine? known line = some ⟨name, name, String.ofList form.text⟩ :=
  ofLine?_of_form hform htoken h fun hnone => ⟨hsep hnone, rfl⟩

theorem join_ne_empty {text : String} (h : text ≠ "") (fragment : String) :
    Arguments.join text fragment = text ++ " " ++ fragment := by
  rw [Arguments.join, if_neg (by simpa using h)]

theorem foldl_join_of_ne_empty {text : String} (h : text ≠ "") (fragments : List String) :
    fragments.foldl Arguments.join text = " ".intercalate (text :: fragments) := by
  induction fragments generalizing text with
  | nil => simp
  | cons f fragments ih =>
    have hne : text ++ " " ++ f ≠ "" := by
      intro he
      have hlen := congrArg String.length he
      simp at hlen
    rw [List.foldl_cons, join_ne_empty h, ih hne, String.intercalate_cons_append,
      String.intercalate_cons_cons]

/-- Fragments are joined by single spaces, from the first that is not empty. -/
theorem foldl_join (fragments : List String) :
    fragments.foldl Arguments.join "" = " ".intercalate (fragments.dropWhile String.isEmpty) := by
  induction fragments with
  | nil => rfl
  | cons f fragments ih =>
    by_cases h : f = ""
    · subst h
      exact ih
    · rw [List.dropWhile_cons_of_neg (by simpa using h)]
      exact foldl_join_of_ne_empty h fragments

namespace Arguments

variable {known : Option (Table String)} {underlined : Bool}

/-- The lines document a parameter, at any indentation and after anything that is new. -/
structure IsEntry (known : Option (Table String)) (underlined : Bool) (name text : String)
    (ls : List Line) : Prop where
  starts : ∃ c cs more, ls = (c :: cs) :: more ∧ isBlank c = false
  nonblank : ∀ l ∈ ls, isAllBlank l = false
  reads : ∀ (n : Nat) (a : Arguments) (current : Current), name ∉ a.seen →
    a.docs.get? name = none →
    (ls.map (indented n)).foldl (readLine known underlined n) (a, current) =
      ({ a with seen := a.seen ++ [name], docs := a.docs.insert name text }, .parameter name)

theorem foldl_readLine_fragments {name text : String} (fragments : List String)
    (h : ∀ f ∈ fragments, IsFragment f) (n : Nat) (a : Arguments)
    (ha : a.docs.get? name = some text) :
    (fragments.map fun f => indented n (indented 4 f.toList)).foldl (readLine known underlined n)
        (a, .parameter name) =
      ({ a with docs := a.docs.insert name (fragments.foldl join text) }, .parameter name) := by
  induction fragments generalizing a text with
  | nil =>
    rw [List.map_nil, List.foldl_nil, List.foldl_nil, Table.insert_eq_self ha]
  | cons f fragments ih =>
    have hf := h f List.mem_cons_self
    have hindent : entryAt? known n (indented n (indented 4 f.toList)) = none := by
      refine entryAt?_of_ne ?_
      rw [indentOf_indented, indentOf_indented]
      omega
    have htrim : String.ofList (trim (indented n (indented 4 f.toList))) = f := by
      rw [trim_indented, trim_indented, hf.trimmed, String.ofList_toList]
    have hstep : readLine known underlined n (a, .parameter name)
        (indented n (indented 4 f.toList)) = (a.document name f, .parameter name) := by
      simp only [readLine, hindent, htrim, continueEntry]
    have hdocs : (a.document name f).docs = a.docs.insert name (join text f) := by
      rw [document, ha]
      rfl
    have hget : (a.document name f).docs.get? name = some (join text f) := by
      rw [hdocs, Table.get?_insert_self]
    rw [List.map_cons, List.foldl_cons, hstep, List.foldl_cons,
      ih (fun g hg => h g (List.mem_cons_of_mem _ hg)) _ hget, hdocs, Table.insert_insert]
    rfl

theorem isEntry_of {name first text : String} {c : Char} {cs : List Char}
    {fragments : List String} (hc : isBlank c = false)
    (hentry : Entry.ofLine? known (trim (c :: cs)) = some ⟨name, name, first⟩)
    (hfragments : ∀ f ∈ fragments, IsFragment f)
    (htext : fragments.foldl join (if underlined then "" else first) = text) :
    IsEntry known underlined name text
      ((c :: cs) :: fragments.map fun f => indented 4 f.toList) where
  starts := ⟨c, cs, _, rfl, hc⟩
  nonblank l hl := by
    rcases List.mem_cons.mp hl with rfl | hl
    · rw [isAllBlank_cons, hc, Bool.false_and]
    · obtain ⟨f, hf, rfl⟩ := List.mem_map.mp hl
      have hne : f.toList ≠ [] := fun hnil => (hfragments f hf).ne_empty (by simpa using hnil)
      obtain ⟨d, ds, hfd, hd⟩ := exists_cons_of_trim_eq_self (hfragments f hf).trimmed hne
      rw [isAllBlank_indented, hfd, isAllBlank_cons, hd, Bool.false_and]
  reads n a current hseen hdocs := by
    have hat : entryAt? known n (indented n (c :: cs)) = some ⟨name, name, first⟩ := by
      rw [entryAt?, if_pos (indentOf_indented_cons hc n cs), trim_indented, hentry]
    have hnew : a.seen.contains name = false := by simpa using hseen
    have hstep : readLine known underlined n (a, current) (indented n (c :: cs)) =
        ({ a with
            seen := a.seen ++ [name]
            docs := a.docs.insert name (if underlined then "" else first) },
          .parameter name) := by
      simp only [readLine, hat, openEntry, hnew, Bool.false_eq_true, if_false, document, hdocs]
      rfl
    rw [List.map_cons, List.foldl_cons, hstep, List.map_map]
    rw [show (indented n ∘ fun f : String => indented 4 f.toList) =
      fun f => indented n (indented 4 f.toList) from rfl]
    rw [foldl_readLine_fragments fragments hfragments n _ (Table.get?_insert_self _ _ _),
      Table.insert_insert, htext]

theorem isEntry_colons {name : String} {fragments : List String} (bare : Bool)
    (hname : isIdentifier name = true) (hknown : Admits known name)
    (hfragments : ∀ f ∈ fragments, IsFragment f) :
    IsEntry known false name (" ".intercalate fragments)
      ((Style.colons bare).entry name fragments) := by
  obtain ⟨c, cs, hcs, hc, _⟩ := exists_cons_of_isIdentifier hname
  have hblank := EntryForm.isBlank_of_isTokenChar (EntryForm.isTokenChar_of_isTokenStart hc)
  have hfirst : trim (trimEnd (' ' :: (fragments.headD "").toList)) =
      (fragments.headD "").toList := by
    rw [trim_trimEnd, show ' ' :: (fragments.headD "").toList =
      [' '] ++ (fragments.headD "").toList from rfl, trim_of_isAllBlank_append (by decide)]
    cases fragments with
    | nil => rfl
    | cons f fragments => exact (hfragments f List.mem_cons_self).trimmed
  have hline : trim (c :: (cs ++ ':' :: ' ' :: (fragments.headD "").toList)) =
      name.toList ++ ':' :: trimEnd (' ' :: (fragments.headD "").toList) := by
    rw [← List.cons_append, trim_cons_append_cons hblank (by decide), hcs]
  have hentry : Entry.ofLine? known
      (trim (c :: (cs ++ ':' :: ' ' :: (fragments.headD "").toList))) =
        some ⟨name, name, fragments.headD ""⟩ := by
    have hform := EntryForm.ofLine?_append hname
      (':' :: trimEnd (' ' :: (fragments.headD "").toList)) (by intro x hx; cases hx; decide)
      (EntryForm.afterToken?_colon _)
    rw [hline, Entry.ofLine?_of_admits hknown hform rfl (fun _ => rfl), hfirst,
      String.ofList_toList]
  have htext : fragments.tail.foldl join (fragments.headD "") = " ".intercalate fragments := by
    cases fragments with
    | nil => rfl
    | cons f fragments =>
      exact foldl_join_of_ne_empty (hfragments f List.mem_cons_self).ne_empty fragments
  have htail : ∀ f ∈ fragments.tail, IsFragment f := fun f hf =>
    hfragments f (List.mem_of_mem_tail hf)
  change IsEntry known false name _ ((name.toList ++ ':' :: ' ' :: (fragments.headD "").toList) ::
    fragments.tail.map fun f => indented 4 f.toList)
  rw [hcs]
  exact isEntry_of hblank hentry htail htext

theorem isEntry_underlines {name : String} {fragments : List String} {t : Table String}
    (dashes : String → Nat) (types : String → Option String) (hname : isIdentifier name = true)
    (hknown : t.get? name = some name) (hfragments : ∀ f ∈ fragments, IsFragment f) :
    IsEntry (some t) true name (" ".intercalate fragments)
      ((Style.underlines dashes types).entry name fragments) := by
  obtain ⟨c, cs, hcs, hc, htoken⟩ := exists_cons_of_isIdentifier hname
  have hblank := EntryForm.isBlank_of_isTokenChar (EntryForm.isTokenChar_of_isTokenStart hc)
  have hadmits : Admits (some t) name := by
    intro t' ht
    cases ht
    exact hknown
  -- What follows the name is either nothing or a colon with the type; neither is documentation.
  obtain ⟨rest, first, hline, hentry⟩ : ∃ rest first,
      Style.typedName name (types name) = c :: rest ∧
        Entry.ofLine? (some t) (trim (c :: rest)) = some ⟨name, name, first⟩ := by
    cases types name with
    | none =>
      refine ⟨cs, "", hcs, ?_⟩
      have hend : trim (c :: cs) = name.toList := by
        rw [hcs]
        apply trim_eq_self_of_forall
        intro x hx
        rcases List.mem_cons.mp hx with rfl | hx
        · exact hblank
        · exact EntryForm.isBlank_of_isTokenChar (htoken x hx)
      have hform := EntryForm.ofLine?_append hname [] (by simp) rfl
      rw [List.append_nil] at hform
      rw [hend, Entry.ofLine?_of_admits hadmits hform rfl (by simp)]
      rfl
    | some type =>
      refine ⟨cs ++ ' ' :: ':' :: ' ' :: type.toList,
        String.ofList (trim (trimEnd (' ' :: type.toList))), ?_, ?_⟩
      · rw [Style.typedName, hcs]
        rfl
      · have hsplit : c :: (cs ++ ' ' :: ':' :: ' ' :: type.toList) =
            c :: (cs ++ [' ']) ++ ':' :: ' ' :: type.toList := by simp
        have htrim : trim (c :: (cs ++ ' ' :: ':' :: ' ' :: type.toList)) =
            name.toList ++ ' ' :: ':' :: trimEnd (' ' :: type.toList) := by
          rw [hsplit, trim_cons_append_cons hblank (by decide), hcs]
          simp
        have hform := EntryForm.ofLine?_append hname
          (' ' :: ':' :: trimEnd (' ' :: type.toList)) (by intro x hx; cases hx; decide)
          (EntryForm.afterToken?_space_colon _)
        rw [htrim, Entry.ofLine?_of_admits hadmits hform rfl (by simp)]
  change IsEntry (some t) true name _ (Style.typedName name (types name) ::
    fragments.map fun f => indented 4 f.toList)
  rw [hline]
  refine isEntry_of hblank hentry hfragments ((foldl_join fragments).trans ?_)
  cases fragments with
  | nil => rfl
  | cons f fragments =>
    rw [List.dropWhile_cons_of_neg (by simpa using (hfragments f List.mem_cons_self).ne_empty)]

variable {entries : List (String × String)} {write : String → List Line}

/-- Entries under new names are added in order, by induction on the entries. What has been seen are
the names that have documentation, which each entry keeps. -/
theorem foldl_readLine_entries
    (h : ∀ e ∈ entries, IsEntry known underlined e.1 e.2 (write e.1)) (n : Nat) (a : Arguments)
    (current : Current) (hseen : a.seen = a.docs.keys)
    (hnew : (Entries.names (a.docs.entries ++ entries)).Nodup) :
    ((((Entries.names entries).flatMap write).map (indented n)).foldl
        (readLine known underlined n) (a, current)).1 =
      { a with
        seen := a.seen ++ Entries.names entries
        docs := entries.foldl (fun t e => t.insert e.1 e.2) a.docs } := by
  induction entries generalizing a current with
  | nil => simp [Entries.names]
  | cons e entries ih =>
    have hfresh : e.1 ∉ a.docs.keys := by
      rw [Entries.names, List.map_append, List.nodup_append] at hnew
      exact fun hm => hnew.2.2 _ hm _ (by simp) rfl
    have hread := (h e List.mem_cons_self).reads n a current (hseen ▸ hfresh)
      (Table.get?_eq_none_iff.mpr hfresh)
    have hnames : Entries.names (e :: entries) = e.1 :: Entries.names entries := rfl
    rw [hnames, List.flatMap_cons, List.map_append, List.foldl_append, hread, List.foldl_cons, ih]
    · rw [List.append_assoc]
      rfl
    · exact fun e he => h e (List.mem_cons_of_mem _ he)
    · rw [Table.keys_insert_of_not_mem hfresh, hseen]
    · rwa [Table.entries_insert_of_not_mem hfresh, List.append_assoc]

theorem nonblank_flatMap (h : ∀ e ∈ entries, IsEntry known underlined e.1 e.2 (write e.1)) :
    ∀ l ∈ (Entries.names entries).flatMap write, isAllBlank l = false := by
  intro l hl
  obtain ⟨name, hname, hl⟩ := List.mem_flatMap.mp hl
  obtain ⟨e, he, rfl⟩ := List.mem_map.mp hname
  exact (h e he).nonblank l hl

theorem leastIndent_flatMap (h : ∀ e ∈ entries, IsEntry known underlined e.1 e.2 (write e.1))
    (hne : entries ≠ []) (n : Nat) :
    leastIndent (((Entries.names entries).flatMap write).map (indented n)) = n := by
  obtain ⟨e, rest, rfl⟩ := List.exists_cons_of_ne_nil hne
  obtain ⟨c, cs, more, hls, hc⟩ := (h e List.mem_cons_self).starts
  apply leastIndent_eq
  · refine ⟨indented n (c :: cs), ?_, ?_, indentOf_indented_cons hc n cs⟩
    · refine List.mem_map_of_mem (List.mem_flatMap.mpr ⟨e.1, List.mem_cons_self, ?_⟩)
      rw [hls]
      exact List.mem_cons_self
    · rw [isAllBlank_indented, isAllBlank_cons, hc, Bool.false_and]
  · intro l hl _
    obtain ⟨l, _, rfl⟩ := List.mem_map.mp hl
    rw [indentOf_indented]
    exact Nat.le_add_right n _

theorem readSection_entries (write : String → List Line)
    (h : ∀ e ∈ entries, IsEntry known underlined e.1 e.2 (write e.1)) (hne : entries ≠ [])
    (hnodup : (Entries.names entries).Nodup) (title : String) (kind : SectionKind) (bare : Bool)
    (n : Nat) :
    readSection known {} ⟨⟨title, kind, underlined, []⟩,
        ((Entries.names entries).flatMap write).map (shifted bare n)⟩ =
      { docs := Table.ofList entries, seen := Entries.names entries } := by
  have hnonblank := nonblank_flatMap h
  have hshift : ((Entries.names entries).flatMap write).map (shifted bare n) =
      ((Entries.names entries).flatMap write).map (indented n) :=
    List.map_congr_left fun l hl => shifted_of_not_isAllBlank (hnonblank l hl) bare n
  have hbody : (((Entries.names entries).flatMap write).map (indented n)).filter
      (!isAllBlank ·) = ((Entries.names entries).flatMap write).map (indented n) := by
    rw [List.filter_eq_self]
    intro l hl
    obtain ⟨l', hl', rfl⟩ := List.mem_map.mp hl
    rw [isAllBlank_indented, hnonblank l' hl']
    rfl
  rw [readSection, Section.lines, hshift]
  simp only [List.isEmpty_nil, if_true, hbody]
  rw [leastIndent_flatMap h hne, foldl_readLine_entries h n {} .nowhere rfl hnodup]
  rfl

end Arguments
end Docstring
end RBinding
