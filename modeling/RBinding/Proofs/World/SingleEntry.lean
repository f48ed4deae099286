import RBinding.Proofs.Docstring.EntryLines
import RBinding.Proofs.Docstring.Fragments
import RBinding.Proofs.Scaffold.Alignment
import RBinding.Proofs.Scaffold.Customisation
import RBinding.Proofs.World.Description

/-!
# RBinding.Proofs.World.SingleEntry

From the name of a parameter to its line in the documentation of a wrapper. A function is documented
by a title and a single entry for one of its parameters. If the name is made of ASCII letters,
digits and underscores, the text of the entry comes out under the parameter; any other name that a
parameter can have is no name of an entry, and the line ends up in the description instead
(`documented_iff_identifier`).
-/

namespace RBinding
namespace Docstring

open Text Arguments

variable {name text : String}

@[mk_iff]
structure IsSolid (name : String) : Prop where
  ne_empty : name ≠ ""
  solid : ∀ c ∈ name.toList, isBlank c = false

/-- A name that a parameter can have. Beyond ASCII every character counts that is not blank. -/
@[mk_iff]
structure IsPlainName (name : String) : Prop extends IsSolid name where
  word : ∀ c ∈ name.toList, isWordChar c = true

instance (name : String) : Decidable (IsSolid name) :=
  haveI : Decidable (∀ c ∈ name.toList, isBlank c = false) := List.decidableBAll _ _
  decidable_of_iff' _ (isSolid_iff name)

instance (name : String) : Decidable (IsPlainName name) :=
  haveI : Decidable (∀ c ∈ name.toList, isWordChar c = true) := List.decidableBAll _ _
  decidable_of_iff' _ (isPlainName_iff name)

def entryLine (name text : String) : Line :=
  name.toList ++ ':' :: ' ' :: text.toList

/-- A title and one entry for a parameter. -/
def singleEntry (name text : String) : String :=
  "Title.\n\nArgs:\n    " ++ name ++ ": " ++ text

theorem afterToken?_eq_none {x : Char} (hblank : isBlank x = false) (hopen : x ≠ '(')
    (hcolon : x ≠ ':') (cs : List Char) : EntryForm.afterToken? (x :: cs) = none := by
  have hstart := trimStart_cons_of_not_isBlank hblank cs
  have hnone : EntryForm.afterAnnotation? (trimStart (x :: cs)) = none := by
    rw [hstart]
    exact EntryForm.afterAnnotation?_eq_none hopen cs
  rw [EntryForm.afterToken?_of_afterAnnotation?_eq_none hnone]
  simp only [EntryForm.afterBlanks?, hstart]
  split
  · rename_i heq
    cases heq
    exact absurd rfl hcolon
  · rename_i heq
    cases heq
  · rw [EntryForm.afterGap?, EntryForm.startsBlank, hblank, if_neg Bool.false_ne_true]

/-- A name that is not an identifier ends, for a reader of entries, before a character that cannot
follow the name of an entry. -/
theorem ofLine?_entryLine_eq_none (hname : IsPlainName name) (hid : isIdentifier name = false)
    (text : String) : EntryForm.ofLine? (entryLine name text) = none := by
  obtain ⟨c, cs, hcons⟩ : ∃ c cs, name.toList = c :: cs := by
    apply List.exists_cons_of_ne_nil
    simpa using hname.ne_empty
  have hword : ∀ x ∈ c :: cs, x ≠ '*' ∧ x ≠ '(' ∧ x ≠ ':' ∧ isBlank x = false := by
    intro x hx
    rw [← hcons] at hx
    have hne : ∀ y, isWordChar y = false → x ≠ y := by
      rintro y hy rfl
      rw [hname.word x hx] at hy
      cases hy
    exact ⟨hne '*' (by decide), hne '(' (by decide), hne ':' (by decide), hname.solid x hx⟩
  rw [entryLine, hcons, List.cons_append, EntryForm.ofLine?,
    EntryForm.dropStars_of_ne (hword c List.mem_cons_self).1]
  cases hc : EntryForm.isTokenStart c with
  | false => simp [hc]
  | true =>
    have hrest : cs.dropWhile EntryForm.isTokenChar ≠ [] := by
      rw [ne_eq, List.dropWhile_eq_nil_iff]
      intro hall
      rw [isIdentifier, hcons] at hid
      change (EntryForm.isTokenStart c && cs.all EntryForm.isTokenChar) = false at hid
      rw [hc, Bool.true_and, List.all_eq_true.mpr hall] at hid
      cases hid
    obtain ⟨x, more, hmore⟩ := List.exists_cons_of_ne_nil hrest
    have hx : x ∈ c :: cs :=
      List.mem_cons_of_mem c (List.dropWhile_subset _ (hmore ▸ List.mem_cons_self))
    obtain ⟨-, hopen, hcolon, hblank⟩ := hword x hx
    have hdrop : (cs ++ ':' :: ' ' :: text.toList).dropWhile EntryForm.isTokenChar =
        x :: (more ++ ':' :: ' ' :: text.toList) := by
      rw [List.dropWhile_append, hmore]
      rfl
    simp only [hc, if_true, hdrop, afterToken?_eq_none hblank hopen hcolon]

theorem ofLine?_entryLine (hid : isIdentifier name = true) (htext : IsFragment text) :
    EntryForm.ofLine? (entryLine name text) = some ⟨name.toList, .colon, text.toList⟩ := by
  have hblank : isAllBlank [' '] = true := rfl
  have htrim : trim (' ' :: text.toList) = text.toList := by
    rw [← List.singleton_append, trim_of_isAllBlank_append hblank, htext.trimmed]
  rw [entryLine, EntryForm.ofLine?_append hid _ (by simp; decide)
    (EntryForm.afterToken?_colon _), htrim]

theorem IsPlainName.not_mem (hname : IsPlainName name) {x : Char} (hx : isWordChar x = false) :
    x ∉ name.toList := by
  intro hmem
  rw [hname.word x hmem] at hx
  cases hx

theorem IsSolid.trim_eq (hname : IsSolid name) : trim name.toList = name.toList :=
  trim_eq_self_of_forall hname.solid

theorem trim_entryLine (hname : IsPlainName name) (htext : IsFragment text) :
    trim (entryLine name text) = entryLine name text := by
  have hne : name.toList ≠ [] := by simpa using hname.ne_empty
  have htne : text.toList ≠ [] := by simpa using htext.ne_empty
  have hsplit : entryLine name text = name.toList ++ [':', ' '] ++ text.toList := by
    rw [entryLine, List.append_assoc]
    rfl
  rw [hsplit, trim_append_append hname.trim_eq hne htext.trimmed htne]

theorem not_mem_entryLine {x : Char} (hx : x ∉ name.toList) (hcolon : x ≠ ':') (hspace : x ≠ ' ')
    (htext : x ∉ text.toList) : x ∉ entryLine name text := by
  simp [entryLine, hx, hcolon, hspace, htext]

theorem isAllBlank_entryLine (hname : IsPlainName name) (htext : IsFragment text) :
    isAllBlank (entryLine name text) = false := by
  rw [Bool.eq_false_iff, ne_eq, ← trim_eq_nil_iff, trim_entryLine hname htext]
  simp [entryLine]

theorem indentOf_entryLine (hname : IsPlainName name) (htext : IsFragment text) :
    indentOf (entryLine name text) = 0 :=
  indentOf_eq_zero_iff.mpr (trim_eq_self_iff.mp (trim_entryLine hname htext)).1

/-- The lines of the docstring below its title. -/
def lowerLines (name text : String) : List Line :=
  [[], "Args:".toList, indented 4 (entryLine name text)]

theorem unlines_lowerLines (name text : String) :
    unlines ("Title.".toList :: lowerLines name text) =
      "Title.\n\nArgs:\n    ".toList ++ entryLine name text := by
  have hhead : "Title.\n\nArgs:\n    ".toList =
      "Title.".toList ++ '\n' :: '\n' :: ("Args:".toList ++ '\n' :: List.replicate 4 ' ') := by
    decide
  have hlast : unlines [indented 4 (entryLine name text)] = indented 4 (entryLine name text) :=
    List.intercalate_singleton
  rw [lowerLines, unlines_cons_cons, unlines_cons_cons, unlines_cons_cons, hlast, hhead, indented]
  simp only [List.append_assoc, List.cons_append, List.nil_append]

theorem singleEntry_eq (name text : String) :
    singleEntry name text =
      String.ofList (unlines ("Title.".toList :: lowerLines name text)) := by
  have hparts : (singleEntry name text).toList =
      "Title.\n\nArgs:\n    ".toList ++ name.toList ++ ": ".toList ++ text.toList := by
    change ("Title.\n\nArgs:\n    " ++ name ++ ": " ++ text).toList = _
    simp only [String.toList_append]
  have htext : (singleEntry name text).toList =
      unlines ("Title.".toList :: lowerLines name text) := by
    rw [hparts, unlines_lowerLines, List.append_assoc, List.append_assoc]
    rfl
  rw [← htext, String.ofList_toList]

theorem not_mem_lowerLines {x : Char} (hx : x ≠ ' ' ∧ x ∉ "Args:".toList)
    (h : x ∉ entryLine name text) : ∀ l ∈ lowerLines name text, x ∉ l := by
  intro l hl
  simp only [lowerLines, List.mem_cons, List.not_mem_nil, or_false] at hl
  rcases hl with rfl | rfl | rfl
  · exact List.not_mem_nil
  · exact hx.2
  · exact not_mem_indented hx.1 h 4

theorem newline_not_mem_entryLine (hname : IsPlainName name) (htext : IsFragment text) :
    '\n' ∉ entryLine name text :=
  not_mem_entryLine (hname.not_mem (by decide)) (by decide) (by decide) htext.oneLine

theorem map_expandTabs_lowerLines (hname : IsPlainName name) (htext : IsFragment text) :
    (lowerLines name text).map expandTabs = lowerLines name text := by
  have htab : '\t' ∉ entryLine name text :=
    not_mem_entryLine (hname.not_mem (by decide)) (by decide) (by decide) htext.tabFree
  have hid : (lowerLines name text).map expandTabs = (lowerLines name text).map id :=
    List.map_congr_left fun l hl =>
      expandTabsAt_eq_self (not_mem_lowerLines ⟨by decide, by decide⟩ htab l hl) 0
  rw [hid, List.map_id]

theorem newline_not_mem_lines (hname : IsPlainName name) (htext : IsFragment text) :
    ∀ l ∈ "Title.".toList :: lowerLines name text, '\n' ∉ l :=
  List.forall_mem_cons.mpr ⟨by decide,
    not_mem_lowerLines ⟨by decide, by decide⟩ (newline_not_mem_entryLine hname htext)⟩

theorem leastIndent_lowerLines (name text : String) : leastIndent (lowerLines name text) = 0 :=
  leastIndent_eq_zero
    ⟨"Args:".toList, List.mem_cons_of_mem _ List.mem_cons_self, by decide, by decide⟩

theorem cleanText_singleEntry (hname : IsPlainName name) (htext : IsFragment text) :
    cleanText (singleEntry name text) = singleEntry name text := by
  have hlast : ¬List.isEmpty (indented 4 (entryLine name text)) = true := by
    simp [indented, entryLine]
  have htail : dropTail ("Title.".toList :: lowerLines name text) =
      "Title.".toList :: lowerLines name text :=
    List.rdropWhile_concat_neg _ ["Title.".toList, [], "Args:".toList] _ hlast
  have hfirst : expandTabs "Title.".toList = "Title.".toList := by decide
  rw [singleEntry_eq, cleanText, String.toList_ofList,
    clean_unlines (newline_not_mem_lines hname htext) (List.cons_ne_nil _ _), List.map_cons,
    map_expandTabs_lowerLines hname htext, hfirst,
    cleanLines_of_leastIndent_eq_zero (by decide) (by decide) (leastIndent_lowerLines name text),
    htail]

def entrySection (name text : String) : Section :=
  ⟨⟨"Args", .parameters, false, []⟩, [indented 4 (entryLine name text)]⟩

theorem split_singleEntry (name text : String) :
    Section.split false ("Title.".toList :: lowerLines name text) =
      (["Title.".toList, []], [entrySection name text]) := by
  have hindent : 0 < indentOf (indented 4 (entryLine name text)) := by
    rw [indentOf_indented]
    omega
  have hbody : Section.split false [indented 4 (entryLine name text)] =
      ([indented 4 (entryLine name text)], []) :=
    Section.split_cons_of_none (Header.at?_of_indented hindent false none)
  have htitle : Header.at? false "Title.".toList (some []) = none := by decide
  have hargs : "Args:".toList = "Args".toList ++ [':'] := by decide
  have hknown : ("Args", SectionKind.parameters) ∈ Header.titles := by decide
  rw [lowerLines, Section.split_cons_of_none htitle, Section.split_empty_cons, hargs,
    Section.split_colon hknown, hbody]
  rfl

theorem read_singleEntry (hname : IsPlainName name) (htext : IsFragment text)
    (names : List String) (aliases : Table String) :
    read (some (singleEntry name text)) names aliases =
      readParts names aliases (["Title.".toList, []], [entrySection name text]) := by
  have htabs := map_expandTabs_lowerLines hname htext
  have hmargin : leastIndent ((lowerLines name text).map expandTabs) = 0 := by
    rw [htabs, leastIndent_lowerLines]
  have htitle : trim "Title.".toList = "Title.".toList := by decide
  rw [singleEntry_eq, read_unlines htitle (by decide) (by decide)
    (newline_not_mem_lines hname htext) hmargin, htabs, readLines_eq,
    split_singleEntry]

/-- The one line opens the documentation of a parameter, or it is left over. -/
theorem readArguments_entrySection (hname : IsPlainName name) (htext : IsFragment text)
    (known : Option (Table String)) :
    readArguments known [entrySection name text] =
      match Entry.ofLine? known (entryLine name text) with
      | none => { leftover := [String.ofList (entryLine name text)] }
      | some e => (({} : Arguments).openEntry false e).1 := by
  have hfilter : (entrySection name text).lines.filter (!isAllBlank ·) =
      [indented 4 (entryLine name text)] := by
    rw [entrySection, Section.lines]
    simp [isAllBlank_indented, isAllBlank_entryLine hname htext]
  have hindent : indentOf (indented 4 (entryLine name text)) = 4 := by
    rw [indentOf_indented, indentOf_entryLine hname htext]
  have hleast : leastIndent [indented 4 (entryLine name text)] = 4 := by
    simp [leastIndent, isAllBlank_indented, isAllBlank_entryLine hname htext, hindent]
  have hentry : entryAt? known 4 (indented 4 (entryLine name text)) =
      Entry.ofLine? known (entryLine name text) := by
    rw [entryAt?, if_pos hindent, trim_indented, trim_entryLine hname htext]
  have hsection : readArguments known [entrySection name text] =
      readSection known {} (entrySection name text) := rfl
  rw [hsection, readSection]
  simp only [hfilter, hleast, List.foldl_cons, List.foldl_nil, readLine, hentry]
  cases Entry.ofLine? known (entryLine name text) with
  | none => simp only [trim_indented, trim_entryLine hname htext]; rfl
  | some e => rfl

theorem ofList_entryLine (name text : String) :
    String.ofList (entryLine name text) = name ++ ": " ++ text := by
  rw [← String.toList_inj, String.toList_ofList, String.toList_append, String.toList_append,
    List.append_assoc]
  rfl

/-- The entry of an identifier is read under the parameter, any other line becomes a part of the
description. -/
theorem block_singleEntry (hname : IsPlainName name) (htext : IsFragment text)
    {names : List String} (hmem : name ∈ names) (aliases : Table String) :
    (read (some (singleEntry name text)) names aliases).block =
      if isIdentifier name then
        { title := "Title.", parameters := inDeclaredOrder names (Table.empty.insert name text) }
      else
        { title := "Title.", description := name ++ ": " ++ text
          parameters := inDeclaredOrder names .empty } := by
  have hpreamble : readPreamble ["Title.".toList, []] = ("Title.", "") := by decide +kernel
  obtain ⟨table, hknown, hget⟩ := exists_knownNames hmem aliases
  have hread := readArguments_entrySection hname htext (knownNames names aliases)
  rw [read_singleEntry hname htext, readParts, hpreamble]
  cases hid : isIdentifier name with
  | true =>
    have hentry : Entry.ofLine? (knownNames names aliases) (entryLine name text) =
        some ⟨name, name, text⟩ := by
      have hadmits : Admits (knownNames names aliases) name := by
        rw [hknown]
        rintro t ⟨⟩
        exact hget
      rw [Entry.ofLine?_of_admits hadmits (ofLine?_entryLine hid htext) rfl fun _ => rfl,
        String.ofList_toList]
    rw [hentry] at hread
    simp only [hread]
    rfl
  | false =>
    have hentry : Entry.ofLine? (knownNames names aliases) (entryLine name text) = none := by
      rw [Entry.ofLine?, ofLine?_entryLine_eq_none hname hid]
    rw [hentry, ofList_entryLine] at hread
    have hleftover : withLeftover "" [name ++ ": " ++ text] = name ++ ": " ++ text := by
      simp [withLeftover]
    simp only [hread, hleftover]
    rfl

end Docstring

open Docstring

theorem Text.trimmedEnd_append {text : String} (htrim : Text.trim text.toList = text.toList)
    (hne : text ≠ "") (s : String) : Text.trimmedEnd (s ++ text) = s ++ text := by
  have hblank : Text.isAllBlank text.toList = false := by
    rw [Bool.eq_false_iff, ne_eq, ← Text.trim_eq_nil_iff, htrim]
    simpa using hne
  rw [Text.trimmedEnd, String.toList_append, Text.trimEnd_append_of_not_isAllBlank _ hblank,
    (Text.trim_eq_self_iff.mp htrim).2, ← String.toList_append, String.ofList_toList]

theorem Text.trimmedEnd_append_space (s : String) :
    Text.trimmedEnd (s ++ " " ++ "") = Text.trimmedEnd s := by
  have hblank : Text.isAllBlank " ".toList = true := by decide
  rw [String.append_empty, Text.trimmedEnd, String.toList_append,
    Text.trimEnd_append_of_isAllBlank _ hblank]
  rfl

namespace World

theorem name_declare (p : Formal) : (declare p).name = p.name := by
  rw [declare]
  split <;> rfl

theorem exists_of_mem_declared {formals : List Formal} {p : Parameter} (hp : p ∈ declared formals) :
    p.name = variadicName ∨ ∃ f ∈ formals, p.name = f.name := by
  simp only [declared, List.mem_append, List.mem_map] at hp
  rcases hp with (⟨f, hf, rfl⟩ | hp) | ⟨f, hf, rfl⟩
  · exact .inr ⟨f, List.takeWhile_subset _ hf, name_declare f⟩
  · unfold declareVariadic at hp
    split at hp
    · cases hp
    · rw [List.mem_singleton.mp hp]
      exact .inl rfl
  · exact .inr ⟨f, List.dropWhile_subset _ (List.mem_of_mem_filter hf), name_declare f⟩

theorem isSolid_of_mem_declaredNames {formals : List Formal}
    (hnames : ∀ p ∈ formals, IsPlainName p.name) :
    ∀ name ∈ Scaffold.declaredNames (declared formals), IsSolid name := by
  intro name hname
  rw [Scaffold.declaredNames, List.mem_eraseDups] at hname
  obtain ⟨p, hp, rfl⟩ := List.mem_map.mp hname
  rcases exists_of_mem_declared hp with hvariadic | ⟨f, hf, hsame⟩
  · rw [hvariadic]
    decide
  · rw [hsame]
    exact (hnames f hf).toIsSolid

theorem name_mem_declaredNames {formals : List Formal} {p : Formal} (hp : p ∈ formals)
    (hordinary : p.isVariadic = false) : p.name ∈ Scaffold.declaredNames (declared formals) := by
  have hkept : p ∈ formals.filter (!·.isVariadic) :=
    List.mem_filter.mpr ⟨hp, by rw [hordinary]; rfl⟩
  rw [filter_not_isVariadic, List.mem_append] at hkept
  rw [Scaffold.declaredNames, List.mem_eraseDups, ← name_declare p]
  apply List.mem_map_of_mem
  rw [declared, List.mem_append, List.mem_append]
  rcases hkept with hbefore | hafter
  · exact .inl (.inl (List.mem_map_of_mem hbefore))
  · exact .inr (List.mem_map_of_mem hafter)

theorem withoutReceiver_of_dot_not_mem {f : Function} (h : '.' ∉ f.qualifiedName.toList) :
    withoutReceiver (.function f) f.formals = f.formals := by
  cases hformals : f.formals with
  | nil => rfl
  | cons p ps => simp [withoutReceiver, h]

theorem result_describe_function {w : World} {imported : Imports} {target raw : String}
    {f : Function} (hobject : (w.resolve imported target).2.result = .ok (.function f))
    (hlevel : '.' ∉ f.qualifiedName.toList) (hdoc : f.doc = some raw)
    (hordinary : ∃ p ∈ f.formals, p.isVariadic = false) :
    (w.describe imported target).2.result =
      (declareAll target f.formals).result.bind fun parameters =>
        .ok ⟨parameters, some (Text.cleanText raw)⟩ := by
  have hread : readDoc w (w.resolve imported target).1 (.function f) =
      .ok (Text.cleanText raw) := by
    simp [readDoc, rawDoc, functionDoc, hdoc, cleaned]
  have hsignature : ∀ doc, readSignature target (.function f) doc = .ok f.formals := fun _ => rfl
  have hvariadic : onlyVariadic f.formals = false := by
    rw [Bool.eq_false_iff, ne_eq, onlyVariadic_iff]
    rintro ⟨-, hall⟩
    obtain ⟨p, hp, hfalse⟩ := hordinary
    rw [hall p hp] at hfalse
    cases hfalse
  rw [result_describe hobject, result_describeObject _ _ _ rfl, hread]
  simp [Except.bind, hsignature, withoutReceiver_of_dot_not_mem hlevel, hvariadic]

end World

namespace Scaffold

/-- The documentation of a wrapper where the text came out under the parameter. -/
def documentedLines (names : List String) (name text : String) : List String :=
  ["#' @title Title.", "#' @description", "#'"] ++
    names.map (fun q => if q = name then "#' @param " ++ q ++ " " ++ text else "#' @param " ++ q) ++
    ["#' @return", "#' @export"]

/-- The documentation of a wrapper where the line of the entry is the description. -/
def strayLines (names : List String) (name text : String) : List String :=
  ["#' @title Title.", "#' @description " ++ (name ++ ": " ++ text), "#'"] ++
    names.map ("#' @param " ++ ·) ++ ["#' @return", "#' @export"]

theorem parameterLine_of_empty {doc : DocBlock} {name : String} (hname : IsSolid name)
    (hdoc : doc.parameter name = "") : parameterLine doc name = "#' @param " ++ name := by
  rw [parameterLine, hdoc, Text.trimmedEnd_append_space,
    Text.trimmedEnd_append hname.trim_eq hname.ne_empty]

theorem parameterLine_of_fragment {doc : DocBlock} {name text : String} (htext : IsFragment text)
    (hdoc : doc.parameter name = text) :
    parameterLine doc name = "#' @param " ++ name ++ " " ++ text := by
  rw [parameterLine, hdoc, Text.trimmedEnd_append htext.trimmed htext.ne_empty]

theorem tagLines_description {text : String} (htrim : Text.trim text.toList = text.toList)
    (hne : text ≠ "") (honeLine : '\n' ∉ text.toList) :
    Assembly.tagLines "description" text = ["#' @description " ++ text] := by
  have htag : "#' @description " = Settings.docPrefix ++ " " ++ "@" ++ "description" ++ " " := by
    decide
  rw [← Text.trimmedEnd_append htrim hne, Assembly.tagLines_of_newline_not_mem _ honeLine,
    Assembly.commentLine, htag]
  simp only [String.append_assoc]

theorem docLines_of_block {target : String} {parameters : List Parameter} {raw : Option String}
    {rendered : List Rendered} {title description : String} {docs : Table String}
    (hblock : readBlock parameters raw =
      { title := title, description := description, parameters := docs }) :
    (assembly target {} ⟨parameters, raw, []⟩ rendered none).docLines =
      Assembly.tagLines "title" title ++ Assembly.tagLines "description" description ++ ["#'"] ++
        (declaredNames parameters).map (parameterLine (readBlock parameters raw)) ++
        ["#' @return", "#' @export"] := by
  have hreturn : Assembly.tagLines "return" "" = ["#' @return"] := by decide +kernel
  have hlines := flatMap_parameterLines parameters raw
  have hdoc : (assembly target {} ⟨parameters, raw, []⟩ rendered none).doc =
      readBlock parameters raw := block_eq parameters raw []
  have hkept : (assembly target {} ⟨parameters, raw, []⟩ rendered none).parameters =
      (dedupe [] parameters).1 := rfl
  rw [Assembly.docLines, hdoc, hkept, hlines, hblock]
  change _ ++ Assembly.tagLines "return" "" ++ [] ++ [] ++ [] ++ ["#' @export"] = _
  simp only [hreturn, List.append_nil, List.append_assoc]
  rfl

theorem map_parameterLine {name text : String} {names : List String}
    (hsolid : ∀ q ∈ names, IsSolid q) (htext : IsFragment text) {doc : DocBlock}
    (hdoc : doc.parameters = inDeclaredOrder names (Table.empty.insert name text)) :
    names.map (parameterLine doc) = names.map fun q =>
      if q = name then "#' @param " ++ q ++ " " ++ text else "#' @param " ++ q := by
  refine List.map_congr_left fun q hq => ?_
  have hget : doc.parameters.get? q = (Table.empty.insert name text).get? q := by
    rw [hdoc, get?_inDeclaredOrder]
  by_cases hself : q = name
  · rw [if_pos hself]
    subst hself
    apply parameterLine_of_fragment htext
    rw [DocBlock.parameter, hget, Table.get?_insert_self]
    rfl
  · rw [if_neg hself]
    apply parameterLine_of_empty (hsolid q hq)
    rw [DocBlock.parameter, hget, Table.get?_insert_of_ne _ hself]
    rfl

theorem map_parameterLine_empty {names : List String} (hsolid : ∀ q ∈ names, IsSolid q)
    {doc : DocBlock} (hdoc : doc.parameters = inDeclaredOrder names .empty) :
    names.map (parameterLine doc) = names.map ("#' @param " ++ ·) := by
  refine List.map_congr_left fun q hq => ?_
  apply parameterLine_of_empty (hsolid q hq)
  rw [DocBlock.parameter, hdoc, get?_inDeclaredOrder]
  rfl

theorem docLines_documented {target : String} {parameters : List Parameter} {raw : Option String}
    {rendered : List Rendered} {name text : String}
    (hsolid : ∀ q ∈ declaredNames parameters, IsSolid q) (htext : IsFragment text)
    (hblock : readBlock parameters raw =
      { title := "Title."
        parameters := inDeclaredOrder (declaredNames parameters) (Table.empty.insert name text) }) :
    (assembly target {} ⟨parameters, raw, []⟩ rendered none).docLines =
      documentedLines (declaredNames parameters) name text := by
  have htitle : Assembly.tagLines "title" "Title." = ["#' @title Title."] := by decide +kernel
  have hdescription : Assembly.tagLines "description" "" = ["#' @description"] := by
    decide +kernel
  rw [docLines_of_block hblock, htitle, hdescription,
    map_parameterLine hsolid htext (by rw [hblock])]
  rfl

theorem docLines_stray {target : String} {parameters : List Parameter} {raw : Option String}
    {rendered : List Rendered} {name text : String}
    (hsolid : ∀ q ∈ declaredNames parameters, IsSolid q) (hname : IsPlainName name)
    (htext : IsFragment text)
    (hblock : readBlock parameters raw =
      { title := "Title.", description := name ++ ": " ++ text
        parameters := inDeclaredOrder (declaredNames parameters) .empty }) :
    (assembly target {} ⟨parameters, raw, []⟩ rendered none).docLines =
      strayLines (declaredNames parameters) name text := by
  have htitle : Assembly.tagLines "title" "Title." = ["#' @title Title."] := by decide +kernel
  have hdescription : Assembly.tagLines "description" (name ++ ": " ++ text) =
      ["#' @description " ++ (name ++ ": " ++ text)] := by
    rw [← ofList_entryLine]
    apply tagLines_description
    · rw [String.toList_ofList, trim_entryLine hname htext]
    · intro hempty
      have hnil := congrArg String.toList hempty
      rw [String.toList_ofList] at hnil
      simp [entryLine] at hnil
    · rw [String.toList_ofList]
      exact newline_not_mem_entryLine hname htext
  rw [docLines_of_block hblock, htitle, hdescription,
    map_parameterLine_empty hsolid (by rw [hblock])]
  rfl

theorem line_mem_documentedLines {names : List String} {name : String} (hmem : name ∈ names)
    (text : String) : "#' @param " ++ name ++ " " ++ text ∈ documentedLines names name text := by
  refine List.mem_append_left _ (List.mem_append_right _ (List.mem_map.mpr ⟨name, hmem, ?_⟩))
  rw [if_pos rfl]

/-- The kinds of lines differ in the first letter of the tag. -/
theorem line_not_mem_strayLines {names : List String} (hsolid : ∀ q ∈ names, IsSolid q)
    (name text : String) : "#' @param " ++ name ++ " " ++ text ∉ strayLines names name text := by
  have hline : ("#' @param " ++ name ++ " " ++ text).toList[4]? = some 'p' := by
    simp only [String.append_assoc, String.toList_append]
    rfl
  have hdescription : ("#' @description " ++ (name ++ ": " ++ text)).toList[4]? = some 'd' := by
    rw [String.toList_append]
    rfl
  have hother : ∀ line ∈ ["#' @title Title.", "#'", "#' @return", "#' @export"],
      line.toList[4]? ≠ some 'p' := by decide
  intro hmem
  simp only [strayLines, List.mem_append, List.mem_cons, List.not_mem_nil, or_false,
    List.mem_map] at hmem
  rcases hmem with ((heq | heq | heq) | ⟨q, hq, heq⟩) | heq | heq
  · exact hother _ (by simp) (heq ▸ hline)
  · rw [heq, hdescription] at hline
    cases hline
  · exact hother _ (by simp) (heq ▸ hline)
  · have hparts := congrArg String.toList heq
    simp only [String.append_assoc, String.toList_append] at hparts
    have hspace : ' ' ∈ q.toList := by
      rw [List.append_cancel_left hparts]
      simp
    have hblank := (hsolid q hq).solid ' ' hspace
    revert hblank
    decide
  · exact hother _ (by simp) (heq ▸ hline)
  · exact hother _ (by simp) (heq ▸ hline)

theorem result_scaffold {settings : Settings} {S : Type} {provider : Provider S} {state : S}
    {target : String} {parameters : List Parameter} {raw : Option String}
    (hwidth : settings.badWidth? = none)
    (h : (provider.describe state target).2.result = .ok ⟨parameters, raw⟩) :
    ∃ unit rendered, (scaffold settings provider state target).2.result = .ok unit ∧
      unit.docLines = (assembly target {} ⟨parameters, raw, []⟩ rendered none).docLines := by
  have hhands : HandsOver ({} : Options).parameterHook fun _ name => name := fun _ _ => rfl
  have hd : (orWithoutSignature target (provider.describe state target).2).result =
      .ok ⟨parameters, raw, []⟩ := by
    rw [orWithoutSignature, h]
  change ∃ unit rendered,
    (wrap settings target {} (provider.describe state target).2).result = .ok unit ∧ _
  rw [result_wrap, hd, Except.bind, wrapDescribed_of_handsOver hhands, hwidth]
  exact ⟨_, _, rfl, rfl⟩

end Scaffold

open Scaffold

/-- A function whose documentation is a title and one entry for a parameter. The text of the entry
comes out under the parameter if and only if the name of the parameter is made of ASCII letters,
digits and underscores; else the entry is the description. There is a wrapper unless a number in a
default has too many digits. -/
theorem documented_iff_identifier {settings : Settings} (hwidth : settings.badWidth? = none)
    {w : World} {imported : World.Imports} {target : String} {f : World.Function}
    (hobject : (w.resolve imported target).2.result = .ok (.function f))
    (hlevel : '.' ∉ f.qualifiedName.toList) (hnames : ∀ p ∈ f.formals, IsPlainName p.name)
    {p : World.Formal} (hp : p ∈ f.formals) (hordinary : p.isVariadic = false) {text : String}
    (htext : IsFragment text) (hdoc : f.doc = some (singleEntry p.name text)) :
    ((∃ q ∈ f.formals, q.isUndeclarable = true) ∧
      (scaffold settings w.provider imported target).2.result = .error .tooManyDigits) ∨
    (∀ q ∈ f.formals, q.isUndeclarable = false) ∧
      ∃ unit, (scaffold settings w.provider imported target).2.result = .ok unit ∧
        unit.docLines =
          (if isIdentifier p.name then
            documentedLines (declaredNames (World.declared f.formals)) p.name text
          else strayLines (declaredNames (World.declared f.formals)) p.name text) ∧
        ("#' @param " ++ p.name ++ " " ++ text ∈ unit.docLines ↔ isIdentifier p.name = true) := by
  have hname := hnames p hp
  have hmem := World.name_mem_declaredNames hp hordinary
  have hsolid := World.isSolid_of_mem_declaredNames hnames
  have hdescribe := World.result_describe_function hobject hlevel hdoc ⟨p, hp, hordinary⟩
  rcases World.forall_or_exists_undeclarable f.formals with
    hnone | ⟨before, q, after, hplace, hbefore, hq⟩
  · rw [World.declareAll_of_forall target hnone, cleanText_singleEntry hname htext] at hdescribe
    have hprovided : (w.provider.describe imported target).2.result =
        .ok ⟨World.declared f.formals, some (singleEntry p.name text)⟩ := hdescribe
    obtain ⟨unit, rendered, hunit, hlines⟩ := result_scaffold hwidth hprovided
    have hblock : readBlock (World.declared f.formals) (some (singleEntry p.name text)) = _ :=
      block_singleEntry hname htext hmem _
    refine .inr ⟨hnone, unit, hunit, ?_⟩
    cases hid : isIdentifier p.name with
    | true =>
      rw [hid, if_pos rfl] at hblock
      rw [if_pos rfl, hlines, docLines_documented hsolid htext hblock]
      exact ⟨rfl, iff_of_true (line_mem_documentedLines hmem text) rfl⟩
    | false =>
      rw [hid, if_neg Bool.false_ne_true] at hblock
      rw [if_neg Bool.false_ne_true, hlines, docLines_stray hsolid hname htext hblock]
      exact ⟨rfl, iff_of_false (line_not_mem_strayLines hsolid p.name text) Bool.false_ne_true⟩
  · rw [hplace, World.declareAll_append_cons target after hbefore hq] at hdescribe
    exact .inl ⟨⟨q, by simp [hplace], hq⟩, result_wrap_of_tooManyDigits hdescribe⟩

def measure : World.Function where
  name := "measure"
  definition := ⟨["m"], [0]⟩
  qualifiedName := "measure"
  formals := [{ name := "größe" }, { name := "unit", kind := .variadicPositional }]
  doc := some (singleEntry "größe" "in Metern")

def measures : World where
  modules := [⟨["m"], false, [("measure", .function measure)], none⟩]
  aliases := .empty

def measureWrapper : Wrapper where
  name := "measure"
  target := "m.measure"
  docLines := ["#' @title Title.", "#' @description größe: in Metern", "#'", "#' @param größe",
    "#' @param ...", "#' @return", "#' @export"]
  header := "measure <- function(`größe`, ...) \x7b"
  body := ["  python_function_result <- m$measure(", "    `größe` = `größe`,", "    ...", "  )"]

theorem documented_iff_identifier_measure :
    (({} : Settings).badWidth? = none ∧
      (measures.resolve [] "m.measure").2.result = .ok (.function measure) ∧
      '.' ∉ measure.qualifiedName.toList ∧ (∀ p ∈ measure.formals, IsPlainName p.name) ∧
      IsFragment "in Metern") ∧
    ∃ unit, (scaffold {} measures.provider [] "m.measure").2.result = .ok unit ∧
      unit.docLines = measureWrapper.docLines ∧
      "#' @param größe in Metern" ∉ unit.docLines := by
  have hwidth : ({} : Settings).badWidth? = none := by decide
  have hobject : (measures.resolve [] "m.measure").2.result = .ok (.function measure) := rfl
  have hlevel : '.' ∉ measure.qualifiedName.toList := by decide
  have hnames : ∀ p ∈ measure.formals, IsPlainName p.name :=
    List.forall_mem_cons.mpr ⟨by decide, List.forall_mem_singleton.mpr (by decide)⟩
  have htext : IsFragment "in Metern" := by decide
  have hwrapper := documented_iff_identifier hwidth hobject hlevel hnames List.mem_cons_self rfl
    htext rfl
  rcases hwrapper with ⟨⟨q, hq, hlong⟩, -⟩ | ⟨-, unit, hunit, hlines, hline⟩
  · exact absurd hlong (by revert q; decide)
  · have hid : isIdentifier "größe" = false := by decide
    refine ⟨⟨hwidth, hobject, hlevel, hnames, htext⟩, unit, hunit, hlines.trans ?_, ?_⟩
    · decide +kernel
    · intro hmem
      exact Bool.false_ne_true (hid.symm.trans (hline.mp hmem))

/-- The entry of this parameter is not its documentation. -/
theorem entry_lost_measure :
    measure.doc = some (singleEntry "größe" "in Metern") ∧
      (scaffold {} measures.provider [] "m.measure").2.result = .ok measureWrapper ∧
      "#' @param größe in Metern" ∉ measureWrapper.docLines := by
  refine ⟨rfl, ?_, ?_⟩
  · decide +kernel
  · decide

end RBinding
