import RBinding.Proofs.Assembly
import RBinding.Proofs.Docstring.Shape
import RBinding.Proofs.Scaffold.Separation

/-!
# RBinding.Proofs.Scaffold.Tags

The tags in the documentation of a wrapper. Each tag has its own line, and further lines of its text
are comment lines that are not tags unless they begin with `@` (`isTagLine_commentLine`). So the tag
lines of a wrapper are those of its tags and such stray lines, in order (`filter_tagLines`,
`filter_docLines`). A title and the text of a parameter are single lines, so only a description, the
text on the result, the texts of sections, warnings and extra tags can hold strays; where none does
the tags are determined by what there is to be documented (`EmitsTags`).
-/

namespace RBinding

open Text

/-- A tag with its text. -/
structure Tag where
  name : String
  text : String
  deriving DecidableEq, Repr

def isTagLine (line : String) : Bool :=
  (Settings.docPrefix ++ " @").toList.isPrefixOf line.toList

/-- The lines of a text after the first that begin with the mark of a tag. -/
def strays (text : String) : List String :=
  (linesOf text).tail.filter fun line => line.toList.head? == some '@'

namespace Tag

def line (t : Tag) : String :=
  Assembly.commentLine ("@" ++ t.name ++ " " ++ (linesOf t.text).headD "")

def shown (t : Tag) : List String :=
  t.line :: (strays t.text).map Assembly.commentLine

end Tag

namespace Assembly

/-- Blank characters are cut off at the end only, and the mark of a tag is not blank. -/
theorem isTagLine_commentLine (text : String) :
    isTagLine (commentLine text) = (text.toList.head? == some '@') := by
  rw [Bool.eq_iff_iff, beq_iff_eq, isTagLine, List.isPrefixOf_iff_prefix, toList_commentLine]
  have hmark : (Settings.docPrefix ++ " @").toList = Settings.docPrefix.toList ++ [' ', '@'] := by
    decide
  rw [hmark, List.prefix_append_right_inj]
  constructor
  · intro h
    have htext : [' ', '@'] <+: ' ' :: text.toList := h.trans (List.rdropWhile_prefix _ _)
    obtain ⟨rest, hrest⟩ := (List.cons_prefix_cons.mp htext).2
    rw [← hrest]
    rfl
  · intro h
    obtain ⟨rest, hrest⟩ := List.head?_eq_some_iff.mp h
    have htrim := trimEnd_append_cons [' '] (c := '@') (by decide) rest
    rw [hrest]
    exact ⟨trimEnd rest, htrim.symm⟩

theorem isTagLine_line (t : Tag) : isTagLine t.line = true := by
  rw [Tag.line, isTagLine_commentLine]
  simp [String.toList_append]

/-- Of the lines of a tag those that begin with a tag are its own and the strays. -/
theorem filter_tagLines (t : Tag) : (tagLines t.name t.text).filter isTagLine = t.shown := by
  have hrest : ∀ ls : List String, (ls.map commentLine).filter isTagLine =
      (ls.filter fun line => line.toList.head? == some '@').map commentLine := by
    intro ls
    rw [List.filter_map]
    refine congrArg (List.map commentLine) (List.filter_congr fun line _ => ?_)
    rw [Function.comp_apply, isTagLine_commentLine]
  have hne : linesOf t.text ≠ [] := by
    intro hnil
    rw [linesOf, List.map_eq_nil_iff] at hnil
    exact lines_ne_nil t.text.toList hnil
  obtain ⟨first, rest, hlines⟩ := List.exists_cons_of_ne_nil hne
  have hline := isTagLine_line t
  rw [Tag.line, hlines] at hline
  rw [tagLines, Tag.shown, Tag.line, strays, hlines]
  simp only [List.headD_cons, List.tail_cons] at hline ⊢
  rw [List.filter_cons_of_pos hline, hrest]

theorem filter_flatMap_tagLines (tags : List Tag) :
    (tags.flatMap fun t => tagLines t.name t.text).filter isTagLine = tags.flatMap Tag.shown := by
  rw [List.filter_flatMap, funext filter_tagLines]

def openingTags (a : Assembly) : List Tag :=
  [⟨"title", a.doc.title⟩, ⟨"description", a.doc.description⟩]

def exportTags (exported : Bool) : List Tag :=
  if exported then [⟨"export", ""⟩] else []

def furtherTags (a : Assembly) : List Tag :=
  a.parameters.map (fun p => ⟨"param " ++ p.name, a.doc.parameter p.name⟩) ++
    [⟨"return", a.doc.returns⟩] ++
    a.doc.sections.entries.map (fun e => ⟨"section " ++ e.1 ++ ":", e.2⟩) ++
    a.warnings.map (fun warning => ⟨"note", "WARNING: " ++ warning⟩) ++
    a.extraTags.entries.map (fun e => ⟨e.1, e.2⟩) ++ exportTags a.exported

def tags (a : Assembly) : List Tag :=
  a.openingTags ++ a.furtherTags

theorem exportLines_eq (exported : Bool) :
    exportLines exported = (exportTags exported).flatMap fun t => tagLines t.name t.text := by
  cases exported
  · rfl
  · decide +kernel

theorem docLines_eq (a : Assembly) :
    a.docLines = (a.openingTags.flatMap fun t => tagLines t.name t.text) ++
      [Settings.docPrefix] ++ a.furtherTags.flatMap fun t => tagLines t.name t.text := by
  rw [docLines, openingTags, furtherTags, exportLines_eq]
  simp only [List.flatMap_append, List.flatMap_map, List.flatMap_cons, List.flatMap_nil,
    List.append_nil, List.append_assoc]
  rfl

theorem filter_docLines (a : Assembly) :
    a.docLines.filter isTagLine = a.tags.flatMap Tag.shown := by
  have hbare : isTagLine Settings.docPrefix = false := by decide
  rw [docLines_eq, tags, List.filter_append, List.filter_append, filter_flatMap_tagLines,
    filter_flatMap_tagLines, List.filter_cons_of_neg (by simp [hbare]), List.filter_nil,
    List.append_nil, List.flatMap_append]

/-- There is nothing but the tag lines just if no text has strays, since each takes a line more. -/
theorem flatMap_shown_iff (ts : List Tag) :
    ts.flatMap Tag.shown = ts.map Tag.line ↔ ∀ t ∈ ts, strays t.text = [] := by
  have hlength : (ts.flatMap Tag.shown).length =
      ts.length + (ts.flatMap fun t => strays t.text).length := by
    induction ts with
    | nil => rfl
    | cons t ts ih =>
      simp only [List.flatMap_cons, List.length_append, ih, Tag.shown, List.length_cons,
        List.length_map]
      omega
  constructor
  · intro h
    rw [h, List.length_map] at hlength
    have hnone : (ts.flatMap fun t => strays t.text) = [] :=
      List.eq_nil_of_length_eq_zero (by omega)
    exact List.flatMap_eq_nil_iff.mp hnone
  · intro h
    rw [← List.flatMap_singleton' (ts.map Tag.line), List.flatMap_map]
    refine List.flatMap_congr fun t ht => ?_
    rw [Tag.shown, h t ht]
    rfl

end Assembly

theorem strays_eq_nil {text : String} (h : '\n' ∉ text.toList) : strays text = [] := by
  rw [strays, Assembly.linesOf_of_newline_not_mem h]
  rfl

/-- A run with or without options of its own gives the wrapper. -/
inductive Gives (settings : Settings) {S : Type} (provider : Provider S) (state : S)
    (target : String) : Options → Wrapper → Prop
  | plain {w : Wrapper} (result : (scaffold settings provider state target).2.result = .ok w) :
      Gives settings provider state target {} w
  | custom {request : Options.Request} {options : Options} {w : Wrapper}
      (read : request.read = .ok options)
      (result : (scaffoldCustom settings provider state target request).2.result = .ok w) :
      Gives settings provider state target options w

theorem Gives.result_wrap {settings : Settings} {S : Type} {provider : Provider S} {state : S}
    {target : String} {options : Options} {w : Wrapper}
    (h : Gives settings provider state target options w) :
    (Scaffold.wrap settings target options (provider.describe state target).2).result = .ok w := by
  cases h with
  | plain hresult => exact hresult
  | custom hread hresult =>
    rw [scaffoldCustom, hread] at hresult
    exact hresult

namespace Scaffold

/-- The tags of a wrapper. How its parameters are rendered does not matter. -/
def tags (target : String) (options : Options) (d : Described) : List Tag :=
  (assembly target options d [] none).tags

/-- The texts in documentation that may be of several lines. -/
def freeTexts (options : Options) (d : Described) : List String :=
  [d.block.description, d.block.returns] ++ d.block.sections.entries.map Prod.snd ++
    d.warnings.map ("WARNING: " ++ ·) ++ options.extraTags.entries.map Prod.snd

def tagNames (parameters sections : List String) (warnings : Nat) (options : Options) :
    List String :=
  ["title", "description"] ++ parameters.map ("param " ++ ·) ++ ["return"] ++
    sections.map (fun title => "section " ++ title ++ ":") ++ List.replicate warnings "note" ++
    options.extraTags.keys ++ if options.exported then ["export"] else []

/-- The tag lines are those of the tags and the strays in their texts. They are those of the tags
alone just if there are no strays. -/
structure EmitsTags (target : String) (options : Options) (d : Described) (ls : List String) :
    Prop where
  names : (tags target options d).map Tag.name =
    tagNames (d.kept.map (·.name)) d.block.sections.keys d.warnings.length options
  lines : ls.filter isTagLine = (tags target options d).flatMap Tag.shown
  only : ls.filter isTagLine = (tags target options d).map Tag.line ↔
    ∀ text ∈ freeTexts options d, strays text = []

/-- What there is to be documented is the same by name, whatever is said of it. -/
structure SameOutline (d d' : Described) : Prop where
  parameters : d.kept.map (·.name) = d'.kept.map (·.name)
  sections : d.block.sections.keys = d'.block.sections.keys
  warnings : d.warnings.length = d'.warnings.length

variable {target : String} {options : Options} {d d' : Described}

theorem strays_tags_iff :
    (∀ t ∈ tags target options d, strays t.text = []) ↔
      ∀ text ∈ freeTexts options d, strays text = [] := by
  have htitle : strays d.block.title = [] :=
    strays_eq_nil (Docstring.newline_not_mem_title _ _ _)
  have hparameter : ∀ p ∈ d.kept, strays (d.block.parameter p.name) = [] := fun p _ =>
    strays_eq_nil (Docstring.newline_not_mem_parameter _ _ _ _)
  have hexport : ∀ t ∈ Assembly.exportTags options.exported, strays t.text = [] := by
    intro t ht
    rw [Assembly.exportTags] at ht
    split at ht
    · rw [List.mem_singleton.mp ht]
      exact strays_eq_nil List.not_mem_nil
    · cases ht
  simp only [tags, Assembly.tags, Assembly.openingTags, Assembly.furtherTags, assembly, freeTexts,
    List.forall_mem_append, List.forall_mem_cons, List.forall_mem_map, htitle,
    iff_true_intro hparameter, iff_true_intro hexport, List.not_mem_nil, false_implies,
    implies_true, true_and, and_true, and_assoc]

theorem map_name_tags (target : String) (options : Options) (d : Described) :
    (tags target options d).map Tag.name =
      tagNames (d.kept.map (·.name)) d.block.sections.keys d.warnings.length options := by
  have hwarnings : d.warnings.map (fun _ => "note") = List.replicate d.warnings.length "note" :=
    List.map_const' ..
  have hexport : (Assembly.exportTags options.exported).map Tag.name =
      if options.exported then ["export"] else [] := by
    rw [Assembly.exportTags]
    split
    · rfl
    · rfl
  simp only [tags, Assembly.tags, Assembly.openingTags, Assembly.furtherTags, assembly, tagNames,
    Table.keys_eq, List.map_append, List.map_map, List.map_cons, List.map_nil, hexport, ← hwarnings,
    List.append_assoc]
  rfl

theorem emitsTags {settings : Settings} {description : Traced Description} {w : Wrapper}
    (h : (wrap settings target options description).result = .ok w) :
    ∃ d, (orWithoutSignature target description).result = .ok d ∧
      EmitsTags target options d w.docLines := by
  obtain ⟨d, rendered, text, hd, -, -, hw⟩ := exists_stages h
  have hlines : w.docLines.filter isTagLine = (tags target options d).flatMap Tag.shown := by
    rw [toWrapper_ok hw]
    exact Assembly.filter_docLines _
  refine ⟨d, hd, map_name_tags target options d, hlines, ?_⟩
  rw [hlines, Assembly.flatMap_shown_iff, strays_tags_iff]

/-- Where no text has strays the names of the tags do not depend on the texts. -/
theorem EmitsTags.sameNames {ls ls' : List String} (h : EmitsTags target options d ls)
    (h' : EmitsTags target options d' ls') (houtline : SameOutline d d')
    (hstrays : ∀ text ∈ freeTexts options d ++ freeTexts options d', strays text = []) :
    ls.filter isTagLine = (tags target options d).map Tag.line ∧
      ls'.filter isTagLine = (tags target options d').map Tag.line ∧
      (tags target options d).map Tag.name = (tags target options d').map Tag.name := by
  obtain ⟨hnone, hnone'⟩ := List.forall_mem_append.mp hstrays
  refine ⟨h.only.mpr hnone, h'.only.mpr hnone', ?_⟩
  rw [h.names, h'.names, houtline.parameters, houtline.sections, houtline.warnings]

end Scaffold

open Scaffold

/-- The tags of a wrapper are those that its documentation asks for, and no text adds a tag unless a
further line of it begins with the mark of a tag. Such a line is taken for a tag. -/
theorem tags_of_documentation (settings : Settings) {S : Type} (provider : Provider S)
    (target : String) (options : Options) :
    (∀ state w, Gives settings provider state target options w →
      ∃ d, (orWithoutSignature target (provider.describe state target).2).result = .ok d ∧
        EmitsTags target options d w.docLines) ∧
    ∀ (state state' : S) (w w' : Wrapper) (d d' : Described),
      Gives settings provider state target options w →
      Gives settings provider state' target options w' →
      (orWithoutSignature target (provider.describe state target).2).result = .ok d →
      (orWithoutSignature target (provider.describe state' target).2).result = .ok d' →
      SameOutline d d' →
      (∀ text ∈ freeTexts options d ++ freeTexts options d', strays text = []) →
      w.docLines.filter isTagLine = (tags target options d).map Tag.line ∧
        w'.docLines.filter isTagLine = (tags target options d').map Tag.line ∧
        (tags target options d).map Tag.name = (tags target options d').map Tag.name := by
  constructor
  · intro state w h
    exact emitsTags h.result_wrap
  · intro state state' w w' d d' h h' hd hd' houtline hstrays
    obtain ⟨e, he, hemits⟩ := emitsTags h.result_wrap
    obtain ⟨e', he', hemits'⟩ := emitsTags h'.result_wrap
    obtain rfl : d = e := Except.ok.inj (hd.symm.trans he)
    obtain rfl : d' = e' := Except.ok.inj (hd'.symm.trans he')
    exact hemits.sameNames hemits' houtline hstrays

def decoratedDoc : String :=
  "Scale.\n\nDecorated with\n@export\n\nExample:\n    @cached\n    @traced\n    def f(x): ..."

def proseDoc : String := "Scale.\n\nBy a factor.\n\nExample:\n    f(1)\n    f(2)"

def briefDoc : String := "Scale.\n\nExample:\n    f(0)"

def unexportedRequest : Options.Request where
  exported := .boolean false

def unexportedOptions : Options where
  exported := false

def unexportedWrapper (docLines : List String) : Wrapper where
  name := "scale"
  target := "pkg.scale"
  docLines := docLines
  header := "scale <- function(x) \x7b"
  body := ["  python_function_result <- pkg$scale(", "    x = x", "  )"]

def decoratedLines : List String :=
  ["#' @title Scale.", "#' @description Decorated with", "#' @export", "#'", "#' @param x",
    "#' @return", "#' @section Example: @cached", "#' @traced", "#' def f(x): ..."]

def proseLines : List String :=
  ["#' @title Scale.", "#' @description By a factor.", "#'", "#' @param x", "#' @return",
    "#' @section Example: f(1)", "#' f(2)"]

def briefLines : List String :=
  ["#' @title Scale.", "#' @description", "#'", "#' @param x", "#' @return",
    "#' @section Example: f(0)"]

theorem read_unexportedRequest : unexportedRequest.read = .ok unexportedOptions := rfl

theorem gives_decorated :
    Gives {} documentedAs (some decoratedDoc) "pkg.scale" unexportedOptions
      (unexportedWrapper decoratedLines) :=
  .custom read_unexportedRequest (by decide +kernel)

theorem gives_prose :
    Gives {} documentedAs (some proseDoc) "pkg.scale" unexportedOptions
      (unexportedWrapper proseLines) :=
  .custom read_unexportedRequest (by decide +kernel)

theorem gives_brief :
    Gives {} documentedAs (some briefDoc) "pkg.scale" unexportedOptions
      (unexportedWrapper briefLines) :=
  .custom read_unexportedRequest (by decide +kernel)

def scaleDescribed (raw : String) : Described :=
  ⟨[{ name := "x" }], some raw, []⟩

theorem tags_of_documentation_scale :
    (Gives {} documentedAs (some decoratedDoc) "pkg.scale" unexportedOptions
        (unexportedWrapper decoratedLines) ∧
      ∃ d, (orWithoutSignature "pkg.scale"
          (documentedAs.describe (some decoratedDoc) "pkg.scale").2).result = .ok d ∧
        EmitsTags "pkg.scale" unexportedOptions d decoratedLines) ∧
    Gives {} documentedAs (some proseDoc) "pkg.scale" unexportedOptions
        (unexportedWrapper proseLines) ∧
      Gives {} documentedAs (some briefDoc) "pkg.scale" unexportedOptions
        (unexportedWrapper briefLines) ∧
      (tags "pkg.scale" unexportedOptions (scaleDescribed proseDoc)).map Tag.name =
        (tags "pkg.scale" unexportedOptions (scaleDescribed briefDoc)).map Tag.name := by
  obtain ⟨hrun, hruns⟩ := tags_of_documentation {} documentedAs "pkg.scale" unexportedOptions
  have houtline : SameOutline (scaleDescribed proseDoc) (scaleDescribed briefDoc) :=
    ⟨rfl, by decide +kernel, rfl⟩
  have hstrays : ∀ text ∈ freeTexts unexportedOptions (scaleDescribed proseDoc) ++
      freeTexts unexportedOptions (scaleDescribed briefDoc), strays text = [] := by
    decide +kernel
  obtain ⟨-, -, hnames⟩ :=
    hruns _ _ _ _ _ _ gives_prose gives_brief rfl rfl houtline hstrays
  exact ⟨⟨gives_decorated, hrun _ _ gives_decorated⟩, gives_prose, gives_brief, hnames⟩

/-- Decorators in a description and in an example become tags, among them the export mark of a
wrapper that is not to be exported. -/
theorem decorators_become_tags :
    unexportedRequest.read = .ok unexportedOptions ∧ unexportedOptions.exported = false ∧
      (scaffoldCustom {} documentedAs (some decoratedDoc) "pkg.scale" unexportedRequest).2.result =
        .ok (unexportedWrapper decoratedLines) ∧
      decoratedLines.filter isTagLine =
        ["#' @title Scale.", "#' @description Decorated with", "#' @export", "#' @param x",
          "#' @return", "#' @section Example: @cached", "#' @traced"] :=
  ⟨read_unexportedRequest, rfl, by decide +kernel, by decide +kernel⟩

end RBinding
