import RBinding.Proofs.Assembly
import RBinding.Proofs.Docstring.Declared
import RBinding.Proofs.Scaffold.Events

/-!
# RBinding.Proofs.Scaffold.Documentation

What becomes of documentation. A tag shows its text line by line (`Assembly.shows_tagLines`), so the
documentation lines of a wrapper show everything that they have a tag for
(`Assembly.keeps_docLines`). They have one for each declared parameter only. Where parameters are
declared no other name is documented; where none is, the names that are documented are noted in the
log of the run and their texts are not written (`Scaffold.keeps_wrap`).
-/

namespace RBinding

open Text

/-- Every line of the text stands in one of the lines, up to blank characters at its end. -/
def Shows (ls : List String) (text : String) : Prop :=
  ∀ line ∈ linesOf text, ∃ l ∈ ls, trimEnd line.toList <:+: l.toList

instance (ls : List String) (text : String) : Decidable (Shows ls text) :=
  inferInstanceAs (Decidable (∀ line ∈ linesOf text, ∃ l ∈ ls, trimEnd line.toList <:+: l.toList))

theorem Shows.mono {ls ls' : List String} {text : String} (h : Shows ls text) (hsub : ls ⊆ ls') :
    Shows ls' text := by
  intro line hline
  obtain ⟨l, hl, hinfix⟩ := h line hline
  exact ⟨l, hsub hl, hinfix⟩

/-- What is kept of a block in lines of documentation and in a log. The text of a parameter is
written if the parameter is one of the given names. -/
structure Keeps (target : String) (names : List String) (doc : DocBlock) (ls : List String)
    (log : List Note) : Prop where
  title : Shows ls doc.title
  description : Shows ls doc.description
  returns : Shows ls doc.returns
  sections : ∀ e ∈ doc.sections.entries, Shows ls e.2
  declared : ∀ e ∈ doc.parameters.entries, e.1 ∈ names → Shows ls e.2
  undeclared : ∀ e ∈ doc.parameters.entries, e.1 ∉ names →
    names = [] ∧ .incomplete target (.parameter e.1) ∈ log

namespace Assembly

theorem trimEnd_isSuffix (as bs : List Char) : trimEnd bs <:+ trimEnd (as ++ bs) := by
  by_cases h : isAllBlank bs = true
  · rw [trimEnd_eq_nil_iff.mpr h]
    exact List.nil_suffix
  · rw [trimEnd_append_of_not_isAllBlank as (by simpa using h)]
    exact List.suffix_append _ _

theorem trimEnd_isInfix_commentLine (before text : String) :
    trimEnd text.toList <:+: (commentLine (before ++ text)).toList := by
  rw [toList_commentLine, String.toList_append, ← List.cons_append]
  exact (trimEnd_isSuffix _ _).isInfix.trans (List.suffix_append _ _).isInfix

theorem shows_tagLines (tag text : String) : Shows (tagLines tag text) text := by
  intro line hline
  rw [tagLines]
  cases hlines : linesOf text with
  | nil =>
    rw [hlines] at hline
    cases hline
  | cons first rest =>
    rw [hlines] at hline
    rcases List.mem_cons.mp hline with rfl | hline
    · exact ⟨_, List.mem_cons_self, trimEnd_isInfix_commentLine _ _⟩
    · refine ⟨commentLine line, List.mem_cons_of_mem _ (List.mem_map_of_mem hline), ?_⟩
      simpa using trimEnd_isInfix_commentLine "" line

theorem shows_docLines {a : Assembly} (tag : String) {text : String}
    (h : tagLines tag text ⊆ a.docLines) : Shows a.docLines text :=
  (shows_tagLines tag text).mono h

theorem keeps_docLines {a : Assembly} {log : List Note}
    (h : ∀ e ∈ a.doc.parameters.entries, e.1 ∉ a.parameters.map (·.name) →
      a.parameters.map (·.name) = [] ∧ .incomplete a.target (.parameter e.1) ∈ log) :
    Keeps a.target (a.parameters.map (·.name)) a.doc a.docLines log where
  title := shows_docLines "title" fun l hl => by simp [docLines, hl]
  description := shows_docLines "description" fun l hl => by simp [docLines, hl]
  returns := shows_docLines "return" fun l hl => by simp [docLines, hl]
  sections := by
    intro e he
    refine shows_docLines ("section " ++ e.1 ++ ":") fun l hl => ?_
    have hmem : l ∈ a.doc.sections.entries.flatMap sectionLines :=
      List.mem_flatMap.mpr ⟨e, he, hl⟩
    simp only [docLines, List.mem_append, hmem, true_or, or_true]
  declared := by
    intro e he hname
    obtain ⟨p, hp, hpname⟩ := List.mem_map.mp hname
    have htext : a.doc.parameter p.name = e.2 := by
      rw [DocBlock.parameter, hpname, Table.get?_of_mem_entries he]
      rfl
    refine shows_docLines ("param " ++ p.name) fun l hl => ?_
    have hmem : l ∈ a.parameters.flatMap (parameterLines a.doc) :=
      List.mem_flatMap.mpr ⟨p, hp, by rw [parameterLines, htext]; exact hl⟩
    simp only [docLines, List.mem_append, hmem, true_or, or_true]
  undeclared := h

end Assembly

namespace Scaffold

variable {settings : Settings} {target : String} {options : Options}
  {description : Traced Description} {d : Described}

theorem mem_names_of_mem_aliasTable {parameters : List Parameter} {e : String × String}
    (h : e ∈ (aliasTable parameters).entries) : e.2 ∈ parameters.map (·.name) := by
  obtain ⟨p, hp, hmem⟩ := List.mem_flatMap.mp (Table.mem_of_mem_entries_ofList h)
  obtain ⟨_, _, rfl⟩ := List.mem_map.mp hmem
  exact List.mem_map_of_mem hp

/-- A documented name that is not declared can only come up if nothing is declared. -/
theorem kept_eq_nil {e : String × String} (he : e ∈ d.block.parameters.entries)
    (h : e.1 ∉ d.kept.map (·.name)) : d.kept.map (·.name) = [] := by
  by_contra hne
  exact h (Docstring.keys_parameters_subset d.doc hne
    (fun _ => mem_names_of_mem_aliasTable) (Table.mem_keys_of_mem_entries he))

theorem mem_coverageNotes {parameters : List Parameter} {doc : DocBlock} {e : String × String}
    (he : e ∈ doc.parameters.entries) (h : e.1 ∉ parameters.map (·.name)) :
    .incomplete target (.parameter e.1) ∈ coverageNotes target parameters doc := by
  have hkey := Table.mem_keys_of_mem_entries he
  have hdoc : doc.isEmpty = false := by
    have hne : doc.parameters.isEmpty = false := by
      rw [Table.isEmpty, List.isEmpty_eq_false_iff]
      exact List.ne_nil_of_mem he
    simp [DocBlock.isEmpty, hne]
  have hfinding : .parameter e.1 ∈ Coverage.undeclared parameters doc := by
    simpa [Coverage.undeclared, hkey] using h
  simp [coverageNotes, hdoc, Coverage.check, hfinding]

theorem coverageNotes_subset_log (hd : (orWithoutSignature target description).result = .ok d) :
    coverageNotes target d.kept d.block ⊆ (wrap settings target options description).log := by
  have hread : coverageNotes target d.kept d.block ⊆ (readDoc target d.kept d.doc).log := by
    rw [log_readDoc]
    exact List.subset_append_right _ _
  rw [log_wrap hd]
  intro n hn
  simp only [List.mem_cons, List.mem_append, hread hn, true_or, or_true]

theorem keeps_wrap {w : Wrapper} (h : (wrap settings target options description).result = .ok w) :
    ∃ d, (orWithoutSignature target description).result = .ok d ∧
      Keeps target (d.kept.map (·.name)) d.block w.docLines
        (wrap settings target options description).log := by
  obtain ⟨d, rendered, text, hd, _, _, hw⟩ := exists_stages h
  refine ⟨d, hd, ?_⟩
  rw [toWrapper_ok hw]
  refine Assembly.keeps_docLines (a := assembly target options d rendered text) fun e he hnot => ?_
  exact ⟨kept_eq_nil he hnot, coverageNotes_subset_log hd (mem_coverageNotes he hnot)⟩

end Scaffold

/-- Documentation is shown in the wrapper, but for names that are documented where no parameter is
declared; those are noted in the log. -/
theorem documentation_is_kept (settings : Settings) {S : Type} (provider : Provider S) (state : S)
    (target : String) (w : Wrapper) :
    ((scaffold settings provider state target).2.result = .ok w →
      ∃ d, (Scaffold.orWithoutSignature target (provider.describe state target).2).result = .ok d ∧
        Keeps target (d.kept.map (·.name)) d.block w.docLines
          (scaffold settings provider state target).2.log) ∧
    ∀ request, (scaffoldCustom settings provider state target request).2.result = .ok w →
      ∃ d, (Scaffold.orWithoutSignature target (provider.describe state target).2).result = .ok d ∧
        Keeps target (d.kept.map (·.name)) d.block w.docLines
          (scaffoldCustom settings provider state target request).2.log := by
  refine ⟨Scaffold.keeps_wrap, fun request h => ?_⟩
  rw [scaffoldCustom] at h ⊢
  cases hread : request.read with
  | error e =>
    rw [hread] at h
    cases h
  | ok options =>
    rw [hread] at h
    exact Scaffold.keeps_wrap h

def rotateDoc : String := "Rotate.\n\nArgs:\n  angle: degrees"

def rotations : Provider Unit :=
  .ofTable (.ofList
    [("pkg.rotate", .ok ⟨[{ name := "angle" }], some rotateDoc⟩),
      ("pkg.turn", .error (.signatureUnavailable (.stated "builtin") none (some rotateDoc)))])

def rotateWrapper : Wrapper where
  name := "rotate"
  target := "pkg.rotate"
  docLines := ["#' @title Rotate.", "#' @description", "#'", "#' @param angle degrees",
    "#' @return", "#' @export"]
  header := "rotate <- function(angle) \x7b"
  body := ["  python_function_result <- pkg$rotate(", "    angle = angle", "  )"]

def turnWrapper : Wrapper where
  name := "turn"
  target := "pkg.turn"
  docLines := ["#' @title Rotate.", "#' @description", "#'", "#' @return",
    "#' @note WARNING: signature of pkg.turn is unavailable; the wrapper declares no parameters",
    "#' @export"]
  header := "turn <- function() \x7b"
  body := ["  python_function_result <- pkg$turn()"]
  warnings := ["signature of pkg.turn is unavailable; the wrapper declares no parameters"]

theorem scaffold_turn : (scaffold {} rotations () "pkg.turn").2.result = .ok turnWrapper := by
  decide +kernel

theorem documentation_is_kept_rotate :
    ((scaffoldCustom {} rotations () "pkg.rotate" {}).2.result = .ok rotateWrapper ∧
      ∃ d, (Scaffold.orWithoutSignature "pkg.rotate"
          (rotations.describe () "pkg.rotate").2).result = .ok d ∧
        Keeps "pkg.rotate" (d.kept.map (·.name)) d.block rotateWrapper.docLines
          (scaffoldCustom {} rotations () "pkg.rotate" {}).2.log) ∧
    (scaffold {} rotations () "pkg.turn").2.result = .ok turnWrapper ∧
      ∃ d, (Scaffold.orWithoutSignature "pkg.turn"
          (rotations.describe () "pkg.turn").2).result = .ok d ∧
        Keeps "pkg.turn" (d.kept.map (·.name)) d.block turnWrapper.docLines
          (scaffold {} rotations () "pkg.turn").2.log := by
  have hrotate : (scaffoldCustom {} rotations () "pkg.rotate" {}).2.result =
      .ok rotateWrapper := by
    decide +kernel
  exact ⟨⟨hrotate, (documentation_is_kept {} rotations () "pkg.rotate" rotateWrapper).2 {} hrotate⟩,
    scaffold_turn, (documentation_is_kept {} rotations () "pkg.turn" turnWrapper).1 scaffold_turn⟩

/-- Without a signature there is no line for the documentation of a parameter. -/
theorem parameter_not_written_without_signature :
    ∃ d, (scaffold {} rotations () "pkg.turn").2.result = .ok turnWrapper ∧
      (Scaffold.orWithoutSignature "pkg.turn"
        (rotations.describe () "pkg.turn").2).result = .ok d ∧
      d.block.parameters.entries = [("angle", "degrees")] ∧
      ¬ Shows turnWrapper.docLines "degrees" := by
  refine ⟨⟨[], some rotateDoc, [Scaffold.signatureWarning "pkg.turn"]⟩, scaffold_turn, ?_, ?_, ?_⟩
  · decide +kernel
  · decide +kernel
  · decide +kernel

end RBinding
