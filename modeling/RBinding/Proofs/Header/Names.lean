import RBinding.Proofs.Options
import RBinding.Proofs.Scaffold.Customisation
import RBinding.Proofs.World.Description

/-!
# RBinding.Proofs.Header.Names

Which names count as syntactic. They are the names of the grammar (`IsName`), but since one line
feed at the end is overlooked, a token with a line feed after it counts as well (`EndsLine`), even
where the token is a reserved word (`isSyntactic_iff`).

Such a name passes the check of options and is written without quotes, so the header of the
wrapper is broken over two lines. That is the one way in which a header gets a second line
(`names_but_for_final_newline`).
-/

namespace RBinding

namespace Symbol

/-- ASCII letters, digits, dots and underscores, with a letter first, or a dot that is not followed
by a digit. -/
structure IsToken (cs : List Char) : Prop where
  chars : ∀ c ∈ cs, c.isAlpha = true ∨ c.isDigit = true ∨ c = '.' ∨ c = '_'
  start : ∃ c rest, cs = c :: rest ∧
    (c.isAlpha = true ∨ c = '.' ∧ ∀ d, rest.head? = some d → d.isDigit = false)

/-- The syntactic names of the grammar. -/
def IsName (name : String) : Prop :=
  IsToken name.toList ∧ name ∉ reservedWords

/-- The name is a token, possibly a reserved word, and a line feed. -/
def EndsLine (name : String) : Prop :=
  ∃ token, name.toList = token ++ ['\n'] ∧ IsToken token

variable {cs token : List Char} {name : String}

theorem isNameChar_iff {c : Char} :
    isNameChar c = true ↔ c.isAlpha = true ∨ c.isDigit = true ∨ c = '.' ∨ c = '_' := by
  simp [isNameChar, Char.isAlphanum, or_assoc]

theorem startsWithDigit_eq_false_iff :
    startsWithDigit cs = false ↔ ∀ d, cs.head? = some d → d.isDigit = false := by
  cases cs with
  | nil => simp [startsWithDigit]
  | cons c cs => simp [startsWithDigit]

theorem hasNameShape_iff : hasNameShape cs = true ↔ IsToken cs := by
  cases cs with
  | nil =>
    constructor
    · intro h
      cases h
    · rintro ⟨-, c, rest, hcs, -⟩
      cases hcs
  | cons c cs =>
    rw [hasNameShape, Bool.and_eq_true, Bool.or_eq_true, Bool.and_eq_true, Bool.not_eq_true',
      startsWithDigit_eq_false_iff, beq_iff_eq, List.all_eq_true]
    constructor
    · rintro ⟨hstart, hall⟩
      refine ⟨?_, c, cs, rfl, hstart⟩
      intro d hd
      rcases List.mem_cons.mp hd with rfl | hd
      · rcases hstart with halpha | ⟨hdot, -⟩
        · exact .inl halpha
        · exact .inr (.inr (.inl hdot))
      · exact isNameChar_iff.mp (hall d hd)
    · rintro ⟨hchars, c', rest, hcs, hstart⟩
      cases hcs
      exact ⟨hstart, fun d hd => isNameChar_iff.mpr (hchars d (List.mem_cons_of_mem c hd))⟩

theorem IsToken.newline_not_mem (h : IsToken cs) : '\n' ∉ cs := by
  intro hmem
  exact absurd (h.chars '\n' hmem) (by decide)

theorem IsName.newline_not_mem (h : IsName name) : '\n' ∉ name.toList :=
  h.1.newline_not_mem

theorem EndsLine.newline_mem (h : EndsLine name) : '\n' ∈ name.toList := by
  obtain ⟨token, hname, -⟩ := h
  rw [hname]
  exact List.mem_append_right token List.mem_cons_self

theorem withoutFinalNewline_concat (token : List Char) :
    withoutFinalNewline (token ++ ['\n']) = token := by
  rw [withoutFinalNewline, List.reverse_append]
  exact List.reverse_reverse token

theorem withoutFinalNewline_of_ne (h : ∀ token, cs ≠ token ++ ['\n']) :
    withoutFinalNewline cs = cs := by
  rw [withoutFinalNewline]
  split
  · rename_i rest hreverse
    refine absurd ?_ (h rest.reverse)
    rw [← List.reverse_cons, ← hreverse, List.reverse_reverse]
  · rfl

theorem newline_not_mem_reservedWords : ∀ word ∈ reservedWords, '\n' ∉ word.toList := by decide

/-- What counts as a syntactic name: the names of the grammar, and the tokens that end a line. -/
theorem isSyntactic_iff : isSyntactic name = true ↔ IsName name ∨ EndsLine name := by
  have hreserved : (!reservedWords.contains name) = true ↔ name ∉ reservedWords := by simp
  rw [isSyntactic, Bool.and_eq_true, hasNameShape_iff, hreserved]
  by_cases hends : ∃ token, name.toList = token ++ ['\n']
  · obtain ⟨token, hname⟩ := hends
    have hmem : '\n' ∈ name.toList := by
      rw [hname]
      exact List.mem_append_right token List.mem_cons_self
    rw [hname, withoutFinalNewline_concat]
    constructor
    · rintro ⟨htoken, -⟩
      exact .inr ⟨token, hname, htoken⟩
    · rintro (hgrammar | ⟨token', hname', htoken⟩)
      · exact absurd hmem hgrammar.newline_not_mem
      · obtain rfl : token' = token := List.append_cancel_right (hname'.symm.trans hname)
        exact ⟨htoken, fun hword => newline_not_mem_reservedWords name hword hmem⟩
  · rw [withoutFinalNewline_of_ne fun token hname => hends ⟨token, hname⟩]
    constructor
    · exact .inl
    · rintro (hgrammar | ⟨token, hname, -⟩)
      · exact hgrammar
      · exact absurd ⟨token, hname⟩ hends

theorem newline_mem_iff (h : isSyntactic name = true) : '\n' ∈ name.toList ↔ EndsLine name := by
  constructor
  · intro hmem
    rcases isSyntactic_iff.mp h with hgrammar | hends
    · exact absurd hmem hgrammar.newline_not_mem
    · exact hends
  · exact EndsLine.newline_mem

end Symbol

open RBinding.Symbol

theorem Options.isSyntactic_of_read {request : Options.Request} {options : Options} {name : String}
    (h : request.read = .ok options) (hname : options.generatedName = some name) :
    isSyntactic name = true := by
  obtain ⟨_, -, hreads⟩ := Options.reads_of_read h
  have hread := hreads.generatedName
  rw [hname, Options.readGeneratedName.eq_def] at hread
  split at hread
  · cases hread
  · split at hread
    · rename_i hsyntactic
      cases hread
      exact hsyntactic
    · cases hread
  · cases hread

theorem Scaffold.wrapperName_of_syntactic {target name : String} {options : Options}
    (hname : options.generatedName = some name) (h : isSyntactic name = true) :
    Scaffold.wrapperName target options = name := by
  have hne : ¬name.isEmpty = true := by
    rw [String.isEmpty_iff]
    rintro rfl
    cases h
  rw [Scaffold.wrapperName, hname]
  exact if_neg hne

theorem Scaffold.name_wrap {settings : Settings} {target : String} {options : Options}
    {description : Traced Description} {w : Wrapper}
    (h : (Scaffold.wrap settings target options description).result = .ok w) :
    w.name = Scaffold.wrapperName target options := by
  obtain ⟨d, rendered, text, -, -, -, hw⟩ := Scaffold.exists_stages h
  rw [Scaffold.toWrapper_ok hw]
  rfl

/-- With declared parameters only the name can break a header. -/
theorem Assembly.newline_mem_header_iff {name : String} {parameters : List Parameter}
    (hname : isSyntactic name = true) (h : ∀ p ∈ parameters, IsDeclared p) :
    '\n' ∈ (Assembly.header name parameters).toList ↔ '\n' ∈ name.toList := by
  rw [Assembly.header_eq, symbol_of_isSyntactic hname]
  simp [Assembly.newline_not_mem_formals h]

namespace World

/-- The parameters of the callable that the target leads to are named like parameters. -/
def NamesParameters (w : World) (imported : Imports) (target : String) : Prop :=
  ∀ object formals, (w.resolve imported target).2.result = .ok object →
    signature object = .ok formals → ∀ p ∈ formals, p.name.toList.all isWordChar = true

theorem withoutReceiver_subset (object : Object) (formals : List Formal) :
    withoutReceiver object formals ⊆ formals := by
  rw [withoutReceiver.eq_def]
  split
  · split
    · exact List.subset_cons_self _ _
    · exact List.Subset.refl _
  · exact List.Subset.refl _

theorem isDeclared_describe {w : World} {imported : Imports} {target : String} {d : Description}
    (h : w.NamesParameters imported target)
    (hd : (w.describe imported target).2.result = .ok d) : ∀ p ∈ d.parameters, IsDeclared p := by
  obtain ⟨object, formals, hobject, hformals, -, hparameters, -⟩ := describe_ok hd
  rw [hparameters]
  exact isDeclared_declared fun p hp =>
    h object formals hobject hformals p (withoutReceiver_subset object formals hp)

/-- A header goes on to a second line exactly if the name asked for ends a line. -/
theorem newline_mem_header_scaffoldCustom {settings : Settings} {w : World} {imported : Imports}
    {target name : String} {request : Options.Request} {options : Options} {wrapper : Wrapper}
    (hnames : w.NamesParameters imported target) (hread : request.read = .ok options)
    (hname : options.generatedName = some name)
    (h : (scaffoldCustom settings w.provider imported target request).2.result = .ok wrapper) :
    '\n' ∈ wrapper.header.toList ↔ EndsLine name := by
  have hsyntactic := Options.isSyntactic_of_read hread hname
  rw [result_scaffoldCustom, hread] at h
  obtain ⟨d, hd, hheader⟩ := Scaffold.exists_kept h
  have hdeclared : ∀ p ∈ d.kept, IsDeclared p :=
    Scaffold.forall_kept hd fun d' hd' => isDeclared_describe hnames hd'
  rw [hheader, Scaffold.name_wrap h, Scaffold.wrapperName_of_syntactic hname hsyntactic,
    Assembly.newline_mem_header_iff hsyntactic hdeclared, newline_mem_iff hsyntactic]

end World

/-- The syntactic names are those of the grammar and the tokens that end a line; but for these the
test agrees with the grammar. A name that is written as it stands, or that is accepted for a
wrapper, is a single line if and only if it is none of them, and so is then the header. -/
theorem names_but_for_final_newline (name : String) :
    (isSyntactic name = true ↔ IsName name ∨ EndsLine name) ∧
      ((isSyntactic name = true ↔ IsName name) ↔ ¬EndsLine name) ∧
      (symbol name = name ↔ IsName name ∨ EndsLine name) ∧
      (IsName name ∨ EndsLine name → ('\n' ∈ name.toList ↔ EndsLine name)) ∧
      ∀ (request : Options.Request) (options : Options),
        request.read = .ok options → options.generatedName = some name →
        (IsName name ∨ EndsLine name) ∧
          ∀ (settings : Settings) (w : World) (imported : World.Imports) (target : String)
            (wrapper : Wrapper), w.NamesParameters imported target →
            (scaffoldCustom settings w.provider imported target request).2.result = .ok wrapper →
            ('\n' ∈ wrapper.header.toList ↔ EndsLine name) := by
  refine ⟨isSyntactic_iff, ?_, ?_, ?_, ?_⟩
  · rw [isSyntactic_iff]
    constructor
    · intro hagree hends
      exact (hagree.mp (.inr hends)).newline_not_mem hends.newline_mem
    · intro hends
      exact or_iff_left hends
  · rw [symbol_eq_self_iff, isSyntactic_iff]
  · intro hname
    exact newline_mem_iff (isSyntactic_iff.mpr hname)
  · intro request options hread hname
    refine ⟨isSyntactic_iff.mp (Options.isSyntactic_of_read hread hname), ?_⟩
    intro settings w imported target wrapper hnames hwrapper
    exact World.newline_mem_header_scaffoldCustom hnames hread hname hwrapper

theorem not_forall_isSyntactic_iff_isName :
    ¬∀ name, isSyntactic name = true ↔ IsName name := by
  intro hagree
  have hname : IsName "a\n" := (hagree "a\n").mp (by decide)
  exact hname.newline_not_mem (by decide)

def halve : World.Function where
  name := "halve"
  definition := ⟨["m"], [0]⟩
  qualifiedName := "halve"
  formals := [{ name := "größe" }]
  doc := some "Halve."

def halves : World where
  modules := [⟨["m"], false, [("halve", .function halve)], none⟩]
  aliases := .empty

def brokenName : Options.Request where
  generatedName := .text "if\n"

def brokenWrapper : Wrapper where
  name := "if\n"
  target := "m.halve"
  docLines := ["#' @title Halve.", "#' @description", "#'", "#' @param größe", "#' @return",
    "#' @export"]
  header := "if\n <- function(`größe`) \x7b"
  body := ["  python_function_result <- m$halve(", "    `größe` = `größe`", "  )"]

theorem names_but_for_final_newline_halve :
    (brokenName.read = .ok { generatedName := some "if\n" } ∧
      halves.NamesParameters [] "m.halve" ∧
      (scaffoldCustom {} halves.provider [] "m.halve" brokenName).2.result = .ok brokenWrapper) ∧
    EndsLine "if\n" ∧ '\n' ∈ brokenWrapper.header.toList := by
  have hread : brokenName.read = .ok { generatedName := some "if\n" } := rfl
  have hnames : halves.NamesParameters [] "m.halve" := by
    intro object formals hobject hformals
    have hhalve : (halves.resolve [] "m.halve").2.result = .ok (.function halve) := rfl
    obtain rfl : object = .function halve := Except.ok.inj (hobject.symm.trans hhalve)
    cases hformals
    decide
  have hwrapper : (scaffoldCustom {} halves.provider [] "m.halve" brokenName).2.result =
      .ok brokenWrapper := by decide +kernel
  have hends : EndsLine "if\n" := ⟨['i', 'f'], rfl, hasNameShape_iff.mp rfl⟩
  obtain ⟨-, -, -, -, haccepted⟩ := names_but_for_final_newline "if\n"
  obtain ⟨-, hheader⟩ := haccepted brokenName _ hread rfl
  exact ⟨⟨hread, hnames, hwrapper⟩, hends, (hheader {} _ _ _ _ hnames hwrapper).mpr hends⟩

end RBinding
