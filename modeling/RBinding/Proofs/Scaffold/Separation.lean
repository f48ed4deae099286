import RBinding.Proofs.Assembly
import RBinding.Proofs.Docstring.Shape
import RBinding.Proofs.Options
import RBinding.Proofs.Scaffold.Stages

/-!
# RBinding.Proofs.Scaffold.Separation

Documentation is kept apart from code. Two runs on the same parameters end alike, whatever the
documentation is that they are given, and the wrappers they give have the same code; and the lines
that documentation is written on are comments (`documentation_is_not_code`). A parameter hook is
shown the documentation, so it has to leave it aside.
-/

namespace RBinding

/-- The wrapper without its documentation. -/
def Wrapper.code (w : Wrapper) : Wrapper :=
  { w with docLines := [] }

/-- The hook gives the same for a parameter whatever the documentation is. -/
def ParameterHook.IgnoresDoc (hook : ParameterHook) : Prop :=
  ∀ name doc doc', hook name doc = hook name doc'

/-- Two descriptions of the same parameters, or two failures for lack of a signature; the
documentation may differ. -/
inductive SameButDoc : Except Failure Description → Except Failure Description → Prop where
  | described (parameters : List Parameter) (doc doc' : Option String) :
      SameButDoc (.ok ⟨parameters, doc⟩) (.ok ⟨parameters, doc'⟩)
  | withoutSignature (reason reason' : NoSignature) (target target' doc doc' : Option String) :
      SameButDoc (.error (.signatureUnavailable reason target doc))
        (.error (.signatureUnavailable reason' target' doc'))

namespace Rendering

theorem renderAll_congr {hook : Option ParameterHook}
    (h : ∀ hook', hook = some hook' → hook'.IgnoresDoc) (doc doc' : DocBlock)
    (parameters : List Parameter) :
    renderAll hook doc parameters = renderAll hook doc' parameters := by
  have hone : ∀ name, renderOne hook doc name = renderOne hook doc' name := by
    intro name
    cases hook with
    | none => rfl
    | some hook =>
      rw [renderOne, renderOne, renderWith, renderWith, h hook rfl name doc doc']
  induction parameters with
  | nil => rfl
  | cons p ps ih => rw [renderAll, renderAll, hone, ih]

end Rendering

namespace Scaffold

variable {settings : Settings} {target : String} {options : Options}
  {description description' : Traced Description}

theorem assemble_congr (a : Assembly) (doc : DocBlock) :
    (assemble settings { a with doc := doc }).result.map Wrapper.code =
      (assemble settings a).result.map Wrapper.code := by
  have hfault : { a with doc := doc }.fault? settings = a.fault? settings := rfl
  simp only [assemble, Assembly.toWrapper, hfault]
  cases a.fault? settings <;> rfl

theorem map_bind_congr {α β γ : Type} (x : Except Failure α) {f g : α → Except Failure β}
    {k : β → γ} (h : ∀ a, (f a).map k = (g a).map k) : (x.bind f).map k = (x.bind g).map k := by
  cases x with
  | error e => rfl
  | ok a => exact h a

theorem wrapDescribed_congr (hhook : ∀ hook, options.parameterHook = some hook → hook.IgnoresDoc)
    (parameters : List Parameter) (warnings : List String) (doc doc' : Option String) :
    (wrapDescribed settings target options ⟨parameters, doc, warnings⟩).result.map Wrapper.code =
      (wrapDescribed settings target options ⟨parameters, doc', warnings⟩).result.map
        Wrapper.code := by
  rw [result_wrapDescribed, result_wrapDescribed,
    Rendering.renderAll_congr hhook _ (Described.block ⟨parameters, doc', warnings⟩)]
  refine map_bind_congr _ fun rendered => map_bind_congr _ fun text => ?_
  exact (assemble_congr (assembly target options ⟨parameters, doc, warnings⟩ rendered text)
    (Described.block ⟨parameters, doc', warnings⟩)).symm

theorem wrap_congr (hhook : ∀ hook, options.parameterHook = some hook → hook.IgnoresDoc)
    (h : SameButDoc description.result description'.result) :
    (wrap settings target options description).result.map Wrapper.code =
      (wrap settings target options description').result.map Wrapper.code := by
  rw [result_wrap, result_wrap, orWithoutSignature, orWithoutSignature]
  generalize description.result = r at h
  generalize description'.result = r' at h
  cases h with
  | described parameters doc doc' => exact wrapDescribed_congr hhook parameters [] doc doc'
  | withoutSignature reason reason' _ _ doc doc' =>
    exact wrapDescribed_congr hhook [] [signatureWarning target] doc doc'

theorem dedupe_subset (parameters : List Parameter) : (dedupe [] parameters).1 ⊆ parameters :=
  fun _ hp => List.mem_of_find?_eq_some (find?_of_mem_dedupe hp)

theorem newline_not_mem_kept
    (h : ∀ d, description.result = .ok d → ∀ p ∈ d.parameters, '\n' ∉ p.name.toList)
    {d : Described} (hd : (orWithoutSignature target description).result = .ok d) :
    ∀ p ∈ d.kept, '\n' ∉ p.name.toList := by
  intro p hp
  have hmem := dedupe_subset d.parameters hp
  rw [orWithoutSignature] at hd
  split at hd
  · rename_i d' hd'
    cases hd
    exact h d' hd' p hmem
  · cases hd
    cases hmem
  · cases hd

theorem isComment_wrap
    (hnames : ∀ d, description.result = .ok d → ∀ p ∈ d.parameters, '\n' ∉ p.name.toList)
    (htags : ∀ tag ∈ options.extraTags.keys, '\n' ∉ tag.toList) {w : Wrapper}
    (h : (wrap settings target options description).result = .ok w) :
    ∀ l ∈ w.docLines, IsComment l := by
  obtain ⟨d, rendered, text, hd, _, _, hw⟩ := exists_stages h
  rw [toWrapper_ok hw]
  refine Assembly.isComment_docLines (newline_not_mem_kept hnames hd) ?_ htags
  intro title htitle
  obtain ⟨t, ht, rfl⟩ := List.mem_map.mp (Docstring.sections_titles _ _ _ htitle)
  exact (Docstring.Header.title_plain t ht).1

end Scaffold

/-- Documentation never becomes code. Runs that differ in documentation only give the same code or
fail alike, and whatever a run writes of documentation is in comments. -/
theorem documentation_is_not_code (settings : Settings) (target : String)
    (request : Options.Request) :
    (∀ {S S' : Type} (provider : Provider S) (provider' : Provider S') (state : S) (state' : S'),
      SameButDoc (provider.describe state target).2.result
          (provider'.describe state' target).2.result →
        (scaffold settings provider state target).2.result.map Wrapper.code =
            (scaffold settings provider' state' target).2.result.map Wrapper.code ∧
          ((∀ hook, request.parameterHook = .callable hook → hook.IgnoresDoc) →
            (scaffoldCustom settings provider state target request).2.result.map Wrapper.code =
              (scaffoldCustom settings provider' state' target request).2.result.map
                Wrapper.code)) ∧
      ∀ {S : Type} (provider : Provider S) (state : S),
        (∀ d, (provider.describe state target).2.result = .ok d →
          ∀ p ∈ d.parameters, '\n' ∉ p.name.toList) →
        ∀ w, (scaffold settings provider state target).2.result = .ok w ∨
            (scaffoldCustom settings provider state target request).2.result = .ok w →
          ∀ l ∈ w.docLines, IsComment l := by
  constructor
  · intro S S' provider provider' state state' h
    refine ⟨Scaffold.wrap_congr (fun hook hhook => by cases hhook) h, fun hhook => ?_⟩
    rw [scaffoldCustom, scaffoldCustom]
    cases hread : request.read with
    | error e => rfl
    | ok options =>
      refine Scaffold.wrap_congr (fun hook hsome => ?_) h
      exact hhook hook (Options.parameterHook_of_read hread hsome)
  · intro S provider state hnames w h
    rcases h with h | h
    · exact Scaffold.isComment_wrap hnames (fun tag htag => by cases htag) h
    · rw [scaffoldCustom] at h
      cases hread : request.read with
      | error e =>
        rw [hread] at h
        cases h
      | ok options =>
        rw [hread] at h
        exact Scaffold.isComment_wrap hnames (Options.newline_not_mem_tags hread) h

def documentedAs : Provider (Option String) where
  describe raw _ := (raw, ⟨[], .ok ⟨[{ name := "x" }], raw⟩⟩)

def calledRequest : Options.Request where
  parameterHook := .callable fun name _ => .ok (.text (name ++ "()"))

def scaleDoc : String := "Scale.\n\nstop(1)\n\nArgs:\n  x: a\n    number"

def scaleWrapper : Wrapper where
  name := "scale"
  target := "pkg.scale"
  docLines := ["#' @title Scale.", "#' @description stop(1)", "#'", "#' @param x a number",
    "#' @return", "#' @export"]
  header := "scale <- function(x) \x7b"
  body := ["  python_function_result <- pkg$scale(", "    x = x()", "  )"]

theorem documentation_is_not_code_scale :
    SameButDoc (documentedAs.describe (some scaleDoc) "pkg.scale").2.result
        (documentedAs.describe none "pkg.scale").2.result ∧
      (∀ hook, calledRequest.parameterHook = .callable hook → hook.IgnoresDoc) ∧
      (∀ d, (documentedAs.describe (some scaleDoc) "pkg.scale").2.result = .ok d →
        ∀ p ∈ d.parameters, '\n' ∉ p.name.toList) ∧
      (scaffoldCustom {} documentedAs (some scaleDoc) "pkg.scale" calledRequest).2.result =
        .ok scaleWrapper ∧
      (scaffoldCustom {} documentedAs (some scaleDoc) "pkg.scale" calledRequest).2.result.map
          Wrapper.code =
        (scaffoldCustom {} documentedAs none "pkg.scale" calledRequest).2.result.map Wrapper.code ∧
      ∀ l ∈ scaleWrapper.docLines, IsComment l := by
  obtain ⟨hcode, hcomments⟩ := documentation_is_not_code {} "pkg.scale" calledRequest
  have hsame : SameButDoc (documentedAs.describe (some scaleDoc) "pkg.scale").2.result
      (documentedAs.describe none "pkg.scale").2.result := .described _ _ _
  have hhook : ∀ hook, calledRequest.parameterHook = .callable hook → hook.IgnoresDoc := by
    intro hook heq
    cases heq
    exact fun _ _ _ => rfl
  have hnames : ∀ d, (documentedAs.describe (some scaleDoc) "pkg.scale").2.result = .ok d →
      ∀ p ∈ d.parameters, '\n' ∉ p.name.toList := by
    intro d hd
    cases hd
    decide
  have hw : (scaffoldCustom {} documentedAs (some scaleDoc) "pkg.scale" calledRequest).2.result =
      .ok scaleWrapper := by decide +kernel
  exact ⟨hsame, hhook, hnames, hw, (hcode documentedAs documentedAs _ _ hsame).2 hhook,
    hcomments documentedAs _ hnames scaleWrapper (.inr hw)⟩

end RBinding
