import RBinding.Proofs.Scaffold.Events
import RBinding.Proofs.Scaffold.Separation

/-!
# RBinding.Proofs.Scaffold.Alignment

The parameters in a wrapper. The formals of its header, the lines on its parameters and the
arguments of its call are each one list over the same names: the declared ones, each where it comes
first (`Aligned`). So it is for every run that gives a wrapper (`parameters_aligned`).
-/

namespace RBinding

namespace Assembly

theorem withCommas_eq (ls : List String) :
    withCommas ls = ls.dropLast.map (· ++ ",") ++ ls.getLast?.toList := by
  induction ls with
  | nil => rfl
  | cons l ls ih =>
    cases ls with
    | nil => rfl
    | cons l' ls =>
      rw [withCommas, ih, List.dropLast_cons_cons, List.map_cons, List.cons_append,
        List.getLast?_cons_cons]
      exact List.cons_ne_nil _ _

end Assembly

namespace Scaffold

/-- The names of the parameters, each where it comes first. -/
def declaredNames (parameters : List Parameter) : List String :=
  (parameters.map (·.name)).eraseDups

def firsts (parameters : List Parameter) : List Parameter :=
  (declaredNames parameters).filterMap fun name => parameters.find? (·.name == name)

theorem map_name_kept (parameters : List Parameter) :
    (dedupe [] parameters).1.map (·.name) = declaredNames parameters := by
  rw [map_name_dedupe, declaredNames]
  exact congrArg List.eraseDups (List.filter_eq_self.mpr fun _ _ => rfl)

theorem dedupe_eq_firsts (parameters : List Parameter) :
    (dedupe [] parameters).1 = firsts parameters := by
  rw [firsts, ← map_name_kept, List.filterMap_map]
  have hfirst : (dedupe [] parameters).1.filterMap
      ((fun name => parameters.find? (·.name == name)) ∘ (·.name)) =
        (dedupe [] parameters).1.filterMap some :=
    List.filterMap_congr fun p hp => find?_of_mem_dedupe hp
  rw [hfirst, List.filterMap_some]

/-- What the documentation is read as, for parameters that may be repeated. -/
def readBlock (parameters : List Parameter) (raw : Option String) : DocBlock :=
  (Docstring.read raw (declaredNames parameters) (aliasTable (firsts parameters))).block

theorem block_eq (parameters : List Parameter) (raw : Option String) (warnings : List String) :
    Described.block ⟨parameters, raw, warnings⟩ = readBlock parameters raw := by
  rw [Described.block, Described.kept, map_name_kept, dedupe_eq_firsts]
  rfl

/-- A formal, with the default of the first parameter of the name. -/
def formalOf (parameters : List Parameter) (name : String) : String :=
  match parameters.find? (·.name == name) with
  | some p => if p.hasDefault then symbol name ++ " = " ++ p.defaultText else symbol name
  | none => symbol name

def parameterLine (doc : DocBlock) (name : String) : String :=
  Text.trimmedEnd ("#' @param " ++ name ++ " " ++ doc.parameter name)

/-- An argument that hands `expression` over. -/
def argumentOf (name expression : String) : String :=
  if name = "..." then expression
  else symbol name ++ " = " ++ (if expression = name then symbol name else expression)

/-- The lines of a call with these arguments. -/
def callLines (settings : Settings) (target : String) (arguments : List String) : List String :=
  let opening := settings.spaces 1 ++ settings.resultName ++ " <- " ++
    AccessPath.accessor target ++ "("
  let entries := arguments.map (settings.spaces 2 ++ ·)
  if arguments = [] then [opening ++ ")"]
  else
    opening :: (entries.dropLast.map (· ++ ",") ++ entries.getLast?.toList) ++
      [settings.spaces 1 ++ ")"]

/-- The wrapper speaks of the declared names everywhere, in the same order. -/
structure Aligned (settings : Settings) (target : String) (options : Options)
    (parameters : List Parameter) (raw : Option String) (w : Wrapper) : Prop where
  header : w.header = symbol w.name ++ " <- function(" ++
    ", ".intercalate ((declaredNames parameters).map (formalOf parameters)) ++ ") \x7b"
  docLines : ∃ rest, w.docLines =
    Assembly.tagLines "title" (readBlock parameters raw).title ++
      Assembly.tagLines "description" (readBlock parameters raw).description ++ ["#'"] ++
      (declaredNames parameters).map (parameterLine (readBlock parameters raw)) ++ rest
  oneLine : ∀ name ∈ declaredNames parameters,
    '\n' ∉ ((readBlock parameters raw).parameter name).toList ∧
      '\n' ∉ (parameterLine (readBlock parameters raw) name).toList
  body : ∃ (expression : String → String) (text : Option String),
    (∀ name ∈ declaredNames parameters,
      Rendering.handedOver options.parameterHook (readBlock parameters raw) name =
        .ok (.text (expression name))) ∧
    (options.postprocessHook = none ∧ text = none ∨
      ∃ hook s, options.postprocessHook = some hook ∧ hook () = .ok (.text s) ∧ text = some s) ∧
    w.body = callLines settings target
      ((declaredNames parameters).map fun name => argumentOf name (expression name)) ++
        Assembly.postprocessLines settings text

variable {settings : Settings} {target : String} {options : Options}

theorem map_formal (parameters : List Parameter) :
    (dedupe [] parameters).1.map Assembly.formal =
      (declaredNames parameters).map (formalOf parameters) := by
  rw [← map_name_kept, List.map_map]
  refine List.map_congr_left fun p hp => ?_
  rw [Function.comp_apply, formalOf, find?_of_mem_dedupe hp]
  rfl

theorem parameterLines_eq {doc : DocBlock} {p : Parameter}
    (h : '\n' ∉ (doc.parameter p.name).toList) :
    Assembly.parameterLines doc p = [parameterLine doc p.name] := by
  have htag : "#' @param " = Settings.docPrefix ++ " " ++ "@" ++ "param " := by decide
  rw [Assembly.parameterLines, Assembly.tagLines_of_newline_not_mem _ h, Assembly.commentLine,
    parameterLine, htag]
  simp only [String.append_assoc]

theorem flatMap_parameterLines (parameters : List Parameter) (raw : Option String) :
    (dedupe [] parameters).1.flatMap (Assembly.parameterLines (readBlock parameters raw)) =
      (declaredNames parameters).map (parameterLine (readBlock parameters raw)) := by
  have hlines : ∀ p ∈ (dedupe [] parameters).1,
      Assembly.parameterLines (readBlock parameters raw) p =
        [parameterLine (readBlock parameters raw) p.name] := fun p _ =>
    parameterLines_eq (Docstring.newline_not_mem_parameter _ _ _ _)
  rw [List.flatMap_congr hlines, ← map_name_kept, List.map_map]
  exact List.flatMap_pure_eq_map _ _

theorem newline_not_mem_parameterLine {name : String} (hname : '\n' ∉ name.toList) {doc : DocBlock}
    (hdoc : '\n' ∉ (doc.parameter name).toList) : '\n' ∉ (parameterLine doc name).toList := by
  rw [parameterLine, Text.trimmedEnd, String.toList_ofList]
  refine fun hmem => ?_
  refine Assembly.newline_not_mem_append (Assembly.newline_not_mem_append ?_ (by decide)) hdoc
    (Text.trimEnd_subset _ hmem)
  exact Assembly.newline_not_mem_append (by decide) hname

theorem call_map (settings : Settings) (target : String) (expression : String → String)
    (names : List String) :
    Assembly.call settings target (names.map fun name => ⟨name, expression name⟩) =
      callLines settings target (names.map fun name => argumentOf name (expression name)) := by
  have hentries : ∀ ns : List String,
      (ns.map fun name => (⟨name, expression name⟩ : Rendered)).map
          (fun r => settings.spaces 2 ++ Assembly.argument r) =
        (ns.map fun name => argumentOf name (expression name)).map (settings.spaces 2 ++ ·) := by
    intro ns
    rw [List.map_map, List.map_map]
    rfl
  rw [Assembly.call, callLines, hentries, Assembly.withCommas_eq]
  cases names <;> rfl

theorem rendered_eq {hook : Option ParameterHook} {doc : DocBlock} {parameters : List Parameter}
    {rendered : List Rendered}
    (h : (Rendering.renderAll hook doc parameters).result = .ok rendered) :
    rendered = (parameters.map (·.name)).map fun name =>
      ⟨name, Rendering.expressionOf hook doc name⟩ := by
  obtain ⟨hnames, hexpressions⟩ := Rendering.renderAll_ok h
  have hself : ∀ r ∈ rendered,
      r = (⟨r.name, Rendering.expressionOf hook doc r.name⟩ : Rendered) := by
    intro r hr
    rw [Rendering.expressionOf_eq (hexpressions r hr)]
  rw [← hnames, List.map_map]
  exact (List.map_id rendered).symm.trans (List.map_congr_left hself)

theorem handedOver_expressionOf {hook : Option ParameterHook} {doc : DocBlock}
    {parameters : List Parameter} {rendered : List Rendered}
    (h : (Rendering.renderAll hook doc parameters).result = .ok rendered) :
    ∀ p ∈ parameters, Rendering.handedOver hook doc p.name =
      .ok (.text (Rendering.expressionOf hook doc p.name)) := by
  obtain ⟨hnames, hexpressions⟩ := Rendering.renderAll_ok h
  intro p hp
  have hmem : p.name ∈ rendered.map (·.name) := hnames ▸ List.mem_map_of_mem hp
  obtain ⟨r, hr, hname⟩ := List.mem_map.mp hmem
  rw [← hname, Rendering.expressionOf_eq (hexpressions r hr)]
  exact hexpressions r hr

theorem aligned_wrap {description : Traced Description} {parameters : List Parameter}
    {raw : Option String} (hdescription : description.result = .ok ⟨parameters, raw⟩)
    (hnames : ∀ p ∈ parameters, '\n' ∉ p.name.toList) {w : Wrapper}
    (h : (wrap settings target options description).result = .ok w) :
    Aligned settings target options parameters raw w := by
  obtain ⟨d, rendered, text, hd, hrendered, htext, hw⟩ := exists_stages h
  rw [orWithoutSignature, hdescription] at hd
  cases hd
  rw [block_eq] at hrendered
  have hexpression := handedOver_expressionOf hrendered
  obtain rfl := rendered_eq hrendered
  have hkept : Described.kept ⟨parameters, raw, []⟩ = (dedupe [] parameters).1 := rfl
  rw [toWrapper_ok hw, Assembly.complete]
  refine ⟨?_, ?_, ?_, Rendering.expressionOf options.parameterHook (readBlock parameters raw), text,
    ?_, postprocess_ok htext, ?_⟩
  · rw [← map_formal]
    rfl
  · have hlines := flatMap_parameterLines parameters raw
    refine ⟨Assembly.tagLines "return" (readBlock parameters raw).returns ++
      ((readBlock parameters raw).sections.entries.flatMap Assembly.sectionLines ++
        (options.extraTags.entries.flatMap (fun e => Assembly.tagLines e.1 e.2) ++
          Assembly.exportLines options.exported)), ?_⟩
    dsimp only [assembly]
    rw [Assembly.docLines, block_eq, hkept, hlines]
    simp only [List.flatMap_nil, List.append_nil, List.append_assoc]
    rfl
  · intro name hname
    have hdoc : '\n' ∉ ((readBlock parameters raw).parameter name).toList :=
      Docstring.newline_not_mem_parameter _ _ _ _
    rw [declaredNames, List.mem_eraseDups] at hname
    obtain ⟨p, hp, rfl⟩ := List.mem_map.mp hname
    exact ⟨hdoc, newline_not_mem_parameterLine (hnames p hp) hdoc⟩
  · intro name hname
    rw [← map_name_kept] at hname
    obtain ⟨p, hp, rfl⟩ := List.mem_map.mp hname
    exact hexpression p hp
  · dsimp only [assembly]
    rw [hkept, map_name_kept, call_map]

/-- The notes on parameters whose names came before. -/
def repetitionNotes (target : String) (parameters : List Parameter) : List Note :=
  ((parameters.map (·.name)).diff (declaredNames parameters)).map (.repeatedParameter target)

theorem repetitions_wrap_eq {description : Traced Description} {parameters : List Parameter}
    {raw : Option String} (h : description.result = .ok ⟨parameters, raw⟩) :
    (wrap settings target options description).repetitions =
      description.repetitions ++ repetitionNotes target parameters := by
  rw [repetitions_wrap h, repetitionNotes, ← map_name_kept, ← map_name_dropped, List.map_map]
  rfl

end Scaffold

open Scaffold

/-- Parameters stay in step from a description to the wrapper. Those that repeat a name are left
out, each with a note. -/
theorem parameters_aligned (settings : Settings) {S : Type} (provider : Provider S) (state : S)
    (target : String) (request : Options.Request) {parameters : List Parameter}
    {raw : Option String}
    (hdescribe : (provider.describe state target).2.result = .ok ⟨parameters, raw⟩)
    (hnames : ∀ p ∈ parameters, '\n' ∉ p.name.toList) :
    (∀ w, (scaffold settings provider state target).2.result = .ok w →
      Aligned settings target {} parameters raw w ∧
        (scaffold settings provider state target).2.repetitions =
          (provider.describe state target).2.repetitions ++ repetitionNotes target parameters) ∧
      ∀ options, request.read = .ok options →
        ∀ w, (scaffoldCustom settings provider state target request).2.result = .ok w →
          Aligned settings target options parameters raw w ∧
            (scaffoldCustom settings provider state target request).2.repetitions =
              (provider.describe state target).2.repetitions ++
                repetitionNotes target parameters := by
  constructor
  · exact fun w h => ⟨aligned_wrap hdescribe hnames h, repetitions_wrap_eq hdescribe⟩
  · intro options hread w h
    rw [scaffoldCustom, hread] at h ⊢
    exact ⟨aligned_wrap hdescribe hnames h, repetitions_wrap_eq hdescribe⟩

def sumDescription : Description where
  parameters := [{ name := "x" },
    { name := "_by", hasDefault := true, defaultLiteral := some "2L" },
    { name := "x", hasDefault := true }, { name := "..." }]
  doc := some "Sum.\n\nArgs:\n  x: first\n    number\n  _by: step"

def sumProvider : Provider Unit where
  describe _ _ := ((), ⟨[], .ok sumDescription⟩)

def sumHook (name : String) (_ : DocBlock) : Except Failure Value :=
  .ok (.text (if name = "x" then "as.integer(x)" else name))

def sumRequest : Options.Request where
  parameterHook := .callable sumHook
  postprocessHook := .callable fun _ => .ok (.text "python_function_result")

def sumOptions : Options where
  parameterHook := some sumHook
  postprocessHook := some fun _ => .ok (.text "python_function_result")

def sumWrapper : Wrapper where
  name := "sum"
  target := "np.sum"
  docLines := ["#' @title Sum.", "#' @description", "#'", "#' @param x first number",
    "#' @param _by step", "#' @param ...", "#' @return", "#' @export"]
  header := "sum <- function(x, `_by` = 2L, ...) \x7b"
  body := ["  python_function_result <- np$sum(", "    x = as.integer(x),", "    `_by` = `_by`,",
    "    ...", "  )", "  python_function_result"]

theorem parameters_aligned_sum :
    (sumProvider.describe () "np.sum").2.result =
        .ok ⟨sumDescription.parameters, sumDescription.doc⟩ ∧
      (∀ p ∈ sumDescription.parameters, '\n' ∉ p.name.toList) ∧
      sumRequest.read = .ok sumOptions ∧
      (scaffoldCustom {} sumProvider () "np.sum" sumRequest).2.result = .ok sumWrapper ∧
      Aligned {} "np.sum" sumOptions sumDescription.parameters sumDescription.doc sumWrapper ∧
      (scaffoldCustom {} sumProvider () "np.sum" sumRequest).2.repetitions =
        (sumProvider.describe () "np.sum").2.repetitions ++
          repetitionNotes "np.sum" sumDescription.parameters := by
  have hdescribe : (sumProvider.describe () "np.sum").2.result =
      .ok ⟨sumDescription.parameters, sumDescription.doc⟩ := rfl
  have hnames : ∀ p ∈ sumDescription.parameters, '\n' ∉ p.name.toList := by decide
  have hread : sumRequest.read = .ok sumOptions := rfl
  have hw : (scaffoldCustom {} sumProvider () "np.sum" sumRequest).2.result = .ok sumWrapper := by
    decide +kernel
  have haligned := parameters_aligned {} sumProvider () "np.sum" sumRequest hdescribe hnames
  exact ⟨hdescribe, hnames, hread, hw, haligned.2 sumOptions hread sumWrapper hw⟩

end RBinding
