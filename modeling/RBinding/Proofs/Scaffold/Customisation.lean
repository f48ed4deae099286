import RBinding.Proofs.Scaffold.Effects

/-!
# RBinding.Proofs.Scaffold.Customisation

Customising a wrapper by hooks is local. A parameter hook decides what is handed over for a
parameter, and nothing else: two hooks give wrappers that differ at most in the arguments of those
parameters for which the hooks differ (`SameBut`, `endAlike_wrap`). The text after the call is added
at the end of the body, line by line (`wrap_postprocess`).
-/

namespace RBinding

/-- What is handed over is text for every parameter. -/
def HandsOver (hook : Option ParameterHook) (expression : DocBlock → String → String) : Prop :=
  ∀ doc name, Rendering.handedOver hook doc name = .ok (.text (expression doc name))

/-- The wrappers differ at most in the arguments of the call for some of the parameters. -/
structure SameBut (names : List String) (differs : String → Prop) (w w' : Wrapper) : Prop where
  outside : { w with body := [] } = { w' with body := [] }
  /-- The argument of a parameter is on the line after those of the parameters before it and the
  first line of the call. -/
  body : ∀ i : Nat, w.body[i]? ≠ w'.body[i]? →
    ∃ k name, i = k + 1 ∧ names[k]? = some name ∧ differs name

theorem SameBut.eq {names : List String} {differs : String → Prop} {w w' : Wrapper}
    (h : SameBut names differs w w') (hnone : ∀ name, ¬ differs name) : w = w' := by
  have hbody : w.body = w'.body := by
    refine List.ext_getElem? fun i => ?_
    by_contra hi
    obtain ⟨_, name, _, _, hname⟩ := h.body i hi
    exact hnone name hname
  have houtside := h.outside
  cases w
  cases w'
  simp_all

/-- Two runs end with the same failure, or with wrappers that are in the relation. -/
inductive EndAlike (R : Wrapper → Wrapper → Prop) :
    Except Failure Wrapper → Except Failure Wrapper → Prop where
  | failed (e : Failure) : EndAlike R (.error e) (.error e)
  | returned {w w' : Wrapper} (h : R w w') : EndAlike R (.ok w) (.ok w')

theorem EndAlike.eq {R : Wrapper → Wrapper → Prop} {r r' : Except Failure Wrapper}
    (h : EndAlike R r r') (hR : ∀ w w', R w w' → w = w') : r = r' := by
  cases h with
  | failed e => rfl
  | returned h => rw [hR _ _ h]

theorem EndAlike.bind {α : Type} {R : Wrapper → Wrapper → Prop} {x : Except Failure α}
    {f g : α → Except Failure Wrapper} (h : ∀ a, x = .ok a → EndAlike R (f a) (g a)) :
    EndAlike R (x.bind f) (x.bind g) := by
  cases x with
  | error e => exact .failed e
  | ok a => exact h a rfl

namespace Assembly

theorem getElem?_withCommas (ls : List String) (k : Nat) :
    (withCommas ls)[k]? = ls[k]?.map fun l => if k + 1 < ls.length then l ++ "," else l := by
  induction ls generalizing k with
  | nil => rfl
  | cons l ls ih =>
    cases ls with
    | nil => cases k <;> simp [withCommas]
    | cons l' ls =>
      rw [withCommas]
      · cases k with
        | zero => simp
        | succ k => simp [ih]
      · exact List.cons_ne_nil _ _

theorem length_withCommas (ls : List String) : (withCommas ls).length = ls.length := by
  induction ls with
  | nil => rfl
  | cons l ls ih =>
    cases ls with
    | nil => rfl
    | cons l' ls =>
      rw [withCommas]
      · simpa using ih
      · exact List.cons_ne_nil _ _

/-- A line of the call depends on the argument that it holds, if it holds one, and on no other. -/
theorem getElem?_call (settings : Settings) (target : String) {rendered rendered' : List Rendered}
    (hlength : rendered.length = rendered'.length) {i : Nat}
    (h : ∀ k, i = k + 1 → rendered[k]? = rendered'[k]?) :
    (call settings target rendered)[i]? = (call settings target rendered')[i]? := by
  have hempty : rendered.isEmpty = rendered'.isEmpty := by
    cases rendered <;> cases rendered' <;> simp_all
  rw [call, call, ← hempty]
  split
  · rfl
  · cases i with
    | zero => rfl
    | succ k =>
      simp only [List.cons_append, List.getElem?_cons_succ, List.getElem?_append,
        length_withCommas, List.length_map, getElem?_withCommas, List.getElem?_map, hlength,
        h k rfl]

theorem length_call (settings : Settings) (target : String) {rendered rendered' : List Rendered}
    (hlength : rendered.length = rendered'.length) :
    (call settings target rendered).length = (call settings target rendered').length := by
  have hempty : rendered.isEmpty = rendered'.isEmpty := by
    cases rendered <;> cases rendered' <;> simp_all
  rw [call, call, ← hempty]
  split
  · rfl
  · simp [length_withCommas, hlength]

end Assembly

namespace Options

def GivenHook.ofOption {Hook : Type} : Option Hook → GivenHook Hook
  | none => .absent
  | some hook => .callable hook

theorem readHook_ofOption {Hook : Type} (place : String) (hook : Option Hook) :
    readHook place (.ofOption hook) = .ok hook := by
  cases hook <;> rfl

theorem read_parameterHook (request : Request) (hook : Option ParameterHook) :
    { request with parameterHook := .ofOption hook }.read =
      { request with parameterHook := .ofOption none }.read.map
        fun options : Options => { options with parameterHook := hook } := by
  rw [Request.read, Request.read]
  cases Options.tagEntries request.extraTags with
  | error e => rfl
  | ok tags =>
    simp only [Request.check, readHook_ofOption]
    cases readGeneratedName request.generatedName <;> cases readPrefix request.namePrefix <;>
      cases readHook "postprocess_hook" request.postprocessHook <;> cases readExtraTags tags <;>
      cases readExported request.exported <;> rfl

theorem read_postprocessHook (request : Request) (hook : Option PostprocessHook) :
    { request with postprocessHook := .ofOption hook }.read =
      { request with postprocessHook := .ofOption none }.read.map
        fun options : Options => { options with postprocessHook := hook } := by
  rw [Request.read, Request.read]
  cases Options.tagEntries request.extraTags with
  | error e => rfl
  | ok tags =>
    simp only [Request.check, readHook_ofOption]
    cases readGeneratedName request.generatedName <;> cases readPrefix request.namePrefix <;>
      cases readHook "parameter_hook" request.parameterHook <;> cases readExtraTags tags <;>
      cases readExported request.exported <;> rfl

theorem postprocessHook_of_read {request : Request} {options : Options}
    (h : { request with postprocessHook := .ofOption none }.read = .ok options) :
    options.postprocessHook = none := by
  obtain ⟨_, _, hreads⟩ := reads_of_read h
  have hread : (.ok none : Reading (Option PostprocessHook)) = .ok options.postprocessHook :=
    hreads.postprocessHook
  exact (Except.ok.inj hread).symm

end Options

namespace Scaffold

variable {settings : Settings} {target : String} {options : Options}
  {hook hook' : Option ParameterHook} {expression expression' : DocBlock → String → String}

theorem renderAll_of_handsOver (h : HandsOver hook expression) (d : Described) :
    (Rendering.renderAll hook d.block d.kept).result =
      .ok ((d.kept.map (·.name)).map fun name => ⟨name, expression d.block name⟩) := by
  have hnone : (d.kept.map (·.name)).findSome? (Rendering.failure? hook d.block) = none := by
    rw [List.findSome?_eq_none_iff]
    intro name _
    have hname := h d.block name
    cases hook with
    | none => rfl
    | some hook =>
      change hook name d.block = _ at hname
      simp [Rendering.failure?, noText?, hname]
  rw [Rendering.renderAll_of_no_failure hnone]
  refine congrArg Except.ok (List.map_congr_left fun name _ => ?_)
  rw [Rendering.expressionOf_eq (h d.block name)]

/-- Where a hook hands over text, the run ends as the stages without it let it. -/
theorem wrapDescribed_of_handsOver (h : HandsOver options.parameterHook expression)
    (d : Described) :
    (wrapDescribed settings target options d).result =
      (postprocess options.postprocessHook).result.bind fun text =>
        match settings.badWidth? with
        | some e => .error (.notAssembled (.badWidth e))
        | none => .ok ((assembly target options d ((d.kept.map (·.name)).map fun name =>
            ⟨name, expression d.block name⟩) text).complete settings) := by
  rw [result_wrapDescribed, renderAll_of_handsOver h, Except.bind]
  refine congrArg (Except.bind _) (funext fun text => ?_)
  exact assemble_eq (by simp [assembly])

theorem sameBut_complete (settings : Settings) (a : Assembly) (names : List String)
    (f g : String → String) :
    SameBut names (fun name => f name ≠ g name)
      ({ a with rendered := names.map fun name => ⟨name, f name⟩ }.complete settings)
      ({ a with rendered := names.map fun name => ⟨name, g name⟩ }.complete settings) where
  outside := rfl
  body := by
    intro i hi
    by_contra hnone
    have hlength : (names.map fun name => (⟨name, f name⟩ : Rendered)).length =
        (names.map fun name => (⟨name, g name⟩ : Rendered)).length := by simp
    have hsame : ∀ k, i = k + 1 → (names.map fun name => (⟨name, f name⟩ : Rendered))[k]? =
        (names.map fun name => (⟨name, g name⟩ : Rendered))[k]? := by
      intro k hk
      rw [List.getElem?_map, List.getElem?_map]
      cases hname : names[k]? with
      | none => rfl
      | some name =>
        have heq : f name = g name := by
          by_contra hne
          exact hnone ⟨k, name, hk, hname, hne⟩
        simp [heq]
    apply hi
    simp only [Assembly.complete, List.getElem?_append,
      Assembly.getElem?_call settings a.target hlength hsame,
      Assembly.length_call settings a.target hlength]

theorem described?_of_orWithoutSignature {description : Traced Description} {d : Described}
    (h : (orWithoutSignature target description).result = .ok d) :
    described? description.result = some ⟨d.parameters, d.doc⟩ := by
  rw [orWithoutSignature] at h
  split at h
  · rename_i hr
    cases h
    rw [hr]
    rfl
  · rename_i hr
    cases h
    rw [hr]
    rfl
  · cases h

theorem endAlike_wrap (hhook : HandsOver hook expression) (hhook' : HandsOver hook' expression')
    (description : Traced Description) :
    EndAlike (fun w w' => ∃ d, described? description.result = some d ∧
        SameBut d.names (fun name => expression d.block name ≠ expression' d.block name) w w')
      (wrap settings target { options with parameterHook := hook } description).result
      (wrap settings target { options with parameterHook := hook' } description).result := by
  rw [result_wrap, result_wrap]
  refine .bind fun d hd => ?_
  rw [wrapDescribed_of_handsOver hhook, wrapDescribed_of_handsOver hhook']
  refine .bind fun text _ => ?_
  have hblock : d.block = Description.block ⟨d.parameters, d.doc⟩ :=
    block_eq d.parameters d.doc d.warnings
  have hnames : d.kept.map (·.name) = Description.names ⟨d.parameters, d.doc⟩ :=
    map_name_kept d.parameters
  cases settings.badWidth? with
  | some e => exact .failed _
  | none =>
    refine .returned ⟨_, described?_of_orWithoutSignature hd, ?_⟩
    rw [← hblock, ← hnames]
    exact sameBut_complete settings (assembly target options d [] text) _ _ _

/-- The lines that a text adds to the body: indented, or empty where they are blank. -/
def appended (settings : Settings) (text : String) : List String :=
  (Text.linesOf text).map fun line =>
    if Text.blankText line then "" else settings.spaces 1 ++ line

/-- The line without one step of indentation. -/
def unindented (settings : Settings) (line : String) : String :=
  String.ofList (line.toList.drop settings.indent.toNat)

def emptied (line : String) : String :=
  if Text.blankText line then "" else line

theorem unindented_appended (settings : Settings) (text : String) :
    (appended settings text).map (unindented settings) = (Text.linesOf text).map emptied := by
  rw [appended, List.map_map]
  refine List.map_congr_left fun line _ => ?_
  rw [Function.comp_apply, emptied]
  split
  · simp [unindented]
  · rw [unindented, Settings.spaces, String.toList_append, String.toList_ofList, Nat.mul_one,
      List.drop_left' List.length_replicate, String.ofList_toList]

theorem assemble_postprocess (a : Assembly) (text : String) :
    (assemble settings { a with postprocess := some text }).result =
      (assemble settings { a with postprocess := none }).result.map
        fun w : Wrapper => { w with body := w.body ++ appended settings text } := by
  have hfault : { a with postprocess := some text }.fault? settings =
      { a with postprocess := none }.fault? settings := rfl
  rw [assemble, assemble, Assembly.toWrapper, Assembly.toWrapper, hfault]
  cases { a with postprocess := none }.fault? settings with
  | some e => rfl
  | none =>
    simp only [Assembly.postprocessLines, List.append_nil]
    rfl

theorem wrap_postprocess (settings : Settings) (target : String) {hook : PostprocessHook}
    {text : String} (h : hook () = .ok (.text text)) (options : Options)
    (description : Traced Description) :
    (wrap settings target { options with postprocessHook := some hook } description).result =
      (wrap settings target { options with postprocessHook := none } description).result.map
        fun w : Wrapper => { w with body := w.body ++ appended settings text } := by
  have htext : (postprocess (some hook)).result = .ok (some text) := by
    rw [postprocess, Traced.result_bind, Traced.result_bind, Traced.ofExcept, h]
    rfl
  have hnone : (postprocess none).result = .ok none := rfl
  rw [result_wrap, result_wrap]
  cases (orWithoutSignature target description).result with
  | error e => rfl
  | ok d =>
    simp only [Except.bind, result_wrapDescribed, htext, hnone]
    cases (Rendering.renderAll options.parameterHook d.block d.kept).result with
    | error e => rfl
    | ok rendered => exact assemble_postprocess (assembly target options d rendered none) text

end Scaffold

theorem result_scaffoldCustom (settings : Settings) {S : Type} (provider : Provider S) (state : S)
    (target : String) (request : Options.Request) :
    (scaffoldCustom settings provider state target request).2.result =
      request.read.bind fun options =>
        (Scaffold.wrap settings target options (provider.describe state target).2).result := by
  rw [scaffoldCustom]
  cases request.read <;> rfl

open Scaffold

variable (settings : Settings) {S : Type} (provider : Provider S) (state : S) (target : String)

/-- Without options a wrapper is what it is without customisation. -/
theorem scaffoldCustom_empty : scaffoldCustom settings provider state target {} =
    scaffold settings provider state target := by
  have hread : ({} : Options.Request).read = .ok {} := rfl
  rw [scaffoldCustom, hread]
  rfl

theorem endAlike_scaffoldCustom (request : Options.Request) {hook hook' : Option ParameterHook}
    {expression expression' : DocBlock → String → String} (hhook : HandsOver hook expression)
    (hhook' : HandsOver hook' expression') :
    EndAlike (fun w w' => ∃ d, described? (provider.describe state target).2.result = some d ∧
        SameBut d.names (fun name => expression d.block name ≠ expression' d.block name) w w')
      (scaffoldCustom settings provider state target
        { request with parameterHook := .ofOption hook }).2.result
      (scaffoldCustom settings provider state target
        { request with parameterHook := .ofOption hook' }).2.result := by
  rw [result_scaffoldCustom, result_scaffoldCustom, Options.read_parameterHook request hook,
    Options.read_parameterHook request hook']
  cases Options.Request.read { request with parameterHook := .ofOption none } with
  | error e => exact .failed e
  | ok options => exact endAlike_wrap hhook hhook' _

theorem scaffoldCustom_unchanged {hook : ParameterHook}
    (h : ∀ name doc, hook name doc = .ok (.text name)) :
    (scaffoldCustom settings provider state target { parameterHook := .callable hook }).2.result =
      (scaffold settings provider state target).2.result := by
  have hhook : HandsOver (some hook) fun _ name => name := fun doc name => h name doc
  have hnone : HandsOver none fun _ name => name := fun _ _ => rfl
  have halike := endAlike_scaffoldCustom settings provider state target {} hhook hnone
  rw [← scaffoldCustom_empty]
  refine halike.eq fun w w' hw => ?_
  obtain ⟨d, _, hsame⟩ := hw
  exact hsame.eq fun name hne => hne rfl

theorem scaffoldCustom_postprocess (request : Options.Request) {hook : PostprocessHook}
    {text : String} (h : hook () = .ok (.text text)) :
    (scaffoldCustom settings provider state target
        { request with postprocessHook := .ofOption (some hook) }).2.result =
      (scaffoldCustom settings provider state target
        { request with postprocessHook := .ofOption none }).2.result.map
          fun w : Wrapper => { w with body := w.body ++ appended settings text } := by
  rw [result_scaffoldCustom, result_scaffoldCustom, Options.read_postprocessHook]
  cases hread : Options.Request.read { request with postprocessHook := .ofOption none } with
  | error e => rfl
  | ok options =>
    have hoptions : { options with postprocessHook := none } = options := by
      rw [← Options.postprocessHook_of_read hread]
    have hwrap := wrap_postprocess settings target h options (provider.describe state target).2
    rw [hoptions] at hwrap
    exact hwrap

theorem intercalate_linesOf (text : String) : "\n".intercalate (Text.linesOf text) = text := by
  rw [← String.toList_inj, String.toList_intercalate, Text.linesOf, List.map_map]
  have hid : String.toList ∘ String.ofList = id := funext fun _ => String.toList_ofList
  rw [hid, List.map_id]
  exact Text.unlines_lines text.toList

/-- Hooks change no more than what they are for. Two parameter hooks that give text, or none, make
runs that end alike, with wrappers that differ at most in the arguments of the parameters for which
the hooks differ; and the text after the call is added to the body. -/
theorem customisation_is_local (request : Options.Request) :
    (∀ hook hook' expression expression', HandsOver hook expression →
      HandsOver hook' expression' →
        EndAlike (fun w w' => ∃ d,
            described? (provider.describe state target).2.result = some d ∧
              SameBut d.names (fun name => expression d.block name ≠ expression' d.block name) w w')
          (scaffoldCustom settings provider state target
            { request with parameterHook := .ofOption hook }).2.result
          (scaffoldCustom settings provider state target
            { request with parameterHook := .ofOption hook' }).2.result) ∧
      scaffoldCustom settings provider state target {} =
        scaffold settings provider state target ∧
      (∀ hook : ParameterHook, (∀ name doc, hook name doc = .ok (.text name)) →
        (scaffoldCustom settings provider state target
            { parameterHook := .callable hook }).2.result =
          (scaffold settings provider state target).2.result) ∧
      ∀ (hook : PostprocessHook) (text : String), hook () = .ok (.text text) →
        (scaffoldCustom settings provider state target
            { request with postprocessHook := .callable hook }).2.result =
          (scaffoldCustom settings provider state target
            { request with postprocessHook := .absent }).2.result.map
              (fun w : Wrapper => { w with body := w.body ++ appended settings text }) ∧
        (appended settings text).map (unindented settings) = (Text.linesOf text).map emptied ∧
          "\n".intercalate (Text.linesOf text) = text := by
  refine ⟨fun hook hook' expression expression' hhook hhook' => ?_, ?_, fun hook hself => ?_,
    fun hook text htext => ⟨?_, ?_, ?_⟩⟩
  · exact endAlike_scaffoldCustom settings provider state target request hhook hhook'
  · exact scaffoldCustom_empty settings provider state target
  · exact scaffoldCustom_unchanged settings provider state target hself
  · exact scaffoldCustom_postprocess settings provider state target request htext
  · exact unindented_appended settings text
  · exact intercalate_linesOf text

def sumExpression (_ : DocBlock) (name : String) : String :=
  if name = "x" then "as.integer(x)" else name

def plainSumWrapper : Wrapper :=
  { sumWrapper with
    body := ["  python_function_result <- np$sum(", "    x = x,", "    `_by` = `_by`,", "    ...",
      "  )", "  python_function_result"] }

theorem customisation_is_local_sum :
    HandsOver (some sumHook) sumExpression ∧ HandsOver none (fun _ name => name) ∧
      (scaffoldCustom {} sumProvider () "np.sum" sumRequest).2.result = .ok sumWrapper ∧
      (scaffoldCustom {} sumProvider () "np.sum"
        { sumRequest with parameterHook := .absent }).2.result = .ok plainSumWrapper ∧
      SameBut sumDescription.names (fun name => sumExpression sumDescription.block name ≠ name)
        sumWrapper plainSumWrapper ∧
      (scaffoldCustom {} sumProvider () "np.sum"
          { parameterHook := .callable fun name _ => .ok (.text name) }).2.result =
        (scaffold {} sumProvider () "np.sum").2.result ∧
      .ok sumWrapper = (scaffoldCustom {} sumProvider () "np.sum"
        { sumRequest with postprocessHook := .absent }).2.result.map
          fun w : Wrapper =>
            { w with body := w.body ++ appended {} "python_function_result" } := by
  obtain ⟨halike, -, hunchanged, htext⟩ :=
    customisation_is_local {} sumProvider () "np.sum" sumRequest
  have hhook : HandsOver (some sumHook) sumExpression := by
    intro doc name
    simp only [Rendering.handedOver, sumHook, sumExpression]
  have hnone : HandsOver none fun _ name => name := fun _ _ => rfl
  have hcustom : (scaffoldCustom {} sumProvider () "np.sum" sumRequest).2.result =
      .ok sumWrapper := by decide +kernel
  have hplain : (scaffoldCustom {} sumProvider () "np.sum"
      { sumRequest with parameterHook := .absent }).2.result = .ok plainSumWrapper := by
    decide +kernel
  have hsame : SameBut sumDescription.names
      (fun name => sumExpression sumDescription.block name ≠ name) sumWrapper plainSumWrapper := by
    have hend := halike (some sumHook) none _ _ hhook hnone
    change EndAlike _ (scaffoldCustom {} sumProvider () "np.sum" sumRequest).2.result
      (scaffoldCustom {} sumProvider () "np.sum"
        { sumRequest with parameterHook := .absent }).2.result at hend
    rw [hcustom, hplain] at hend
    cases hend with
    | returned h =>
      obtain ⟨d, hd, h⟩ := h
      cases hd
      exact h
  refine ⟨hhook, hnone, hcustom, hplain, hsame, hunchanged _ fun _ _ => rfl, ?_⟩
  rw [← hcustom]
  exact (htext (fun _ => .ok (.text "python_function_result")) _ rfl).1

end RBinding
