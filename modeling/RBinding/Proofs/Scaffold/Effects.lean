import RBinding.Proofs.Scaffold.Alignment

/-!
# RBinding.Proofs.Scaffold.Effects

The effects of a run and their order. A run reaches outside by calls: it asks for the description of
the target, it calls the parameter hook for the declared names one after the other, and it calls the
hook for the text after the call. The first failure ends the run, and what was done until then is
all that was done.

`InOrder` says it of a run that goes on with a description (`inOrder_wrapDescribed`), `Orderly` of
any run (`orderly_wrap`).
-/

namespace RBinding

/-- What is wrong with what a hook gave: it failed, or it gave something other than text. -/
def noText? (given : Except Failure Value) (complaint : String → Failure) : Option Failure :=
  match given with
  | .error e => some e
  | .ok (.text _) => none
  | .ok v => some (complaint v.typeName)

namespace Traced

variable {α β : Type}

/-- The calls that leave the run, in order. -/
def calls (t : Traced α) : List Event :=
  t.events.filter Event.isCall

theorem calls_bind_ok {t : Traced α} {a : α} (h : t.result = .ok a) (next : α → Traced β) :
    (t >>= next).calls = t.calls ++ (next a).calls := by
  simp [bind_ok h, calls]

theorem calls_bind_error {t : Traced α} {e : Failure} (h : t.result = .error e)
    (next : α → Traced β) : (t >>= next).calls = t.calls := by
  simp [bind_error h, calls]

theorem calls_bind_nil {t : Traced α} {next : α → Traced β} (h : ∀ a, (next a).calls = []) :
    (t >>= next).calls = t.calls := by
  cases ht : t.result with
  | error e => rw [calls_bind_error ht]
  | ok a => rw [calls_bind_ok ht, h, List.append_nil]

theorem calls_eq_nil {t : Traced α} (h : t.All (·.isCall = false)) : t.calls = [] := by
  rw [calls, List.filter_eq_nil_iff]
  intro e he
  simp [h e he]

@[simp] theorem calls_notes (ns : List Note) : (notes ns).calls = [] :=
  calls_eq_nil (all_notes fun _ _ => rfl)

@[simp] theorem calls_event (e : Event) : (event e).calls = if e.isCall then [e] else [] := by
  cases h : e.isCall <;> simp [calls, event, h]

@[simp] theorem calls_ofExcept (r : Except Failure α) : (ofExcept r).calls = [] := rfl

@[simp] theorem calls_pure (a : α) : (Pure.pure a : Traced α).calls = [] := rfl

@[simp] theorem calls_fail (e : Failure) : (fail e : Traced α).calls = [] := rfl

end Traced

namespace Rendering

def failure? (hook : Option ParameterHook) (doc : DocBlock) (name : String) : Option Failure :=
  hook.bind fun hook => noText? (hook name doc) (.parameterHookResult · name)

def fails (hook : Option ParameterHook) (doc : DocBlock) (name : String) : Bool :=
  (failure? hook doc name).isSome

/-- The names for which the hook is called: up to the first at which it fails. -/
def called (hook : Option ParameterHook) (doc : DocBlock) (names : List String) : List String :=
  if hook.isNone then [] else names.take (names.findIdx (fails hook doc) + 1)

theorem calls_renderOne (hook : Option ParameterHook) (doc : DocBlock) (name : String) :
    (renderOne hook doc name).calls = if hook.isNone then [] else [.parameterHook name] := by
  cases hook with
  | none => rfl
  | some hook =>
    rw [renderOne, renderWith, Traced.calls_bind_ok rfl]
    cases hv : hook name doc with
    | error e => simp [Traced.calls_bind_error (t := Traced.ofExcept (.error e)) rfl, Event.isCall]
    | ok v =>
      rw [Traced.calls_bind_ok (t := Traced.ofExcept (.ok v)) rfl]
      cases v with
      | text s => simp [Traced.calls_bind_ok (t := Traced.notes _) rfl, Event.isCall]
      | _ => simp [Event.isCall]

theorem renderOne_of_failure {hook : Option ParameterHook} {doc : DocBlock} {name : String}
    {e : Failure} (h : failure? hook doc name = some e) :
    (renderOne hook doc name).result = .error e := by
  cases hook with
  | none => cases h
  | some hook =>
    rw [renderOne, renderWith, Traced.result_bind, Traced.result_bind]
    simp only [failure?, Option.bind_some] at h
    cases hv : hook name doc with
    | error e' =>
      rw [hv] at h
      cases h
      rfl
    | ok v =>
      rw [hv] at h
      cases v <;> cases h <;> rfl

theorem renderOne_of_no_failure {hook : Option ParameterHook} {doc : DocBlock} {name : String}
    (h : failure? hook doc name = none) :
    (renderOne hook doc name).result = .ok ⟨name, expressionOf hook doc name⟩ := by
  cases hook with
  | none => rfl
  | some hook =>
    simp only [failure?, Option.bind_some] at h
    rw [renderOne, renderWith, Traced.result_bind, Traced.result_bind]
    cases hv : hook name doc with
    | error e =>
      rw [hv] at h
      cases h
    | ok v =>
      rw [hv] at h
      cases v <;> simp [noText?] at h
      rw [expressionOf, handedOver, hv]
      rfl

theorem called_cons_of_failure {hook : Option ParameterHook} {doc : DocBlock} {name : String}
    {e : Failure} (h : failure? hook doc name = some e) (names : List String) :
    called hook doc (name :: names) = [name] := by
  cases hook with
  | none => cases h
  | some hook => simp [called, fails, h, List.findIdx_cons]

theorem called_cons_of_no_failure {hook : Option ParameterHook} {doc : DocBlock} {name : String}
    (h : failure? hook doc name = none) (names : List String) :
    called hook doc (name :: names) =
      (if hook.isNone then [] else [name]) ++ called hook doc names := by
  cases hook with
  | none => rfl
  | some hook => simp [called, fails, h, List.findIdx_cons]

theorem calls_renderAll (hook : Option ParameterHook) (doc : DocBlock)
    (parameters : List Parameter) :
    (renderAll hook doc parameters).calls =
      (called hook doc (parameters.map (·.name))).map .parameterHook := by
  induction parameters with
  | nil => cases hook <;> rfl
  | cons p ps ih =>
    rw [renderAll, List.map_cons]
    cases hf : failure? hook doc p.name with
    | some e =>
      rw [Traced.calls_bind_error (renderOne_of_failure hf), calls_renderOne,
        called_cons_of_failure hf]
      cases hook with
      | none => cases hf
      | some hook => rfl
    | none =>
      rw [Traced.calls_bind_ok (renderOne_of_no_failure hf), calls_renderOne,
        called_cons_of_no_failure hf, List.map_append, ← ih, Traced.calls_bind_nil fun _ => rfl]
      cases hook <;> rfl

theorem renderAll_of_failure {hook : Option ParameterHook} {doc : DocBlock}
    {parameters : List Parameter} {e : Failure}
    (h : (parameters.map (·.name)).findSome? (failure? hook doc) = some e) :
    (renderAll hook doc parameters).result = .error e := by
  induction parameters with
  | nil => cases h
  | cons p ps ih =>
    rw [List.map_cons, List.findSome?_cons] at h
    rw [renderAll, Traced.result_bind]
    cases hf : failure? hook doc p.name with
    | some e' =>
      rw [hf] at h
      cases h
      rw [renderOne_of_failure hf]
      rfl
    | none =>
      rw [hf] at h
      simp [renderOne_of_no_failure hf, Except.bind, Traced.result_bind, ih h]

theorem renderAll_of_no_failure {hook : Option ParameterHook} {doc : DocBlock}
    {parameters : List Parameter}
    (h : (parameters.map (·.name)).findSome? (failure? hook doc) = none) :
    (renderAll hook doc parameters).result =
      .ok ((parameters.map (·.name)).map fun name => ⟨name, expressionOf hook doc name⟩) := by
  induction parameters with
  | nil => rfl
  | cons p ps ih =>
    rw [List.map_cons, List.findSome?_cons] at h
    cases hf : failure? hook doc p.name with
    | some e =>
      rw [hf] at h
      cases h
    | none =>
      rw [hf] at h
      rw [renderAll, Traced.result_bind, renderOne_of_no_failure hf]
      simp [Except.bind, Traced.result_bind, ih h]
      rfl

end Rendering

namespace Description

def names (d : Description) : List String :=
  Scaffold.declaredNames d.parameters

def block (d : Description) : DocBlock :=
  Scaffold.readBlock d.parameters d.doc

end Description

namespace Scaffold

variable {settings : Settings} {target : String} {options : Options}
  {description : Traced Description}

def postprocessFailure? (hook : Option PostprocessHook) : Option Failure :=
  hook.bind fun hook => noText? (hook ()) .postprocessHookResult

theorem calls_postprocess (hook : Option PostprocessHook) :
    (postprocess hook).calls = if hook.isNone then [] else [.postprocessHook] := by
  cases hook with
  | none => rfl
  | some hook =>
    rw [postprocess, Traced.calls_bind_nil fun _ => Traced.calls_bind_nil fun v => by
      cases v <;> rfl]
    rfl

theorem postprocess_of_failure {hook : Option PostprocessHook} {e : Failure}
    (h : postprocessFailure? hook = some e) : (postprocess hook).result = .error e := by
  cases hook with
  | none => cases h
  | some hook =>
    simp only [postprocessFailure?, Option.bind_some] at h
    rw [postprocess, Traced.result_bind, Traced.result_bind]
    cases hv : hook () with
    | error e' =>
      rw [hv] at h
      cases h
      rfl
    | ok v =>
      rw [hv] at h
      cases v <;> cases h <;> rfl

theorem postprocess_of_no_failure {hook : Option PostprocessHook}
    (h : postprocessFailure? hook = none) : ∃ text, (postprocess hook).result = .ok text := by
  cases hook with
  | none => exact ⟨none, rfl⟩
  | some hook =>
    simp only [postprocessFailure?, Option.bind_some] at h
    rw [postprocess, Traced.result_bind, Traced.result_bind]
    cases hv : hook () with
    | error e =>
      rw [hv] at h
      cases h
    | ok v =>
      rw [hv] at h
      cases v <;> simp [noText?] at h
      exact ⟨some _, rfl⟩

theorem calls_wrapDescribed (d : Described) :
    (wrapDescribed settings target options d).calls =
      (completion settings target options d).calls := by
  have hread : (readDoc target d.kept d.doc).result = .ok d.block := rfl
  have hnone : (readDoc target d.kept d.doc).calls = [] :=
    Traced.calls_eq_nil (all_readDoc (fun _ _ => rfl) _ _ _)
  rw [wrapDescribed_eq, Traced.calls_bind_ok rfl, Traced.calls_bind_ok hread, hnone,
    Traced.calls_notes]
  rfl

theorem calls_assembled (a : Assembly) (n : Note) :
    (assemble settings a >>= fun w => Traced.note n >>= fun _ => Pure.pure w).calls = [] := by
  rw [Traced.calls_bind_nil fun _ => rfl]
  exact Traced.calls_eq_nil (Traced.all_of_events_nil (events_assemble _ _))

theorem calls_completion (d : Described) :
    (completion settings target options d).calls =
      (Rendering.renderAll options.parameterHook d.block d.kept).calls ++
        if (Rendering.renderAll options.parameterHook d.block d.kept).result.isOk then
          (postprocess options.postprocessHook).calls else [] := by
  cases hr : (Rendering.renderAll options.parameterHook d.block d.kept).result with
  | error e =>
    rw [completion, Traced.calls_bind_error hr]
    exact (List.append_nil _).symm
  | ok rendered =>
    rw [completion, Traced.calls_bind_ok hr, Traced.calls_bind_nil fun _ => calls_assembled _ _]
    rfl

/-- What a run goes on with after its request for a description: the description, or without a
signature the documentation alone. -/
def described? : Except Failure Description → Option Description
  | .ok d => some d
  | .error (.signatureUnavailable _ _ doc) => some ⟨[], doc⟩
  | .error _ => none

/-- The effects of a run that goes on with parameters of these names and this documentation. -/
structure InOrder (settings : Settings) (target : String) (options : Options)
    (names : List String) (doc : DocBlock) (rest : Traced Wrapper) : Prop where
  calls : rest.calls =
    (Rendering.called options.parameterHook doc names).map .parameterHook ++
      if names.any (Rendering.fails options.parameterHook doc) || options.postprocessHook.isNone
      then [] else [.postprocessHook]
  parameterFails : ∀ e, names.findSome? (Rendering.failure? options.parameterHook doc) = some e →
    rest.result = .error e
  postprocessFails : names.findSome? (Rendering.failure? options.parameterHook doc) = none →
    ∀ e, postprocessFailure? options.postprocessHook = some e → rest.result = .error e
  /-- Beside the calls only an indentation that cannot be written keeps a run from its end. -/
  returns : (∃ w, rest.result = .ok w) ↔
    names.findSome? (Rendering.failure? options.parameterHook doc) = none ∧
      postprocessFailure? options.postprocessHook = none ∧ settings.badWidth? = none
  announces : Announces target names.length rest

/-- The effects of a run on a target whose description was `description`. -/
structure Orderly (settings : Settings) (target : String) (options : Options)
    (description : Traced Description) (run : Traced Wrapper) : Prop where
  stopped : ∀ e, description.result = .error e → described? description.result = none →
    run = ⟨[.note (.describing target), .described target] ++ description.events, .error e⟩
  goesOn : ∀ d, described? description.result = some d → ∃ rest : Traced Wrapper,
    run = ⟨[.note (.describing target), .described target] ++ description.events ++ rest.events,
      rest.result⟩ ∧
    InOrder settings target options d.names d.block rest

theorem result_assemble {a : Assembly} (h : a.parameters.length = a.rendered.length) :
    (∃ w, (assemble settings a).result = .ok w) ↔ settings.badWidth? = none := by
  rw [assemble_eq h]
  cases settings.badWidth? <;> simp

theorem any_fails_iff {hook : Option ParameterHook} {doc : DocBlock} {names : List String} :
    names.any (Rendering.fails hook doc) = true ↔
      ∃ e, names.findSome? (Rendering.failure? hook doc) = some e := by
  rw [← Option.isSome_iff_exists, List.findSome?_isSome_iff, List.any_eq_true]
  rfl

theorem inOrder_wrapDescribed (settings : Settings) (target : String) (options : Options)
    (d : Described) :
    InOrder settings target options (d.kept.map (·.name)) d.block
      (wrapDescribed settings target options d) := by
  have hresult := result_wrapDescribed settings target options d
  constructor
  · rw [calls_wrapDescribed, calls_completion, Rendering.calls_renderAll, calls_postprocess]
    refine congrArg (_ ++ ·) ?_
    cases hf : (d.kept.map (·.name)).findSome?
        (Rendering.failure? options.parameterHook d.block) with
    | some e =>
      rw [Rendering.renderAll_of_failure hf, any_fails_iff.mpr ⟨e, hf⟩]
      rfl
    | none =>
      have hany : (d.kept.map (·.name)).any (Rendering.fails options.parameterHook d.block) =
          false := by
        rw [Bool.eq_false_iff, ne_eq, any_fails_iff, hf]
        simp
      rw [Rendering.renderAll_of_no_failure hf, hany]
      rfl
  · intro e he
    rw [hresult, Rendering.renderAll_of_failure he]
    rfl
  · intro h e he
    rw [hresult, Rendering.renderAll_of_no_failure h, Except.bind, postprocess_of_failure he]
    rfl
  · cases hf : (d.kept.map (·.name)).findSome?
        (Rendering.failure? options.parameterHook d.block) with
    | some e => simp [hresult, Rendering.renderAll_of_failure hf, Except.bind]
    | none =>
      rw [hresult, Rendering.renderAll_of_no_failure hf, Except.bind]
      cases hp : postprocessFailure? options.postprocessHook with
      | some e => simp [postprocess_of_failure hp, Except.bind]
      | none =>
        obtain ⟨text, htext⟩ := postprocess_of_no_failure hp
        rw [htext, Except.bind, result_assemble (by simp [assembly])]
        simp
  · rw [List.length_map]
    exact announces_wrapDescribed d

theorem InOrder.note {names : List String} {doc : DocBlock} {rest : Traced Wrapper} {n : Note}
    (hn : n.level ≠ .info) (h : InOrder settings target options names doc rest) :
    InOrder settings target options names doc ⟨.note n :: rest.events, rest.result⟩ where
  calls := by
    rw [← h.calls]
    simp [Traced.calls, Event.isCall]
  parameterFails := h.parameterFails
  postprocessFails := h.postprocessFails
  returns := h.returns
  announces := by
    have hquiet : (Traced.note n).All (·.isInfo = false) :=
      Traced.all_event (by simpa [Event.isInfo] using hn)
    exact Announces.bind hquiet fun _ => h.announces

theorem inOrder_described (parameters : List Parameter) (raw : Option String)
    (warnings : List String) :
    InOrder settings target options (Description.names ⟨parameters, raw⟩)
      (Description.block ⟨parameters, raw⟩)
      (wrapDescribed settings target options ⟨parameters, raw, warnings⟩) := by
  have h := inOrder_wrapDescribed settings target options ⟨parameters, raw, warnings⟩
  have hnames : (Described.kept ⟨parameters, raw, warnings⟩).map (·.name) =
      Description.names ⟨parameters, raw⟩ := map_name_kept parameters
  rw [hnames, block_eq] at h
  exact h

theorem wrap_eq (settings : Settings) (target : String) (options : Options)
    (description : Traced Description) :
    wrap settings target options description =
      ⟨[.note (.describing target), .described target] ++
          (orWithoutSignature target description >>= wrapDescribed settings target options).events,
        (orWithoutSignature target description >>=
          wrapDescribed settings target options).result⟩ := rfl

theorem orderly_wrap (settings : Settings) (target : String) (options : Options)
    (description : Traced Description) :
    Orderly settings target options description (wrap settings target options description) := by
  rw [wrap_eq]
  cases hr : description.result with
  | ok d =>
    refine ⟨fun e he => by simp [hr] at he, fun d' hd => ?_⟩
    rw [hr] at hd
    cases hd
    have hd : orWithoutSignature target description =
        ⟨description.events, .ok ⟨d.parameters, d.doc, []⟩⟩ := by rw [orWithoutSignature, hr]
    rw [Traced.bind_ok (congrArg Traced.result hd), hd]
    exact ⟨_, by rw [List.append_assoc], inOrder_described d.parameters d.doc []⟩
  | error e =>
    cases e with
    | signatureUnavailable reason of doc =>
      refine ⟨fun e he hnone => by simp [hr, described?] at hnone, fun d' hd => ?_⟩
      rw [hr] at hd
      cases hd
      have hd : orWithoutSignature target description =
          ⟨description.events ++ [.note (.withoutSignature target reason.message)],
            .ok ⟨[], doc, [signatureWarning target]⟩⟩ := by rw [orWithoutSignature, hr]
      have hrest : InOrder settings target options (Description.names ⟨[], doc⟩)
          (Description.block ⟨[], doc⟩)
          (wrapDescribed settings target options ⟨[], doc, [signatureWarning target]⟩) :=
        inOrder_described _ _ _
      rw [Traced.bind_ok (congrArg Traced.result hd), hd]
      refine ⟨_, ?_, hrest.note (n := .withoutSignature target reason.message) ?_⟩
      · simp
      · simp [Note.level]
    | _ =>
      refine ⟨fun e he _ => ?_, fun d' hd => by simp [hr, described?] at hd⟩
      rw [hr] at he
      cases he
      rw [Traced.bind_error (by rw [orWithoutSignature, hr]), orWithoutSignature, hr]

end Scaffold

open Scaffold

/-- Options that are not in order stop a run before anything is done. Otherwise the target is
described once and the effects follow in order. -/
theorem effects_in_order (settings : Settings) {S : Type} (provider : Provider S) (state : S)
    (target : String) (request : Options.Request)
    (htags : request.extraTags = .null ∨ ∃ es, request.extraTags = .dict es) :
    (scaffold settings provider state target).1 = (provider.describe state target).1 ∧
      Orderly settings target {} (provider.describe state target).2
        (scaffold settings provider state target).2 ∧
      (∀ e, request.read = .error e →
        (∃ issues, e = .invalidOptions issues) ∧
          scaffoldCustom settings provider state target request = (state, ⟨[], .error e⟩)) ∧
      ∀ options, request.read = .ok options →
        (scaffoldCustom settings provider state target request).1 =
            (provider.describe state target).1 ∧
          Orderly settings target options (provider.describe state target).2
            (scaffoldCustom settings provider state target request).2 := by
  refine ⟨rfl, orderly_wrap _ _ _ _, fun e hread => ⟨?_, ?_⟩, fun options hread => ?_⟩
  · have htable : ∃ tags, Options.tagEntries request.extraTags = .ok tags := by
      rcases htags with h | ⟨es, h⟩
      · exact ⟨_, by rw [h]; rfl⟩
      · rw [h, Options.tagEntries]
        split <;> exact ⟨_, rfl⟩
    obtain ⟨tags, htags⟩ := htable
    rw [Options.Request.read, htags] at hread
    dsimp only at hread
    split at hread
    · cases hread
      exact ⟨_, rfl⟩
    · cases hread
  · rw [scaffoldCustom, hread]
    rfl
  · rw [scaffoldCustom, hread]
    exact ⟨rfl, orderly_wrap _ _ _ _⟩

def choosyHook (name : String) (_ : DocBlock) : Except Failure Value :=
  if name = "x" then .ok (.text "as.integer(x)") else .ok (.integer 1)

def choosyRequest : Options.Request where
  parameterHook := .callable choosyHook
  postprocessHook := .callable fun _ => .ok (.text "python_function_result")

def choosyOptions : Options where
  parameterHook := some choosyHook
  postprocessHook := some fun _ => .ok (.text "python_function_result")

theorem effects_in_order_sum :
    (∃ es, choosyRequest.extraTags = .dict es) ∧
      choosyRequest.read = .ok choosyOptions ∧
      (scaffoldCustom {} sumProvider () "np.sum" choosyRequest).2.calls =
        [.described "np.sum", .parameterHook "x", .parameterHook "_by"] ∧
      (scaffoldCustom {} sumProvider () "np.sum" choosyRequest).2.result =
        .error (.parameterHookResult "int" "_by") := by
  have hread : choosyRequest.read = .ok choosyOptions := rfl
  have horderly := (effects_in_order {} sumProvider () "np.sum" choosyRequest
    (.inr ⟨[], rfl⟩)).2.2.2 choosyOptions hread
  obtain ⟨rest, hrun, hrest⟩ := horderly.2.goesOn sumDescription rfl
  have hfailed := hrest.parameterFails (.parameterHookResult "int" "_by") (by decide)
  have hcalls : rest.calls = [.parameterHook "x", .parameterHook "_by"] :=
    hrest.calls.trans (by decide)
  refine ⟨⟨[], rfl⟩, hread, ?_, ?_⟩
  · rw [hrun, ← hcalls]
    rfl
  · rw [hrun]
    exact hfailed

end RBinding
