import RBinding.Proofs.Scaffold.Stages

/-!
# RBinding.Proofs.Scaffold.Events

What the stages of a run do beside the values they give. A property of events holds throughout a
stage if it holds of the few kinds of events that the stage can have (`Rendering.all_renderAll`,
`Scaffold.all_readDoc`, `Scaffold.all_postprocess`), and it goes over to sequences of steps
(`Traced.All.bind`). So the notes on repeated parameters come from two places only, the description
and the parameters that are dropped (`Scaffold.repetitions_wrap`), and what is told of a wrapper
comes at the very end (`Scaffold.announces_wrapDescribed`).
-/

namespace RBinding

def Note.isRepeatedParameter : Note → Bool
  | .repeatedParameter _ _ => true
  | _ => false

/-- The note tells neither of a wrapper nor of a parameter that is dropped. -/
def Note.isMinor (n : Note) : Bool :=
  n.level != .info && !n.isRepeatedParameter

namespace Event

/-- The event is a call that leaves the run. -/
def isCall : Event → Bool
  | .note _ => false
  | _ => true

/-- The event tells the user that something has been done. -/
def isInfo : Event → Bool
  | .note n => n.level = .info
  | _ => false

def isRepeatedParameter : Event → Bool
  | .note n => n.isRepeatedParameter
  | _ => false

end Event

namespace Traced

variable {α β : Type} {P : Event → Prop}

def All (P : Event → Prop) (t : Traced α) : Prop :=
  ∀ e ∈ t.events, P e

theorem All.bind {t : Traced α} {next : α → Traced β} (ht : t.All P)
    (h : ∀ a, (next a).All P) : (t >>= next).All P := by
  cases hr : t.result with
  | error e =>
    rw [bind_error hr]
    exact ht
  | ok a =>
    rw [bind_ok hr]
    intro e he
    rcases List.mem_append.mp he with he | he
    · exact ht e he
    · exact h a e he

theorem all_of_events_nil {t : Traced α} (h : t.events = []) : t.All P := by
  simp [All, h]

theorem all_event {e : Event} (h : P e) : (event e).All P := by
  simpa [All, event] using h

theorem all_notes {ns : List Note} (h : ∀ n ∈ ns, P (.note n)) : (notes ns).All P := by
  simpa [All, notes] using h

def repetitions (t : Traced α) : List Note :=
  t.log.filter Note.isRepeatedParameter

theorem log_bind_ok {t : Traced α} {a : α} (h : t.result = .ok a) (next : α → Traced β) :
    (t >>= next).log = t.log ++ (next a).log := by
  simp [bind_ok h, log]

theorem log_notes (ns : List Note) : (notes ns).log = ns := by
  rw [log, notes, List.filterMap_map]
  exact List.filterMap_some

theorem filter_log_eq_nil {p : Note → Bool} {t : Traced α}
    (h : t.All fun e => ∀ n, e.note? = some n → p n = false) : t.log.filter p = [] := by
  rw [List.filter_eq_nil_iff]
  intro n hn
  obtain ⟨e, he, hnote⟩ := List.mem_filterMap.mp hn
  exact Bool.eq_false_iff.mp (h e he n hnote)

theorem repetitions_eq_nil {t : Traced α} (h : t.All (·.isRepeatedParameter = false)) :
    t.repetitions = [] := by
  refine filter_log_eq_nil fun e he n hn => ?_
  cases e <;> cases hn
  exact h _ he

end Traced

namespace Rendering

variable {P : Event → Prop}

theorem all_renderOne (hcall : ∀ name, P (.parameterHook name))
    (hnote : ∀ name expression, P (.note (.replaced name expression)))
    (hook : Option ParameterHook) (doc : DocBlock) (name : String) :
    (renderOne hook doc name).All P := by
  cases hook with
  | none => exact Traced.all_of_events_nil rfl
  | some hook =>
    refine (Traced.all_event (hcall name)).bind fun _ =>
      (Traced.all_of_events_nil rfl).bind fun v => ?_
    cases v with
    | text s =>
      refine (Traced.all_notes fun n hn => ?_).bind fun _ => Traced.all_of_events_nil rfl
      rw [replacementNotes] at hn
      split at hn
      · cases hn
      · rw [List.mem_singleton.mp hn]
        exact hnote _ _
    | _ => exact Traced.all_of_events_nil rfl

theorem all_renderAll (hcall : ∀ name, P (.parameterHook name))
    (hnote : ∀ name expression, P (.note (.replaced name expression)))
    (hook : Option ParameterHook) (doc : DocBlock) (parameters : List Parameter) :
    (renderAll hook doc parameters).All P := by
  induction parameters with
  | nil => exact Traced.all_of_events_nil rfl
  | cons p ps ih =>
    exact (all_renderOne hcall hnote hook doc p.name).bind fun _ =>
      ih.bind fun _ => Traced.all_of_events_nil rfl

end Rendering

namespace Scaffold

variable {settings : Settings} {target : String} {options : Options}
  {description : Traced Description} {P : Event → Prop}

theorem all_readDoc (hnote : ∀ n : Note, n.isMinor = true → P (.note n)) (target : String)
    (parameters : List Parameter) (raw : Option String) :
    (readDoc target parameters raw).All P := by
  refine (Traced.all_notes fun n hn => ?_).bind fun _ => (Traced.all_notes fun n hn => ?_).bind
    fun _ => Traced.all_of_events_nil rfl
  · obtain ⟨name, _, rfl⟩ := List.mem_map.mp hn
    exact hnote _ rfl
  · rw [coverageNotes, List.mem_append] at hn
    rcases hn with hn | hn
    · split at hn
      · rw [List.mem_singleton.mp hn]
        exact hnote _ rfl
      · obtain ⟨finding, _, rfl⟩ := List.mem_map.mp hn
        exact hnote _ rfl
    · rw [List.mem_singleton.mp hn]
      exact hnote _ rfl

theorem all_postprocess (hcall : P .postprocessHook) (hook : Option PostprocessHook) :
    (postprocess hook).All P := by
  cases hook with
  | none => exact Traced.all_of_events_nil rfl
  | some hook =>
    refine (Traced.all_event hcall).bind fun _ => (Traced.all_of_events_nil rfl).bind fun v => ?_
    cases v <;> exact Traced.all_of_events_nil rfl

theorem events_assemble (settings : Settings) (a : Assembly) :
    (assemble settings a).events = [] := by
  rw [assemble]
  split <;> rfl

/-- The stages after the documentation has been read; the hooks are called in them. -/
def completion (settings : Settings) (target : String) (options : Options) (d : Described) :
    Traced Wrapper := do
  let rendered ← Rendering.renderAll options.parameterHook d.block d.kept
  let text ← postprocess options.postprocessHook
  let w ← assemble settings (assembly target options d rendered text)
  Traced.note (.scaffolded (wrapperName target options) target d.kept.length)
  pure w

theorem wrapDescribed_eq (settings : Settings) (target : String) (options : Options)
    (d : Described) :
    wrapDescribed settings target options d = (do
      Traced.notes (d.dropped.map fun p => .repeatedParameter target p.name)
      let _ ← readDoc target d.kept d.doc
      completion settings target options d) := by
  have hread : (readDoc target d.kept d.doc).result = .ok d.block := rfl
  rw [Traced.bind_ok rfl, Traced.bind_ok hread]
  change (Traced.notes _ >>= fun _ => readDoc target d.kept d.doc >>= _) = _
  rw [Traced.bind_ok rfl, Traced.bind_ok hread]
  rfl

theorem log_readDoc (target : String) (parameters : List Parameter) (raw : Option String) :
    (readDoc target parameters raw).log =
      (Docstring.read raw (parameters.map (·.name)) (aliasTable parameters)).repeated.map
          .repeatedEntry ++
        coverageNotes target parameters
          (Docstring.read raw (parameters.map (·.name)) (aliasTable parameters)).block := by
  rw [readDoc, Traced.log_bind_ok rfl, Traced.log_bind_ok rfl, Traced.log_notes, Traced.log_notes]
  exact congrArg _ (List.append_nil _)

/-- The log of a run whose target has been described, stage by stage. -/
theorem log_wrap {d : Described} (hd : (orWithoutSignature target description).result = .ok d) :
    (wrap settings target options description).log =
      .describing target :: ((orWithoutSignature target description).log ++
        ((d.dropped.map fun p => .repeatedParameter target p.name) ++
          ((readDoc target d.kept d.doc).log ++ (completion settings target options d).log))) := by
  rw [wrap, Traced.log_bind_ok rfl, Traced.log_bind_ok rfl, Traced.log_bind_ok hd,
    wrapDescribed_eq, Traced.log_bind_ok rfl, Traced.log_bind_ok rfl, Traced.log_notes]
  rfl

/-- The notes of one kind in the log of a run come from the description and the parameters that are
dropped, if the other stages have none of them. -/
theorem filter_log_wrap {p : Note → Bool} {d : Described}
    (hd : (orWithoutSignature target description).result = .ok d)
    (hdescribing : p (.describing target) = false)
    (hread : (readDoc target d.kept d.doc).log.filter p = [])
    (hcompletion : (completion settings target options d).log.filter p = []) :
    (wrap settings target options description).log.filter p =
      (orWithoutSignature target description).log.filter p ++
        (d.dropped.map fun parameter => .repeatedParameter target parameter.name).filter p := by
  rw [log_wrap hd, List.filter_cons_of_neg (by rw [hdescribing]; exact Bool.false_ne_true),
    List.filter_append, List.filter_append, List.filter_append, hread, hcompletion, List.append_nil,
    List.append_nil]

theorem repetitions_completion (d : Described) :
    (completion settings target options d).repetitions = [] := by
  refine Traced.repetitions_eq_nil ?_
  refine (Rendering.all_renderAll (fun _ => rfl) (fun _ _ => rfl) _ _ _).bind fun _ => ?_
  refine .bind (all_postprocess (by rfl) _) fun _ => ?_
  refine .bind (Traced.all_of_events_nil (events_assemble _ _)) fun _ => ?_
  exact .bind (Traced.all_event (by rfl)) fun _ => Traced.all_of_events_nil rfl

theorem repetitions_wrap {parameters : List Parameter} {raw : Option String}
    (h : description.result = .ok ⟨parameters, raw⟩) :
    (wrap settings target options description).repetitions =
      description.repetitions ++
        (dedupe [] parameters).2.map fun p => .repeatedParameter target p.name := by
  have hd : orWithoutSignature target description =
      ⟨description.events, .ok ⟨parameters, raw, []⟩⟩ := by
    rw [orWithoutSignature, h]
  have hminor : ∀ n : Note, n.isMinor = true → (Event.note n).isRepeatedParameter = false := by
    intro n hn
    rw [Note.isMinor, Bool.and_eq_true, Bool.not_eq_true'] at hn
    exact hn.2
  have hread := Traced.repetitions_eq_nil (all_readDoc hminor target
    (dedupe [] parameters).1 raw)
  rw [Traced.repetitions,
    filter_log_wrap (congrArg Traced.result hd) rfl hread (repetitions_completion _), hd]
  refine congrArg _ (List.filter_eq_self.mpr fun n hn => ?_)
  obtain ⟨p, -, rfl⟩ := List.mem_map.mp hn
  rfl

/-- What is told of a wrapper comes last, and nothing is told if there is none. -/
structure Announces (target : String) (parameters : Nat) (t : Traced Wrapper) : Prop where
  failed : ∀ e, t.result = .error e → t.All (·.isInfo = false)
  returned : ∀ w, t.result = .ok w → ∃ before : List Event,
    t.events = before ++ [.note (.scaffolded w.name target parameters)] ∧
      ∀ e ∈ before, e.isInfo = false

theorem Announces.bind {α : Type} {t : Traced α} {next : α → Traced Wrapper} {n : Nat}
    (ht : t.All (·.isInfo = false)) (h : ∀ a, Announces target n (next a)) :
    Announces target n (t >>= next) := by
  cases hr : t.result with
  | error e =>
    rw [Traced.bind_error hr]
    exact ⟨fun _ _ => ht, fun w hw => nomatch hw⟩
  | ok a =>
    rw [Traced.bind_ok hr]
    refine ⟨fun e he => ?_, fun w hw => ?_⟩
    · intro x hx
      rcases List.mem_append.mp hx with hx | hx
      · exact ht x hx
      · exact (h a).failed e he x hx
    · obtain ⟨before, hevents, hquiet⟩ := (h a).returned w hw
      refine ⟨t.events ++ before, by simp [hevents], fun x hx => ?_⟩
      rcases List.mem_append.mp hx with hx | hx
      · exact ht x hx
      · exact hquiet x hx

theorem announces_completion (d : Described) :
    Announces target d.kept.length (completion settings target options d) := by
  refine .bind (Rendering.all_renderAll (fun _ => rfl) (fun _ _ => rfl) _ _ _) fun rendered =>
    .bind (all_postprocess (by rfl) _) fun text => ?_
  cases ha : (assemble settings (assembly target options d rendered text)).result with
  | error e =>
    rw [Traced.bind_error ha]
    exact ⟨fun _ _ => Traced.all_of_events_nil (events_assemble _ _), fun w hw => nomatch hw⟩
  | ok w =>
    rw [Traced.bind_ok ha, events_assemble]
    refine ⟨fun e he => (nomatch he), fun w' hw => ⟨[], ?_, by simp⟩⟩
    cases hw
    rw [toWrapper_ok (assemble_ok ha)]
    rfl

theorem announces_wrapDescribed (d : Described) :
    Announces target d.kept.length (wrapDescribed settings target options d) := by
  rw [wrapDescribed_eq]
  refine .bind (Traced.all_notes fun n hn => ?_) fun _ =>
    .bind (all_readDoc (fun n hn => ?_) _ _ _) fun _ => announces_completion d
  · obtain ⟨p, _, rfl⟩ := List.mem_map.mp hn
    rfl
  · rw [Note.isMinor, Bool.and_eq_true, bne_iff_ne] at hn
    simpa [Event.isInfo] using hn.1

end Scaffold

end RBinding
