import Mathlib.Data.List.Basic
import RBinding.Scaffold

/-!
# RBinding.Proofs.Scaffold.Stages

A run opened into its stages. A run that gives a wrapper went through all of them, and the wrapper
is put together from what they gave (`exists_stages`, `assemble_eq`). Repeated parameters are
dropped first: of each name the first one is kept (`map_name_dedupe`, `find?_of_mem_dedupe`).
-/

namespace RBinding

namespace Traced

variable {α β : Type}

theorem result_bind (t : Traced α) (next : α → Traced β) :
    (t >>= next).result = t.result.bind fun a => (next a).result := by
  cases ht : t.result with
  | error e =>
    rw [bind_error ht]
    rfl
  | ok a =>
    rw [bind_ok ht]
    rfl

theorem exists_of_result_bind_ok {x : Except Failure α} {f : α → Except Failure β} {b : β}
    (h : x.bind f = .ok b) : ∃ a, x = .ok a ∧ f a = .ok b := by
  cases x with
  | error e => cases h
  | ok a => exact ⟨a, rfl, h⟩

theorem exists_of_bind_ok {t : Traced α} {next : α → Traced β} {b : β}
    (h : (t >>= next).result = .ok b) : ∃ a, t.result = .ok a ∧ (next a).result = .ok b := by
  rw [result_bind] at h
  exact exists_of_result_bind_ok h

end Traced

namespace Rendering

/-- The value that is handed over for a parameter: its name, unless a hook gives another. -/
def handedOver (hook : Option ParameterHook) (doc : DocBlock) (name : String) :
    Except Failure Value :=
  match hook with
  | none => .ok (.text name)
  | some hook => hook name doc

/-- The expression for a parameter; empty if the hook gives none. -/
def expressionOf (hook : Option ParameterHook) (doc : DocBlock) (name : String) : String :=
  match handedOver hook doc name with
  | .ok (.text expression) => expression
  | _ => ""

theorem expressionOf_eq {hook : Option ParameterHook} {doc : DocBlock} {name expression : String}
    (h : handedOver hook doc name = .ok (.text expression)) :
    expressionOf hook doc name = expression := by
  rw [expressionOf, h]

theorem renderOne_ok {hook : Option ParameterHook} {doc : DocBlock} {name : String} {r : Rendered}
    (h : (renderOne hook doc name).result = .ok r) :
    r.name = name ∧ handedOver hook doc name = .ok (.text r.expression) := by
  cases hook with
  | none =>
    cases h
    exact ⟨rfl, rfl⟩
  | some hook =>
    obtain ⟨_, _, h⟩ := Traced.exists_of_bind_ok h
    obtain ⟨v, hv, h⟩ := Traced.exists_of_bind_ok h
    cases v with
    | text expression =>
      obtain ⟨_, _, h⟩ := Traced.exists_of_bind_ok h
      cases h
      exact ⟨rfl, hv⟩
    | _ => cases h

theorem renderAll_ok {hook : Option ParameterHook} {doc : DocBlock} {parameters : List Parameter}
    {rendered : List Rendered} (h : (renderAll hook doc parameters).result = .ok rendered) :
    rendered.map (·.name) = parameters.map (·.name) ∧
      ∀ r ∈ rendered, handedOver hook doc r.name = .ok (.text r.expression) := by
  induction parameters generalizing rendered with
  | nil =>
    cases h
    exact ⟨rfl, fun r hr => nomatch hr⟩
  | cons p ps ih =>
    obtain ⟨r, hr, h⟩ := Traced.exists_of_bind_ok h
    obtain ⟨more, hmore, h⟩ := Traced.exists_of_bind_ok h
    cases h
    obtain ⟨hname, hexpression⟩ := renderOne_ok hr
    obtain ⟨hnames, hexpressions⟩ := ih hmore
    refine ⟨by rw [List.map_cons, List.map_cons, hname, hnames], fun r' hr' => ?_⟩
    rcases List.mem_cons.mp hr' with rfl | hr'
    · rw [hname]
      exact hexpression
    · exact hexpressions r' hr'

end Rendering

/-- The wrapper that is put together where nothing keeps it from being so. -/
def Assembly.complete (settings : Settings) (a : Assembly) : Wrapper where
  name := a.name
  target := a.target
  docLines := a.docLines
  header := header a.name a.parameters
  body := call settings a.target a.rendered ++ postprocessLines settings a.postprocess
  warnings := a.warnings

namespace Scaffold

namespace Described

def kept (d : Described) : List Parameter :=
  (dedupe [] d.parameters).1

def dropped (d : Described) : List Parameter :=
  (dedupe [] d.parameters).2

def block (d : Described) : DocBlock :=
  (Docstring.read d.doc (d.kept.map (·.name)) (aliasTable d.kept)).block

end Described

/-- What a wrapper is assembled from when the stages have given `rendered` and `text`. -/
def assembly (target : String) (options : Options) (d : Described) (rendered : List Rendered)
    (text : Option String) : Assembly where
  target := target
  name := wrapperName target options
  parameters := d.kept
  rendered := rendered
  doc := d.block
  postprocess := text
  extraTags := options.extraTags
  exported := options.exported
  warnings := d.warnings

variable {settings : Settings} {target : String} {options : Options}
  {description : Traced Description} {w : Wrapper}

theorem assemble_ok {a : Assembly} (h : (assemble settings a).result = .ok w) :
    a.toWrapper settings = .ok w := by
  rw [assemble] at h
  cases ha : a.toWrapper settings with
  | ok w' =>
    rw [ha] at h
    cases h
    rfl
  | error e =>
    rw [ha] at h
    cases h

/-- Beside an indentation that cannot be written nothing keeps a wrapper from being assembled. -/
theorem assemble_eq {a : Assembly} (h : a.parameters.length = a.rendered.length) :
    (assemble settings a).result =
      match settings.badWidth? with
      | some e => .error (.notAssembled (.badWidth e))
      | none => .ok (a.complete settings) := by
  have hfault : a.fault? settings = settings.badWidth?.map .badWidth := by
    simp [Assembly.fault?, h]
  rw [assemble, Assembly.toWrapper, hfault]
  cases settings.badWidth? <;> rfl

theorem result_wrapDescribed (settings : Settings) (target : String) (options : Options)
    (d : Described) :
    (wrapDescribed settings target options d).result =
      (Rendering.renderAll options.parameterHook d.block d.kept).result.bind fun rendered =>
        (postprocess options.postprocessHook).result.bind fun text =>
          (assemble settings (assembly target options d rendered text)).result := by
  simp only [wrapDescribed, Traced.result_bind]
  change Except.bind (Rendering.renderAll options.parameterHook d.block d.kept).result _ = _
  refine congrArg (Except.bind _) (funext fun rendered => ?_)
  refine congrArg (Except.bind _) (funext fun text => ?_)
  change Except.bind (assemble settings (assembly target options d rendered text)).result _ = _
  -- What is noted once the wrapper is there does not change it.
  cases (assemble settings (assembly target options d rendered text)).result <;> rfl

theorem result_wrap (settings : Settings) (target : String) (options : Options)
    (description : Traced Description) :
    (wrap settings target options description).result =
      (orWithoutSignature target description).result.bind fun d =>
        (wrapDescribed settings target options d).result := by
  simp only [wrap, Traced.result_bind]
  rfl

theorem result_wrap_of_tooManyDigits (h : description.result = .error .tooManyDigits) :
    (wrap settings target options description).result = .error .tooManyDigits := by
  have hd : (orWithoutSignature target description).result = .error .tooManyDigits := by
    rw [orWithoutSignature, h]
    rfl
  rw [result_wrap, hd]
  rfl

theorem exists_stages (h : (wrap settings target options description).result = .ok w) :
    ∃ d rendered text,
      (orWithoutSignature target description).result = .ok d ∧
      (Rendering.renderAll options.parameterHook d.block d.kept).result = .ok rendered ∧
      (postprocess options.postprocessHook).result = .ok text ∧
      (assembly target options d rendered text).toWrapper settings = .ok w := by
  rw [result_wrap] at h
  obtain ⟨d, hd, h⟩ := Traced.exists_of_result_bind_ok h
  rw [result_wrapDescribed] at h
  obtain ⟨rendered, hrendered, h⟩ := Traced.exists_of_result_bind_ok h
  obtain ⟨text, htext, h⟩ := Traced.exists_of_result_bind_ok h
  exact ⟨d, rendered, text, hd, hrendered, htext, assemble_ok h⟩

theorem toWrapper_ok {a : Assembly} (h : a.toWrapper settings = .ok w) :
    w = a.complete settings := by
  rw [Assembly.toWrapper] at h
  split at h
  · cases h
  · cases h
    rfl

theorem postprocess_ok {hook : Option PostprocessHook} {text : Option String}
    (h : (postprocess hook).result = .ok text) :
    (hook = none ∧ text = none) ∨
      ∃ hook' s, hook = some hook' ∧ hook' () = .ok (.text s) ∧ text = some s := by
  cases hook with
  | none =>
    cases h
    exact .inl ⟨rfl, rfl⟩
  | some hook =>
    obtain ⟨_, _, h⟩ := Traced.exists_of_bind_ok h
    obtain ⟨v, hv, h⟩ := Traced.exists_of_bind_ok h
    cases v with
    | text s =>
      cases h
      exact .inr ⟨hook, s, rfl, hv, rfl⟩
    | _ => cases h

theorem dedupe_cons_seen {seen : List String} {p : Parameter} (h : seen.contains p.name = true)
    (ps : List Parameter) :
    dedupe seen (p :: ps) = ((dedupe seen ps).1, p :: (dedupe seen ps).2) := by
  rw [dedupe, h]
  rfl

theorem dedupe_cons_new {seen : List String} {p : Parameter} (h : seen.contains p.name = false)
    (ps : List Parameter) :
    dedupe seen (p :: ps) =
      (p :: (dedupe (p.name :: seen) ps).1, (dedupe (p.name :: seen) ps).2) := by
  rw [dedupe, h]
  rfl

theorem map_name_dedupe (seen : List String) (parameters : List Parameter) :
    (dedupe seen parameters).1.map (·.name) =
      ((parameters.map (·.name)).filter (!seen.contains ·)).eraseDups := by
  induction parameters generalizing seen with
  | nil => rfl
  | cons p ps ih =>
    rw [List.map_cons]
    cases hseen : seen.contains p.name with
    | true =>
      rw [dedupe_cons_seen hseen, ih, List.filter_cons_of_neg]
      rw [hseen]
      exact Bool.false_ne_true
    | false =>
      have hpos : (!seen.contains p.name) = true := by rw [hseen]; rfl
      rw [dedupe_cons_new hseen, List.map_cons, ih, List.filter_cons, if_pos hpos,
        List.eraseDups_cons, List.filter_filter]
      refine congrArg (fun names => p.name :: names.eraseDups) (List.filter_congr fun n _ => ?_)
      rw [List.contains_cons, Bool.not_or]

theorem not_mem_dedupe {seen : List String} {name : String} (h : name ∈ seen)
    (parameters : List Parameter) : name ∉ (dedupe seen parameters).1.map (·.name) := by
  rw [map_name_dedupe, List.mem_eraseDups, List.mem_filter]
  rintro ⟨_, hnot⟩
  rw [List.contains_iff_mem.mpr h] at hnot
  cases hnot

theorem map_name_dropped (seen : List String) (parameters : List Parameter) :
    (dedupe seen parameters).2.map (·.name) =
      (parameters.map (·.name)).diff ((dedupe seen parameters).1.map (·.name)) := by
  induction parameters generalizing seen with
  | nil => rw [dedupe, List.map_nil, List.nil_diff]
  | cons p ps ih =>
    cases hseen : seen.contains p.name with
    | true =>
      have hnot := not_mem_dedupe (List.contains_iff_mem.mp hseen) ps
      rw [dedupe_cons_seen hseen, List.map_cons, List.map_cons, List.cons_diff_of_not_mem hnot, ih]
    | false =>
      rw [dedupe_cons_new hseen, List.map_cons, List.map_cons, List.diff_cons,
        List.erase_cons_head, ih]

/-- A parameter that is kept is the first of its name. -/
theorem find?_of_mem_dedupe {seen : List String} {parameters : List Parameter} {p : Parameter}
    (h : p ∈ (dedupe seen parameters).1) : parameters.find? (·.name == p.name) = some p := by
  induction parameters generalizing seen with
  | nil => cases h
  | cons q qs ih =>
    -- A parameter found further on has another name than the one at the front.
    have hskip : ∀ seen', q.name ∈ seen' → p ∈ (dedupe seen' qs).1 →
        (q :: qs).find? (·.name == p.name) = some p := by
      intro seen' hmem hp
      have hne : q.name ≠ p.name := fun heq =>
        not_mem_dedupe hmem qs (heq ▸ List.mem_map_of_mem hp)
      rw [List.find?_cons, beq_false_of_ne hne]
      exact ih hp
    cases hseen : seen.contains q.name with
    | true =>
      rw [dedupe_cons_seen hseen] at h
      exact hskip seen (List.contains_iff_mem.mp hseen) h
    | false =>
      rw [dedupe_cons_new hseen] at h
      rcases List.mem_cons.mp h with rfl | h
      · exact List.find?_cons_of_pos (beq_self_eq_true p.name)
      · exact hskip _ List.mem_cons_self h

end Scaffold

end RBinding
