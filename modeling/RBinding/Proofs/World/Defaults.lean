import Mathlib.Data.List.TakeWhile
import RBinding.Proofs.Literal.Defects
import RBinding.Proofs.World.History

/-!
# RBinding.Proofs.World.Defaults

Defaults in a description. A default that has a literal is declared with it, and one with a part
that R has no form for is declared as `NULL` as a whole, with one note on its first defect
(`DeclaresDefault`). Nothing else depends on the default: the other parameters and the notes on them
are the same whatever it is (`declared_append_cons`, `declaredNotes_append_cons`). Where a number
with too many digits comes first, there is no description at all (`DescribesFormals`).
-/

namespace RBinding
namespace World

/-- What is declared for a parameter that is not variadic, and what is noted on it. -/
inductive DeclaresDefault (target : String) (p : Formal) : Parameter → List Note → Prop
  | without (default : p.default = none) : DeclaresDefault target p { name := p.name } []
  | written {v : Value} {text : String} (default : p.default = some v)
      (literal : v.literal? = .ok text) :
      DeclaresDefault target p
        { name := p.name, hasDefault := true, defaultLiteral := some text } []
  | replaced {v : Value} {e : Unwritable} (default : p.default = some v)
      (literal : v.literal? = .error e) (unsupported : e.isUnsupported = true) :
      DeclaresDefault target p
        { name := p.name, hasDefault := true, defaultLiteral := some "NULL" }
        [.unwritableDefault target p.name e.message]

theorem isUndeclarable_iff (p : Formal) :
    p.isUndeclarable = true ↔
      p.isVariadic = false ∧ ∃ v, p.default = some v ∧ v.literal? = .error .tooLong := by
  simp [Formal.isUndeclarable, Option.any_eq_true, Value.isOverlong_iff]

theorem declaresDefault_declare (target : String) {p : Formal} (hordinary : p.isVariadic = false)
    (h : p.isUndeclarable = false) :
    DeclaresDefault target p (declare p) (defaultNotes target p) := by
  rw [declare, defaultNotes]
  cases hdefault : p.default with
  | none => exact .without hdefault
  | some v =>
    cases hliteral : v.literal? with
    | ok text =>
      simp only [defaultLiteral, hliteral]
      exact .written hdefault hliteral
    | error e =>
      simp only [defaultLiteral, hliteral]
      refine .replaced hdefault hliteral ?_
      cases e with
      | tooLong =>
        rw [(isUndeclarable_iff p).mpr ⟨hordinary, v, hdefault, hliteral⟩] at h
        cases h
      | _ => rfl

theorem filter_isVariadic_append_cons (before after : List Formal) {p : Formal}
    (h : p.isVariadic = false) :
    (before ++ p :: after).filter (·.isVariadic) = (before ++ after).filter (·.isVariadic) := by
  simp [h]

/-- What a parameter says of its default shows at its own place only. The place is after the
variadic one if a variadic parameter comes before it. -/
theorem declared_append_cons (before after : List Formal) :
    ∃ left right, ∀ p : Formal, p.isVariadic = false →
      declared (before ++ p :: after) = left ++ declare p :: right := by
  let ordinary : Formal → Bool := fun p => !p.isVariadic
  by_cases hall : ∀ q ∈ before, ordinary q = true
  · refine ⟨before.map declare, (after.takeWhile ordinary).map declare ++
      declareVariadic ((before ++ after).filter (·.isVariadic)) ++
        ((after.dropWhile ordinary).filter ordinary).map declare, ?_⟩
    intro p hp
    have hordinary : ordinary p = true := by simp [ordinary, hp]
    have htake : (before ++ p :: after).takeWhile ordinary =
        before ++ p :: after.takeWhile ordinary := by
      rw [List.takeWhile_append_of_pos hall, List.takeWhile_cons_of_pos hordinary]
    have hdrop : (before ++ p :: after).dropWhile ordinary = after.dropWhile ordinary := by
      rw [List.dropWhile_append_of_pos hall, List.dropWhile_cons_of_pos hordinary]
    rw [declared, filter_isVariadic_append_cons before after hp, htake, hdrop]
    simp [ordinary]
  · refine ⟨(before.takeWhile ordinary).map declare ++
      declareVariadic ((before ++ after).filter (·.isVariadic)) ++
        ((before.dropWhile ordinary).filter ordinary).map declare,
      (after.filter ordinary).map declare, ?_⟩
    intro p hp
    have hordinary : ordinary p = true := by simp [ordinary, hp]
    have htake : (before ++ p :: after).takeWhile ordinary = before.takeWhile ordinary := by
      rw [List.takeWhile_append, if_neg]
      intro hlength
      have hsame := (List.takeWhile_prefix ordinary).eq_of_length hlength
      exact hall (List.takeWhile_eq_self_iff.mp hsame)
    have hdrop : (before ++ p :: after).dropWhile ordinary =
        before.dropWhile ordinary ++ p :: after := by
      rw [List.dropWhile_append, if_neg]
      rw [List.isEmpty_iff, List.dropWhile_eq_nil_iff]
      exact hall
    rw [declared, filter_isVariadic_append_cons before after hp, htake, hdrop]
    simp [ordinary, hp]

theorem declaredNotes_append_cons (target : String) (before after : List Formal) {p : Formal}
    (h : p.isVariadic = false) :
    declaredNotes target (before ++ p :: after) =
      declaredNotes target before ++ defaultNotes target p ++ declaredNotes target after := by
  simp [declaredNotes, h]

/-- How the parameters of a signature are described, and what is noted on them. -/
inductive DescribesFormals (target doc : String) (formals : List Formal) :
    Except Failure Description → List Note → Prop
  | given (declarable : ∀ p ∈ formals, p.isUndeclarable = false) :
      DescribesFormals target doc formals (.ok ⟨declared formals, some doc⟩)
        (declaredNotes target formals)
  | stopped {before after : List Formal} {p : Formal} (place : formals = before ++ p :: after)
      (declarable : ∀ q ∈ before, q.isUndeclarable = false) (overlong : p.isUndeclarable = true) :
      DescribesFormals target doc formals (.error .tooManyDigits) (declaredNotes target before)

theorem describesFormals_describe {w : World} {imported : Imports} {target doc : String}
    {object : Object} {formals : List Formal}
    (hobject : (w.resolve imported target).2.result = .ok object)
    (hcallable : object.isCallable = true)
    (hdoc : readDoc w (w.resolve imported target).1 object = .ok doc)
    (hsignature : signature object = .ok formals)
    (hsome : onlyVariadic (withoutReceiver object formals) = false) :
    ∃ notes, DescribesFormals target doc (withoutReceiver object formals)
        (w.describe imported target).2.result notes ∧
      (w.describe imported target).2.events =
        (w.resolve imported target).2.events ++ notes.map .note := by
  simp only [describe]
  rw [Traced.bind_ok hobject,
    describeObject_of_signature target hcallable hdoc hsignature hsome]
  rcases forall_or_exists_undeclarable (withoutReceiver object formals) with
    hnone | ⟨before, p, after, hplace, hbefore, hp⟩
  · rw [declareAll_of_forall target hnone, Traced.bind_ok rfl]
    exact ⟨_, .given hnone, by simp [pure, Traced.pure]⟩
  · rw [hplace, declareAll_append_cons target after hbefore hp, Traced.bind_error rfl]
    exact ⟨_, .stopped rfl hbefore hp, rfl⟩

/-- A default has no literal just if a part of it has a defect, and the first defect is the one that
is told. In a description such a default is `NULL`, with one note, and everything else stays, unless
the first defect is a number with too many digits: then there is no description. -/
theorem unwritable_defaults_contained (v : Value) (w : World) (imported : Imports)
    (target : String) :
    ((∃ e, v.literal? = .error e) ↔ ∃ u e, Value.Part u v ∧ Value.HasDefect u e) ∧
    (∀ e, (v.literal? = .error e ↔ v.defects.head? = some e) ∧
      (e ∈ v.defects ↔ ∃ u, Value.Part u v ∧ Value.HasDefect u e)) ∧
    (∀ p : Formal, p.isUndeclarable = true ↔
      p.isVariadic = false ∧ ∃ v, p.default = some v ∧ v.literal? = .error .tooLong) ∧
    (∀ before after : List Formal, ∃ left right, ∀ p : Formal,
      p.isVariadic = false → p.isUndeclarable = false →
      ∃ parameter notes, DeclaresDefault target p parameter notes ∧
        declared (before ++ p :: after) = left ++ parameter :: right ∧
        declaredNotes target (before ++ p :: after) =
          declaredNotes target before ++ notes ++ declaredNotes target after) ∧
    (∀ d, (w.describe imported target).2.result = .ok d →
      ∃ object formals, (w.resolve imported target).2.result = .ok object ∧
        signature object = .ok formals ∧
        (∀ p ∈ withoutReceiver object formals, p.isUndeclarable = false) ∧
        d.parameters = declared (withoutReceiver object formals) ∧
        (w.describe imported target).2.events = (w.resolve imported target).2.events ++
          (declaredNotes target (withoutReceiver object formals)).map .note) ∧
    ∀ object doc formals, (w.resolve imported target).2.result = .ok object →
      object.isCallable = true →
      readDoc w (w.resolve imported target).1 object = .ok doc →
      signature object = .ok formals → onlyVariadic (withoutReceiver object formals) = false →
      ∃ notes, DescribesFormals target doc (withoutReceiver object formals)
          (w.describe imported target).2.result notes ∧
        (w.describe imported target).2.events =
          (w.resolve imported target).2.events ++ notes.map .note := by
  refine ⟨v.exists_literal?_eq_error_iff, ?_, isUndeclarable_iff, ?_, fun d hd => describe_ok hd,
    fun object doc formals => describesFormals_describe⟩
  · intro e
    exact ⟨v.literal?_eq_error_iff e, Value.mem_defects_iff⟩
  · intro before after
    obtain ⟨left, right, hdeclared⟩ := declared_append_cons before after
    refine ⟨left, right, fun p hp hdeclarable => ⟨declare p, defaultNotes target p, ?_⟩⟩
    exact ⟨declaresDefault_declare target hp hdeclarable, hdeclared p hp,
      declaredNotes_append_cons target before after hp⟩

def nested : Value :=
  .list [.integer 1, .dict [(.text "k", .tuple [.other "object"]), (.integer 2, .null)]]

def pick : Function where
  name := "pick"
  definition := ⟨["m"], [0]⟩
  qualifiedName := "pick"
  formals := [{ name := "keys", kind := .variadicPositional },
    { name := "table", kind := .keywordOnly, default := some nested },
    { name := "by", kind := .keywordOnly, default := some (.integer 1) }]
  doc := some "Pick."

def picks : World where
  modules := [⟨["m"], false, [("pick", .function pick)], none⟩]
  aliases := .empty

def pickDescription : Description where
  parameters := [{ name := "...", aliases := ["keys"] },
    { name := "table", hasDefault := true, defaultLiteral := some "NULL" },
    { name := "by", hasDefault := true, defaultLiteral := some "1L" }]
  doc := some "Pick."

theorem unwritable_defaults_contained_nested :
    (nested.literal? = .error (.type "object") ∧ nested.defects.head? = some (.type "object") ∧
      ∃ u e, Value.Part u nested ∧ Value.HasDefect u e) ∧
    (Formal.isVariadic { name := "table", kind := .keywordOnly, default := some nested } = false ∧
      ∃ left right parameter notes,
        DeclaresDefault "m.pick" { name := "table", kind := .keywordOnly, default := some nested }
          parameter notes ∧
        declared pick.formals = left ++ parameter :: right ∧
        declaredNotes "m.pick" pick.formals =
          declaredNotes "m.pick" (pick.formals.take 1) ++ notes ++
            declaredNotes "m.pick" (pick.formals.drop 2)) ∧
    (picks.describe [] "m.pick").2.result = .ok pickDescription ∧
      (∃ object formals, (picks.resolve [] "m.pick").2.result = .ok object ∧
        signature object = .ok formals ∧
        (∀ p ∈ withoutReceiver object formals, p.isUndeclarable = false) ∧
        pickDescription.parameters = declared (withoutReceiver object formals) ∧
        (picks.describe [] "m.pick").2.events = (picks.resolve [] "m.pick").2.events ++
          (declaredNotes "m.pick" (withoutReceiver object formals)).map .note) ∧
      readDoc picks (picks.resolve [] "m.pick").1 (.function pick) = .ok "Pick." ∧
      ∃ notes, DescribesFormals "m.pick" "Pick." pick.formals (.ok pickDescription) notes := by
  have hdescribe : (picks.describe [] "m.pick").2.result = .ok pickDescription := by decide +kernel
  have hdoc : readDoc picks (picks.resolve [] "m.pick").1 (.function pick) = .ok "Pick." := by
    decide +kernel
  have hliteral : nested.literal? = .error (.type "object") := rfl
  have hordinary : Formal.isVariadic
      { name := "table", kind := .keywordOnly, default := some nested } = false := rfl
  obtain ⟨hfails, hfirst, -, hframe, hok, hall⟩ :=
    unwritable_defaults_contained nested picks [] "m.pick"
  obtain ⟨left, right, hplace⟩ := hframe (pick.formals.take 1) (pick.formals.drop 2)
  obtain ⟨parameter, notes, hdeclared⟩ := hplace _ hordinary rfl
  obtain ⟨notes', hdescribes, -⟩ := hall (.function pick) _ _ rfl rfl hdoc rfl rfl
  rw [hdescribe] at hdescribes
  exact ⟨⟨hliteral, (hfirst _).1.mp hliteral, hfails.mp ⟨_, hliteral⟩⟩,
    ⟨hordinary, left, right, parameter, notes, hdeclared⟩, hdescribe, hok _ hdescribe, hdoc,
    notes', hdescribes⟩

def scale : Function where
  name := "scale"
  definition := ⟨["m"], [0]⟩
  qualifiedName := "scale"
  formals := [{ name := "x", default := some (.integer Value.power) }]
  doc := some "Scale."

def scales : World where
  modules := [⟨["m"], false, [("scale", .function scale)], none⟩]
  aliases := .empty

/-- A number is not written, though R has a form for all parts of it, and there is neither a
description of the function that it is a default of nor a wrapper. -/
theorem power_not_described :
    (¬∃ u e, Value.Part u (.integer Value.power) ∧ Value.HasDefect u e ∧
      e.isUnsupported = true) ∧
    (scales.describe [] "m.scale").2.result = .error .tooManyDigits ∧
    (scaffold {} scales.provider [] "m.scale").2.result = .error .tooManyDigits ∧
    Failure.tooManyDigits.className = "ValueError" := by
  have hdoc : readDoc scales (scales.resolve [] "m.scale").1 (.function scale) =
      .ok "Scale." := by decide +kernel
  have hlong : Formal.isUndeclarable { name := "x", default := some (.integer Value.power) } :=
    (isUndeclarable_iff _).mpr ⟨rfl, _, rfl, Value.literal?_power⟩
  have hdescribe : (scales.describe [] "m.scale").2.result = .error .tooManyDigits := by
    obtain ⟨notes, hdescribes, -⟩ := @describesFormals_describe scales [] "m.scale" "Scale."
      (.function scale) scale.formals rfl rfl hdoc rfl rfl
    generalize (scales.describe [] "m.scale").2.result = result at hdescribes
    cases hdescribes with
    | given hdeclarable =>
      rw [hdeclarable _ List.mem_cons_self] at hlong
      cases hlong
    | stopped => rfl
  refine ⟨?_, hdescribe, ?_, rfl⟩
  · rintro ⟨u, e, hpart, hdefect, hunsupported⟩
    cases hpart
    cases hdefect
    cases hunsupported
  · exact Scaffold.result_wrap_of_tooManyDigits hdescribe

end World
end RBinding
