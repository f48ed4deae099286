import RBinding.Proofs.Header.Signature
import RBinding.Proofs.Literal.Plain
import RBinding.Proofs.Scaffold.DeclaredNames
import RBinding.Proofs.World.History

/-!
# RBinding.Proofs.World.Description

What the description of a callable says. The parameters of its signature that are not variadic are
declared one by one, in order, and all variadic ones together as one, which stands where the first
of them stood (`Collapses`, `collapses_declared`). A default is declared for just those that have
one, and no literal reads `None` (`literal_ne_none`), so a header does not show `None` as a default.

A description is given unless the documentation cannot be read, there is no signature to be read,
all parameters are variadic (`Describes`), or a number in a default has too many digits. Failures
that do not mean that there is no signature are passed on as they are.
-/

namespace RBinding
namespace World

theorem o_not_mem_of_isNumeral {text : List Char} (h : text.all Double.isNumeral = true) :
    'o' ∉ text := by
  intro hmem
  have ho := List.all_eq_true.mp h 'o' hmem
  revert ho
  decide

theorem chars_ne_none {v : Value} {text : List Char} (h : Literal.chars? v = .ok text) :
    text ≠ "None".toList := by
  -- A call of `list` begins with another letter.
  have hlist : ∀ args : Except Unwritable (List (List Char)),
      args.map Literal.listCall ≠ .ok "None".toList := by
    intro args heq
    cases args with
    | error e => cases heq
    | ok args =>
      have hcall := Except.ok.inj heq
      rw [Literal.listCall_eq] at hcall
      cases hcall
  rintro rfl
  cases v with
  | null => cases h
  | boolean b => cases b <;> cases h
  | integer n =>
    obtain ⟨-, htext⟩ := Literal.integer?_eq_ok_iff.mp h
    have ho : 'o' ∈ "None".toList := by decide
    have hdigits := o_not_mem_of_isNumeral (Literal.isNumeral_integerText n)
    rw [htext] at ho
    split at ho
    · simp [hdigits] at ho
    · exact hdigits ho
  | real x =>
    cases x with
    | nan => cases h
    | infinite negative => cases negative <;> cases h
    | finite negative m e =>
      refine o_not_mem_of_isNumeral (Double.isNumeral_text negative m e) ?_
      have hreal : (Double.text (.finite negative m e)).toList = "None".toList := Except.ok.inj h
      rw [hreal]
      decide
  | text s => cases h
  | list vs => exact hlist _ (Literal.chars?_list vs ▸ h)
  | tuple vs => exact hlist _ (Literal.chars?_tuple vs ▸ h)
  | dict es => exact hlist _ (Literal.chars?_dict es ▸ h)
  | other name => cases h

theorem literal_ne_none (v : Value) : (defaultLiteral v).1 ≠ "None" := by
  cases h : Literal.chars? v with
  | error e =>
    have hnull : (defaultLiteral v).1 = "NULL" := by simp [defaultLiteral, Value.literal?, h]
    rw [hnull]
    decide
  | ok text =>
    have htext : (defaultLiteral v).1 = String.ofList text := by
      simp [defaultLiteral, Value.literal?, h]
    intro heq
    refine chars_ne_none h ?_
    rw [← heq, htext, String.toList_ofList]

/-- A parameter that is not variadic, as it is declared. -/
inductive Represents : Formal → Parameter → Prop
  | required {p : Formal} (default : p.default = none) : Represents p { name := p.name }
  | optional {p : Formal} {v : Value} {text : String} (default : p.default = some v)
      (written : text ≠ "None") :
      Represents p { name := p.name, hasDefault := true, defaultLiteral := some text }

/-- The parameters that are declared for a signature. All variadic ones are one, which stands after
as many others as there are before the first of them. -/
inductive Collapses : List Formal → List Parameter → Prop
  | plain {formals : List Formal} {parameters : List Parameter}
      (ordinary : ∀ p ∈ formals, p.isVariadic = false)
      (each : List.Forall₂ Represents formals parameters) : Collapses formals parameters
  | variadic {formals : List Formal} {before after : List Parameter}
      (variadic : ∃ p ∈ formals, p.isVariadic = true)
      (index : before.length = (formals.takeWhile (!·.isVariadic)).length)
      (each : List.Forall₂ Represents (formals.filter (!·.isVariadic)) (before ++ after)) :
      Collapses formals
        (before ++
          { name := "...", aliases := (formals.filter (·.isVariadic)).map (·.name) } :: after)

theorem represents_declare (p : Formal) : Represents p (declare p) := by
  rw [declare]
  split
  · rename_i hdefault
    exact .required hdefault
  · rename_i v hdefault
    exact .optional hdefault (literal_ne_none v)

theorem forall₂_map_declare (formals : List Formal) :
    List.Forall₂ Represents formals (formals.map declare) := by
  rw [List.forall₂_map_right_iff, List.forall₂_same]
  exact fun p _ => represents_declare p

theorem filter_not_isVariadic (formals : List Formal) :
    formals.filter (!·.isVariadic) =
      formals.takeWhile (!·.isVariadic) ++
        (formals.dropWhile (!·.isVariadic)).filter (!·.isVariadic) := by
  have hbefore : (formals.takeWhile (!·.isVariadic)).filter (!·.isVariadic) =
      formals.takeWhile (!·.isVariadic) := by
    rw [List.filter_eq_self]
    intro p hp
    exact List.mem_takeWhile_imp (p := fun p : Formal => !p.isVariadic) hp
  calc formals.filter (!·.isVariadic)
      = (formals.takeWhile (!·.isVariadic) ++ formals.dropWhile (!·.isVariadic)).filter
          (!·.isVariadic) := by rw [List.takeWhile_append_dropWhile]
    _ = _ := by rw [List.filter_append, hbefore]

theorem collapses_declared (formals : List Formal) : Collapses formals (declared formals) := by
  by_cases h : ∃ p ∈ formals, p.isVariadic = true
  · have hne : (formals.filter (·.isVariadic)).isEmpty = false := by
      obtain ⟨p, hp, hvariadic⟩ := h
      exact List.isEmpty_eq_false_iff.mpr (List.ne_nil_of_mem (List.mem_filter.mpr ⟨hp, hvariadic⟩))
    have heach := forall₂_map_declare (formals.filter (!·.isVariadic))
    rw [filter_not_isVariadic, List.map_append, ← filter_not_isVariadic] at heach
    rw [declared, declareVariadic, hne, List.append_assoc]
    exact .variadic h (List.length_map ..) heach
  · have hordinary : ∀ p ∈ formals, p.isVariadic = false := by simpa using h
    have hall : formals.takeWhile (!·.isVariadic) = formals :=
      List.takeWhile_eq_self_iff.mpr fun p hp => by rw [hordinary p hp]; rfl
    have hrest : formals.dropWhile (!·.isVariadic) = [] :=
      List.dropWhile_eq_nil_iff.mpr fun p hp => by rw [hordinary p hp]; rfl
    have hnone : formals.filter (·.isVariadic) = [] :=
      List.filter_eq_nil_iff.mpr fun p hp => by rw [hordinary p hp]; exact Bool.false_ne_true
    have hsame : declared formals = formals.map declare := by
      simp [declared, hall, hrest, hnone, declareVariadic]
    rw [hsame]
    exact .plain hordinary (forall₂_map_declare formals)

/-- Where a default is shown it is not shown as `None`. -/
def ShowsDefault (p : Parameter) : Prop :=
  p.hasDefault = true → p.defaultText ≠ "None"

theorem Represents.showsDefault {p : Formal} {parameter : Parameter}
    (h : Represents p parameter) : ShowsDefault parameter := by
  cases h with
  | required _ => exact fun hdefault => nomatch hdefault
  | optional _ hwritten => exact fun _ => hwritten

theorem Collapses.showsDefault {formals : List Formal} {parameters : List Parameter}
    (h : Collapses formals parameters) : ∀ p ∈ parameters, ShowsDefault p := by
  have hordinary : ∀ {ps : List Formal} {qs : List Parameter}, List.Forall₂ Represents ps qs →
      ∀ q ∈ qs, ShowsDefault q := by
    intro ps qs heach
    induction heach with
    | nil => exact fun q hq => nomatch hq
    | cons hfirst _ ih => exact List.forall_mem_cons.mpr ⟨hfirst.showsDefault, ih⟩
  cases h with
  | plain _ heach => exact hordinary heach
  | variadic _ _ heach =>
    obtain ⟨hbefore, hafter⟩ := List.forall_mem_append.mp (hordinary heach)
    refine List.forall_mem_append.mpr ⟨hbefore, List.forall_mem_cons.mpr ⟨?_, hafter⟩⟩
    exact fun hdefault => nomatch hdefault

/-- What describing a callable gives, by what reading its documentation and its signature gives. -/
inductive Describes (target : String) (object : Object) :
    Except Failure String → Except Failure (List Formal) → Except Failure Description → Prop
  | undocumented {e : Failure} {signature : Except Failure (List Formal)} :
      Describes target object (.error e) signature (.error e)
  | unsigned {doc : String} {e : Failure} (means : meansNoSignature e = true) :
      Describes target object (.ok doc) (.error e)
        (.error (.signatureUnavailable (.unreadable target e.className e.message) (some target)
          (some doc)))
  | raised {doc : String} {e : Failure} (means : meansNoSignature e = false) :
      Describes target object (.ok doc) (.error e) (.error e)
  | onlyVariadic {doc : String} {formals : List Formal}
      (some_left : withoutReceiver object formals ≠ [])
      (variadic : ∀ p ∈ withoutReceiver object formals, p.isVariadic = true) :
      Describes target object (.ok doc) (.ok formals)
        (.error (.signatureUnavailable (.onlyVariadic target) (some target) (some doc)))
  | given {doc : String} {formals : List Formal} {parameters : List Parameter}
      (ordinary : withoutReceiver object formals = [] ∨
        ∃ p ∈ withoutReceiver object formals, p.isVariadic = false)
      (collapses : Collapses (withoutReceiver object formals) parameters) :
      Describes target object (.ok doc) (.ok formals) (.ok ⟨parameters, some doc⟩)

theorem onlyVariadic_iff {formals : List Formal} :
    onlyVariadic formals = true ↔ formals ≠ [] ∧ ∀ p ∈ formals, p.isVariadic = true := by
  simp [World.onlyVariadic]

theorem result_describeObject (w : World) (imported : Imports) (target : String)
    {object : Object} (h : object.isCallable = true) :
    (describeObject w imported target object).result =
      (readDoc w imported object).bind fun doc =>
        (readSignature target object doc).bind fun all =>
          if onlyVariadic (withoutReceiver object all) then
            .error (.signatureUnavailable (.onlyVariadic target) (some target) (some doc))
          else (declareAll target (withoutReceiver object all)).result.bind fun parameters =>
            .ok ⟨parameters, some doc⟩ := by
  rw [describeObject, h]
  simp only [Bool.not_true, Bool.false_eq_true, ↓reduceIte, Traced.result_bind]
  refine congrArg (Except.bind _) (funext fun doc => ?_)
  refine congrArg (Except.bind _) (funext fun all => ?_)
  split
  · rfl
  · rw [Traced.result_bind]
    rfl

theorem describes_of_not_onlyVariadic {target doc : String} {object : Object}
    {formals : List Formal} (h : ¬onlyVariadic (withoutReceiver object formals) = true) :
    Describes target object (.ok doc) (.ok formals)
      (.ok ⟨declared (withoutReceiver object formals), some doc⟩) := by
  refine .given ?_ (collapses_declared _)
  rw [onlyVariadic_iff] at h
  by_cases hnil : withoutReceiver object formals = []
  · exact .inl hnil
  · refine .inr ?_
    simpa [hnil] using h

/-- There is one more way in which a description can fail: a number in a default has too many
digits. -/
theorem describes_describeObject (w : World) (imported : Imports) (target : String)
    {object : Object} (h : object.isCallable = true) :
    Describes target object (readDoc w imported object) (signature object)
        (describeObject w imported target object).result ∨
      ∃ doc formals, readDoc w imported object = .ok doc ∧ signature object = .ok formals ∧
        (∃ p ∈ withoutReceiver object formals, p.isUndeclarable = true) ∧
        (describeObject w imported target object).result = .error .tooManyDigits := by
  rw [result_describeObject w imported target h]
  cases readDoc w imported object with
  | error e => exact .inl .undocumented
  | ok doc =>
    cases hsignature : signature object with
    | error e =>
      cases hmeans : meansNoSignature e with
      | true =>
        have hread : readSignature target object doc = .error (.signatureUnavailable
            (.unreadable target e.className e.message) (some target) (some doc)) := by
          simp [readSignature, hsignature, hmeans]
        simp only [Except.bind, hread]
        exact .inl (.unsigned hmeans)
      | false =>
        have hread : readSignature target object doc = .error e := by
          simp [readSignature, hsignature, hmeans]
        simp only [Except.bind, hread]
        exact .inl (.raised hmeans)
    | ok formals =>
      have hread : readSignature target object doc = .ok formals := by
        simp [readSignature, hsignature]
      simp only [Except.bind, hread]
      by_cases hvariadic : onlyVariadic (withoutReceiver object formals) = true
      · obtain ⟨hleft, hall⟩ := onlyVariadic_iff.mp hvariadic
        rw [if_pos hvariadic]
        exact .inl (.onlyVariadic hleft hall)
      · rw [if_neg hvariadic]
        rcases forall_or_exists_undeclarable (withoutReceiver object formals) with
          hnone | ⟨before, p, after, hplace, hbefore, hp⟩
        · rw [declareAll_of_forall target hnone]
          exact .inl (describes_of_not_onlyVariadic hvariadic)
        · refine .inr ⟨doc, formals, rfl, rfl, ⟨p, by simp [hplace], hp⟩, ?_⟩
          rw [hplace, declareAll_append_cons target after hbefore hp]

theorem showsDefault_describe {w : World} {imported : Imports} {target : String} {d : Description}
    (h : (w.describe imported target).2.result = .ok d) : ∀ p ∈ d.parameters, ShowsDefault p := by
  obtain ⟨object, formals, -, -, -, hparameters, -⟩ := describe_ok h
  rw [hparameters]
  exact (collapses_declared _).showsDefault

end World

namespace Scaffold

theorem forall_kept {P : Parameter → Prop} {target : String} {description : Traced Description}
    {d : Described} (hd : (orWithoutSignature target description).result = .ok d)
    (h : ∀ d', description.result = .ok d' → ∀ p ∈ d'.parameters, P p) : ∀ p ∈ d.kept, P p := by
  have hparameters : ∀ p ∈ d.parameters, P p := by
    rw [orWithoutSignature] at hd
    split at hd
    · rename_i d' hd'
      cases hd
      exact h d' hd'
    · cases hd
      intro p hp
      cases hp
    · cases hd
  intro p hp
  exact hparameters p (List.mem_of_find?_eq_some (find?_of_mem_dedupe hp))

end Scaffold

namespace World

/-- Every target that leads to a callable is described as `Describes` says, unless a number in one
of the defaults has too many digits, and no header shows a default as `None`. -/
theorem variadics_collapse (w : World) (imported : Imports) (target : String) :
    (∀ object, (w.resolve imported target).2.result = .ok object → object.isCallable = true →
      (∀ doc formals, readDoc w (w.resolve imported target).1 object = .ok doc →
        signature object = .ok formals →
        ∀ p ∈ withoutReceiver object formals, p.isUndeclarable = false) →
      Describes target object (readDoc w (w.resolve imported target).1 object) (signature object)
        (w.describe imported target).2.result) ∧
    ∀ settings options wrapper,
      (Scaffold.run settings w.provider imported target options).2.result = .ok wrapper →
      ∃ kept, wrapper.header = Assembly.header wrapper.name kept ∧ ∀ p ∈ kept, ShowsDefault p := by
  constructor
  · intro object hobject hcallable hdeclarable
    rw [result_describe hobject]
    rcases describes_describeObject w _ target hcallable with
      hdescribes | ⟨doc, formals, hdoc, hformals, ⟨p, hp, hlong⟩, -⟩
    · exact hdescribes
    · rw [hdeclarable doc formals hdoc hformals p hp] at hlong
      cases hlong
  · intro settings options wrapper hwrapper
    obtain ⟨d, hd, hheader⟩ := Scaffold.exists_kept hwrapper
    exact ⟨d.kept, hheader, Scaffold.forall_kept hd fun d' hd' => showsDefault_describe hd'⟩

/-- A method with both kinds of variadic parameters, and one by keyword only between them. -/
def gather : Function where
  name := "gather"
  definition := ⟨["m"], [0, 0]⟩
  qualifiedName := "Bag.gather"
  formals := [{ name := "self" }, { name := "first" },
    { name := "more", kind := .variadicPositional },
    { name := "by", kind := .keywordOnly, default := some (.text "None") },
    { name := "options", kind := .variadicKeyword }]
  doc := some "Gather."

def bags : World where
  modules := [⟨["m"], false, [("Bag", .classDef (.define ⟨"Bag", ["m"], "Bag", none⟩ none
    [("gather", .function gather)]))], none⟩]
  aliases := .empty

def gatherWrapper : Wrapper where
  name := "gather"
  target := "m.Bag.gather"
  docLines := ["#' @title Gather.", "#' @description", "#'", "#' @param first", "#' @param ...",
    "#' @param by", "#' @return", "#' @export"]
  header := "gather <- function(first, ..., by = \"None\") \x7b"
  body := ["  python_function_result <- m$Bag$gather(", "    first = first,", "    ...,",
    "    by = by", "  )"]

theorem variadics_collapse_gather :
    ((bags.resolve [] "m.Bag.gather").2.result = .ok (.function gather) ∧
      (Object.function gather).isCallable = true ∧
      Describes "m.Bag.gather" (.function gather) (.ok "Gather.") (.ok gather.formals)
        (bags.describe [] "m.Bag.gather").2.result) ∧
    (Scaffold.run {} bags.provider [] "m.Bag.gather" {}).2.result = .ok gatherWrapper ∧
      ∃ kept, gatherWrapper.header = Assembly.header gatherWrapper.name kept ∧
        ∀ p ∈ kept, ShowsDefault p := by
  have hobject : (bags.resolve [] "m.Bag.gather").2.result = .ok (.function gather) := rfl
  have hdoc : readDoc bags (bags.resolve [] "m.Bag.gather").1 (.function gather) =
      .ok "Gather." := by decide +kernel
  have hwrapper : (Scaffold.run {} bags.provider [] "m.Bag.gather" {}).2.result =
      .ok gatherWrapper := by decide +kernel
  obtain ⟨hdescribes, hheader⟩ := variadics_collapse bags [] "m.Bag.gather"
  have hgather := hdescribes _ hobject rfl fun _ _ _ => by rintro ⟨⟩; decide
  rw [hdoc] at hgather
  exact ⟨⟨hobject, rfl, hgather⟩, hwrapper, hheader _ _ _ hwrapper⟩

def notLoaded : Failure :=
  .exception ⟨.named "RuntimeError", "not loaded"⟩

/-- A callable whose signature is not loaded, and one whose documentation is looked for in something
that is not. -/
def unloaded : World where
  modules := [⟨["m"], false, [("s", .failing notLoaded),
    ("f", .function (method ["m"] [1] "s.f" none)),
    ("h", .unsigned "Opaque" (some "Doc.") notLoaded)], none⟩]
  aliases := .empty

/-- Neither is described, and neither is said to have no signature, though the second one has a
parameter that is not variadic. -/
theorem unloaded_not_described :
    ((unloaded.resolve [] "m.h").2.result = .ok (.unsigned "Opaque" (some "Doc.") notLoaded) ∧
      (unloaded.describe [] "m.h").2.result = .error notLoaded) ∧
    (unloaded.resolve [] "m.f").2.result = .ok (.function (method ["m"] [1] "s.f" none)) ∧
      signature (.function (method ["m"] [1] "s.f" none)) =
        .ok [{ name := "self" }, { name := "x" }] ∧
      (unloaded.describe [] "m.f").2.result = .error notLoaded := by
  have hobject : (unloaded.resolve [] "m.f").2.result =
      .ok (.function (method ["m"] [1] "s.f" none)) := rfl
  refine ⟨⟨rfl, by decide +kernel⟩, hobject, rfl, ?_⟩
  rw [result_describe hobject]
  simp only [describeObject, readDoc, rawDoc, functionDoc, owningClass?, method, splitOn_method]
  decide +kernel

end World
end RBinding
