import RBinding.Proofs.Scaffold.Stages
import RBinding.Proofs.World.Declaring
import RBinding.Proofs.World.Import
import RBinding.World.Describe

/-!
# RBinding.Proofs.World.History

Earlier work does not show in later answers. Whatever has been resolved, described or scaffolded
before, with or without success, only adds to what has been imported, and soundly so
(`sound_after`). A target then leads to the same object as in a fresh world, with the same failures
and notes, and its description and its wrapper follow from that object (`describe_eq`, `run_eq`).

There is one way around this. A function without documentation looks for some to inherit by way of
its qualified name, which starts at the module that defines it. Where that name begins with the
name of a module inside (`Eclipsed`), an import of that module hides the class that stood there
before, and the documentation is not found any more. The parameters and the notes of a description
stay the same even then (`describe_ok_eq`).
-/

namespace RBinding
namespace World

variable {w : World} {imported imported' : Imports}

/-- The function whose qualified name is followed to document the object, if there is one. -/
def Object.undocumented? : Object → Option Function
  | .function f => if f.doc.isNone then some f else none
  | .classDef c =>
    match c.ownMember? "__init__" with
    | some (.function f) =>
      if f.effectiveBinding = .toInstance ∧ f.doc.isNone then some f else none
    | _ => none
  | _ => none

/-- The qualified name of the function begins with the name of a module that can be imported inside
the module that defines it. -/
def Eclipsed (w : World) (f : Function) : Prop :=
  ∃ name, (f.qualifiedName.splitOn ".").dropLast.head? = some name ∧
    w.Loadable (f.definition.module ++ [name])

theorem functionDoc_eq {f : Function} (hs : w.Sound imported) (hs' : w.Sound imported')
    (h : f.doc = none → ¬ w.Eclipsed f) : functionDoc w imported f = functionDoc w imported' f := by
  cases hdoc : f.doc with
  | some doc => simp [functionDoc, hdoc]
  | none =>
    have hwalk := walk_module_eq f.definition.module (f.qualifiedName.splitOn ".").dropLast hs hs'
      fun name hname hl => h hdoc ⟨name, hname, hl⟩
    have howner : owningClass? w imported f = owningClass? w imported' f := by
      simp only [owningClass?, hwalk]
      rfl
    simp only [functionDoc, hdoc, howner]

theorem rawDoc_eq {object : Object} (hs : w.Sound imported) (hs' : w.Sound imported')
    (h : ∀ f, object.undocumented? = some f → ¬ w.Eclipsed f) :
    rawDoc w imported object = rawDoc w imported' object := by
  cases object with
  | function f =>
    exact functionDoc_eq hs hs' fun hdoc => h f (by simp [Object.undocumented?, hdoc])
  | _ => rfl

theorem initDoc_eq {c : Class} (hs : w.Sound imported) (hs' : w.Sound imported')
    (h : ∀ f, (Object.classDef c).undocumented? = some f → ¬ w.Eclipsed f) :
    initDoc w imported c = initDoc w imported' c := by
  simp only [Object.undocumented?] at h
  simp only [initDoc]
  split
  · rfl
  · next f hinit =>
    rw [hinit] at h
    split
    · next hbound =>
      exact functionDoc_eq hs hs' fun hdoc => h f (by simp [hbound, hdoc])
    · rfl
  · rfl
  · rfl

theorem readDoc_eq {object : Object} (hs : w.Sound imported) (hs' : w.Sound imported')
    (h : ∀ f, object.undocumented? = some f → ¬ w.Eclipsed f) :
    readDoc w imported object = readDoc w imported' object := by
  rw [readDoc, readDoc, rawDoc_eq hs hs' h]
  cases object with
  | classDef c => simp only [initDoc_eq hs hs' h]
  | _ => rfl

theorem describeObject_eq (target : String) {object : Object} (hs : w.Sound imported)
    (hs' : w.Sound imported') (h : ∀ f, object.undocumented? = some f → ¬ w.Eclipsed f) :
    describeObject w imported target object = describeObject w imported' target object := by
  rw [describeObject, describeObject, readDoc_eq hs hs' h]

theorem describeObject_of_signature {object : Object} {doc : String} {formals : List Formal}
    (target : String) (hcallable : object.isCallable = true)
    (hdoc : readDoc w imported object = .ok doc) (hsignature : signature object = .ok formals)
    (hsome : onlyVariadic (withoutReceiver object formals) = false) :
    describeObject w imported target object =
      declareAll target (withoutReceiver object formals) >>= fun parameters =>
        pure ⟨parameters, some doc⟩ := by
  have hread : readSignature target object doc = .ok formals := by
    simp [readSignature, hsignature]
  rw [describeObject, hcallable, hdoc, if_neg (by decide),
    Traced.bind_ok (t := Traced.ofExcept (.ok doc)) rfl, hread,
    Traced.bind_ok (t := Traced.ofExcept (.ok formals)) rfl]
  simp only [hsome, Bool.false_eq_true, ↓reduceIte]
  rfl

theorem describeObject_ok {target : String} {object : Object} {d : Description}
    (h : (describeObject w imported target object).result = .ok d) :
    ∃ formals, signature object = .ok formals ∧
      (∀ p ∈ withoutReceiver object formals, p.isUndeclarable = false) ∧
      d.parameters = declared (withoutReceiver object formals) ∧
      (describeObject w imported target object).events =
        (declaredNotes target (withoutReceiver object formals)).map .note := by
  rw [describeObject] at h ⊢
  split at h
  · cases h
  · next hcallable =>
    obtain ⟨doc, hdoc, h⟩ := Traced.exists_of_bind_ok h
    obtain ⟨all, hall, h⟩ := Traced.exists_of_bind_ok h
    have hsignature : signature object = .ok all := by
      simp only [Traced.ofExcept, readSignature] at hall
      split at hall
      · next hformals => rw [hformals, Except.ok.inj hall]
      · split at hall <;> cases hall
    refine ⟨all, hsignature, ?_⟩
    rw [if_neg hcallable, Traced.bind_ok hdoc, Traced.bind_ok hall]
    by_cases hvariadic : onlyVariadic (withoutReceiver object all) = true
    · simp only [hvariadic] at h
      cases h
    · simp only [hvariadic, Bool.false_eq_true, ↓reduceIte] at h ⊢
      obtain ⟨parameters, hparameters, h⟩ := Traced.exists_of_bind_ok h
      obtain ⟨hnone, rfl, hevents⟩ := declareAll_ok hparameters
      cases h
      rw [Traced.bind_ok hparameters]
      exact ⟨hnone, rfl, (List.append_nil _).trans hevents⟩

theorem sound_describe (target : String) (hs : w.Sound imported) :
    w.Sound (w.describe imported target).1 :=
  sound_resolve target hs

/-- No documentation that a target inherits depends on what has been imported. -/
def Uneclipsed (w : World) (target : String) : Prop :=
  ∀ object f, (w.resolve [] target).2.result = .ok object → object.undocumented? = some f →
    ¬ w.Eclipsed f

theorem describe_eq {target : String} (hs : w.Sound imported) (h : w.Uneclipsed target) :
    (w.describe imported target).2 = (w.describe [] target).2 := by
  simp only [describe]
  rw [resolve_eq target hs sound_nil]
  exact Traced.bind_congr fun object hobject =>
    describeObject_eq target (sound_resolve target hs) (sound_resolve target sound_nil)
      fun f => h object f hobject

theorem result_describe {target : String} {object : Object}
    (h : (w.resolve imported target).2.result = .ok object) :
    (w.describe imported target).2.result =
      (describeObject w (w.resolve imported target).1 target object).result := by
  simp only [describe, Traced.bind_ok h]

theorem describe_ok {target : String} {d : Description}
    (h : (w.describe imported target).2.result = .ok d) :
    ∃ object formals, (w.resolve imported target).2.result = .ok object ∧
      signature object = .ok formals ∧
      (∀ p ∈ withoutReceiver object formals, p.isUndeclarable = false) ∧
      d.parameters = declared (withoutReceiver object formals) ∧
      (w.describe imported target).2.events = (w.resolve imported target).2.events ++
        (declaredNotes target (withoutReceiver object formals)).map .note := by
  simp only [describe] at h ⊢
  obtain ⟨object, hobject, h⟩ := Traced.exists_of_bind_ok h
  obtain ⟨formals, hformals, hnone, hparameters, hevents⟩ := describeObject_ok h
  refine ⟨object, formals, hobject, hformals, hnone, hparameters, ?_⟩
  rw [Traced.bind_ok hobject, hevents]

/-- Of two descriptions that are given, only the documentation can tell what has been imported. -/
theorem describe_ok_eq {target : String} {d d' : Description} (hs : w.Sound imported)
    (hs' : w.Sound imported') (h : (w.describe imported target).2.result = .ok d)
    (h' : (w.describe imported' target).2.result = .ok d') :
    d.parameters = d'.parameters ∧
      (w.describe imported target).2.events = (w.describe imported' target).2.events := by
  simp only [describe] at h h' ⊢
  rw [resolve_eq target hs hs'] at h ⊢
  obtain ⟨object, hobject, h⟩ := Traced.exists_of_bind_ok h
  obtain ⟨object', hobject', h'⟩ := Traced.exists_of_bind_ok h'
  obtain rfl : object = object' := Except.ok.inj (hobject.symm.trans hobject')
  obtain ⟨formals, hformals, -, hparameters, hevents⟩ := describeObject_ok h
  obtain ⟨formals', hformals', -, hparameters', hevents'⟩ := describeObject_ok h'
  obtain rfl : formals = formals' := Except.ok.inj (hformals.symm.trans hformals')
  rw [Traced.bind_ok hobject, Traced.bind_ok hobject, hevents, hevents', hparameters, hparameters']
  exact ⟨rfl, rfl⟩

theorem run_eq {target : String} (settings : Settings) (options : Options)
    (hs : w.Sound imported) (h : w.Uneclipsed target) :
    (Scaffold.run settings w.provider imported target options).2 =
      (Scaffold.run settings w.provider [] target options).2 := by
  simp only [Scaffold.run, provider]
  rw [describe_eq hs h]

theorem scaffoldCustom_eq {target : String} (settings : Settings) (request : Options.Request)
    (hs : w.Sound imported) (h : w.Uneclipsed target) :
    (scaffoldCustom settings w.provider imported target request).2 =
      (scaffoldCustom settings w.provider [] target request).2 := by
  rw [scaffoldCustom, scaffoldCustom]
  split
  · rfl
  · exact run_eq settings _ hs h

/-- What may be asked of a world. -/
inductive Operation where
  | resolve (target : String)
  | describe (target : String)
  | scaffold (settings : Settings) (target : String)
  | scaffoldCustom (settings : Settings) (target : String) (request : Options.Request)

/-- What is remembered after an operation, whether it succeeds or not. -/
def perform (w : World) (imported : Imports) : Operation → Imports
  | .resolve target => (w.resolve imported target).1
  | .describe target => (w.describe imported target).1
  | .scaffold settings target => (scaffold settings w.provider imported target).1
  | .scaffoldCustom settings target request =>
    (scaffoldCustom settings w.provider imported target request).1

/-- What is remembered after operations on a world that was fresh at first. -/
def after (w : World) (operations : List Operation) : Imports :=
  operations.foldl w.perform []

theorem sound_perform (hs : w.Sound imported) (operation : Operation) :
    w.Sound (w.perform imported operation) := by
  cases operation with
  | resolve target => exact sound_resolve target hs
  | describe target => exact sound_describe target hs
  | scaffold settings target => exact sound_describe target hs
  | scaffoldCustom settings target request =>
    simp only [perform, scaffoldCustom]
    split
    · exact hs
    · exact sound_describe target hs

theorem sound_foldl (hs : w.Sound imported) (operations : List Operation) :
    w.Sound (operations.foldl w.perform imported) := by
  induction operations generalizing imported with
  | nil => exact hs
  | cons operation more ih => exact ih (sound_perform hs operation)

theorem sound_after (operations : List Operation) : w.Sound (w.after operations) :=
  sound_foldl sound_nil operations

/-- Answers and notes are those of a fresh world, whatever has been done before. Descriptions and
wrappers need that the documentation of the target is not looked for where a module can be imported
in its place; even where it is, no more than the documentation in a description can differ. -/
theorem history_invisible (w : World) (operations : List Operation) (target : String) :
    (w.resolve (w.after operations) target).2 = (w.resolve [] target).2 ∧
      (∀ d d', (w.describe (w.after operations) target).2.result = .ok d →
        (w.describe [] target).2.result = .ok d' →
        d.parameters = d'.parameters ∧
          (w.describe (w.after operations) target).2.events = (w.describe [] target).2.events) ∧
      (w.Uneclipsed target →
        (w.describe (w.after operations) target).2 = (w.describe [] target).2 ∧
        (∀ settings, (scaffold settings w.provider (w.after operations) target).2 =
          (scaffold settings w.provider [] target).2) ∧
        ∀ settings request,
          (scaffoldCustom settings w.provider (w.after operations) target request).2 =
            (scaffoldCustom settings w.provider [] target request).2) := by
  have hs := sound_after (w := w) operations
  refine ⟨resolve_eq target hs sound_nil, fun d d' => describe_ok_eq hs sound_nil,
    fun h => ⟨describe_eq hs h, ?_, ?_⟩⟩
  · exact fun settings => run_eq settings {} hs h
  · exact fun settings request => scaffoldCustom_eq settings request hs h

def method (module : Path) (place : List Nat) (qualifiedName : String) (doc : Option String) :
    Function where
  name := "f"
  definition := ⟨module, place⟩
  qualifiedName := qualifiedName
  formals := [{ name := "self" }, { name := "x" }]
  doc := doc

def package (name : String) : Module :=
  let define := fun (className : String) (base : Option Class) (methods : List Function) =>
    Class.define ⟨className, [name], className, none⟩ base
      (methods.map fun f => (f.name, .function f))
  let base := define "Base" none [method [name] [0, 0] "Base.f" (some "Base doc.")]
  let s := define "s" base [method [name] [1, 0] "s.f" none]
  let leaf := define "Leaf" s []
  ⟨[name], true, [("Base", .classDef base), ("s", .classDef s), ("Leaf", .classDef leaf)], none⟩

/-- Two such packages. In the one there is also a module of the name `s`. -/
def eclipsing : World where
  modules := [package "p", ⟨["p", "s"], false, [], none⟩, package "q"]
  aliases := .empty

theorem splitOn_method : "s.f".splitOn "." = ["s", "f"] := by
  rw [String.splitOn, if_neg (by decide)]
  rw [String.splitOnAux, if_neg (by decide), if_neg (by decide)]
  rw [String.splitOnAux, if_neg (by decide), if_pos (by decide), if_pos (by decide)]
  rw [String.splitOnAux, if_neg (by decide), if_neg (by decide)]
  rw [String.splitOnAux, if_pos (by decide)]
  decide

theorem describe_leaf :
    (eclipsing.describe [] "p.Leaf.f").2.result =
      .ok ⟨[{ name := "x" }], some "Base doc."⟩ := by
  have hobject : (eclipsing.resolve [] "p.Leaf.f").2.result =
      .ok (.function (method ["p"] [1, 0] "s.f" none)) := rfl
  rw [result_describe hobject]
  simp only [describeObject, readDoc, rawDoc, functionDoc, owningClass?, method, splitOn_method]
  decide +kernel

theorem describe_leaf_after :
    (eclipsing.describe (eclipsing.after [.resolve "p.s"]) "p.Leaf.f").2.result =
      .ok ⟨[{ name := "x" }], some ""⟩ := by
  have hobject : (eclipsing.resolve (eclipsing.after [.resolve "p.s"]) "p.Leaf.f").2.result =
      .ok (.function (method ["p"] [1, 0] "s.f" none)) := rfl
  rw [result_describe hobject]
  simp only [describeObject, readDoc, rawDoc, functionDoc, owningClass?, method, splitOn_method]
  decide +kernel

/-- Documentation that is inherited by way of the class `s` is lost once the module of that name
has been imported. -/
theorem eclipsed_documentation :
    (eclipsing.describe [] "p.Leaf.f").2.result = .ok ⟨[{ name := "x" }], some "Base doc."⟩ ∧
      (eclipsing.describe (eclipsing.after [.resolve "p.s"]) "p.Leaf.f").2.result =
        .ok ⟨[{ name := "x" }], some ""⟩ :=
  ⟨describe_leaf, describe_leaf_after⟩

theorem history_invisible_method :
    let operations : List Operation := [.resolve "p.s", .describe "q.none", .resolve "r.f"]
    (eclipsing.Uneclipsed "q.Leaf.f" ∧
      (eclipsing.describe (eclipsing.after operations) "q.Leaf.f").2 =
        (eclipsing.describe [] "q.Leaf.f").2) ∧
      (eclipsing.describe (eclipsing.after [.resolve "p.s"]) "p.Leaf.f").2.events =
        (eclipsing.describe [] "p.Leaf.f").2.events := by
  have hobject : (eclipsing.resolve [] "q.Leaf.f").2.result =
      .ok (.function (method ["q"] [1, 0] "s.f" none)) := rfl
  have h : eclipsing.Uneclipsed "q.Leaf.f" := by
    rintro object f hresult hundocumented ⟨name, hhead, hloadable⟩
    obtain rfl := Except.ok.inj (hobject.symm.trans hresult)
    cases hundocumented
    simp only [method, splitOn_method] at hhead
    cases hhead
    revert hloadable
    decide +kernel
  exact ⟨⟨h, ((history_invisible eclipsing _ "q.Leaf.f").2.2 h).1⟩,
    ((history_invisible eclipsing _ "p.Leaf.f").2.1 _ _ describe_leaf_after describe_leaf).2⟩

end World
end RBinding
