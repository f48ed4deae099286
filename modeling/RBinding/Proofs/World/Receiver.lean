import RBinding.Proofs.World.Description

/-!
# RBinding.Proofs.World.Receiver

Which parameters of a signature a description leaves out. It stands for all of them
(`Collapses.represented_eq`) but for a leading `self` or `cls` of a plain function with a dot in its
qualified name (`LeavesOut`). A function that is looked up through its class, where it is meant for
instances, still lists its receiver; but a dot is in other qualified names as well, so a static
method and a function that is defined inside another one lose a parameter of that name
(`receiver_left_out`).
-/

namespace RBinding
namespace World

variable {w : World} {imported : Imports} {target : String}

/-- The number of parameters of a signature that those of a description stand for. -/
def represented : List Parameter → Nat
  | [] => 0
  | p :: ps => (if p.aliases.isEmpty then 1 else p.aliases.length) + represented ps

theorem represented_append (ps qs : List Parameter) :
    represented (ps ++ qs) = represented ps + represented qs := by
  induction ps with
  | nil => simp [represented]
  | cons p ps ih => simp [represented, ih, Nat.add_assoc]

theorem Represents.aliases_eq {p : Formal} {parameter : Parameter} (h : Represents p parameter) :
    parameter.aliases = [] := by
  cases h <;> rfl

theorem represented_of_forall₂ {formals : List Formal} {parameters : List Parameter}
    (h : List.Forall₂ Represents formals parameters) :
    represented parameters = formals.length := by
  induction h with
  | nil => rfl
  | cons hfirst _ ih =>
    rw [represented, hfirst.aliases_eq, ih, List.length_cons]
    simp [Nat.add_comm]

theorem Collapses.represented_eq {formals : List Formal} {parameters : List Parameter}
    (h : Collapses formals parameters) : represented parameters = formals.length := by
  cases h with
  | plain _ heach => exact represented_of_forall₂ heach
  | @variadic before after hvariadic _ heach =>
    have hordinary := represented_of_forall₂ heach
    have hlength := List.length_eq_length_filter_add (l := formals) (·.isVariadic)
    obtain ⟨p, hp, htrue⟩ := hvariadic
    have hmem : p ∈ formals.filter (·.isVariadic) := List.mem_filter.mpr ⟨hp, htrue⟩
    have hne : ((formals.filter (·.isVariadic)).map (·.name)).isEmpty = false := by
      rw [List.isEmpty_eq_false_iff, ne_eq, List.map_eq_nil_iff]
      exact List.ne_nil_of_mem hmem
    rw [represented_append] at hordinary
    rw [represented_append, represented, hne, if_neg Bool.false_ne_true, List.length_map]
    omega

theorem walk_append (w : World) (imported : Imports) (object : Object)
    (before after : List String) :
    walk w imported object (before ++ after) =
      (walk w imported object before).bind fun next => walk w imported next after := by
  induction before generalizing object with
  | nil => rfl
  | cons name before ih =>
    rw [List.cons_append, walk, walk]
    cases getAttribute w imported object name with
    | error e => rfl
    | ok next => exact ih next

/-- All segments of the target but the last lead to the object. -/
def LeadsToHolder (w : World) (imported : Imports) (target : String) (holder : Object)
    (name : String) : Prop :=
  ∃ n before,
    (w.importLongest target (w.expand target) (w.expand target).length imported).2.result =
      .ok (some n) ∧
    (w.expand target).drop n = before ++ [name] ∧
    walk w (w.resolve imported target).1 (.module ((w.expand target).take n)) before = .ok holder

theorem LeadsToHolder.unique {holder holder' : Object} {name name' : String}
    (h : LeadsToHolder w imported target holder name)
    (h' : LeadsToHolder w imported target holder' name') : holder = holder' ∧ name = name' := by
  obtain ⟨n, before, hn, hdrop, hwalk⟩ := h
  obtain ⟨n', before', hn', hdrop', hwalk'⟩ := h'
  rw [hn] at hn'
  cases hn'
  obtain ⟨rfl, hname⟩ := List.append_inj' (hdrop.symm.trans hdrop') rfl
  rw [hwalk] at hwalk'
  cases hwalk'
  cases hname
  exact ⟨rfl, rfl⟩

theorem walk_of_walkTarget {module : Path} {attributes : List String} {object : Object}
    (h : walkTarget w imported target module attributes = .ok object) :
    walk w imported (.module module) attributes = .ok object := by
  rw [walkTarget] at h
  split at h
  · rename_i hwalk
    cases h
    exact hwalk
  · split at h <;> cases h

theorem walk_of_resolve {object : Object}
    (h : (w.resolve imported target).2.result = .ok object) :
    ∃ n, (w.importLongest target (w.expand target) (w.expand target).length imported).2.result =
        .ok (some n) ∧
      walk w (w.resolve imported target).1 (.module ((w.expand target).take n))
        ((w.expand target).drop n) = .ok object := by
  rw [resolve] at h ⊢
  split at h
  · cases h
  · rename_i hne
    obtain ⟨found, hfound, h⟩ := Traced.exists_of_bind_ok h
    cases found with
    | none => cases h
    | some n =>
      refine ⟨n, hfound, ?_⟩
      rw [if_neg hne]
      exact walk_of_walkTarget h

theorem exists_holder {object : Object} (h : (w.resolve imported target).2.result = .ok object)
    (hmodule : object.isModule = false) :
    ∃ holder name, LeadsToHolder w imported target holder name ∧
      getAttribute w (w.resolve imported target).1 holder name = .ok object := by
  obtain ⟨n, hn, hwalk⟩ := walk_of_resolve h
  rcases List.eq_nil_or_concat ((w.expand target).drop n) with hnil | ⟨before, name, hconcat⟩
  · rw [hnil] at hwalk
    cases hwalk
    cases hmodule
  · rw [List.concat_eq_append] at hconcat
    rw [hconcat, walk_append] at hwalk
    obtain ⟨holder, hholder, hlast⟩ := Traced.exists_of_result_bind_ok hwalk
    refine ⟨holder, name, ⟨n, before, hn, hconcat, hholder⟩, ?_⟩
    rw [walk] at hlast
    split at hlast
    · cases hlast
    · rename_i next hnext
      cases hlast
      exact hnext

/-- How the last segment leads to a function. -/
inductive LeadsToFunction (w : World) (f : Function) : Object → String → Prop
  | ofModule {path : Path} {m : Module} {name : String} (module : w.module? path = some m)
      (found : moduleAttribute? m.attributes name = some (.function f)) :
      LeadsToFunction w f (.module path) name
  | ofRecord {members : List (String × Attribute)} {name : String}
      (found : attribute? members name = some (.function f)) :
      LeadsToFunction w f (.record members) name
  | ofClass {c : Class} {name : String} (member : c.member? name = some (.function f))
      (ordinary : f.effectiveBinding = .toInstance) : LeadsToFunction w f (.classDef c) name
  | static {c : Class} {holder : Object} {name : String}
      (held : holder = .classDef c ∨ holder = .object c)
      (member : c.member? name = some (.function f)) (unbound : f.effectiveBinding = .toNothing) :
      LeadsToFunction w f holder name

theorem ofAttribute_eq_function {a : Attribute} {f : Function}
    (h : Object.ofAttribute a = .ok (.function f)) : a = .function f := by
  cases a <;> cases h
  rfl

theorem ofClassMember_eq_function {c : Class} {a : Attribute} {f : Function}
    (h : Object.ofClassMember c a = .ok (.function f)) :
    a = .function f ∧ (f.effectiveBinding = .toInstance ∨ f.effectiveBinding = .toNothing) := by
  cases a with
  | function g =>
    rw [Object.ofClassMember] at h
    split at h
    · cases h
    · rename_i hbinding
      cases h
      refine ⟨rfl, ?_⟩
      cases heffective : f.effectiveBinding with
      | toInstance => exact .inl rfl
      | toNothing => exact .inr rfl
      | toClass => exact absurd heffective hbinding
  | _ => cases h

theorem ofInstanceMember_eq_function {c : Class} {a : Attribute} {f : Function}
    (h : Object.ofInstanceMember c a = .ok (.function f)) :
    a = .function f ∧ f.effectiveBinding = .toNothing := by
  cases a with
  | function g =>
    rw [Object.ofInstanceMember] at h
    split at h
    · rename_i hbinding
      cases h
      exact ⟨rfl, hbinding⟩
    · cases h
  | _ => cases h

theorem leadsToFunction_of_getAttribute {holder : Object} {name : String} {f : Function}
    (h : getAttribute w imported holder name = .ok (.function f)) :
    LeadsToFunction w f holder name := by
  cases holder with
  | module path =>
    rw [getAttribute] at h
    split at h
    · cases h
    · split at h
      · rename_i a ha
        obtain ⟨m, hm, ha⟩ := Option.bind_eq_some_iff.mp ha
        obtain rfl := ofAttribute_eq_function h
        exact .ofModule hm ha
      · cases h
  | classDef c =>
    rw [getAttribute] at h
    split at h
    · rename_i a ha
      obtain ⟨rfl, hordinary | hunbound⟩ := ofClassMember_eq_function h
      · exact .ofClass ha hordinary
      · exact .static (.inl rfl) ha hunbound
    · cases h
  | object c =>
    rw [getAttribute] at h
    split at h
    · rename_i a ha
      obtain ⟨rfl, hunbound⟩ := ofInstanceMember_eq_function h
      exact .static (.inr rfl) ha hunbound
    · cases h
  | record members =>
    rw [getAttribute] at h
    split at h
    · rename_i a ha
      obtain rfl := ofAttribute_eq_function h
      exact .ofRecord ha
    · cases h
  | _ => cases h

/-- The first of the parameters goes by the name of a receiver. -/
def ListsReceiver (formals : List Formal) : Prop :=
  ∃ p ps, formals = p :: ps ∧ p.name ∈ receiverNames

/-- The parameters that a description does not leave out. -/
inductive LeavesOut (object : Object) : List Formal → List Formal → Prop
  | receiver {f : Function} {p : Formal} {ps : List Formal} (plain : object = .function f)
      (named : p.name ∈ receiverNames) (dotted : '.' ∈ f.qualifiedName.toList) :
      LeavesOut object (p :: ps) ps
  | nothing {formals : List Formal} (kept : ∀ f, object = .function f → ListsReceiver formals →
      '.' ∉ f.qualifiedName.toList) : LeavesOut object formals formals

theorem leavesOut_withoutReceiver (object : Object) (formals : List Formal) :
    LeavesOut object formals (withoutReceiver object formals) := by
  rw [withoutReceiver.eq_def]
  split
  · rename_i f p ps
    split
    · rename_i hboth
      rw [Bool.and_eq_true, List.contains_iff_mem, List.contains_iff_mem] at hboth
      exact .receiver rfl hboth.1 hboth.2
    · rename_i hnot
      refine .nothing ?_
      rintro _ ⟨⟩ ⟨p', ps', heq, hnamed⟩ hdotted
      cases heq
      exact hnot (by simp [hnamed, hdotted])
  · rename_i hnone
    refine .nothing ?_
    rintro f rfl ⟨p, ps, rfl, -⟩
    exact absurd rfl (hnone f p ps rfl)

/-- The target leads to the function as a member of a class that is meant for its instances. -/
def LeadsThroughClass (w : World) (imported : Imports) (target : String) (f : Function) : Prop :=
  ∃ c name, LeadsToHolder w imported target (.classDef c) name ∧
    c.member? name = some (.function f) ∧ f.effectiveBinding = .toInstance

/-- Of the ways to a function only that through its class counts. -/
theorem leadsThroughClass_iff {f : Function} {holder : Object} {name : String}
    (hholder : LeadsToHolder w imported target holder name)
    (hleads : LeadsToFunction w f holder name) :
    LeadsThroughClass w imported target f ↔
      (∃ c, holder = .classDef c) ∧ f.effectiveBinding = .toInstance := by
  constructor
  · rintro ⟨c, name', hholder', -, hordinary⟩
    exact ⟨⟨c, (hholder.unique hholder').1⟩, hordinary⟩
  · rintro ⟨⟨c, rfl⟩, hordinary⟩
    cases hleads with
    | ofClass hmember _ => exact ⟨c, name, hholder, hmember, hordinary⟩
    | static _ _ hunbound =>
      rw [hordinary] at hunbound
      cases hunbound

/-- The signature lists the receiver of a function that is looked up through its class. -/
def HasReceiver (w : World) (imported : Imports) (target : String) (object : Object)
    (formals : List Formal) : Prop :=
  ∃ f, object = .function f ∧ ListsReceiver formals ∧ LeadsThroughClass w imported target f

/-- A description leaves out such a receiver and nothing else. -/
structure OnlyReceiver (w : World) (imported : Imports) (target : String) (object : Object)
    (formals : List Formal) (parameters : List Parameter) : Prop where
  receiver : HasReceiver w imported target object formals →
    represented parameters + 1 = formals.length
  otherwise : ¬HasReceiver w imported target object formals →
    represented parameters = formals.length

/-- The dot in a qualified name is as good a sign as the way to the function only if they agree. -/
theorem onlyReceiver_iff {object : Object} {formals shown : List Formal}
    {parameters : List Parameter} (hleaves : LeavesOut object formals shown)
    (hcollapses : Collapses shown parameters) :
    OnlyReceiver w imported target object formals parameters ↔
      ∀ f, object = .function f → ListsReceiver formals →
        ('.' ∈ f.qualifiedName.toList ↔ LeadsThroughClass w imported target f) := by
  have hnumber := hcollapses.represented_eq
  cases hleaves with
  | @receiver f p ps hplain hnamed hdotted =>
    have hlists : ListsReceiver (p :: shown) := ⟨p, shown, rfl, hnamed⟩
    constructor
    · rintro ⟨-, hotherwise⟩ f' hf' -
      obtain rfl : f = f' := Object.function.inj (hplain.symm.trans hf')
      refine iff_of_true hdotted ?_
      by_contra hnot
      have hequal : represented parameters = (p :: shown).length := by
        apply hotherwise
        rintro ⟨f', hf', -, hleads⟩
        obtain rfl : f = f' := Object.function.inj (hplain.symm.trans hf')
        exact hnot hleads
      rw [List.length_cons] at hequal
      omega
    · intro hagree
      have hleads := (hagree f hplain hlists).mp hdotted
      constructor
      · intro _
        rw [hnumber, List.length_cons]
      · intro hnot
        exact absurd ⟨f, hplain, hlists, hleads⟩ hnot
  | nothing hkept =>
    constructor
    · rintro ⟨hreceiver, -⟩ f hf hlists
      refine iff_of_false (hkept f hf hlists) ?_
      intro hleads
      have hless := hreceiver ⟨f, hf, hlists, hleads⟩
      omega
    · intro hagree
      refine ⟨?_, fun _ => hnumber⟩
      rintro ⟨f, hf, hlists, hleads⟩
      exact absurd ((hagree f hf hlists).mpr hleads) (hkept f hf hlists)

/-- A callable with a signature and readable documentation is described by all of its parameters but
for a leading receiver of a plain function with a dot in its qualified name. This is the receiver of
a function that the target leads to through its class, and nothing else, just if the dot tells the
way to the function. There is no description if a number in a default has too many digits. -/
theorem receiver_left_out {object : Object} {formals : List Formal}
    (hobject : (w.resolve imported target).2.result = .ok object)
    (hcallable : object.isCallable = true) (hsignature : signature object = .ok formals) :
    (∀ f, object = .function f → ∃ holder name, LeadsToHolder w imported target holder name ∧
      LeadsToFunction w f holder name ∧
      (LeadsThroughClass w imported target f ↔
        (∃ c, holder = .classDef c) ∧ f.effectiveBinding = .toInstance)) ∧
    ∃ shown, LeavesOut object formals shown ∧
      ((∃ e, readDoc w (w.resolve imported target).1 object = .error e ∧
          (w.describe imported target).2.result = .error e) ∨
        ∃ doc, readDoc w (w.resolve imported target).1 object = .ok doc ∧
          ((shown ≠ [] ∧ (∀ p ∈ shown, p.isVariadic = true) ∧
              (w.describe imported target).2.result =
                .error (.signatureUnavailable (.onlyVariadic target) (some target) (some doc))) ∨
            ((∃ p ∈ shown, p.isUndeclarable = true) ∧
              (w.describe imported target).2.result = .error .tooManyDigits) ∨
            ∃ parameters, (w.describe imported target).2.result = .ok ⟨parameters, some doc⟩ ∧
              Collapses shown parameters ∧ represented parameters = shown.length ∧
              (OnlyReceiver w imported target object formals parameters ↔
                ∀ f, object = .function f → ListsReceiver formals →
                  ('.' ∈ f.qualifiedName.toList ↔ LeadsThroughClass w imported target f)))) := by
  constructor
  · rintro f rfl
    obtain ⟨holder, name, hholder, hattribute⟩ := exists_holder hobject rfl
    have hleads := leadsToFunction_of_getAttribute hattribute
    exact ⟨holder, name, hholder, hleads, leadsThroughClass_iff hholder hleads⟩
  · have hleaves := leavesOut_withoutReceiver object formals
    have hdescribes := describes_describeObject w (w.resolve imported target).1 target hcallable
    rw [hsignature, ← result_describe hobject] at hdescribes
    refine ⟨withoutReceiver object formals, hleaves, ?_⟩
    rcases hdescribes with hdescribes | ⟨doc, _, hdoc, ⟨⟩, hlong, hresult⟩
    rotate_left
    · exact .inr ⟨doc, hdoc, .inr (.inl ⟨hlong, hresult⟩)⟩
    generalize (w.describe imported target).2.result = result at hdescribes
    generalize readDoc w (w.resolve imported target).1 object = read at hdescribes
    cases hdescribes with
    | undocumented => exact .inl ⟨_, rfl, rfl⟩
    | onlyVariadic hleft hall => exact .inr ⟨_, rfl, .inl ⟨hleft, hall, rfl⟩⟩
    | @given _ _ parameters _ hcollapses =>
      exact .inr ⟨_, rfl, .inr (.inr ⟨parameters, rfl, hcollapses, hcollapses.represented_eq,
        onlyReceiver_iff hleaves hcollapses⟩)⟩

def blend : Function where
  name := "blend"
  definition := ⟨["m"], [0, 0]⟩
  qualifiedName := "Paint.blend"
  binding := .toNothing
  formals := [{ name := "self" }, { name := "other" }]
  doc := some "Blend."

def inner : Function where
  name := "apply"
  definition := ⟨["m"], [1, 0]⟩
  qualifiedName := "make.<locals>.apply"
  formals := [{ name := "self" }, { name := "x" }]
  doc := some "Apply."

def paints : World where
  modules := [⟨["m"], false,
    [("Paint", .classDef (.define ⟨"Paint", ["m"], "Paint", none⟩ none
        [("blend", .function blend)])),
      ("apply", .function inner)], none⟩]
  aliases := .empty

theorem receiver_left_out_blend :
    ((paints.resolve [] "m.Paint.blend").2.result = .ok (.function blend) ∧
      (Object.function blend).isCallable = true ∧
      signature (.function blend) = .ok blend.formals) ∧
    ∃ parameters, (paints.describe [] "m.Paint.blend").2.result =
      .ok ⟨parameters, some "Blend."⟩ ∧ represented parameters = 1 := by
  have hobject : (paints.resolve [] "m.Paint.blend").2.result = .ok (.function blend) := rfl
  have hread : readDoc paints (paints.resolve [] "m.Paint.blend").1 (.function blend) =
      .ok "Blend." := by decide +kernel
  refine ⟨⟨hobject, rfl, rfl⟩, ?_⟩
  obtain ⟨-, shown, hleaves, hresult⟩ := receiver_left_out hobject rfl rfl
  obtain rfl : shown = [{ name := "other" }] := by
    cases hleaves with
    | receiver => rfl
    | nothing hkept =>
      exact absurd (by decide) (hkept blend rfl ⟨_, _, rfl, List.mem_cons_self⟩)
  rw [hread] at hresult
  rcases hresult with ⟨e, he, -⟩ | ⟨doc, hdoc, ⟨-, hall, -⟩ | ⟨⟨p, hp, hlong⟩, -⟩ |
    ⟨parameters, hdescribed, -, hnumber, -⟩⟩
  · cases he
  · exact absurd (hall { name := "other" } List.mem_cons_self) (by decide)
  · rw [List.mem_singleton.mp hp] at hlong
    cases hlong
  · cases hdoc
    exact ⟨parameters, hdescribed, hnumber⟩

/-- These functions lose a parameter that is no receiver. -/
theorem not_onlyReceiver :
    (paints.describe [] "m.Paint.blend").2.result = .ok ⟨[{ name := "other" }], some "Blend."⟩ ∧
      ¬OnlyReceiver paints [] "m.Paint.blend" (.function blend) blend.formals
        [{ name := "other" }] ∧
      (paints.describe [] "m.apply").2.result = .ok ⟨[{ name := "x" }], some "Apply."⟩ ∧
      ¬OnlyReceiver paints [] "m.apply" (.function inner) inner.formals [{ name := "x" }] := by
  refine ⟨by decide +kernel, ?_, by decide +kernel, ?_⟩
  · rintro ⟨-, hotherwise⟩
    have hnumber : 1 = 2 := by
      apply hotherwise
      rintro ⟨f, hf, -, _, _, -, -, hordinary⟩
      cases hf
      cases hordinary
    omega
  · rintro ⟨-, hotherwise⟩
    have hholder : LeadsToHolder paints [] "m.apply" (.module ["m"]) "apply" :=
      ⟨1, [], by decide +kernel, by decide +kernel, rfl⟩
    have hnumber : 1 = 2 := by
      apply hotherwise
      rintro ⟨f, hf, -, _, _, hclass, -⟩
      cases (hholder.unique hclass).1
    omega

end World
end RBinding
