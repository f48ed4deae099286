import RBinding.World.Lookup

/-!
# RBinding.Proofs.World.Import

What has been imported does not show in what an access path leads to.

Importing has a meaning that does not speak of what is remembered: the modules on the way are run
one after the other (`loadBelow`). A memory is `Sound` if it holds only modules that can be
imported, and then importing gives what running gives (`importBelow_sound`). A fresh memory is
sound, and imports keep it so, the failed ones too.

From then on only the first attribute after a module could tell two sound memories apart, since
what attributes lead to is never a module (`isModule_getAttribute`). But the module of a target is
its longest prefix that can be imported, so the name after it is not that of a module
(`not_loadable_next`). Hence `resolve_eq`.
-/

namespace RBinding
namespace World

variable {w : World} {imported imported' : Imports}

/-- Runs what is named below `parent`, from the outside in. -/
def loadBelow (w : World) (parent : Path) : List String → Except Failure Unit
  | [] => .ok ()
  | name :: more =>
    match w.load parent name with
    | .error e => .error e
    | .ok () => loadBelow w (parent ++ [name]) more

/-- The module at the path can be imported. -/
def Loadable (w : World) (path : Path) : Prop :=
  w.loadBelow [] path = .ok ()

instance (w : World) (path : Path) : Decidable (w.Loadable path) :=
  match h : w.loadBelow [] path with
  | .ok () => isTrue h
  | .error _ => isFalse (by simp [Loadable, h])

/-- What is remembered can be imported. -/
def Sound (w : World) (imported : Imports) : Prop :=
  ∀ path ∈ imported, w.Loadable path

theorem sound_nil : w.Sound [] := by
  simp [Sound]

theorem Sound.append_path {path : Path} (h : w.Sound imported) (hp : w.Loadable path) :
    w.Sound (imported ++ [path]) := by
  intro q hq
  rcases List.mem_append.mp hq with hq | hq
  · exact h q hq
  · rw [List.mem_singleton.mp hq]
    exact hp

theorem loadBelow_append (parent names more : Path) :
    w.loadBelow parent (names ++ more) =
      (w.loadBelow parent names).bind fun _ => w.loadBelow (parent ++ names) more := by
  induction names generalizing parent with
  | nil => simp [loadBelow, Except.bind]
  | cons name names ih =>
    rw [List.cons_append, loadBelow, loadBelow]
    cases w.load parent name with
    | error e => rfl
    | ok => simp [ih]

theorem loadBelow_append_name (parent names : Path) (name : String)
    (h : w.loadBelow parent names = .ok ()) :
    w.loadBelow parent (names ++ [name]) = w.load (parent ++ names) name := by
  rw [loadBelow_append, h, Except.bind, loadBelow]
  cases w.load (parent ++ names) name <;> rfl

theorem loadable_append_name {parent : Path} {name : String} (hp : w.Loadable parent) :
    w.Loadable (parent ++ [name]) ↔ w.load parent name = .ok () := by
  rw [Loadable, loadBelow_append_name [] parent name hp, List.nil_append]

/-- Each module on the way is either remembered, and then it can be run, or is run now. -/
theorem importBelow_sound (names : List String) {parent : Path} (hs : w.Sound imported)
    (hp : w.Loadable parent) :
    w.Sound (w.importBelow parent names imported).1 ∧
      (w.importBelow parent names imported).2 = w.loadBelow parent names := by
  induction names generalizing parent imported with
  | nil => exact ⟨hs, rfl⟩
  | cons name more ih =>
    rw [importBelow, loadBelow]
    by_cases hc : imported.contains (parent ++ [name])
    · have hpath : w.Loadable (parent ++ [name]) := hs _ (List.contains_iff_mem.mp hc)
      rw [if_pos hc, (loadable_append_name hp).mp hpath]
      exact ih hs hpath
    · rw [if_neg hc]
      cases hl : w.load parent name with
      | error e => exact ⟨hs, rfl⟩
      | ok =>
        have hpath := (loadable_append_name hp).mpr hl
        exact ih (hs.append_path hpath) hpath

/-- An import that succeeds or fails just as one does that starts from nothing. -/
theorem exists_importModule (path : Path) (hs : w.Sound imported) :
    ∃ next, w.importModule imported path = (next, w.loadBelow [] path) ∧ w.Sound next := by
  obtain ⟨hnext, hresult⟩ := importBelow_sound path hs (rfl : w.Loadable [])
  exact ⟨_, Prod.ext rfl hresult, hnext⟩

/-- The longest prefix of a path that can be imported, where nothing is remembered. -/
def longest (w : World) (target : String) (path : Path) : Nat → Traced (Option Nat)
  | 0 => pure none
  | n + 1 =>
    let tried := path.take (n + 1)
    match w.loadBelow [] tried with
    | .ok () => pure (some (n + 1))
    | .error e =>
      if reportsMissing e tried then do
        Traced.note (.notAModule (dotted tried) e.message)
        longest w target path n
      else if e.isError then
        Traced.fail (.targetNotFound (.importFailed (dotted tried) e.className e.message)
          (some target))
      else Traced.fail e

theorem importLongest_sound (target : String) (path : Path) (n : Nat) (hs : w.Sound imported) :
    w.Sound (w.importLongest target path n imported).1 ∧
      (w.importLongest target path n imported).2 = w.longest target path n := by
  induction n generalizing imported with
  | zero => exact ⟨hs, rfl⟩
  | succ n ih =>
    obtain ⟨next, himport, hnext⟩ := exists_importModule (path.take (n + 1)) hs
    rw [importLongest, longest, himport]
    cases w.loadBelow [] (path.take (n + 1)) with
    | ok => exact ⟨hnext, rfl⟩
    | error e =>
      obtain ⟨hshorter, hfound⟩ := ih hnext
      simp only
      split
      · exact ⟨hshorter, by rw [hfound]⟩
      · split <;> exact ⟨hnext, rfl⟩

theorem not_loadable_of_longest {target : String} {path : Path} {n k : Nat}
    (h : (w.longest target path n).result = .ok (some k)) {j : Nat} (hk : k < j) (hj : j ≤ n) :
    ¬ w.Loadable (path.take j) := by
  induction n with
  | zero => omega
  | succ n ih =>
    rw [longest] at h
    cases hl : w.loadBelow [] (path.take (n + 1)) with
    | ok =>
      rw [hl] at h
      cases h
      omega
    | error e =>
      rw [hl] at h
      simp only at h
      rcases Nat.lt_or_eq_of_le hj with hj | rfl
      · refine ih ?_ (Nat.le_of_lt_succ hj)
        split at h
        · exact h
        · split at h <;> cases h
      · simp [Loadable, hl]

theorem not_loadable_next {target : String} {path : Path} {k : Nat} {name : String}
    (h : (w.longest target path path.length).result = .ok (some k))
    (hname : (path.drop k).head? = some name) : ¬ w.Loadable (path.take k ++ [name]) := by
  rw [List.head?_drop] at hname
  obtain ⟨hlt, _⟩ := List.getElem?_eq_some_iff.mp hname
  have hlonger : path.take (k + 1) = path.take k ++ [name] := by
    rw [List.take_add_one, hname, Option.toList_some]
  rw [← hlonger]
  exact not_loadable_of_longest h (Nat.lt_succ_self k) hlt

def Object.isModule : Object → Bool
  | .module _ => true
  | _ => false

theorem isModule_ofAttribute {a : Attribute} {object : Object}
    (h : Object.ofAttribute a = .ok object) : object.isModule = false := by
  cases a <;> cases h <;> rfl

theorem isModule_ofClassMember {owner : Class} {a : Attribute} {object : Object}
    (h : Object.ofClassMember owner a = .ok object) : object.isModule = false := by
  unfold Object.ofClassMember at h
  split at h
  · split at h <;> cases h <;> rfl
  · exact isModule_ofAttribute h

theorem isModule_ofInstanceMember {owner : Class} {a : Attribute} {object : Object}
    (h : Object.ofInstanceMember owner a = .ok object) : object.isModule = false := by
  unfold Object.ofInstanceMember at h
  split at h
  · split at h <;> cases h <;> rfl
  · exact isModule_ofAttribute h

theorem isModule_getAttribute {object next : Object} {name : String}
    (ho : object.isModule = false) (h : getAttribute w imported object name = .ok next) :
    next.isModule = false := by
  unfold getAttribute at h
  split at h
  · cases ho
  all_goals
    try split at h
  · exact isModule_ofClassMember h
  · cases h
  · exact isModule_ofInstanceMember h
  · cases h
  · exact isModule_ofAttribute h
  · cases h
  · cases h

theorem getAttribute_eq {object : Object} (ho : object.isModule = false) (name : String) :
    getAttribute w imported object name = getAttribute w imported' object name := by
  cases object <;> first | rfl | cases ho

theorem walk_eq {object : Object} (ho : object.isModule = false) (names : List String) :
    walk w imported object names = walk w imported' object names := by
  induction names generalizing object with
  | nil => rfl
  | cons name more ih =>
    have hsame : getAttribute w imported object name = getAttribute w imported' object name :=
      getAttribute_eq ho name
    rw [walk, walk, hsame]
    cases hnext : getAttribute w imported' object name with
    | error e => rfl
    | ok next => exact ih (isModule_getAttribute ho hnext)

/-- A walk from a module whose first step cannot lead to another module. -/
theorem walk_module_eq (module : Path) (names : List String) (hs : w.Sound imported)
    (hs' : w.Sound imported')
    (h : ∀ name, names.head? = some name → ¬ w.Loadable (module ++ [name])) :
    walk w imported (.module module) names = walk w imported' (.module module) names := by
  cases names with
  | nil => rfl
  | cons name more =>
    have hnot : imported.contains (module ++ [name]) = false := by
      simpa using fun hm => h name rfl (hs _ hm)
    have hnot' : imported'.contains (module ++ [name]) = false := by
      simpa using fun hm => h name rfl (hs' _ hm)
    rw [walk, walk]
    simp only [getAttribute, hnot, hnot']
    cases (w.module? module).bind (moduleAttribute? ·.attributes name) with
    | none => rfl
    | some a =>
      cases ha : Object.ofAttribute a with
      | error e => simp [ha]
      | ok next => simpa [ha] using walk_eq (isModule_ofAttribute ha) more

theorem sound_resolve (target : String) (hs : w.Sound imported) :
    w.Sound (w.resolve imported target).1 := by
  rw [resolve]
  split
  · exact hs
  · exact (importLongest_sound target _ _ hs).1

/-- What has been imported does not show in what a target leads to, nor in what is told of it. -/
theorem resolve_eq (target : String) (hs : w.Sound imported) (hs' : w.Sound imported') :
    (w.resolve imported target).2 = (w.resolve imported' target).2 := by
  rw [resolve, resolve]
  split
  · rfl
  · obtain ⟨hnext, hfound⟩ := importLongest_sound target (w.expand target)
      (w.expand target).length hs
    obtain ⟨hnext', hfound'⟩ := importLongest_sound target (w.expand target)
      (w.expand target).length hs'
    simp only [hfound, hfound']
    refine Traced.bind_congr fun found hresult => ?_
    cases found with
    | none => rfl
    | some n =>
      have hwalk := walk_module_eq _ _ hnext hnext' fun _ => not_loadable_next hresult
      simp only [walkTarget, hwalk]

end World
end RBinding
