import RBinding.Proofs.AccessPath
import RBinding.Proofs.Scaffold.Stages
import RBinding.Proofs.World.History

/-!
# RBinding.Proofs.World.Resolution

Where an access path leads. Its modules are counted from the outside in: the first `k` are there and
run without a failure, and the next one is not there or fails (`IsDeepest`). Every prefix longer
than that fails to be imported, and all with the same failure (`loadBelow_take`), though the
prefixes are tried from the longest. A failure is passed over if it names a prefix of the path as
missing (`reportsMissing_iff`), and then the attributes after the first `k` segments decide; any
other failure is reported. So a module that is there is not passed over because something that it
imports is missing (`resolve_longest_prefix`).
-/

namespace RBinding
namespace World

open AccessPath (IsSegment)

variable {w : World} {imported : Imports} {target : String} {path : Path} {e : Failure}

theorem isSegment_of_mem_expand {s : String} (h : s ∈ w.expand target) : IsSegment s := by
  rw [expand] at h
  split at h
  · cases h
  · next first more hsegments =>
    have hmore : s ∈ more → IsSegment s := fun hs =>
      AccessPath.isSegment_of_mem (hsegments ▸ List.mem_cons_of_mem first hs)
    split at h
    · rcases List.mem_append.mp h with h | h
      · exact AccessPath.isSegment_of_mem h
      · exact hmore h
    · exact AccessPath.isSegment_of_mem (hsegments ▸ h)

theorem toList_dotted (path : Path) :
    (dotted path).toList = ['.'].intercalate (path.map String.toList) := by
  rw [dotted, String.toList_intercalate]
  rfl

theorem splitOn_dotted (hne : path ≠ []) (h : ∀ s ∈ path, IsSegment s) :
    (dotted path).toList.splitOn '.' = path.map String.toList := by
  rw [toList_dotted, List.splitOn_intercalate]
  · intro l hl
    obtain ⟨s, hs, rfl⟩ := List.mem_map.mp hl
    exact (h s hs).dot_not_mem
  · simpa using hne

theorem toList_dotted_append {p q : Path} (hp : p ≠ []) (hq : q ≠ []) :
    (dotted (p ++ q)).toList = (dotted p).toList ++ '.' :: (dotted q).toList := by
  simp only [toList_dotted, List.map_append]
  induction p with
  | nil => exact absurd rfl hp
  | cons s p ih =>
    have hq' : q.map String.toList ≠ [] := by simpa using hq
    cases p with
    | nil =>
      rw [List.map_singleton, List.singleton_append, List.intercalate_cons_of_ne_nil hq',
        List.intercalate_singleton]
      simp
    | cons t p =>
      rw [List.map_cons, List.cons_append, List.intercalate_cons_of_ne_nil (by simp),
        ih (by simp), List.intercalate_cons_of_ne_nil (by simp)]
      simp

/-- The failure names the module at the path, or one that it is inside of, as missing. -/
def NamesPrefix (e : Failure) (path : Path) : Prop :=
  ∃ j, 0 < j ∧ j ≤ path.length ∧ e.missingModule? = some (dotted (path.take j))

theorem exists_take_of_isPrefix {name : List Char} (h : ∀ s ∈ path, IsSegment s)
    (hstart : name ++ ['.'] <+: (dotted path).toList) :
    ∃ j, 0 < j ∧ j ≤ path.length ∧ name = (dotted (path.take j)).toList := by
  obtain ⟨rest, hrest⟩ := hstart
  have hne : path ≠ [] := by
    rintro rfl
    simp [toList_dotted] at hrest
  have hsplit : name.splitOn '.' ++ rest.splitOn '.' = path.map String.toList := by
    rw [← splitOn_dotted hne h, ← hrest, List.append_assoc, List.singleton_append,
      List.splitOn_append_cons_self]
  have htake : name.splitOn '.' = (path.take (name.splitOn '.').length).map String.toList := by
    rw [List.map_take, ← hsplit, List.take_left]
  refine ⟨(name.splitOn '.').length, ?_, ?_, ?_⟩
  · exact List.length_pos_of_ne_nil (List.splitOn_ne_nil _ _)
  · have hlength := congrArg List.length hsplit
    rw [List.length_append, List.length_map] at hlength
    omega
  · rw [toList_dotted, ← htake, List.intercalate_splitOn]

theorem dotted_ne_empty (hne : path ≠ []) (h : ∀ s ∈ path, IsSegment s) : dotted path ≠ "" := by
  intro hempty
  have hsplit := splitOn_dotted hne h
  rw [hempty, String.toList_empty, List.splitOn_nil] at hsplit
  obtain ⟨s, hs, hnil⟩ := List.mem_map.mp (hsplit ▸ List.mem_singleton_self [])
  exact (h s hs).nonempty hnil

theorem reportsMissing_iff (h : ∀ s ∈ path, IsSegment s) :
    reportsMissing e path = true ↔ NamesPrefix e path := by
  rw [reportsMissing, NamesPrefix]
  cases e.missingModule? with
  | none => simp
  | some name =>
    simp only [Bool.and_eq_true, Bool.or_eq_true, Bool.not_eq_true', beq_iff_eq,
      List.isPrefixOf_iff_prefix, Option.some.injEq]
    constructor
    · rintro ⟨hname, rfl | hstart⟩
      · refine ⟨path.length, List.length_pos_of_ne_nil ?_, Nat.le_refl _, by rw [List.take_length]⟩
        rintro rfl
        cases hname
      · obtain ⟨j, hpos, hle, hj⟩ := exists_take_of_isPrefix h hstart
        exact ⟨j, hpos, hle, String.toList_inj.mp hj⟩
    · rintro ⟨j, hpos, hle, rfl⟩
      have hne : path.take j ≠ [] := by
        intro hnil
        have hlength := congrArg List.length hnil
        rw [List.length_take, List.length_nil] at hlength
        omega
      refine ⟨?_, ?_⟩
      · simpa using dotted_ne_empty hne fun s hs => h s (List.mem_of_mem_take hs)
      · rcases Nat.lt_or_eq_of_le hle with hlt | rfl
        · have hdrop : path.drop j ≠ [] := by simpa using hlt
          have hdotted := toList_dotted_append hne hdrop
          rw [List.take_append_drop] at hdotted
          exact .inr ⟨(dotted (path.drop j)).toList, by rw [hdotted]; simp⟩
        · exact .inl (by rw [List.take_length])

theorem reportsMissing_take_iff (h : ∀ s ∈ path, IsSegment s) (i : Nat) :
    reportsMissing e (path.take i) = true ↔ NamesPrefix e (path.take i) :=
  reportsMissing_iff fun s hs => h s (List.mem_of_mem_take hs)

theorem NamesPrefix.of_take {i j : Nat} (h : NamesPrefix e (path.take i)) (hij : i ≤ j) :
    NamesPrefix e (path.take j) := by
  obtain ⟨n, hpos, hle, hname⟩ := h
  rw [List.length_take] at hle
  rw [List.take_take] at hname
  refine ⟨n, hpos, ?_, ?_⟩
  · rw [List.length_take]
    omega
  · rw [List.take_take, Nat.min_eq_left (by omega)]
    rwa [Nat.min_eq_left (by omega)] at hname

/-- The module at a path, where what it is inside of holds modules. -/
def moduleAt? (w : World) (path : Path) : Option Module :=
  if w.holdsModules path.dropLast then w.module? path else none

/-- The module at the path is there, and nothing fails when it is run. -/
def Runs (w : World) (path : Path) : Prop :=
  ∃ m, w.moduleAt? path = some m ∧ m.fault? = none

/-- The first `k` modules on the path run, and no module follows them that runs. -/
structure IsDeepest (w : World) (path : Path) (k : Nat) : Prop where
  le : k ≤ path.length
  runs : ∀ j, 0 < j → j ≤ k → w.Runs (path.take j)
  stops : k < path.length → ¬ w.Runs (path.take (k + 1))

theorem exists_isDeepest (w : World) (path : Path) : ∃ k, w.IsDeepest path k := by
  have hupto : ∀ n, ∃ k ≤ n, (∀ j, 0 < j → j ≤ k → w.Runs (path.take j)) ∧
      (k < n → ¬ w.Runs (path.take (k + 1))) := by
    intro n
    induction n with
    | zero => exact ⟨0, Nat.le_refl 0, by omega, by omega⟩
    | succ n ih =>
      obtain ⟨k, hle, hruns, hstops⟩ := ih
      rcases Nat.lt_or_eq_of_le hle with hlt | rfl
      · exact ⟨k, by omega, hruns, fun _ => hstops hlt⟩
      · by_cases hnext : w.Runs (path.take (k + 1))
        · refine ⟨k + 1, Nat.le_refl _, fun j hpos hj => ?_, by omega⟩
          rcases Nat.lt_or_eq_of_le hj with hj | rfl
          · exact hruns j hpos (by omega)
          · exact hnext
        · exact ⟨k, by omega, hruns, fun _ => hnext⟩
  obtain ⟨k, hle, hruns, hstops⟩ := hupto path.length
  exact ⟨k, hle, hruns, hstops⟩

theorem load_of_moduleAt?_none {parent : Path} {name : String}
    (h : w.moduleAt? (parent ++ [name]) = none) :
    ∃ e, w.load parent name = .error e ∧
      e.missingModule? = some (dotted (parent ++ [name])) := by
  rw [moduleAt?, List.dropLast_concat] at h
  rw [load]
  by_cases hholds : w.holdsModules parent = true
  · rw [if_pos hholds] at h
    exact ⟨missingModule (parent ++ [name]) "", by simp only [hholds, h, if_true], rfl⟩
  · exact ⟨_, by rw [if_neg hholds], rfl⟩

theorem load_of_moduleAt?_some {parent : Path} {name : String} {m : Module}
    (h : w.moduleAt? (parent ++ [name]) = some m) :
    w.load parent name = match m.fault? with
      | some e => .error e
      | none => .ok () := by
  rw [moduleAt?, List.dropLast_concat] at h
  rw [load]
  by_cases hholds : w.holdsModules parent = true
  · rw [if_pos hholds] at h
    cases hfault : m.fault? <;> simp [hholds, h, hfault]
  · rw [if_neg hholds] at h
    cases h

theorem load_ok_iff {parent : Path} {name : String} :
    w.load parent name = .ok () ↔ w.Runs (parent ++ [name]) := by
  cases h : w.moduleAt? (parent ++ [name]) with
  | none =>
    obtain ⟨e, he, _⟩ := load_of_moduleAt?_none h
    simp [he, Runs, h]
  | some m =>
    rw [load_of_moduleAt?_some h]
    cases hfault : m.fault? <;> simp [Runs, h, hfault]

theorem exists_take_succ {k : Nat} (h : k < path.length) :
    ∃ name, path.take (k + 1) = path.take k ++ [name] :=
  ⟨path[k], List.take_succ_eq_append_getElem h⟩

theorem exists_load {k : Nat} {m : Module} (hk : k < path.length)
    (hm : w.moduleAt? (path.take (k + 1)) = some m) (hfault : m.fault? = some e) :
    ∃ name, path.take (k + 1) = path.take k ++ [name] ∧ w.load (path.take k) name = .error e := by
  obtain ⟨name, hname⟩ := exists_take_succ hk
  rw [hname] at hm
  exact ⟨name, hname, by rw [load_of_moduleAt?_some hm, hfault]⟩

namespace IsDeepest

variable {k : Nat}

theorem unique {k' : Nat} (h : w.IsDeepest path k) (h' : w.IsDeepest path k') : k = k' := by
  rcases Nat.lt_trichotomy k k' with hlt | heq | hlt
  · exact absurd (h'.runs (k + 1) (by omega) hlt) (h.stops (Nat.lt_of_lt_of_le hlt h'.le))
  · exact heq
  · exact absurd (h.runs (k' + 1) (by omega) hlt) (h'.stops (Nat.lt_of_lt_of_le hlt h.le))

theorem loadable (h : w.IsDeepest path k) : w.Loadable (path.take k) := by
  have hupto : ∀ j, j ≤ k → w.Loadable (path.take j) := by
    intro j
    induction j with
    | zero => exact fun _ => rfl
    | succ j ih =>
      intro hj
      obtain ⟨name, hname⟩ := exists_take_succ (Nat.lt_of_lt_of_le hj h.le)
      rw [hname, loadable_append_name (ih (by omega)), load_ok_iff, ← hname]
      exact h.runs (j + 1) (by omega) hj
  exact hupto k (Nat.le_refl k)

theorem loadBelow_take (h : w.IsDeepest path k) {name : String}
    (hname : path.take (k + 1) = path.take k ++ [name]) (he : w.load (path.take k) name = .error e)
    {i : Nat} (hi : k < i) : w.loadBelow [] (path.take i) = .error e := by
  have hsplit : path.take i = path.take (k + 1) ++ (path.take i).drop (k + 1) := by
    conv_lhs => rw [← List.take_append_drop (k + 1) (path.take i), List.take_take,
      Nat.min_eq_left hi]
  rw [hsplit, loadBelow_append, hname, loadBelow_append_name [] _ _ h.loadable, List.nil_append, he]
  rfl

end IsDeepest

section Longest

variable {k : Nat}

theorem longest_self (h : w.IsDeepest path k) :
    (w.longest target path k).result = .ok (if k = 0 then none else some k) := by
  have hloadable := h.loadable
  cases k with
  | zero => rfl
  | succ k =>
    rw [Loadable] at hloadable
    simp only [longest, hloadable]
    rfl

variable {name : String}

/-- A failure that names a prefix of the path as missing is passed over at every length. -/
theorem longest_of_namesPrefix (hpath : ∀ s ∈ path, IsSegment s) (h : w.IsDeepest path k)
    (hname : path.take (k + 1) = path.take k ++ [name]) (he : w.load (path.take k) name = .error e)
    (hnames : NamesPrefix e (path.take (k + 1))) {n : Nat} (hn : k ≤ n) :
    (w.longest target path n).result = (w.longest target path k).result := by
  induction hn with
  | refl => rfl
  | @step n hn ih =>
    have hmissing : reportsMissing e (path.take (n + 1)) = true :=
      (reportsMissing_take_iff hpath (n + 1)).mpr (hnames.of_take (Nat.succ_le_succ hn))
    rw [longest, h.loadBelow_take hname he (Nat.lt_succ_of_le hn)]
    simp only [hmissing, if_true]
    rw [Traced.result_bind, ih]
    rfl

/-- Any other failure is reported for the longest prefix that it does not name a part of. -/
theorem longest_of_not_namesPrefix (target : String) (hpath : ∀ s ∈ path, IsSegment s)
    (h : w.IsDeepest path k) (hname : path.take (k + 1) = path.take k ++ [name])
    (he : w.load (path.take k) name = .error e) (hnames : ¬ NamesPrefix e (path.take (k + 1)))
    {n : Nat} (hn : k + 1 ≤ n) :
    ∃ i, k < i ∧ i ≤ n ∧ (w.longest target path n).result =
      if e.isError then
        .error (.targetNotFound (.importFailed (dotted (path.take i)) e.className e.message)
          (some target))
      else .error e := by
  have hstep : ∀ i, k < i + 1 → ¬ NamesPrefix e (path.take (i + 1)) →
      (w.longest target path (i + 1)).result =
        if e.isError then
          .error (.targetNotFound (.importFailed (dotted (path.take (i + 1))) e.className e.message)
            (some target))
        else .error e := by
    intro i hi hnot
    have hmissing : reportsMissing e (path.take (i + 1)) = false := by
      rw [← Bool.not_eq_true, reportsMissing_take_iff hpath]
      exact hnot
    rw [longest, h.loadBelow_take hname he hi]
    simp only [hmissing, Bool.false_eq_true, if_false]
    split <;> rfl
  induction hn with
  | refl => exact ⟨k + 1, Nat.lt_succ_self k, Nat.le_refl _, hstep k (Nat.lt_succ_self k) hnames⟩
  | @step n hn ih =>
    by_cases hmore : NamesPrefix e (path.take (n + 1))
    · obtain ⟨i, hki, hin, hresult⟩ := ih
      have hmissing : reportsMissing e (path.take (n + 1)) = true :=
        (reportsMissing_take_iff hpath (n + 1)).mpr hmore
      refine ⟨i, hki, by omega, ?_⟩
      rw [longest, h.loadBelow_take hname he (by omega)]
      simp only [hmissing, if_true]
      rw [Traced.result_bind, hresult]
      rfl
    · exact ⟨n + 1, by omega, Nat.le_refl _, hstep n (by omega) hmore⟩

end Longest

theorem result_resolve (hs : w.Sound imported) (hne : w.expand target ≠ []) :
    (w.resolve imported target).2.result =
      (w.longest target (w.expand target) (w.expand target).length).result.bind fun
        | none => .error (.targetNotFound (.noModule target) (some target))
        | some n =>
          walkTarget w [] target ((w.expand target).take n) ((w.expand target).drop n) := by
  obtain ⟨hnext, hfound⟩ := importLongest_sound target (w.expand target)
    (w.expand target).length hs
  rw [resolve, if_neg (by simpa using hne)]
  simp only [hfound, Traced.result_bind]
  cases hresult : (w.longest target (w.expand target) (w.expand target).length).result with
  | error e => rfl
  | ok found =>
    cases found with
    | none => rfl
    | some n =>
      have hwalk := walk_module_eq _ _ hnext sound_nil fun _ => not_loadable_next hresult
      simp only [Except.bind, walkTarget, Traced.ofExcept, hwalk]

/-- What the attributes after the first `k` segments lead to, if there is a module to start from. -/
structure FromAttributes (w : World) (target : String) (path : Path) (k : Nat)
    (result : Except Failure Object) : Prop where
  outside : k = 0 → result = .error (.targetNotFound (.noModule target) (some target))
  found : ∀ object, 0 < k → walk w [] (.module (path.take k)) (path.drop k) = .ok object →
    result = .ok object
  lacking : ∀ e, 0 < k → walk w [] (.module (path.take k)) (path.drop k) = .error e →
    isMissingAttribute e = true →
    result = .error (.targetNotFound (.noAttribute target (dotted (path.drop k))) (some target))
  failed : ∀ e, 0 < k → walk w [] (.module (path.take k)) (path.drop k) = .error e →
    isMissingAttribute e = false → result = .error e

/-- Where a path leads whose first `k` modules run, by what is the matter with the next one. -/
structure LeadsTo (w : World) (target : String) (path : Path) (k : Nat)
    (result : Except Failure Object) : Prop where
  empty : path = [] → result = .error (.targetNotFound (.emptyPath target) (some target))
  whole : path ≠ [] → k = path.length → result = .ok (.module path)
  absent : k < path.length → w.moduleAt? (path.take (k + 1)) = none →
    FromAttributes w target path k result
  missing : ∀ m e, k < path.length → w.moduleAt? (path.take (k + 1)) = some m →
    m.fault? = some e → NamesPrefix e (path.take (k + 1)) → FromAttributes w target path k result
  broken : ∀ m e, k < path.length → w.moduleAt? (path.take (k + 1)) = some m →
    m.fault? = some e → ¬ NamesPrefix e (path.take (k + 1)) → e.isError = true →
    ∃ i, k < i ∧ i ≤ path.length ∧
      result = .error (.targetNotFound
        (.importFailed (dotted (path.take i)) e.className e.message) (some target))
  stopped : ∀ m e, k < path.length → w.moduleAt? (path.take (k + 1)) = some m →
    m.fault? = some e → e.isError = false → result = .error e

section LeadsTo

variable {k : Nat}

theorem expand_ne_nil (h : k < (w.expand target).length) : w.expand target ≠ [] := by
  intro hnil
  simp [hnil] at h

theorem fromAttributes_resolve (hs : w.Sound imported) (h : w.IsDeepest (w.expand target) k)
    {name : String} (hk : k < (w.expand target).length)
    (hname : (w.expand target).take (k + 1) = (w.expand target).take k ++ [name])
    (he : w.load ((w.expand target).take k) name = .error e)
    (hnames : NamesPrefix e ((w.expand target).take (k + 1))) :
    FromAttributes w target (w.expand target) k (w.resolve imported target).2.result := by
  have hresult := result_resolve hs (expand_ne_nil hk)
  rw [longest_of_namesPrefix (fun _ => isSegment_of_mem_expand) h hname he hnames h.le,
    longest_self h] at hresult
  constructor
  case outside =>
    intro hk
    rw [hresult, if_pos hk]
    rfl
  case found =>
    intro object hk hwalk
    rw [hresult, if_neg (Nat.ne_of_gt hk)]
    simp [Except.bind, walkTarget, hwalk]
  case lacking =>
    intro e hk hwalk hmissing
    rw [hresult, if_neg (Nat.ne_of_gt hk)]
    simp [Except.bind, walkTarget, hwalk, hmissing]
  case failed =>
    intro e hk hwalk hmissing
    rw [hresult, if_neg (Nat.ne_of_gt hk)]
    simp [Except.bind, walkTarget, hwalk, hmissing]

theorem not_namesPrefix_of_not_isError (h : e.isError = false) : ¬ NamesPrefix e path := by
  rintro ⟨_, _, _, hname⟩
  unfold Failure.missingModule? at hname
  split at hname
  · cases h
  · cases hname

theorem leadsTo_resolve (hs : w.Sound imported) (h : w.IsDeepest (w.expand target) k) :
    LeadsTo w target (w.expand target) k (w.resolve imported target).2.result := by
  have hsegments : ∀ s ∈ w.expand target, IsSegment s := fun _ => isSegment_of_mem_expand
  constructor
  case empty =>
    intro hempty
    rw [resolve, if_pos (by simp [hempty])]
    rfl
  case whole =>
    rintro hne rfl
    rw [result_resolve hs hne, longest_self h, if_neg (by simpa using hne)]
    simp [Except.bind, walkTarget, walk]
  case absent =>
    intro hk hnone
    obtain ⟨name, hname⟩ := exists_take_succ hk
    rw [hname] at hnone
    obtain ⟨e, he, hmissing⟩ := load_of_moduleAt?_none hnone
    refine fromAttributes_resolve hs h hk hname he ⟨k + 1, by omega, ?_, ?_⟩
    · rw [List.length_take]
      omega
    · rw [List.take_take, Nat.min_self, hname, hmissing]
  case missing =>
    intro m e hk hm hfault hnames
    obtain ⟨name, hname, he⟩ := exists_load hk hm hfault
    exact fromAttributes_resolve hs h hk hname he hnames
  case broken =>
    intro m e hk hm hfault hnames herror
    obtain ⟨name, hname, he⟩ := exists_load hk hm hfault
    obtain ⟨i, hki, hi, hresult⟩ := longest_of_not_namesPrefix target hsegments h hname he hnames hk
    refine ⟨i, hki, hi, ?_⟩
    rw [result_resolve hs (expand_ne_nil hk), hresult, if_pos herror]
    rfl
  case stopped =>
    intro m e hk hm hfault herror
    obtain ⟨name, hname, he⟩ := exists_load hk hm hfault
    obtain ⟨i, hki, hi, hresult⟩ := longest_of_not_namesPrefix target hsegments h hname
      he (not_namesPrefix_of_not_isError herror) hk
    rw [result_resolve hs (expand_ne_nil hk), hresult, if_neg (by simp [herror])]
    rfl

end LeadsTo

/-- A target leads to the longest prefix of its path that can be imported and the attributes after
it, and a module that is there but cannot be imported is reported, whatever was done before. -/
theorem resolve_longest_prefix (w : World) (operations : List Operation) (target : String) :
    ∃ k, w.IsDeepest (w.expand target) k ∧
      LeadsTo w target (w.expand target) k (w.resolve (w.after operations) target).2.result := by
  obtain ⟨k, hk⟩ := exists_isDeepest w (w.expand target)
  exact ⟨k, hk, leadsTo_resolve (sound_after operations) hk⟩

def dependent : World where
  modules :=
    [⟨["pkg"], true, [], none⟩,
      ⟨["pkg", "model"], false, [],
        some (.exception ⟨.moduleNotFound (some "numpy"), "No module named 'numpy'"⟩)⟩]
  aliases := .ofList [("p", "pkg")]

theorem isDeepest_dependent : dependent.IsDeepest (dependent.expand "p.model$fit") 1 := by
  have hexpand : dependent.expand "p.model$fit" = ["pkg", "model", "fit"] := by decide +kernel
  rw [hexpand]
  constructor
  case le => decide
  case runs =>
    intro j hpos hj
    obtain rfl : j = 1 := by omega
    exact ⟨_, rfl, rfl⟩
  case stops =>
    rintro _ ⟨m, hm, hfault⟩
    cases hm
    cases hfault

theorem resolve_longest_prefix_dependent :
    dependent.IsDeepest (dependent.expand "p.model$fit") 1 ∧
      ∃ i, 1 < i ∧ i ≤ 3 ∧
        (dependent.resolve (dependent.after [.resolve "pkg.model", .resolve "pkg"])
            "p.model$fit").2.result =
          .error (.targetNotFound (.importFailed (dotted (["pkg", "model", "fit"].take i))
            "ModuleNotFoundError" "No module named 'numpy'") (some "p.model$fit")) := by
  obtain ⟨k, hk, hleads⟩ := resolve_longest_prefix dependent
    [.resolve "pkg.model", .resolve "pkg"] "p.model$fit"
  obtain rfl : k = 1 := hk.unique isDeepest_dependent
  have hexpand : dependent.expand "p.model$fit" = ["pkg", "model", "fit"] := by decide +kernel
  rw [hexpand] at hleads
  refine ⟨hk, hleads.broken _ _ (by decide) rfl rfl ?_ rfl⟩
  rintro ⟨j, hpos, hj, hname⟩
  have hle : j ≤ 2 := by simpa using hj
  obtain rfl | rfl : j = 1 ∨ j = 2 := by omega
  · revert hname
    decide
  · revert hname
    decide

end World
end RBinding
