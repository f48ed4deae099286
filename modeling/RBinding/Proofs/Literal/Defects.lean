import RBinding.Proofs.Literal.Plain

/-!
# RBinding.Proofs.Literal.Defects

What keeps a value from having a literal. A defect is a value of a type that R has no form for, a
key of a dictionary that is not a text, or a number that has too many digits, at the value itself or
at any part of it (`mem_defects_iff`). `Value.defects` lists them in the order in which they are met
from left to right, a key before what stands under it. Writing a literal stops at the first of them,
so it fails just if there is one (`literal?_eq_error_iff`, `exists_literal?_eq_error_iff`).
-/

namespace RBinding

namespace Value

/-- A value at another value, or anywhere inside its lists, tuples and dictionaries. Keys are no
parts. -/
inductive Part (u : Value) : Value → Prop
  | self : Part u u
  | list {v : Value} {vs : List Value} (mem : v ∈ vs) (inside : Part u v) : Part u (.list vs)
  | tuple {v : Value} {vs : List Value} (mem : v ∈ vs) (inside : Part u v) : Part u (.tuple vs)
  | dict {k v : Value} {es : List (Value × Value)} (mem : (k, v) ∈ es) (inside : Part u v) :
      Part u (.dict es)

/-- What cannot be written at the value itself. A key that is no text is told by what it looks like,
unless that is too long. -/
inductive HasDefect : Value → Unwritable → Prop
  | type (name : String) : HasDefect (.other name) (.type name)
  | key {k v : Value} {es : List (Value × Value)} (mem : (k, v) ∈ es) (nontext : k.isText = false) :
      HasDefect (.dict es) (.ofKey k)
  | number {n : Int} (overlong : Text.isOverlong n = true) : HasDefect (.integer n) .tooLong

def keyDefects (k : Value) : List Unwritable :=
  if k.isText then [] else [.ofKey k]

mutual

/-- All that cannot be written in a value, in the order in which it is met. -/
def defects : Value → List Unwritable
  | .integer n => if Text.isOverlong n then [.tooLong] else []
  | .list vs => defectsOfAll vs
  | .tuple vs => defectsOfAll vs
  | .dict es => defectsOfEntries es
  | .other name => [.type name]
  | _ => []

def defectsOfAll : List Value → List Unwritable
  | [] => []
  | v :: vs => defects v ++ defectsOfAll vs

def defectsOfEntries : List (Value × Value) → List Unwritable
  | [] => []
  | (k, v) :: es => keyDefects k ++ (defects v ++ defectsOfEntries es)

end

theorem mem_keyDefects {k : Value} {e : Unwritable} :
    e ∈ keyDefects k ↔ k.isText = false ∧ e = .ofKey k := by
  rw [keyDefects]
  split
  · rename_i htext
    simp [htext]
  · rename_i htext
    simp [htext]

theorem mem_defectsOfAll {vs : List Value} {e : Unwritable} :
    e ∈ defectsOfAll vs ↔ ∃ v ∈ vs, e ∈ defects v := by
  induction vs with
  | nil => simp [defectsOfAll]
  | cons v vs ih => simp [defectsOfAll, ih]

theorem mem_defectsOfEntries {es : List (Value × Value)} {e : Unwritable} :
    e ∈ defectsOfEntries es ↔
      ∃ entry ∈ es, e ∈ keyDefects entry.1 ∨ e ∈ defects entry.2 := by
  induction es with
  | nil => simp [defectsOfEntries]
  | cons entry es ih => simp [defectsOfEntries, ih, or_assoc]

/-- Every defect of a part is a defect of the whole. By induction on where the part stands. -/
theorem mem_defects_of_part {u v : Value} {e : Unwritable} (hpart : Part u v)
    (h : HasDefect u e) : e ∈ defects v := by
  induction hpart with
  | self =>
    cases h with
    | type name => rw [defects]; exact List.mem_cons_self
    | key hmem hnontext =>
      rw [defects, mem_defectsOfEntries]
      exact ⟨_, hmem, .inl (mem_keyDefects.mpr ⟨hnontext, rfl⟩)⟩
    | number hoverlong =>
      rw [defects, if_pos hoverlong]
      exact List.mem_cons_self
  | list hmem _ ih =>
    rw [defects, mem_defectsOfAll]
    exact ⟨_, hmem, ih⟩
  | tuple hmem _ ih =>
    rw [defects, mem_defectsOfAll]
    exact ⟨_, hmem, ih⟩
  | dict hmem _ ih =>
    rw [defects, mem_defectsOfEntries]
    exact ⟨_, hmem, .inr ih⟩

mutual

theorem exists_part_of_mem_defects {v : Value} {e : Unwritable} (h : e ∈ defects v) :
    ∃ u, Part u v ∧ HasDefect u e := by
  cases v with
  | list vs =>
    rw [defects] at h
    obtain ⟨v, hv, u, hpart, hdefect⟩ := exists_part_of_mem_defectsOfAll h
    exact ⟨u, .list hv hpart, hdefect⟩
  | tuple vs =>
    rw [defects] at h
    obtain ⟨v, hv, u, hpart, hdefect⟩ := exists_part_of_mem_defectsOfAll h
    exact ⟨u, .tuple hv hpart, hdefect⟩
  | dict es =>
    rw [defects] at h
    rcases exists_part_of_mem_defectsOfEntries h with
      ⟨k, v, hmem, hnontext, rfl⟩ | ⟨k, v, hmem, u, hpart, hdefect⟩
    · exact ⟨_, .self, .key hmem hnontext⟩
    · exact ⟨u, .dict hmem hpart, hdefect⟩
  | other name =>
    rw [defects, List.mem_singleton] at h
    rw [h]
    exact ⟨_, .self, .type name⟩
  | integer n =>
    rw [defects] at h
    split at h
    · rename_i hoverlong
      rw [List.mem_singleton.mp h]
      exact ⟨_, .self, .number hoverlong⟩
    · cases h
  | _ => simp [defects] at h

theorem exists_part_of_mem_defectsOfAll {vs : List Value} {e : Unwritable}
    (h : e ∈ defectsOfAll vs) : ∃ v ∈ vs, ∃ u, Part u v ∧ HasDefect u e := by
  cases vs with
  | nil => simp [defectsOfAll] at h
  | cons v vs =>
    rw [defectsOfAll, List.mem_append] at h
    rcases h with h | h
    · exact ⟨v, List.mem_cons_self, exists_part_of_mem_defects h⟩
    · obtain ⟨v', hv', hpart⟩ := exists_part_of_mem_defectsOfAll h
      exact ⟨v', List.mem_cons_of_mem v hv', hpart⟩

theorem exists_part_of_mem_defectsOfEntries {es : List (Value × Value)} {e : Unwritable}
    (h : e ∈ defectsOfEntries es) :
    (∃ k v, (k, v) ∈ es ∧ k.isText = false ∧ e = .ofKey k) ∨
      ∃ k v, (k, v) ∈ es ∧ ∃ u, Part u v ∧ HasDefect u e := by
  cases es with
  | nil => simp [defectsOfEntries] at h
  | cons entry es =>
    rw [defectsOfEntries, List.mem_append, List.mem_append, mem_keyDefects] at h
    rcases h with ⟨hnontext, he⟩ | h | h
    · exact .inl ⟨_, _, List.mem_cons_self, hnontext, he⟩
    · exact .inr ⟨_, _, List.mem_cons_self, exists_part_of_mem_defects h⟩
    · rcases exists_part_of_mem_defectsOfEntries h with ⟨k, v, hmem, hkey⟩ | ⟨k, v, hmem, hpart⟩
      · exact .inl ⟨k, v, List.mem_cons_of_mem _ hmem, hkey⟩
      · exact .inr ⟨k, v, List.mem_cons_of_mem _ hmem, hpart⟩

end

theorem mem_defects_iff {v : Value} {e : Unwritable} :
    e ∈ defects v ↔ ∃ u, Part u v ∧ HasDefect u e := by
  constructor
  · exact exists_part_of_mem_defects
  · rintro ⟨u, hpart, hdefect⟩
    exact mem_defects_of_part hpart hdefect

end Value

/-- A result that is given just if there is no defect, and otherwise is the first of them. -/
inductive StopsAt {α : Type} : List Unwritable → Except Unwritable α → Prop
  | given (a : α) : StopsAt [] (.ok a)
  | first (e : Unwritable) (more : List Unwritable) : StopsAt (e :: more) (.error e)

namespace StopsAt

variable {α β : Type} {ds ds' : List Unwritable} {r : Except Unwritable α}

theorem map (h : StopsAt ds r) (f : α → β) : StopsAt ds (r.map f) := by
  cases h with
  | given a => exact .given _
  | first e more => exact .first e more

theorem bind (h : StopsAt ds r) {next : α → Except Unwritable β}
    (hnext : ∀ a, StopsAt ds' (next a)) : StopsAt (ds ++ ds') (r.bind next) := by
  cases h with
  | given a => exact hnext a
  | first e more => exact .first e (more ++ ds')

theorem error_iff (h : StopsAt ds r) (e : Unwritable) : r = .error e ↔ ds.head? = some e := by
  cases h with
  | given a => simp
  | first e' more => simp

end StopsAt

namespace Literal

open Value

theorem args?_cons (v : Value) (vs : List Value) :
    args? (v :: vs) = (chars? v).bind fun arg => (args? vs).map fun args => arg :: args := by
  rw [args?]
  cases chars? v with
  | error e => rfl
  | ok arg => cases args? vs <;> rfl

def name? (k : Value) : Except Unwritable (List Char) :=
  match k with
  | .text name => .ok (string name ++ " = ".toList)
  | k => .error (.ofKey k)

theorem stopsAt_name (k : Value) : StopsAt (keyDefects k) (name? k) := by
  cases k with
  | text name => exact .given _
  | _ => exact .first _ []

theorem namedArgs?_cons (k v : Value) (es : List (Value × Value)) :
    namedArgs? ((k, v) :: es) = (name? k).bind fun name => (chars? v).bind fun arg =>
      (namedArgs? es).map fun args => (name ++ arg) :: args := by
  cases k with
  | text name =>
    rw [namedArgs?]
    cases chars? v with
    | error e => rfl
    | ok arg => cases namedArgs? es <;> rfl
  | _ => rw [namedArgs?] <;> simp [name?, Except.bind]

mutual

theorem stopsAt_chars (v : Value) : StopsAt (defects v) (chars? v) := by
  cases v with
  | list vs =>
    rw [defects, chars?_list]
    exact (stopsAt_args vs).map listCall
  | tuple vs =>
    rw [defects, chars?_tuple]
    exact (stopsAt_args vs).map listCall
  | dict es =>
    rw [defects, chars?_dict]
    exact (stopsAt_namedArgs es).map listCall
  | other name =>
    rw [defects, chars?]
    exact .first _ []
  | integer n =>
    rw [defects, chars?, integer?, integerText?]
    cases Text.isOverlong n
    · exact .given _
    · exact .first _ []
  | boolean b =>
    cases b
    · exact .given _
    · exact .given _
  | _ => exact .given _

theorem stopsAt_args (vs : List Value) : StopsAt (defectsOfAll vs) (args? vs) := by
  cases vs with
  | nil =>
    rw [defectsOfAll, args?]
    exact .given []
  | cons v vs =>
    rw [defectsOfAll, args?_cons]
    exact (stopsAt_chars v).bind fun arg => (stopsAt_args vs).map _

theorem stopsAt_namedArgs (es : List (Value × Value)) :
    StopsAt (defectsOfEntries es) (namedArgs? es) := by
  cases es with
  | nil =>
    rw [defectsOfEntries, namedArgs?]
    exact .given []
  | cons e es =>
    rcases e with ⟨k, v⟩
    rw [defectsOfEntries, namedArgs?_cons]
    exact (stopsAt_name k).bind fun name => (stopsAt_chars v).bind fun arg =>
      (stopsAt_namedArgs es).map _

end

end Literal

namespace Value

theorem stopsAt_literal (v : Value) : StopsAt v.defects v.literal? := by
  have hliteral : v.literal? = (Literal.chars? v).map String.ofList := by
    rw [literal?]
    cases Literal.chars? v <;> rfl
  rw [hliteral]
  exact (Literal.stopsAt_chars v).map String.ofList

theorem literal?_eq_error_iff (v : Value) (e : Unwritable) :
    v.literal? = .error e ↔ v.defects.head? = some e :=
  (stopsAt_literal v).error_iff e

theorem hasDefect_of_literal? {v : Value} {e : Unwritable} (h : v.literal? = .error e) :
    ∃ u, Part u v ∧ HasDefect u e := by
  rw [literal?_eq_error_iff] at h
  exact mem_defects_iff.mp (List.mem_of_head? h)

theorem exists_literal?_eq_error_iff (v : Value) :
    (∃ e, v.literal? = .error e) ↔ ∃ u e, Part u v ∧ HasDefect u e := by
  constructor
  · rintro ⟨e, he⟩
    obtain ⟨u, hu⟩ := hasDefect_of_literal? he
    exact ⟨u, e, hu⟩
  · rintro ⟨u, e, hu⟩
    have hne : v.defects ≠ [] := List.ne_nil_of_mem (mem_defects_iff.mpr ⟨u, hu⟩)
    exact ⟨v.defects.head hne, (literal?_eq_error_iff v _).mpr (List.head?_eq_some_head hne)⟩

theorem exists_literal?_eq_ok_iff (v : Value) :
    (∃ text, v.literal? = .ok text) ↔ ∀ u e, Part u v → ¬HasDefect u e := by
  have herror := v.exists_literal?_eq_error_iff
  cases h : v.literal? with
  | ok text =>
    simp only [h, reduceCtorEq, exists_false, false_iff] at herror
    refine iff_of_true ⟨text, rfl⟩ ?_
    intro u e hpart hdefect
    exact herror ⟨u, e, hpart, hdefect⟩
  | error e =>
    obtain ⟨u, hpart, hdefect⟩ := hasDefect_of_literal? h
    refine iff_of_false ?_ fun hnone => hnone u e hpart hdefect
    rintro ⟨text, htext⟩
    cases htext

theorem lt_length_toDigits_iff {n k : Nat} (hk : 0 < k) :
    k < (Nat.toDigits 10 n).length ↔ Nat.pow 10 k ≤ n := by
  rw [← Nat.not_le, Nat.length_toDigits_le_iff (by decide) hk, Nat.not_lt, Nat.pow_eq]

theorem literal?_of_le {n : Int} (h : Nat.pow 10 Text.maxDigits ≤ n.natAbs) :
    (Value.integer n).literal? = .error .tooLong := by
  have hlong : Text.isOverlong n = true := by
    rwa [Text.isOverlong, decide_eq_true_iff, lt_length_toDigits_iff (by decide)]
  rw [literal?_eq_error_iff, defects, if_pos hlong]
  rfl

/-- The least number with too many digits. -/
def power : Int :=
  (Nat.pow 10 Text.maxDigits : Nat)

theorem literal?_power : (Value.integer power).literal? = .error .tooLong := by
  have hle : ∀ p : Nat, p ≤ (p : Int).natAbs := by omega
  exact literal?_of_le (hle _)

theorem isOverlong_iff (v : Value) : v.isOverlong = true ↔ v.literal? = .error .tooLong := by
  rw [isOverlong]
  split
  · rename_i h
    exact iff_of_true rfl h
  · rename_i h
    exact iff_of_false Bool.false_ne_true h

end Value

end RBinding
