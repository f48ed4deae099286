/-!
# RBinding.Table

A table from names to values that keeps its entries in the order in which their names came first.
Writing a name that is present changes its value in place (`keys_insert_of_mem`); a new name goes
to the end (`keys_insert_of_not_mem`). No name occurs twice, which is part of the type.

Lookups are pinned by `get?_insert_self` and `get?_insert_of_ne`.
-/

namespace RBinding

namespace Entries

variable {α : Type}

def names (es : List (String × α)) : List String :=
  es.map Prod.fst

/-- Changes the value in place, or adds an entry at the end. -/
def put (name : String) (value : α) : List (String × α) → List (String × α)
  | [] => [(name, value)]
  | e :: es => if e.1 = name then (name, value) :: es else e :: put name value es

theorem names_put (name : String) (value : α) (es : List (String × α)) :
    names (put name value es) = if name ∈ names es then names es else names es ++ [name] := by
  induction es with
  | nil => simp [put, names]
  | cons e es ih =>
    by_cases h : e.1 = name
    · simp [put, names, h]
    · have h' : ¬ name = e.1 := fun hn => h hn.symm
      simp only [put, h, if_false]
      simp only [names] at ih ⊢
      simp only [List.map_cons, List.mem_cons, h', false_or, ih]
      by_cases hm : name ∈ es.map Prod.fst <;> simp [hm]

theorem nodup_put {es : List (String × α)} (h : (names es).Nodup) (name : String) (value : α) :
    (names (put name value es)).Nodup := by
  rw [names_put]
  split
  · exact h
  · rename_i hn
    rw [List.nodup_append]
    refine ⟨h, by simp, ?_⟩
    intro a ha b hb
    simp only [List.mem_singleton] at hb
    subst hb
    intro hab
    subst hab
    exact hn ha

end Entries

structure Table (α : Type) where
  entries : List (String × α)
  nodup : (Entries.names entries).Nodup
  deriving DecidableEq, Repr

namespace Table

variable {α : Type}

def empty : Table α :=
  ⟨[], by simp [Entries.names]⟩

instance : Inhabited (Table α) := ⟨empty⟩

def insert (t : Table α) (name : String) (value : α) : Table α :=
  ⟨Entries.put name value t.entries, Entries.nodup_put t.nodup name value⟩

/-- Entries written one after the other: a repeated name keeps its place and takes the last
value. -/
def ofList (es : List (String × α)) : Table α :=
  es.foldl (fun t e => t.insert e.1 e.2) empty

def keys (t : Table α) : List String :=
  Entries.names t.entries

def get? (t : Table α) (name : String) : Option α :=
  t.entries.lookup name

def contains (t : Table α) (name : String) : Bool :=
  (t.get? name).isSome

def isEmpty (t : Table α) : Bool :=
  t.entries.isEmpty

/-- Adds an entry unless its name is present. -/
def insertNew (t : Table α) (name : String) (value : α) : Table α :=
  if t.contains name then t else t.insert name value

theorem keys_nodup (t : Table α) : t.keys.Nodup :=
  t.nodup

@[simp] theorem keys_empty : (empty : Table α).keys = [] := rfl

@[simp] theorem get?_empty (name : String) : (empty : Table α).get? name = none := rfl

theorem keys_insert (t : Table α) (name : String) (value : α) :
    (t.insert name value).keys = if name ∈ t.keys then t.keys else t.keys ++ [name] :=
  Entries.names_put name value t.entries

theorem keys_insert_of_mem {t : Table α} {name : String} (h : name ∈ t.keys) (value : α) :
    (t.insert name value).keys = t.keys := by
  rw [keys_insert, if_pos h]

theorem keys_insert_of_not_mem {t : Table α} {name : String} (h : name ∉ t.keys) (value : α) :
    (t.insert name value).keys = t.keys ++ [name] := by
  rw [keys_insert, if_neg h]

theorem lookup_put_self (name : String) (value : α) (es : List (String × α)) :
    (Entries.put name value es).lookup name = some value := by
  induction es with
  | nil => simp [Entries.put]
  | cons e es ih =>
    obtain ⟨k, v⟩ := e
    by_cases h : k = name
    · simp [Entries.put, h]
    · have hne : (name == k) = false := beq_eq_false_iff_ne.mpr fun hn => h hn.symm
      simp only [Entries.put, h, if_false]
      rw [List.lookup_cons, hne]
      exact ih

theorem lookup_put_of_ne {name other : String} (hne : other ≠ name) (value : α)
    (es : List (String × α)) :
    (Entries.put name value es).lookup other = es.lookup other := by
  have hother : (other == name) = false := beq_eq_false_iff_ne.mpr hne
  induction es with
  | nil =>
    rw [Entries.put, List.lookup_cons, hother]
  | cons e es ih =>
    obtain ⟨k, v⟩ := e
    by_cases h : k = name
    · subst h
      simp only [Entries.put, if_true]
      rw [List.lookup_cons, List.lookup_cons, hother]
    · simp only [Entries.put, h, if_false]
      rw [List.lookup_cons, List.lookup_cons, ih]

theorem get?_insert_self (t : Table α) (name : String) (value : α) :
    (t.insert name value).get? name = some value :=
  lookup_put_self name value t.entries

theorem get?_insert_of_ne (t : Table α) {name other : String} (h : other ≠ name) (value : α) :
    (t.insert name value).get? other = t.get? other :=
  lookup_put_of_ne h value t.entries

end Table

end RBinding
