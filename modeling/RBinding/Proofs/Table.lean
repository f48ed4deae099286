import Mathlib.Data.List.Nodup
import RBinding.Table

/-!
# RBinding.Proofs.Table

What a table holds after several entries have been written. New names go to the end in the order
in which they are written (`entries_foldl_insert`), and writing an entry that the table has changes
nothing (`insert_eq_self`), so a table is rebuilt from its entries (`ofList_entries`). In any case
the keys are the names in the order in which they came first (`keys_foldl_write`).

Of several entries under one name the last is found (`get?_foldl_insert`). What is found is not
changed by entries that are only added where their name is new, and of those the first is found
(`get?_foldl_insertNew`).
-/

namespace RBinding
namespace Table

variable {α : Type}

theorem ext {t t' : Table α} (h : t.entries = t'.entries) : t = t' := by
  cases t
  cases t'
  cases h
  rfl

theorem keys_eq (t : Table α) : t.keys = t.entries.map Prod.fst := rfl

theorem mem_keys_of_mem_entries {t : Table α} {e : String × α} (h : e ∈ t.entries) :
    e.1 ∈ t.keys :=
  List.mem_map_of_mem h

theorem get?_eq_none_iff {t : Table α} {name : String} : t.get? name = none ↔ name ∉ t.keys := by
  rw [get?, List.lookup_eq_none_iff, keys_eq, List.mem_map]
  constructor
  · rintro h ⟨e, he, rfl⟩
    simpa using h e he
  · intro h e he
    simpa using fun hn => h ⟨e, he, hn.symm⟩

theorem mem_entries_of_get? {t : Table α} {name : String} {value : α}
    (h : t.get? name = some value) : (name, value) ∈ t.entries := by
  rw [get?, List.lookup_eq_some_iff] at h
  obtain ⟨before, after, heq, _⟩ := h
  rw [heq]
  exact List.mem_append_right _ List.mem_cons_self

theorem get?_of_mem_entries {t : Table α} {e : String × α} (h : e ∈ t.entries) :
    t.get? e.1 = some e.2 := by
  cases hget : t.get? e.1 with
  | none => exact absurd (mem_keys_of_mem_entries h) (get?_eq_none_iff.mp hget)
  | some value =>
    have heq := List.inj_on_of_nodup_map t.keys_nodup h (mem_entries_of_get? hget) rfl
    rw [heq]

theorem put_of_not_mem {name : String} {es : List (String × α)} (h : name ∉ Entries.names es)
    (value : α) : Entries.put name value es = es ++ [(name, value)] := by
  induction es with
  | nil => rfl
  | cons e es ih =>
    rw [Entries.names, List.map_cons, List.mem_cons, not_or] at h
    rw [Entries.put, if_neg (fun he => h.1 he.symm), ih h.2]
    rfl

theorem entries_insert_of_not_mem {t : Table α} {name : String} (h : name ∉ t.keys) (value : α) :
    (t.insert name value).entries = t.entries ++ [(name, value)] :=
  put_of_not_mem h value

theorem mem_put {name : String} {value : α} {es : List (String × α)} {e : String × α}
    (h : e ∈ Entries.put name value es) : e = (name, value) ∨ e ∈ es := by
  induction es with
  | nil => exact .inl (List.mem_singleton.mp h)
  | cons e' es ih =>
    rw [Entries.put] at h
    split at h
    · exact (List.mem_cons.mp h).imp_right (List.mem_cons_of_mem e')
    · rcases List.mem_cons.mp h with rfl | h
      · exact .inr List.mem_cons_self
      · exact (ih h).imp_right (List.mem_cons_of_mem e')

theorem mem_entries_insert {t : Table α} {name : String} {value : α} {e : String × α}
    (h : e ∈ (t.insert name value).entries) : e = (name, value) ∨ e ∈ t.entries :=
  mem_put h

theorem mem_keys_insert {t : Table α} {name other : String} {value : α}
    (h : other ∈ (t.insert name value).keys) : other ∈ t.keys ∨ other = name := by
  rw [keys_insert] at h
  split at h
  · exact .inl h
  · exact (List.mem_append.mp h).imp_right List.mem_singleton.mp

theorem mem_entries_foldl_insert {es : List (String × α)} {t : Table α} {e : String × α}
    (h : e ∈ (es.foldl (fun t e => t.insert e.1 e.2) t).entries) : e ∈ t.entries ∨ e ∈ es := by
  induction es generalizing t with
  | nil => exact .inl h
  | cons e' es ih =>
    rcases ih h with h | h
    · rcases mem_entries_insert h with rfl | h
      · exact .inr List.mem_cons_self
      · exact .inl h
    · exact .inr (List.mem_cons_of_mem e' h)

theorem mem_of_mem_entries_ofList {es : List (String × α)} {e : String × α}
    (h : e ∈ (ofList es).entries) : e ∈ es :=
  (mem_entries_foldl_insert h).resolve_left List.not_mem_nil

theorem put_of_lookup {name : String} {value : α} {es : List (String × α)}
    (h : es.lookup name = some value) : Entries.put name value es = es := by
  induction es with
  | nil => cases h
  | cons e es ih =>
    obtain ⟨k, v⟩ := e
    rw [List.lookup_cons] at h
    by_cases hk : k = name
    · subst hk
      rw [BEq.rfl] at h
      cases h
      rw [Entries.put, if_pos rfl]
    · have hne : (name == k) = false := beq_eq_false_iff_ne.mpr fun hn => hk hn.symm
      rw [hne] at h
      rw [Entries.put, if_neg hk, ih h]

theorem insert_eq_self {t : Table α} {name : String} {value : α}
    (h : t.get? name = some value) : t.insert name value = t :=
  ext (put_of_lookup h)

theorem put_put (name : String) (value value' : α) (es : List (String × α)) :
    Entries.put name value' (Entries.put name value es) = Entries.put name value' es := by
  induction es with
  | nil => simp [Entries.put]
  | cons e es ih =>
    by_cases h : e.1 = name
    · rw [Entries.put, if_pos h, Entries.put, if_pos rfl, Entries.put, if_pos h]
    · rw [Entries.put, if_neg h, Entries.put, if_neg h, ih, Entries.put, if_neg h]

theorem insert_insert (t : Table α) (name : String) (value value' : α) :
    (t.insert name value).insert name value' = t.insert name value' :=
  ext (put_put name value value' t.entries)

theorem entries_foldl_insert {es : List (String × α)} {t : Table α}
    (h : (Entries.names (t.entries ++ es)).Nodup) :
    (es.foldl (fun t e => t.insert e.1 e.2) t).entries = t.entries ++ es := by
  induction es generalizing t with
  | nil => rw [List.foldl_nil, List.append_nil]
  | cons e es ih =>
    have hnew : e.1 ∉ t.keys := by
      rw [Entries.names, List.map_append, List.nodup_append] at h
      exact fun hm => h.2.2 _ hm _ (by simp) rfl
    have hentries := entries_insert_of_not_mem hnew e.2
    rw [List.foldl_cons, ih, hentries, List.append_assoc]
    · rfl
    · rwa [hentries, List.append_assoc]

theorem entries_ofList {es : List (String × α)} (h : (Entries.names es).Nodup) :
    (ofList es).entries = es :=
  entries_foldl_insert h

theorem foldl_insert_eq_self {es : List (String × α)} {t : Table α}
    (h : ∀ e ∈ es, t.get? e.1 = some e.2) :
    es.foldl (fun t e => t.insert e.1 e.2) t = t := by
  induction es with
  | nil => rfl
  | cons e es ih =>
    rw [List.foldl_cons, insert_eq_self (h e List.mem_cons_self)]
    exact ih fun e he => h e (List.mem_cons_of_mem _ he)

theorem ofList_entries (t : Table α) : ofList t.entries = t :=
  ext (entries_ofList t.nodup)

/-- A table is rebuilt from its entries, also if they are written twice. -/
theorem ofList_entries_append_entries (t : Table α) : ofList (t.entries ++ t.entries) = t := by
  have hfirst := ofList_entries t
  rw [ofList] at hfirst
  rw [ofList, List.foldl_append, hfirst]
  exact foldl_insert_eq_self fun e he => get?_of_mem_entries he

theorem get?_foldl_insert (es : List (String × α)) (t : Table α) (name : String) :
    (es.foldl (fun t e => t.insert e.1 e.2) t).get? name =
      (es.reverse.lookup name).or (t.get? name) := by
  induction es generalizing t with
  | nil => rfl
  | cons e es ih =>
    rw [List.foldl_cons, ih, List.reverse_cons, List.lookup_append, Option.or_assoc]
    congr 1
    rw [List.lookup_cons, List.lookup_nil]
    by_cases h : name = e.1
    · rw [h, get?_insert_self, BEq.rfl]
      rfl
    · rw [get?_insert_of_ne t h, beq_eq_false_iff_ne.mpr h]
      rfl

theorem get?_ofList_append_entries {es : List (String × α)} {t : Table α}
    (h : ∀ e ∈ es, t.get? e.1 = some e.2) (name : String) :
    (ofList (es ++ t.entries)).get? name = t.get? name := by
  have hself : t.entries.reverse.lookup name = t.get? name := by
    have hget := get?_foldl_insert t.entries empty name
    rw [get?_empty, Option.or_none] at hget
    rw [← hget]
    exact congrArg (Table.get? · name) (ofList_entries t)
  rw [ofList, get?_foldl_insert, get?_empty, Option.or_none, List.reverse_append,
    List.lookup_append, hself]
  cases hget : t.get? name with
  | some value => rfl
  | none =>
    rw [Option.none_or, List.lookup_eq_none_iff]
    intro e he
    rw [bne_iff_ne]
    rintro rfl
    rw [h e (List.mem_reverse.mp he)] at hget
    cases hget

theorem lookup_map_self (names : List String) (name : String) :
    (names.map fun n => (n, n)).lookup name = if name ∈ names then some name else none := by
  induction names with
  | nil => rfl
  | cons n ns ih =>
    rw [List.map_cons, List.lookup_cons]
    by_cases hn : name = n
    · simp [hn]
    · simp [hn, ih, beq_eq_false_iff_ne.mpr hn]

theorem get?_ofList_map_self (names : List String) (name : String) :
    (ofList (names.map fun n => (n, n))).get? name = if name ∈ names then some name else none := by
  rw [ofList, get?_foldl_insert, ← List.map_reverse, lookup_map_self, get?_empty, Option.or_none]
  simp

theorem get?_insertNew (t : Table α) (name : String) (value : α) (other : String) :
    (t.insertNew name value).get? other =
      (t.get? other).or (if other = name then some value else none) := by
  rw [insertNew, contains]
  by_cases h : other = name
  · subst h
    cases hget : t.get? other <;> simp [hget, get?_insert_self]
  · rw [if_neg h, Option.or_none]
    split
    · rfl
    · exact get?_insert_of_ne t h value

theorem get?_foldl_insertNew (es : List (String × α)) (t : Table α) (name : String) :
    (es.foldl (fun t e => t.insertNew e.1 e.2) t).get? name =
      (t.get? name).or (es.lookup name) := by
  induction es generalizing t with
  | nil => exact (Option.or_none).symm
  | cons e es ih =>
    rw [List.foldl_cons, ih, get?_insertNew, Option.or_assoc]
    congr 1
    rw [List.lookup_cons]
    by_cases h : name = e.1
    · simp [h]
    · simp [h, beq_eq_false_iff_ne.mpr h]

theorem eraseDups_eq_self {names : List String} (h : names.Nodup) : names.eraseDups = names := by
  induction names with
  | nil => rfl
  | cons n ns ih =>
    obtain ⟨hn, hns⟩ := List.nodup_cons.mp h
    have hkeep : ns.filter (fun m => !m == n) = ns := by
      rw [List.filter_eq_self]
      intro m hm
      have hne : m ≠ n := fun hmn => hn (hmn ▸ hm)
      simpa using hne
    rw [List.eraseDups_cons, hkeep, ih hns]

/-- Writing under one name after the other adds those that are new, in the order in which they come
first, whatever is written. By induction on what is written. -/
theorem keys_foldl_write {β : Type} {name : β → String} {write : Table α → β → Table α}
    (h : ∀ t b, ∃ value, write t b = t.insert (name b) value) (bs : List β) (t : Table α) :
    (bs.foldl write t).keys =
      t.keys ++ ((bs.map name).filter (!t.keys.contains ·)).eraseDups := by
  induction bs generalizing t with
  | nil => exact (List.append_nil _).symm
  | cons b bs ih =>
    obtain ⟨value, hwrite⟩ := h t b
    rw [List.foldl_cons, ih, hwrite, List.map_cons]
    by_cases hb : name b ∈ t.keys
    · rw [keys_insert_of_mem hb, List.filter_cons_of_neg (by simpa using hb)]
    · rw [keys_insert_of_not_mem hb, List.filter_cons_of_pos (by simpa using hb),
        List.eraseDups_cons, List.filter_filter, List.append_assoc, List.singleton_append]
      congr 3
      refine List.filter_congr fun n _ => ?_
      by_cases hn : n = name b <;> simp [hn]

theorem keys_ofList (es : List (String × α)) : (ofList es).keys = (es.map Prod.fst).eraseDups := by
  have hwrite : ∀ (t : Table α) (e : String × α), ∃ value, t.insert e.1 e.2 = t.insert e.1 value :=
    fun _ e => ⟨e.2, rfl⟩
  rw [ofList, keys_foldl_write hwrite]
  simp

theorem filter_mem_eq_of_sublist {ks ns : List String} (h : ks.Sublist ns) (hns : ns.Nodup) :
    ns.filter (fun n => ks.contains n) = ks := by
  induction h with
  | slnil => rfl
  | @cons ks ns n h ih =>
    have hn : n ∉ ks := fun hm => (List.nodup_cons.mp hns).1 (h.subset hm)
    rw [List.filter_cons_of_neg (by simpa using hn), ih (List.nodup_cons.mp hns).2]
  | @cons_cons ks ns n h ih =>
    rw [List.filter_cons_of_pos (by simp)]
    congr 1
    rw [← ih (List.nodup_cons.mp hns).2]
    apply List.filter_congr
    intro m hm
    have hne : m ≠ n := fun hmn => (List.nodup_cons.mp hns).1 (hmn ▸ hm)
    rw [ih (List.nodup_cons.mp hns).2]
    simp [hne]

theorem map_get?_keys (t : Table α) :
    t.keys.filterMap (fun n => (t.get? n).map fun v => (n, v)) = t.entries := by
  have hfound : ∀ e ∈ t.entries, (t.get? e.1).map (fun v => (e.1, v)) = some e := by
    intro e he
    rw [get?_of_mem_entries he]
    rfl
  rw [keys_eq, List.filterMap_map]
  calc t.entries.filterMap ((fun n => (t.get? n).map fun v => (n, v)) ∘ Prod.fst)
      = t.entries.filterMap some := List.filterMap_congr hfound
    _ = t.entries := List.filterMap_some

/-- A table is given by its keys and what stands under each. -/
theorem entries_eq_map_keys {t : Table α} {value : String → α}
    (h : ∀ n ∈ t.keys, t.get? n = some (value n)) :
    t.entries = t.keys.map fun n => (n, value n) := by
  rw [← map_get?_keys t, ← List.filterMap_eq_map]
  refine List.filterMap_congr fun n hn => ?_
  rw [h n hn]
  rfl

theorem map_fst_filterMap_get? (t : Table α) (names : List String) :
    (names.filterMap fun n => (t.get? n).map fun v => (n, v)).map Prod.fst =
      names.filter (t.keys.contains ·) := by
  induction names with
  | nil => rfl
  | cons n ns ih =>
    cases hget : t.get? n with
    | none =>
      have hn : n ∉ t.keys := get?_eq_none_iff.mp hget
      rw [List.filterMap_cons_none (by rw [hget]; rfl), List.filter_cons_of_neg (by simpa using hn),
        ih]
    | some value =>
      have hn : n ∈ t.keys := mem_keys_of_mem_entries (mem_entries_of_get? hget)
      rw [List.filterMap_cons_some (by rw [hget]; rfl), List.filter_cons_of_pos (by simpa using hn),
        List.map_cons, ih]

theorem filterMap_get?_eq_entries {t : Table α} {names : List String}
    (h : t.keys.Sublist names) (hnames : names.Nodup) :
    names.filterMap (fun n => (t.get? n).map fun v => (n, v)) = t.entries := by
  have hdrop : ∀ ns : List String, ns.filterMap (fun n => (t.get? n).map fun v => (n, v)) =
      (ns.filter (fun n => t.keys.contains n)).filterMap
        (fun n => (t.get? n).map fun v => (n, v)) := by
    intro ns
    rw [List.filterMap_filter]
    apply List.filterMap_congr
    intro n _
    split
    · rfl
    · rename_i hn
      rw [get?_eq_none_iff.mpr (by simpa using hn)]
      rfl
  rw [hdrop, filter_mem_eq_of_sublist h hnames, map_get?_keys]

end Table
end RBinding
