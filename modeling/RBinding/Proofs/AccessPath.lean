import RBinding.AccessPath
import Mathlib.Data.List.Basic

/-!
# RBinding.Proofs.AccessPath

The segments of a target. They are not empty and hold no separator (`isSegment_of_mem`).
-/

namespace RBinding
namespace AccessPath

/-- The text is a part of a target that stands between separators. -/
structure IsSegment (s : String) : Prop where
  nonempty : s.toList ≠ []
  plain : ∀ c ∈ s.toList, isSeparator c = false

theorem IsSegment.dot_not_mem {s : String} (h : IsSegment s) : '.' ∉ s.toList := by
  intro hmem
  cases h.plain '.' hmem

theorem forall_not_of_mem_splitOnP {p : Char → Bool} {cs l : List Char} (h : l ∈ cs.splitOnP p) :
    ∀ c ∈ l, p c = false := by
  induction cs generalizing l with
  | nil =>
    rw [List.splitOnP_nil, List.mem_singleton] at h
    simp [h]
  | cons c cs ih =>
    rw [List.splitOnP_cons_eq_if_modifyHead] at h
    by_cases hc : p c = true
    · rw [if_pos hc] at h
      rcases List.mem_cons.mp h with rfl | h
      · simp
      · exact ih h
    · rw [if_neg hc] at h
      obtain ⟨first, rest, hsplit⟩ := List.exists_cons_of_ne_nil (List.splitOnP_ne_nil p cs)
      rw [hsplit] at h ih
      rcases List.mem_cons.mp h with rfl | h
      · simpa [hc] using ih List.mem_cons_self
      · exact ih (List.mem_cons_of_mem _ h)

theorem isSegment_of_mem {target s : String} (h : s ∈ segments target) : IsSegment s := by
  obtain ⟨cs, hcs, rfl⟩ := List.mem_map.mp h
  obtain ⟨hmem, hne⟩ := List.mem_filter.mp hcs
  refine ⟨?_, ?_⟩ <;> rw [String.toList_ofList]
  · simpa using hne
  · exact forall_not_of_mem_splitOnP hmem

end AccessPath
end RBinding
