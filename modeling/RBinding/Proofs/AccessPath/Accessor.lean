import RBinding.Proofs.AccessPath.Spelling
import RBinding.Proofs.Symbol

/-!
# RBinding.Proofs.AccessPath.Accessor

The accessor of a target as the normal form of its access path. Symbols of segments are segments
themselves, so the accessor is a spelling of the symbols (`segments_accessor`), and since different
names have different symbols it tells the segments (`accessor_eq_iff`). It spells the segments
themselves if they are all syntactic, and only then (`segments_accessor_eq_self_iff`).
-/

namespace RBinding
namespace AccessPath

open RBinding.Symbol

theorem IsSegment.symbol {s : String} (h : IsSegment s) : IsSegment (symbol s) where
  nonempty := by simpa using symbol_ne_empty s
  plain := by
    intro c hc
    by_contra hseparator
    have hquote : c ≠ '`' := by
      rintro rfl
      exact hseparator rfl
    refine not_mem_symbol hquote ?_ hc
    intro hmem
    exact hseparator (h.plain c hmem)

theorem segments_accessor (target : String) :
    segments (accessor target) = (segments target).map symbol := by
  have hdollar : ∀ c ∈ "$".toList, isSeparator c = true := by simp [isSeparator]
  refine segments_intercalate (by decide) hdollar ?_
  intro s hs
  obtain ⟨s', hs', rfl⟩ := List.mem_map.mp hs
  exact (isSegment_of_mem hs').symbol

theorem accessor_eq_iff {target target' : String} :
    accessor target = accessor target' ↔ segments target = segments target' := by
  constructor
  · intro h
    have hsymbols := congrArg segments h
    rw [segments_accessor, segments_accessor] at hsymbols
    exact List.map_injective_iff.mpr symbol_injective hsymbols
  · intro h
    rw [accessor, accessor, h]

theorem segments_accessor_eq_self_iff {target : String} :
    segments (accessor target) = segments target ↔
      ∀ s ∈ segments target, isSyntactic s = true := by
  have hmap : (segments target).map symbol = segments target ↔
      ∀ s ∈ segments target, symbol s = s := by
    rw [← List.map_inj_left, List.map_id']
  rw [segments_accessor, hmap]
  exact forall₂_congr fun s _ => symbol_eq_self_iff

/-- Access paths have one normal form. Segments are found again in all their spellings, each target
is a spelling of its segments, and two targets have the same accessor if and only if they lead along
the same segments. The accessor leads along the same segments as its target if and only if all of
them are syntactic. -/
theorem accessor_normal_form :
    (∀ (gap : Nat → String) (segs : List String), (∀ s ∈ segs, IsSegment s) →
        Separates gap segs.length → segments (spell gap segs) = segs) ∧
      (∀ target : String, (∀ s ∈ segments target, IsSegment s) ∧
        ∃ gap, Separates gap (segments target).length ∧ spell gap (segments target) = target) ∧
      (∀ target target' : String,
        accessor target = accessor target' ↔ segments target = segments target') ∧
      ∀ target : String, segments (accessor target) = segments target ↔
        ∀ s ∈ segments target, isSyntactic s = true := by
  refine ⟨?_, ?_, ?_, ?_⟩
  · intro gap segs hsegs hgap
    exact segments_spell hsegs hgap
  · intro target
    exact segments_eq_iff.mp rfl
  · intro target target'
    exact accessor_eq_iff
  · intro target
    exact segments_accessor_eq_self_iff

def mixedGaps : Nat → String
  | 0 => "."
  | 1 => "$$."
  | 2 => "."
  | _ => "$"

theorem accessor_normal_form_mixed :
    ((∀ s ∈ ["torch", "nn functional", "relu"], IsSegment s) ∧ Separates mixedGaps 3 ∧
        spell mixedGaps ["torch", "nn functional", "relu"] = ".torch$$.nn functional.relu$") ∧
      segments ".torch$$.nn functional.relu$" = ["torch", "nn functional", "relu"] ∧
      accessor ".torch$$.nn functional.relu$" = accessor "torch.nn functional.relu" ∧
      segments (accessor "torch..topk$") = segments "torch..topk$" := by
  obtain ⟨hfound, -, heq, hself⟩ := accessor_normal_form
  have hsegs : ∀ s ∈ ["torch", "nn functional", "relu"], IsSegment s := by decide
  have hgaps : Separates mixedGaps 3 := by decide
  have hspell : spell mixedGaps ["torch", "nn functional", "relu"] =
      ".torch$$.nn functional.relu$" := by decide
  have hsegments := hfound mixedGaps _ hsegs hgaps
  rw [hspell] at hsegments
  refine ⟨⟨hsegs, hgaps, hspell⟩, hsegments, (heq _ _).mpr ?_, (hself _).mpr (by decide)⟩
  rw [hsegments]
  rfl

end AccessPath
end RBinding
