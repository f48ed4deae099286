import Mathlib.Logic.Function.Basic
import RBinding.Symbol

/-!
# RBinding.Proofs.Symbol

Names as they are written in R. A name is written as it stands if it counts as syntactic
(`symbol_eq_self_iff`), and between backticks otherwise. What stands between backticks never counts
as syntactic, so different names are written differently, whatever they hold (`symbol_injective`).
-/

namespace RBinding

open RBinding.Symbol

theorem symbol_eq_or (name : String) :
    symbol name = name ∨ (symbol name).toList = '`' :: (name.toList ++ ['`']) := by
  unfold symbol
  split
  · exact .inl rfl
  · exact .inr (by simp)

theorem symbol_ne_empty (name : String) : symbol name ≠ "" := by
  intro h
  rcases symbol_eq_or name with hs | hs
  · rw [hs] at h
    subst h
    revert hs
    decide
  · simp [h] at hs

/-- Nothing but the backticks is added to a name. -/
theorem not_mem_symbol {c : Char} {name : String} (hc : c ≠ '`') (h : c ∉ name.toList) :
    c ∉ (symbol name).toList := by
  rcases symbol_eq_or name with hs | hs <;> simp [hs, h, hc]

theorem symbol_eq_self_iff {name : String} : symbol name = name ↔ isSyntactic name = true := by
  constructor
  · intro h
    rw [symbol] at h
    split at h
    · rename_i hplain
      rw [Bool.or_eq_true, decide_eq_true_eq] at hplain
      rcases hplain with rfl | hsyntactic
      · decide
      · exact hsyntactic
    · have hlength := congrArg String.length h
      simp only [String.length_append] at hlength
      have hquote : "`".length = 1 := rfl
      omega
  · exact symbol_of_isSyntactic

theorem isSyntactic_eq_false_of_quoted {name : String} {cs : List Char}
    (h : name.toList = '`' :: (cs ++ ['`'])) : isSyntactic name = false := by
  have hlast : withoutFinalNewline ('`' :: (cs ++ ['`'])) = '`' :: (cs ++ ['`']) := by
    rw [withoutFinalNewline, List.reverse_cons, List.reverse_append]
    rfl
  rw [isSyntactic, h, hlast, hasNameShape]
  rfl

theorem symbol_injective : Function.Injective symbol := by
  have hmixed : ∀ {name name' : String}, symbol name = name →
      (symbol name').toList = '`' :: (name'.toList ++ ['`']) → symbol name ≠ symbol name' := by
    intro name name' hplain hquoted heq
    rw [← heq, hplain] at hquoted
    have hsyntactic := symbol_eq_self_iff.mp hplain
    rw [isSyntactic_eq_false_of_quoted hquoted] at hsyntactic
    cases hsyntactic
  intro name name' heq
  rcases symbol_eq_or name with hs | hs <;> rcases symbol_eq_or name' with hs' | hs'
  · rwa [hs, hs'] at heq
  · exact absurd heq (hmixed hs hs')
  · exact absurd heq.symm (hmixed hs' hs)
  · rw [heq, hs', List.cons.injEq, List.append_cancel_right_eq, String.toList_inj] at hs
    exact hs.2.symm

end RBinding
