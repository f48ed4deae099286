import Mathlib.Data.List.TakeWhile
import RBinding.World.Signature

/-!
# RBinding.Proofs.World.Declaring

What is declared for a signature: all of its parameters, with the notes on their defaults
(`declareAll_of_forall`), unless a number in one of the defaults has too many digits. The first such
default stops it, after the notes on the parameters before (`declareAll_append_cons`).
-/

namespace RBinding
namespace World

theorem declareAll_of_forall (target : String) {formals : List Formal}
    (h : ∀ p ∈ formals, p.isUndeclarable = false) :
    declareAll target formals =
      ⟨(declaredNotes target formals).map .note, .ok (declared formals)⟩ := by
  have htake : formals.takeWhile (!·.isUndeclarable) = formals :=
    List.takeWhile_eq_self_iff.mpr fun p hp => by rw [h p hp]; rfl
  have hany : formals.any (·.isUndeclarable) = false := by simpa using h
  rw [declareAll, htake, hany, Traced.bind_ok (t := Traced.notes _) rfl]
  exact congrArg (Traced.mk · _) (List.append_nil _)

theorem declareAll_append_cons (target : String) {before : List Formal} {p : Formal}
    (after : List Formal) (hbefore : ∀ q ∈ before, q.isUndeclarable = false)
    (hp : p.isUndeclarable = true) :
    declareAll target (before ++ p :: after) =
      ⟨(declaredNotes target before).map .note, .error .tooManyDigits⟩ := by
  have htake : (before ++ p :: after).takeWhile (!·.isUndeclarable) = before := by
    rw [List.takeWhile_append_of_pos fun q hq => by rw [hbefore q hq]; rfl]
    simp [hp]
  have hany : (before ++ p :: after).any (·.isUndeclarable) = true := by simp [hp]
  rw [declareAll, htake, hany, Traced.bind_ok (t := Traced.notes _) rfl]
  exact congrArg (Traced.mk · _) (List.append_nil _)

/-- The first parameter that cannot be declared, if there is one. -/
theorem forall_or_exists_undeclarable (formals : List Formal) :
    (∀ p ∈ formals, p.isUndeclarable = false) ∨
      ∃ before p after, formals = before ++ p :: after ∧
        (∀ q ∈ before, q.isUndeclarable = false) ∧ p.isUndeclarable = true := by
  cases h : formals.find? (·.isUndeclarable) with
  | none => exact .inl (by simpa using h)
  | some p =>
    obtain ⟨hp, before, after, hsplit, hbefore⟩ := List.find?_eq_some_iff_append.mp h
    exact .inr ⟨before, p, after, hsplit, by simpa using hbefore, hp⟩

theorem declareAll_ok {target : String} {formals : List Formal} {parameters : List Parameter}
    (h : (declareAll target formals).result = .ok parameters) :
    (∀ p ∈ formals, p.isUndeclarable = false) ∧ parameters = declared formals ∧
      (declareAll target formals).events = (declaredNotes target formals).map .note := by
  rcases forall_or_exists_undeclarable formals with hnone | ⟨before, p, after, rfl, hbefore, hp⟩
  · rw [declareAll_of_forall target hnone] at h ⊢
    exact ⟨hnone, (Except.ok.inj h).symm, rfl⟩
  · rw [declareAll_append_cons target after hbefore hp] at h
    cases h

end World
end RBinding
