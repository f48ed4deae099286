import Mathlib.Data.Nat.Log
import Mathlib.Tactic.Ring
import RBinding.Double

/-!
# RBinding.Proofs.Double

Quotients up to one. The double nearest to a quotient below one is one itself if the quotient is at
least `1 - 2 ^ -54`, the middle between one and the double before it, where the tie goes to one
(`ofRatio_eq_one_iff`).

* `exponentFor_le`, `exponentFor_of_half_le`: quotients below one are counted in units of at most
  `2 ^ -53`, and from a half on in just these.
* `roundRatio_eq_iff`: when a quotient is rounded up to an even number.
* `normalise_eq_one_iff`: in such units one is the number past the last significand.
-/

namespace RBinding
namespace Double

def one : Double := .finite false (2 ^ 52) (-52)

theorem roundRatio_le (num den : Nat) : roundRatio num den ≤ num / den + 1 := by
  rw [roundRatio]
  repeat' split
  all_goals omega

theorem roundRatio_of_odd {num den : Nat} (h : num / den % 2 = 1) :
    roundRatio num den = if 2 * (num % den) < den then num / den else num / den + 1 := by
  rw [roundRatio]
  split
  · rfl
  · rw [if_neg (show ¬num / den % 2 = 0 by omega), ite_self]

/-- A quotient below an even number is rounded up to it from half a unit below. -/
theorem roundRatio_eq_iff {num den k : Nat} (h : num < (2 * k + 2) * den) :
    roundRatio num den = 2 * k + 2 ↔ (4 * k + 3) * den ≤ 2 * num := by
  have hden : 0 < den := Nat.pos_of_ne_zero (by rintro rfl; simp at h)
  have hq : num / den < 2 * k + 2 := (Nat.div_lt_iff_lt_mul hden).mpr h
  have hsplit : den * (num / den) + num % den = num := Nat.div_add_mod num den
  have hr : num % den < den := Nat.mod_lt num hden
  have hhalf : (4 * k + 3) * den = 2 * (den * (2 * k + 1)) + den := by ring
  by_cases hlast : num / den = 2 * k + 1
  · rw [roundRatio_of_odd (by omega), hlast]
    rw [hlast] at hsplit
    split <;> omega
  · have hround := roundRatio_le num den
    have hbelow : den * (num / den + 1) ≤ den * (2 * k + 1) :=
      Nat.mul_le_mul_left den (by omega)
    rw [Nat.mul_succ] at hbelow
    constructor <;> intro <;> omega

theorem log2_le_log2 {num den : Nat} (h : num ≤ den) : num.log2 ≤ den.log2 := by
  rw [Nat.log2_eq_log_two, Nat.log2_eq_log_two]
  exact Nat.log_mono_right h

theorem log2_le_succ_of_half_le {num den : Nat} (hpos : 0 < num) (h : den ≤ 2 * num) :
    den.log2 ≤ num.log2 + 1 := by
  rw [← Nat.log2_two_mul (Nat.ne_of_gt hpos)]
  exact log2_le_log2 h

/-- The exponent that the numbers of bits suggest. -/
def suggested (num den : Nat) : Int :=
  max minExponent ((num.log2 : Int) - (den.log2 : Int) - precision)

theorem exponentFor_eq (num den : Nat) :
    exponentFor num den =
      if 2 ^ 53 ≤ (inUnits num den (suggested num den)).1 /
          (inUnits num den (suggested num den)).2 then suggested num den + 1
      else suggested num den := rfl

theorem exponentFor_le {num den : Nat} (h : num < den) : exponentFor num den ≤ -53 := by
  have hlog := log2_le_log2 (Nat.le_of_lt h)
  have hsuggested : suggested num den ≤ -53 := by
    simp only [suggested, minExponent, precision]
    omega
  rw [exponentFor_eq]
  split
  · rename_i hfull
    have hne : suggested num den ≠ -53 := by
      intro heq
      rw [heq] at hfull
      have hfull : 2 ^ 53 ≤ num * 2 ^ 53 / den := hfull
      rw [Nat.le_div_iff_mul_le (by omega)] at hfull
      omega
    omega
  · exact hsuggested

theorem exponentFor_of_half_le {num den : Nat} (h : num < den) (hhalf : den ≤ 2 * num) :
    exponentFor num den = -53 := by
  have hlog := log2_le_log2 (Nat.le_of_lt h)
  have hlog' := log2_le_succ_of_half_le (by omega) hhalf
  have hsuggested : suggested num den = -53 ∨ suggested num den = -54 := by
    simp only [suggested, minExponent, precision]
    omega
  rw [exponentFor_eq]
  rcases hsuggested with heq | heq
  · rw [heq, if_neg]
    change ¬2 ^ 53 ≤ num * 2 ^ 53 / den
    rw [Nat.le_div_iff_mul_le (by omega)]
    omega
  · rw [heq, if_pos]
    · rfl
    · change 2 ^ 53 ≤ num * 2 ^ 54 / den
      rw [Nat.le_div_iff_mul_le (by omega)]
      omega

theorem exponentFor_self {num : Nat} (h : 0 < num) : exponentFor num num = -52 := by
  have hsuggested : suggested num num = -53 := by
    simp only [suggested, minExponent, precision]
    omega
  rw [exponentFor_eq, hsuggested, if_pos]
  · rfl
  · change 2 ^ 53 ≤ num * 2 ^ 53 / num
    rw [Nat.le_div_iff_mul_le h]
    omega

theorem normalise_top {exponent : Int} (h : exponent ≤ -53) :
    normalise false (2 ^ 53) exponent = .finite false (2 ^ 52) (exponent + 1) := by
  rw [normalise, if_pos (show 2 ^ 53 = Nat.pow 2 precision from rfl)]
  exact if_neg (show ¬maxExponent < exponent + 1 by rw [maxExponent]; omega)

theorem normalise_of_ne {significand : Nat} {exponent : Int} (h : exponent ≤ -53)
    (hne : significand ≠ 2 ^ 53) :
    normalise false significand exponent = .finite false significand exponent := by
  rw [normalise, if_neg (show ¬significand = Nat.pow 2 precision from hne)]
  exact if_neg (show ¬maxExponent < exponent by rw [maxExponent]; omega)

theorem normalise_eq_one_iff {significand : Nat} {exponent : Int} (h : exponent ≤ -53) :
    normalise false significand exponent = one ↔ exponent = -53 ∧ significand = 2 ^ 53 := by
  by_cases hsignificand : significand = 2 ^ 53
  · subst hsignificand
    simp only [normalise_top h, one, Double.finite.injEq, true_and, and_true]
    omega
  · simp only [normalise_of_ne h hsignificand, one, Double.finite.injEq, true_and]
    omega

theorem ofRatio_eq {num : Nat} (h : num ≠ 0) (negative : Bool) (den : Nat) :
    ofRatio negative num den =
      normalise negative
        (roundRatio (inUnits num den (exponentFor num den)).1
          (inUnits num den (exponentFor num den)).2) (exponentFor num den) := by
  rw [ofRatio, if_neg h]

theorem ofRatio_self {num : Nat} (h : 0 < num) : ofRatio false num num = one := by
  have hround : roundRatio (num * 2 ^ 52) num = 2 ^ 52 := by
    rw [roundRatio, Nat.mul_div_cancel_left _ h, Nat.mul_mod_right]
    exact if_pos (by omega)
  rw [ofRatio_eq (Nat.ne_of_gt h), exponentFor_self h]
  change normalise false (roundRatio (num * 2 ^ 52) num) (-52) = one
  rw [hround]
  rfl

theorem ofRatio_eq_one_iff {num den : Nat} (hle : num ≤ den) (hpos : 0 < den) :
    ofRatio false num den = one ↔ (den - num) * 2 ^ 54 ≤ den := by
  rcases Nat.eq_or_lt_of_le hle with rfl | hlt
  · simp [ofRatio_self hpos]
  · by_cases hzero : num = 0
    · subst hzero
      have hne : ofRatio false 0 den ≠ one := by simp [ofRatio, one, minExponent]
      have hfar : ¬(den - 0) * 2 ^ 54 ≤ den := by omega
      exact iff_of_false hne hfar
    · have hround : roundRatio (num * 2 ^ 53) den = 2 ^ 53 ↔ (den - num) * 2 ^ 54 ≤ den := by
        have htop : roundRatio (num * 2 ^ 53) den = 2 * (2 ^ 52 - 1) + 2 ↔
            (4 * (2 ^ 52 - 1) + 3) * den ≤ 2 * (num * 2 ^ 53) := roundRatio_eq_iff (by omega)
        rw [show 2 * (2 ^ 52 - 1) + 2 = 2 ^ 53 from rfl] at htop
        rw [htop]
        omega
      rw [ofRatio_eq hzero, normalise_eq_one_iff (exponentFor_le hlt)]
      -- A quotient that is near enough is above a half, which settles its exponent.
      constructor
      · rintro ⟨hexponent, htop⟩
        rw [hexponent] at htop
        exact hround.mp htop
      · intro hnear
        have hexponent := exponentFor_of_half_le hlt (by omega)
        rw [hexponent]
        exact ⟨rfl, hround.mpr hnear⟩

end Double
end RBinding
