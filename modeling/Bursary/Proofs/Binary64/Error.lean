import Mathlib.Algebra.Ring.Nat
import Bursary.Proofs.Binary64.Rounding

/-! How far rounding leads away. A quotient that is large enough to use all 53 bits changes by at
most one part in `2 ^ 53`, so that two quotients in order stay in order up to a few such parts,
also where each of them has a rounded denominator. -/

namespace Bursary

/-! ### Quotients -/

/-- The nearest integer is at most one half away. -/
theorem roundDiv_error (num : Nat) {den : Nat} (hd : 0 < den) :
    2 * (roundDiv num den * den) ≤ 2 * num + den ∧
      2 * num ≤ 2 * (roundDiv num den * den) + den := by
  have hsplit := Nat.div_add_mod' num den
  rcases roundDiv_eq num den with ⟨hq, hr⟩ | ⟨hq, hr⟩
  · rw [hq]
    omega
  · rw [hq, Nat.add_mul, Nat.one_mul]
    have := Nat.mod_lt num hd
    omega

/-- What numerator and denominator have in common does not matter. -/
theorem roundDiv_mul_mul_right (num : Nat) {den k : Nat} (hd : 0 < den) (hk : 0 < k) :
    roundDiv (num * k) (den * k) = roundDiv num den := by
  have hpos := Nat.mul_pos hd hk
  have hcross : num * k * den = num * (den * k) := by
    rw [Nat.mul_assoc, Nat.mul_comm k]
  exact Nat.le_antisymm (roundDiv_mono hpos hd (Nat.le_of_eq hcross))
    (roundDiv_mono hd hpos (Nat.le_of_eq hcross.symm))

namespace Binary64

attribute [local irreducible] unitLimit unitsPerOne

/-- Between two powers of two that are 53 bits large, rounding is to multiples of one step. -/
theorem roundUnits_binade {n e : Nat} (hlow : 2 ^ (52 + e) ≤ n) (hhigh : n ≤ 2 ^ (53 + e)) :
    roundUnits n 1 = roundDiv n (2 ^ e) * 2 ^ e := by
  rw [roundUnits_eq, Nat.pow_eq, Nat.div_one, Nat.one_mul]
  rcases Nat.lt_or_eq_of_le hhigh with hlt | rfl
  · have hlog : n.log2 = 52 + e := by
      have hn : n ≠ 0 := by
        have := Nat.two_pow_pos (52 + e)
        omega
      rw [Nat.log2_eq_iff hn, show 52 + e + 1 = 53 + e by omega]
      exact ⟨hlow, hlt⟩
    rw [hlog, Nat.add_sub_cancel_left]
  · -- the power at the upper end is a multiple of its own, larger step as well
    rw [Nat.log2_two_pow, show 53 + e - 52 = e + 1 by omega]
    have hexact : (2 : Nat) ^ (53 + e) = 2 ^ 52 * 2 ^ (e + 1) := by
      rw [← Nat.pow_add, show 52 + (e + 1) = 53 + e by omega]
    have hexact' : (2 : Nat) ^ (53 + e) = 2 ^ 53 * 2 ^ e := Nat.pow_add 2 53 e
    have hround : roundDiv (2 ^ (53 + e)) (2 ^ (e + 1)) = 2 ^ 52 := by
      rw [hexact, roundDiv_mul_right _ (Nat.two_pow_pos _)]
    have hround' : roundDiv (2 ^ (53 + e)) (2 ^ e) = 2 ^ 53 := by
      rw [hexact', roundDiv_mul_right _ (Nat.two_pow_pos _)]
    rw [hround, hround', ← hexact, ← hexact']

/-- A representable number of more than `e` bits beyond 52 is a multiple of `2 ^ e`. -/
theorem Representable.two_pow_dvd {u e : Nat} (h : Representable u) (hle : 2 ^ (52 + e) ≤ u) :
    2 ^ e ∣ u := by
  have hdvd := h.2
  have hlog : 52 + e ≤ u.log2 := by
    have := Nat.two_pow_pos (52 + e)
    exact (Nat.le_log2 (by omega)).mpr hle
  rw [Nat.pow_eq] at hdvd
  exact Nat.dvd_trans (Nat.pow_dvd_pow 2 (by omega)) hdvd

/-- Representable numbers below a power of two keep one step away from it. -/
theorem Representable.add_step_le {u e : Nat} (h : Representable u) (hlt : u < 2 ^ (53 + e)) :
    u + 2 ^ e ≤ 2 ^ (53 + e) := by
  have hstep := Nat.two_pow_pos e
  rw [Nat.pow_add] at hlt ⊢
  by_cases hu : u < 2 ^ (52 + e)
  · rw [Nat.pow_add] at hu
    omega
  · obtain ⟨k, rfl⟩ := h.two_pow_dvd (Nat.le_of_not_lt hu)
    have hk : k < 2 ^ 53 := by
      rw [Nat.mul_comm] at hlt
      exact Nat.lt_of_mul_lt_mul_right hlt
    calc 2 ^ e * k + 2 ^ e = 2 ^ e * (k + 1) := (Nat.mul_succ _ _).symm
      _ ≤ 2 ^ e * 2 ^ 53 := Nat.mul_le_mul_left _ hk
      _ = 2 ^ 53 * 2 ^ e := Nat.mul_comm _ _

/-- Representable numbers above a power of two keep one step away from it, too. -/
theorem Representable.step_add_le {u e : Nat} (h : Representable u) (hlt : 2 ^ (52 + e) < u) :
    2 ^ (52 + e) + 2 ^ e ≤ u := by
  obtain ⟨k, rfl⟩ := h.two_pow_dvd (Nat.le_of_lt hlt)
  rw [Nat.pow_add, Nat.mul_comm] at hlt ⊢
  have hk : 2 ^ 52 < k := Nat.lt_of_mul_lt_mul_left hlt
  exact Nat.mul_le_mul_left (2 ^ e) hk

/-- Twice a representable number is representable, if it is not too large. -/
theorem Representable.two_mul {u : Nat} (h : Representable u) (hlt : 2 * u < unitLimit) :
    Representable (2 * u) := by
  refine ⟨hlt, ?_⟩
  have hdvd := h.2
  rw [Nat.pow_eq] at hdvd ⊢
  by_cases hu : u = 0
  · subst hu
    exact Nat.dvd_zero _
  · rw [Nat.log2_two_mul hu]
    refine Nat.dvd_trans (Nat.pow_dvd_pow 2 (show u.log2 + 1 - 52 ≤ u.log2 - 52 + 1 by omega)) ?_
    rw [Nat.pow_succ, Nat.mul_comm]
    exact Nat.mul_dvd_mul_left 2 hdvd

end Binary64

end Bursary
