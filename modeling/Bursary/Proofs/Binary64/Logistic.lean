import Bursary.Binary64.Logistic
import Bursary.Proofs.Binary64.Monotone

/-! The logistic function never meets a NaN. Growth does not fall below one, so decay is a
proportion and one more than it is no zero to divide by. -/

namespace Bursary.Binary64

attribute [local irreducible] unitLimit unitsPerOne

theorem seriesScale_pos : 0 < seriesScale := by decide +kernel

theorem seriesScale_le_nestedTerms (t k n : Nat) : seriesScale ≤ nestedTerms t k n := by
  cases n with
  | zero => exact Nat.le_refl _
  | succ n => exact Nat.le_add_right _ _

theorem seriesScale_le_squareTimes {n s : Nat} (h : seriesScale ≤ s) :
    seriesScale ≤ squareTimes n s := by
  induction n generalizing s with
  | zero => exact h
  | succ n ih =>
    refine ih ?_
    rw [Nat.le_div_iff_mul_le seriesScale_pos]
    exact Nat.mul_le_mul h h

/-- Growth is at least one. -/
theorem seriesScale_le_growth (units : Nat) : seriesScale ≤ growth units :=
  seriesScale_le_squareTimes (seriesScale_le_nestedTerms _ _ _)

theorem isProportion_decay {z : Binary64} (hz : z ≠ nan) : z.decay.IsProportion := by
  cases z with
  | nan => exact absurd rfl hz
  | infinite s => exact isProportion_zero
  | finite s u fits =>
    have hgrowth := seriesScale_le_growth (min u (decayLimit * unitsPerOne))
    rw [decay]
    generalize growth (min u (decayLimit * unitsPerOne)) = g at hgrowth ⊢
    have hpos : 0 < g := Nat.lt_of_lt_of_le seriesScale_pos hgrowth
    have hle : roundUnits (seriesScale * unitsPerOne) g ≤ unitsPerOne := by
      calc roundUnits (seriesScale * unitsPerOne) g ≤ roundUnits (unitsPerOne * 1) 1 := by
            refine roundUnits_mono hpos Nat.one_pos ?_
            rw [Nat.mul_one, Nat.mul_one, Nat.mul_comm]
            exact Nat.mul_le_mul_left _ hgrowth
        _ = unitsPerOne := roundUnits_of_representable representable_unitsPerOne Nat.one_pos
    refine isProportion_iff.mpr ⟨ofUnits_ne_nan _ _ _, ?_⟩
    rw [ofFraction, place_ofUnits, if_neg Bool.false_ne_true]
    omega

/-- One more than a proportion is a number to divide by. -/
theorem one_add_ne_nan {d : Binary64} (h : d.IsProportion) : 1 + d ≠ nan :=
  add_ne_nan one_ne_nan h.ne_nan (.inr h.isFinite)

theorem place_one_add_pos {d : Binary64} (h : d.IsProportion) : 0 < (1 + d).place := by
  have hle := place_le_add h.place_nonneg (one_add_ne_nan h)
  have hpos := unitsPerOne_pos
  rw [place_one] at hle
  omega

/-- The logistic function by an exponential function, of which no number above zero is taken. -/
def logisticBy (exp : Binary64 → Binary64) (z : Binary64) : Binary64 :=
  if le 0 z then 1 / (1 + exp (-z)) else exp z / (1 + exp z)

theorem logistic_eq (z : Binary64) : z.logistic = logisticBy decay z := by
  have hdecay : (-z).decay = z.decay := by cases z <;> rfl
  rw [logistic, logisticBy, hdecay]

/-- Where the exponential function gives proportions, the logistic one gives numbers. -/
theorem logisticBy_ne_nan {exp : Binary64 → Binary64}
    (hexp : ∀ z : Binary64, z.le 0 = true → (exp z).IsProportion) {z : Binary64} (hz : z ≠ nan) :
    logisticBy exp z ≠ nan := by
  have hdiv {x d : Binary64} (hx : x.isFinite = true) (hd : d.IsProportion) :
      x / (1 + d) ≠ nan := by
    have hplace := place_one_add_pos hd
    exact div_ne_nan hx (one_add_ne_nan hd) (by omega)
  unfold logisticBy
  by_cases h : le 0 z = true
  · rw [if_pos h]
    rw [le_iff, place_zero] at h
    have hneg : (-z).le 0 = true :=
      le_iff.mpr ⟨neg_ne_nan hz, zero_ne_nan, by rw [place_neg, place_zero]; omega⟩
    exact hdiv isFinite_one (hexp _ hneg)
  · rw [if_neg h]
    rw [le_iff, place_zero] at h
    have hbelow : z.le 0 = true := by
      refine le_iff.mpr ⟨hz, zero_ne_nan, ?_⟩
      rw [place_zero]
      exact Int.le_of_not_le fun hle => h ⟨zero_ne_nan, hz, hle⟩
    exact hdiv (hexp z hbelow).isFinite (hexp z hbelow)

theorem isProportion_decay_of_le {z : Binary64} (hz : z.le 0 = true) : z.decay.IsProportion :=
  isProportion_decay (le_iff.mp hz).1

theorem logistic_ne_nan {z : Binary64} (hz : z ≠ nan) : z.logistic ≠ nan := by
  rw [logistic_eq]
  exact logisticBy_ne_nan (fun _ => isProportion_decay_of_le) hz

end Bursary.Binary64
