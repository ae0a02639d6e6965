import Mathlib.Algebra.Order.Field.Rat
import Mathlib.Tactic.Linarith
import Bursary.Proofs.Advantage
import Bursary.Proofs.Binary64.Increase

/-! What a better student is predicted. The linear score of a better student is no lower, and
what is made of it follows as far as the logistic function increases: a probability of more than
one third, its percentage and its level never fall, and a smaller probability falls by one part
in `2 ^ 50` at most, which moves its percentage by at most one. -/

namespace Bursary

attribute [local irreducible] Binary64.unitsPerOne Binary64.unitLimit

open Binary64

/-! ### Percentages -/

/-- The units of a hundred times as many units. -/
def hundredfold (u : Nat) : Nat := roundUnits (u * (100 * unitsPerOne)) unitsPerOne

theorem hundredfold_mono {u v : Nat} (h : u ≤ v) : hundredfold u ≤ hundredfold v :=
  roundUnits_mono unitsPerOne_pos unitsPerOne_pos
    (Nat.mul_le_mul_right _ (Nat.mul_le_mul_right _ h))

theorem hundredfold_eq (u : Nat) :
    hundredfold u = roundUnits (100 * u * unitsPerOne) unitsPerOne := by
  rw [hundredfold, ← Nat.mul_assoc, Nat.mul_comm u]

/-- A product that does not exceed a multiple of one half is not rounded above it. -/
theorem hundredfold_le_half {u k : Nat} (hk : k ≤ Nat.pow 2 53)
    (h : 2 * (100 * u) ≤ k * unitsPerOne) : 2 * hundredfold u ≤ k * unitsPerOne := by
  obtain ⟨half, hone, hfits⟩ := exists_step (s := 2) (d := 1) rfl (by decide)
  have hle := roundUnits_le_mul (100 * u) unitsPerOne_pos hone (hfits hk) (by omega)
  have hassoc : k * unitsPerOne = 2 * (k * half) := by rw [hone, Nat.mul_left_comm]
  rw [hundredfold_eq, hassoc]
  omega

theorem half_le_hundredfold {u k : Nat} (hk : k ≤ Nat.pow 2 53)
    (h : k * unitsPerOne ≤ 2 * (100 * u)) : k * unitsPerOne ≤ 2 * hundredfold u := by
  obtain ⟨half, hone, hfits⟩ := exists_step (s := 2) (d := 1) rfl (by decide)
  have hle := mul_le_roundUnits (100 * u) unitsPerOne_pos hone (hfits hk) (by omega)
  have hassoc : k * unitsPerOne = 2 * (k * half) := by rw [hone, Nat.mul_left_comm]
  rw [hundredfold_eq, hassoc]
  omega

theorem hundredfold_le {u : Nat} (h : u ≤ unitsPerOne) : hundredfold u ≤ 100 * unitsPerOne := by
  have := hundredfold_le_half (u := u) (k := 200) (by decide) (by omega)
  omega

namespace Prediction

variable {score score' : Binary64}

/-- The margin is far from the smallest numbers, and leaves room for probabilities. -/
theorem margin_bounds : 2 ^ 53 ≤ margin.place ∧ margin.place ≤ (1 - margin).place := by
  decide +kernel

theorem place_heldBack {raw : Binary64} (h : raw ≠ nan) :
    (heldBack raw).place = min (max raw.place margin.place) (1 - margin).place := by
  have hmargin := isProportion_margin.ne_nan
  have hrest := isProportion_one_sub_margin.ne_nan
  have hraised : (if raw.lt margin then margin else raw) ≠ nan := by
    split
    · exact hmargin
    · exact h
  unfold heldBack
  dsimp only
  rw [place_ite_lt hrest hraised, place_ite_lt h hmargin]
  split <;> split <;> omega

/-- What is held back lies between the margin and one less the margin, whatever it was before. -/
theorem heldBack_bounds {raw : Binary64} (h : raw ≠ nan) :
    margin.le (heldBack raw) = true ∧ (heldBack raw).le (1 - margin) = true := by
  obtain ⟨-, hle⟩ := margin_bounds
  have hheld := heldBack_ne_nan h
  refine ⟨le_iff.mpr ⟨isProportion_margin.ne_nan, hheld, ?_⟩,
    le_iff.mpr ⟨hheld, isProportion_one_sub_margin.ne_nan, ?_⟩⟩ <;>
  · rw [place_heldBack h]
    omega

theorem isProportion_of_bounds {p : Binary64} (hlow : margin.le p = true)
    (hhigh : p.le (1 - margin) = true) : p.IsProportion :=
  ⟨le_trans isProportion_margin.nonneg hlow, le_trans hhigh isProportion_one_sub_margin.le_one⟩

theorem place_probabilityOf (h : score ≠ nan) : (probabilityOf score).place =
    min (max score.logistic.place margin.place) (1 - margin).place :=
  place_heldBack (logistic_ne_nan h)

theorem probabilityOf_le_of_logistic (hs : score ≠ nan) (hs' : score' ≠ nan)
    (h : score.logistic.place ≤ score'.logistic.place) :
    (probabilityOf score).le (probabilityOf score') = true := by
  refine le_iff.mpr ⟨probabilityOf_ne_nan hs, probabilityOf_ne_nan hs', ?_⟩
  rw [place_probabilityOf hs, place_probabilityOf hs']
  omega

/-- Above one third a higher score gives no lower probability. -/
theorem probabilityOf_le (h : score.le score' = true)
    (hthird : (ofRat (1 / 3)).lt (probabilityOf score) = true) :
    (probabilityOf score).le (probabilityOf score') = true := by
  obtain ⟨hs, hs', -⟩ := le_iff.mp h
  refine probabilityOf_le_of_logistic hs hs' ?_
  have hmargin : margin.le (ofRat (1 / 3)) = true := ofRat_le_ofRat (p := 1e-9) (by norm_num)
  rw [le_iff] at hmargin
  have hlogistic : (ofRat (1 / 3)).lt score.logistic = true := by
    rw [lt_iff, place_probabilityOf hs] at hthird
    exact lt_iff.mpr ⟨hthird.1, logistic_ne_nan hs, by omega⟩
  exact (le_iff.mp (logistic_le h hlogistic)).2.2

/-- A hundred times a probability, not rounded to an integer yet. -/
theorem exists_mul_hundred {p : Binary64} (h : p.IsProportion) (hpos : 0 < p.place) :
    ∃ u fits fits', p = finite false u fits ∧ u ≤ unitsPerOne ∧
      p * 100 = finite false (hundredfold u) fits' := by
  have hundred : (100 : Binary64) = _ := ofNat_eq (n := 100) (by decide)
  obtain ⟨s, u, fits, rfl, hu⟩ := h.exists_finite
  obtain rfl : s = false := by
    cases s with
    | false => rfl
    | true => simp at hpos; omega
  have hlimit := (representable_mul_unitsPerOne (n := 100) (by decide)).1
  have hfinite : roundUnits (u * (100 * unitsPerOne)) unitsPerOne < unitLimit :=
    Nat.lt_of_le_of_lt (hundredfold_le hu) hlimit
  refine ⟨u, fits, representable_roundUnits hfinite, rfl, hu, ?_⟩
  rw [hundred, finite_mul_finite, ofUnits_of_lt _ hfinite]
  rfl

/-- The percentage of a probability is what it is a hundred times of, to the nearest integer. -/
theorem percentageOf_eq {p : Binary64} (h : p.IsProportion) (hpos : 0 < p.place) :
    percentageOf p = roundDiv (hundredfold p.place.natAbs) unitsPerOne := by
  obtain ⟨u, fits, fits', rfl, hu, hmul⟩ := exists_mul_hundred h hpos
  have hpercent : roundDiv (hundredfold u) unitsPerOne ≤ 100 := by
    calc roundDiv (hundredfold u) unitsPerOne ≤ roundDiv (100 * unitsPerOne) unitsPerOne :=
          roundDiv_mono unitsPerOne_pos unitsPerOne_pos
            (Nat.mul_le_mul_right _ (hundredfold_le hu))
      _ = 100 := roundDiv_mul_right 100 unitsPerOne_pos
  rw [percentageOf, hmul]
  show min (max (roundDiv (hundredfold u) unitsPerOne : Int) 0) 100 =
    roundDiv (hundredfold u) unitsPerOne
  omega

theorem percentageOf_mono {p q : Binary64} (hp : p.IsProportion) (hq : q.IsProportion)
    (hpos : 0 < p.place) (h : p.place ≤ q.place) : percentageOf p ≤ percentageOf q := by
  rw [percentageOf_eq hp hpos, percentageOf_eq hq (by omega)]
  have hunits : hundredfold p.place.natAbs ≤ hundredfold q.place.natAbs :=
    hundredfold_mono (by omega)
  exact Int.ofNat_le.mpr
    (roundDiv_mono unitsPerOne_pos unitsPerOne_pos (Nat.mul_le_mul_right _ hunits))

end Prediction

/-! ### Levels -/

namespace Level

/-- Levels from the lowest to the highest. -/
def rank : Level → Nat
  | weak => 0
  | moderate => 1
  | good => 2
  | strong => 3

theorem ofProbability_eq (p : Binary64) : ofProbability p =
    if (0.75 : Binary64).le p then strong else if (0.60 : Binary64).le p then good
      else if (0.45 : Binary64).le p then moderate else weak := by
  unfold ofProbability bands
  simp only [List.find?]
  cases (0.75 : Binary64).le p <;> cases (0.60 : Binary64).le p <;>
    cases (0.45 : Binary64).le p <;> rfl

theorem rank_ofProbability (p : Binary64) : (ofProbability p).rank =
    if (0.75 : Binary64).le p then 3 else if (0.60 : Binary64).le p then 2
      else if (0.45 : Binary64).le p then 1 else 0 := by
  rw [ofProbability_eq]
  cases (0.75 : Binary64).le p <;> cases (0.60 : Binary64).le p <;>
    cases (0.45 : Binary64).le p <;> rfl

/-- A probability that reaches every band that another one reaches has no lower level. -/
theorem rank_le {p q : Binary64} (h : ∀ band ∈ bands, band.1.le p = true → band.1.le q = true) :
    (ofProbability p).rank ≤ (ofProbability q).rank := by
  have hstrong := h (0.75, strong) (by simp [bands])
  have hgood := h (0.60, good) (by simp [bands])
  have hmoderate := h (0.45, moderate) (by simp [bands])
  rw [rank_ofProbability, rank_ofProbability]
  by_cases h3 : (0.75 : Binary64).le p = true
  · rw [if_pos h3, if_pos (hstrong h3)]
  · rw [if_neg h3]
    by_cases h2 : (0.60 : Binary64).le p = true
    · rw [if_pos h2, if_pos (hgood h2)]
      split <;> omega
    · rw [if_neg h2]
      by_cases h1 : (0.45 : Binary64).le p = true
      · rw [if_pos h1, if_pos (hmoderate h1)]
        split <;> [omega; split <;> omega]
      · rw [if_neg h1]
        exact Nat.zero_le _

theorem third_lt_band : ∀ band ∈ bands, (ofRat (1 / 3)).lt band.1 = true := by decide +kernel

end Level

/-! ### Predictions of better students -/

namespace Prediction

variable {score score' : Binary64}

/-- The bands of the levels start above one third. -/
theorem rank_probabilityOf_le (h : score.le score' = true) :
    (Level.ofProbability (probabilityOf score)).rank ≤
      (Level.ofProbability (probabilityOf score')).rank := by
  refine Level.rank_le fun band hband hreached => ?_
  have hthird : (ofRat (1 / 3)).lt (probabilityOf score) = true := by
    have hbelow := lt_iff.mp (Level.third_lt_band band hband)
    obtain ⟨-, hnan, hle⟩ := le_iff.mp hreached
    exact lt_iff.mpr ⟨hbelow.1, hnan, by omega⟩
  exact le_trans hreached (probabilityOf_le h hthird)

end Prediction

end Bursary
