import Bursary.Proofs.Likelihood
import Bursary.Proofs.Rounding

/-! Predictions are consistent. One probability, held back from zero and one, is shown as a
percentage and as a level, and the percentage as an advice. The two tables of bands are looked up
in numbers that were rounded differently, but the least probability of a level is rounded to the
percentage that stands beside it, so a level never promises more than the percentage. All of this
rests on finite weights alone, and on no more of the exponential function than that it gives
proportions for numbers up to zero. -/

namespace Bursary

attribute [local irreducible] Binary64.unitsPerOne Binary64.unitLimit

open Binary64

/-! ### Percentages -/

namespace Prediction

variable {p : Binary64}

theorem percentageOf_eq_roundToInt (h : p.IsProportion) (hpos : 0 < p.place) :
    percentageOf p = (p * 100).roundToInt := by
  rw [percentageOf_eq h hpos]
  obtain ⟨u, fits, fits', rfl, -, hmul⟩ := exists_mul_hundred h hpos
  rw [hmul]
  rfl

theorem isRounding_percentageOf (h : p.IsProportion) (hpos : 0 < p.place) :
    IsRounding (p * 100).toRat (percentageOf p) := by
  have hround := percentageOf_eq_roundToInt h hpos
  obtain ⟨u, fits, fits', rfl, -, hmul⟩ := exists_mul_hundred h hpos
  refine (roundToInt_eq_iff ?_ _).mp hround.symm
  rw [hmul]
  rfl

theorem percentageOf_bounds (p : Binary64) : 0 ≤ percentageOf p ∧ percentageOf p ≤ 100 := by
  unfold percentageOf
  omega

/-- The exact product with a hundred is on the same side as the rounded one of the halves next to an
integer. -/
theorem near_of_hundredfold_near {u n : Nat} (hn : n ≤ 100)
    (h : 2 * ((hundredfold u : Int) - (n * unitsPerOne : Nat)).natAbs < unitsPerOne) :
    2 * (((100 * u : Nat) : Int) - (n * unitsPerOne : Nat)).natAbs < unitsPerOne := by
  have hmany : 2 * n + 1 ≤ Nat.pow 2 53 := by
    have : 201 ≤ Nat.pow 2 53 := by decide
    omega
  by_contra hfar
  have hside : 2 * (n * unitsPerOne) + unitsPerOne ≤ 2 * (100 * u) ∨
      2 * (100 * u) + unitsPerOne ≤ 2 * (n * unitsPerOne) := by omega
  rcases hside with habove | hbelow
  · have hodd : (2 * n + 1) * unitsPerOne = 2 * (n * unitsPerOne) + unitsPerOne := by
      rw [Nat.add_mul, Nat.one_mul, Nat.mul_assoc]
    have := half_le_hundredfold (u := u) hmany (by omega)
    omega
  · have hodd : (2 * n - 1) * unitsPerOne = 2 * (n * unitsPerOne) - unitsPerOne := by
      rw [Nat.sub_mul, Nat.one_mul, Nat.mul_assoc]
    have := hundredfold_le_half (k := 2 * n - 1) (u := u) (by omega) (by omega)
    omega

/-- Where the product with a hundred is no half, the percentage is that of the exact product. -/
theorem isRounding_percentageOf_exact (h : p.IsProportion) (hpos : 0 < p.place)
    (hhalf : ∀ k : Int, (p * 100).toRat ≠ k + 1 / 2) :
    IsRounding (100 * p.toRat) (percentageOf p) := by
  have hround := isRounding_percentageOf h hpos
  obtain ⟨hlow, hhigh⟩ := percentageOf_bounds p
  obtain ⟨n, hn⟩ := Int.eq_ofNat_of_zero_le hlow
  obtain ⟨u, fits, fits', rfl, -, hmul⟩ := exists_mul_hundred h hpos
  have hproduct : (finite false u fits * 100).toRat =
      ((hundredfold u : Int) : Rat) / unitsPerOne := by
    rw [hmul]
    exact toRat_finite false fits'
  have hexact : 100 * (finite false u fits).toRat = ((100 * u : Nat) : Int) / unitsPerOne := by
    rw [toRat_finite, if_neg Bool.false_ne_true, mul_div_assoc']
    push_cast
    rfl
  have hone := unitsPerOne_pos
  have hle := (abs_div_sub_le_half_iff _ hone _).mp (hproduct ▸ hn ▸ hround.nearest)
  have htie : 2 * ((hundredfold u : Int) - n * unitsPerOne).natAbs ≠ unitsPerOne := by
    rw [Ne, ← abs_div_sub_eq_half_iff _ hone, ← hproduct]
    intro h
    rcases (abs_eq (by norm_num)).mp h with hup | hdown
    · exact hhalf n (by push_cast at hup ⊢; linarith)
    · exact hhalf (n - 1) (by push_cast at hdown ⊢; linarith)
  rw [hexact, hn, isRounding_div_iff _ hone]
  rw [← Int.natCast_mul] at hle htie ⊢
  have hnear := near_of_hundredfold_near (u := u) (n := n) (by omega) (by omega)
  omega

/-- A probability that reaches another one reaches its percentage. -/
theorem le_percentageOf {least : Binary64} {n : Int} (hleast : least.IsProportion)
    (hpos : 0 < least.place) (hn : percentageOf least = n) (h : p.IsProportion)
    (hle : least.le p = true) : n ≤ percentageOf p :=
  hn ▸ percentageOf_mono hleast h hpos (le_iff.mp hle).2.2

end Prediction

theorem Advice.ofPercentage_eq (n : Int) : ofPercentage n =
    if 75 ≤ n then strong else if 60 ≤ n then good
      else if 40 ≤ n then moderate else if 25 ≤ n then low else against := by
  unfold ofPercentage bands
  simp only [List.find?_cons, List.find?_nil]
  split_ifs <;> simp [*]

/-! ### Consistency -/

namespace Prediction

/-- What is consistent about a prediction. -/
structure IsConsistent (p : Prediction) : Prop where
  low : (1e-9 : Binary64).le p.probability = true
  high : p.probability.le (1 - 1e-9) = true
  /-- The percentage is the nearest integer to a hundred times the probability, as computed. -/
  percentage : IsRounding (p.probability * 100).toRat p.percentage
  /-- It is nearest to the exact product, too, if the computed one is no half. -/
  exact : (∀ k : Int, (p.probability * 100).toRat ≠ k + 1 / 2) →
    IsRounding (100 * p.probability.toRat) p.percentage
  bounds : 0 ≤ p.percentage ∧ p.percentage ≤ 100
  advice : p.advice =
    if 75 ≤ p.percentage then .strong else if 60 ≤ p.percentage then .good
      else if 40 ≤ p.percentage then .moderate else if 25 ≤ p.percentage then .low else .against
  level : p.level =
    if (0.75 : Binary64).le p.probability then .strong
      else if (0.60 : Binary64).le p.probability then .good
      else if (0.45 : Binary64).le p.probability then .moderate else .weak
  strong : p.level = .strong → 75 ≤ p.percentage
  good : p.level = .good → 60 ≤ p.percentage
  moderate : p.level = .moderate → 45 ≤ p.percentage

/-- What is shown of a probability that was held back is consistent. -/
theorem isConsistent_of_heldBack {p : Prediction} {raw : Binary64} (hraw : raw ≠ nan)
    (hprobability : p.probability = heldBack raw)
    (hpercentage : p.percentage = percentageOf p.probability)
    (hadvice : p.advice = .ofPercentage p.percentage)
    (hlevel : p.level = .ofProbability p.probability) : p.IsConsistent := by
  obtain ⟨hlow, hhigh⟩ := heldBack_bounds hraw
  rw [← hprobability] at hlow hhigh
  have h := isProportion_of_bounds hlow hhigh
  have hpos : 0 < p.probability.place := by
    have hmargin := margin_bounds.1
    have hle := (le_iff.mp hlow).2.2
    omega
  have hreaches {least : Binary64} {n : Int} (hband : least.IsProportion ∧ 0 < least.place ∧
      percentageOf least = n) (hle : least.le p.probability = true) : n ≤ p.percentage :=
    hpercentage ▸ le_percentageOf hband.1 hband.2.1 hband.2.2 h hle
  rw [Level.ofProbability_eq] at hlevel
  refine {
    low := hlow
    high := hhigh
    percentage := hpercentage ▸ isRounding_percentageOf h hpos
    exact := fun hhalf => hpercentage ▸ isRounding_percentageOf_exact h hpos hhalf
    bounds := hpercentage ▸ percentageOf_bounds _
    advice := hadvice.trans (Advice.ofPercentage_eq _)
    level := hlevel
    strong := fun hstrong => ?_
    good := fun hgood => ?_
    moderate := fun hmoderate => ?_ }
  · rw [hlevel] at hstrong
    split_ifs at hstrong with hle
    exact hreaches (by decide +kernel) hle
  · rw [hlevel] at hgood
    split_ifs at hgood with _ hle
    exact hreaches (by decide +kernel) hle
  · rw [hlevel] at hmoderate
    split_ifs at hmoderate with _ _ hle
    exact hreaches (by decide +kernel) hle

/-- A prediction by another exponential function. -/
def ofBy (exp : Binary64 → Binary64) (s : Student) (c : Criteria) (w : Weights Binary64)
    (trained : Bool) (source : Source) (convention : Convention) : Prediction :=
  let probability := heldBack (logisticBy exp (w.linearScore (Features.of convention s c)))
  let percentage := percentageOf probability
  { Prediction.of s c w trained source convention with
    probability, percentage
    advice := .ofPercentage percentage
    level := .ofProbability probability }

theorem of_eq_ofBy (s : Student) (c : Criteria) (w : Weights Binary64) (trained : Bool)
    (source : Source) (convention : Convention) :
    Prediction.of s c w trained source convention = ofBy decay s c w trained source convention := by
  rw [ofBy, ← logistic_eq]
  rfl

/-- Finite weights never make a score that is no number, and what is predicted by it is consistent,
also by any other exponential function that gives proportions for numbers up to zero. -/
theorem isConsistent_of (s : Student) (c : Criteria) {w : Weights Binary64} (hw : w.IsFinite)
    (trained : Bool) (source : Source) (convention : Convention) :
    w.linearScore (Features.of convention s c) ≠ nan ∧
      (Prediction.of s c w trained source convention).IsConsistent ∧
      ∀ exp : Binary64 → Binary64, (∀ z : Binary64, z.le 0 = true → (exp z).IsProportion) →
        (ofBy exp s c w trained source convention).IsConsistent := by
  have hscore := w.linearScore_ne_nan hw (Features.isProportion_of convention s c)
  have hby {exp : Binary64 → Binary64}
      (hexp : ∀ z : Binary64, z.le 0 = true → (exp z).IsProportion) :
      (ofBy exp s c w trained source convention).IsConsistent :=
    isConsistent_of_heldBack (logisticBy_ne_nan hexp hscore) rfl rfl rfl rfl
  refine ⟨hscore, ?_, fun exp => hby⟩
  rw [of_eq_ofBy]
  exact hby fun _ => isProportion_decay_of_le

/-- Weights so large that their sum overflows. -/
theorem isConsistent_of_overflow :
    let w : Weights Binary64 := ⟨1e308, fun _ => 1e308⟩
    let p := Prediction.of {} {} w true .global .graded
    w.IsFinite ∧ w.linearScore (Features.of .graded {} {}) = .infinite false ∧
      p.percentage = 100 ∧ p.level = .strong ∧ p.IsConsistent ∧
      (ofBy decay {} {} w true .global .graded).IsConsistent := by
  intro w p
  have hlarge : (1e308 : Binary64).isFinite = true := by decide +kernel
  have hw : w.IsFinite := ⟨hlarge, fun _ => hlarge⟩
  obtain ⟨-, hp, hby⟩ := isConsistent_of {} {} hw true .global .graded
  exact ⟨hw, by decide +kernel, by decide +kernel, by decide +kernel, hp,
    hby decay fun _ => isProportion_decay_of_le⟩

end Prediction

end Bursary
