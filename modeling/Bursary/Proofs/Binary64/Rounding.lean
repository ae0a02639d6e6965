import Bursary.Proofs.Binary64.Order

/-! Rounding to binary64 numbers is monotone and leaves those numbers alone. Both are facts on
counts of units; with them a sum lies where the exact sum does, up to one monotone map of the
line. Small whole numbers are not rounded at all. -/

namespace Bursary.Binary64

attribute [local irreducible] unitLimit unitsPerOne

/-! ### Counts of units -/

theorem roundUnits_eq (num den : Nat) :
    roundUnits num den = roundDiv num (den * Nat.pow 2 ((num / den).log2 - 52)) *
      Nat.pow 2 ((num / den).log2 - 52) := rfl

theorem roundUnits_of_representable {u den : Nat} (h : Representable u) (hd : 0 < den) :
    roundUnits (u * den) den = u := by
  have hdvd := h.2
  rw [roundUnits_eq, Nat.mul_div_cancel _ hd]
  simp only [Nat.pow_eq] at hdvd ⊢
  generalize u.log2 - 52 = e at hdvd ⊢
  obtain ⟨k, rfl⟩ := hdvd
  have hk : 2 ^ e * k * den = k * (den * 2 ^ e) := by
    rw [Nat.mul_comm (2 ^ e), Nat.mul_assoc, Nat.mul_comm (2 ^ e)]
  rw [hk, roundDiv_mul_right k (Nat.mul_pos hd (Nat.two_pow_pos e)), Nat.mul_comm]

theorem roundUnits_zero (den : Nat) : roundUnits 0 den = 0 := by
  have hround (m : Nat) : roundDiv 0 m = 0 := by
    unfold roundDiv
    dsimp only
    rw [Nat.zero_mod, Nat.zero_div, if_pos (by omega)]
  rw [roundUnits_eq, hround, Nat.zero_mul]

theorem log2_mono {m n : Nat} (h : m ≤ n) : m.log2 ≤ n.log2 := by
  by_cases hm : m = 0
  · simp [hm]
  · rw [Nat.le_log2 (by omega)]
    exact Nat.le_trans (Nat.log2_self_le hm) h

/-- A quotient with more bits than its step leaves out is not rounded below their weight. -/
theorem le_roundUnits {num den f : Nat} (hf : (num / den).log2 - 52 = f) (hpos : 0 < f) :
    Nat.pow 2 (52 + f) ≤ roundUnits num den := by
  rw [roundUnits_eq, hf]
  simp only [Nat.pow_eq]
  have hlog : (num / den).log2 = 52 + f := by omega
  have hne : num / den ≠ 0 := by
    intro h0
    rw [h0] at hlog
    exact absurd hlog (by simp; omega)
  have hself : 2 ^ (52 + f) ≤ num / den := by
    rw [← hlog]
    exact Nat.log2_self_le hne
  have hdiv : 2 ^ 52 ≤ roundDiv num (den * 2 ^ f) := by
    refine Nat.le_trans ?_ (le_roundDiv _ _)
    rw [← Nat.div_div_eq_div_mul, Nat.le_div_iff_mul_le (Nat.two_pow_pos f), ← Nat.pow_add]
    exact hself
  rw [Nat.pow_add]
  exact Nat.mul_le_mul_right _ hdiv

theorem roundUnits_mono {a b c d : Nat} (hb : 0 < b) (hd : 0 < d) (h : a * d ≤ c * b) :
    roundUnits a b ≤ roundUnits c d := by
  have hq := div_le_div_of_cross hb hd h
  have hlog := log2_mono hq
  generalize he : (a / b).log2 - 52 = e
  generalize hf : (c / d).log2 - 52 = f
  rcases Nat.lt_or_eq_of_le (show e ≤ f by omega) with hlt | rfl
  · -- the steps differ, so a power of two lies between
    calc roundUnits a b ≤ 2 ^ 53 * 2 ^ e := by
          rw [roundUnits_eq, he]
          have := roundDiv_step_le a b
          rw [he] at this
          exact Nat.mul_le_mul_right _ this
      _ = 2 ^ (53 + e) := (Nat.pow_add 2 53 e).symm
      _ ≤ 2 ^ (52 + f) := Nat.pow_le_pow_right (by decide) (by omega)
      _ ≤ roundUnits c d := le_roundUnits hf (by omega)
  · rw [roundUnits_eq, roundUnits_eq, he, hf]
    refine Nat.mul_le_mul_right _ (roundDiv_mono ?_ ?_ ?_)
    · exact Nat.mul_pos hb (Nat.two_pow_pos e)
    · exact Nat.mul_pos hd (Nat.two_pow_pos e)
    · rw [← Nat.mul_assoc, ← Nat.mul_assoc]
      exact Nat.mul_le_mul_right _ h

/-! ### Places of rounded numbers -/

theorem representable_roundUnits {num den : Nat} (h : roundUnits num den < unitLimit) :
    Representable (roundUnits num den) := ⟨h, roundUnits_dvd num den⟩

theorem ofUnits_of_lt (s : Bool) {num den : Nat} (h : roundUnits num den < unitLimit) :
    ofUnits s num den = finite s (roundUnits num den) (representable_roundUnits h) := dif_pos h

theorem ofUnits_of_le (s : Bool) {num den : Nat} (h : unitLimit ≤ roundUnits num den) :
    ofUnits s num den = infinite s := dif_neg (Nat.not_lt.mpr h)

theorem ofUnits_of_representable (s : Bool) {u den : Nat} (h : Representable u) (hd : 0 < den) :
    ofUnits s (u * den) den = finite s u h := by
  have hround := roundUnits_of_representable h hd
  rw [ofUnits_of_lt s (by rw [hround]; exact h.1)]
  simp only [hround]

theorem ofUnits_ne_nan (s : Bool) (num den : Nat) : ofUnits s num den ≠ nan := by
  rcases Nat.lt_or_ge (roundUnits num den) unitLimit with h | h
  · simp [ofUnits_of_lt s h]
  · simp [ofUnits_of_le s h]

theorem ofNat_ne_nan (n : Nat) : ofNat n ≠ nan := by
  rw [ofNat, ofFraction]
  exact ofUnits_ne_nan _ _ _

theorem place_ofUnits (s : Bool) (num den : Nat) :
    (ofUnits s num den).place =
      if s then -(min (roundUnits num den) unitLimit : Int)
      else min (roundUnits num den) unitLimit := by
  rcases Nat.lt_or_ge (roundUnits num den) unitLimit with h | h
  · rw [ofUnits_of_lt s h, place_finite, Int.min_eq_left (by omega)]
  · rw [ofUnits_of_le s h, place_infinite, Int.min_eq_right (by omega)]

/-- The place nearest to an exact quotient. -/
def nearestQuotient (i : Int) (den : Nat) : Int :=
  if i < 0 then -(min (roundUnits i.natAbs den) unitLimit : Int)
  else min (roundUnits i.natAbs den) unitLimit

theorem nearestQuotient_le {b d : Nat} (hb : 0 < b) (hd : 0 < d) {i j : Int}
    (h : i * d ≤ j * b) : nearestQuotient i b ≤ nearestQuotient j d := by
  have pos := unitLimit_pos
  unfold nearestQuotient
  by_cases hi : i < 0 <;> by_cases hj : j < 0 <;> simp only [hi, hj, ↓reduceIte]
  · have hcross : j.natAbs * b ≤ i.natAbs * d := by
      have hi' : i = -(i.natAbs : Int) := by omega
      have hj' : j = -(j.natAbs : Int) := by omega
      rw [hi', hj', Int.neg_mul, Int.neg_mul] at h
      exact Int.ofNat_le.mp (Int.le_of_neg_le_neg h)
    have := roundUnits_mono hd hb hcross
    omega
  · omega
  · have hnonneg : 0 ≤ i * d := Int.mul_nonneg (by omega) (by omega)
    have hneg : j * b < 0 := Int.mul_neg_of_neg_of_pos hj (by omega)
    omega
  · have hcross : i.natAbs * d ≤ j.natAbs * b := by
      have hi' : i = i.natAbs := by omega
      have hj' : j = j.natAbs := by omega
      rw [hi', hj'] at h
      exact Int.ofNat_le.mp h
    have := roundUnits_mono hb hd hcross
    omega

theorem nearestQuotient_mono {den : Nat} (hd : 0 < den) {i j : Int} (h : i ≤ j) :
    nearestQuotient i den ≤ nearestQuotient j den :=
  nearestQuotient_le hd hd (Int.mul_le_mul_of_nonneg_right h (by omega))

theorem nearestQuotient_nonneg {i : Int} {den : Nat} (h : 0 ≤ i) : 0 ≤ nearestQuotient i den := by
  have pos := unitLimit_pos
  rw [nearestQuotient, if_neg (by omega)]
  omega

theorem place_ofUnits_eq (s : Bool) (n den : Nat) :
    (ofUnits s n den).place = nearestQuotient (if s then -(n : Int) else n) den := by
  rw [place_ofUnits, nearestQuotient]
  cases s with
  | false =>
    have hn : ¬(n : Int) < 0 := by omega
    simp only [Bool.false_eq_true, ↓reduceIte, hn, Int.natAbs_natCast]
  | true =>
    simp only [↓reduceIte, Int.natAbs_neg, Int.natAbs_natCast]
    by_cases hn : n = 0
    · -- a zero has a place only, no sign
      subst hn
      have pos := unitLimit_pos
      have hmin : min (0 : Int) unitLimit = 0 := by omega
      rw [if_neg (by decide), roundUnits_zero, Int.natCast_zero, hmin]
      rfl
    · have hneg : -(n : Int) < 0 := by omega
      rw [if_pos hneg]

/-- The place nearest to an exact sum, which is no fraction. -/
def nearestPlace (i : Int) : Int :=
  if i < 0 then -(min (roundUnits i.natAbs 1) unitLimit : Int)
  else min (roundUnits i.natAbs 1) unitLimit

theorem nearestPlace_mono {i j : Int} (h : i ≤ j) : nearestPlace i ≤ nearestPlace j :=
  nearestQuotient_mono Nat.one_pos h

theorem nearestPlace_place {x : Binary64} (h : x.isFinite = true) :
    nearestPlace x.place = x.place := by
  match x with
  | finite s u fits =>
    have hu : roundUnits u 1 = u := by
      have := roundUnits_of_representable fits Nat.one_pos
      rwa [Nat.mul_one] at this
    have hlt := fits.1
    unfold nearestPlace
    cases s with
    | false => simp only [place_finite, Bool.false_eq_true, ↓reduceIte, Int.natAbs_natCast, hu]; omega
    | true => simp only [place_finite, ↓reduceIte, Int.natAbs_neg, Int.natAbs_natCast, hu]; omega

/-! ### Whole numbers -/

theorem representable_mul_unitsPerOne {n : Nat} (hn : n ≤ Nat.pow 2 53) :
    Representable (n * unitsPerOne) := by
  refine ⟨mul_unitsPerOne_lt hn, ?_⟩
  obtain ⟨e, he⟩ := exists_unitsPerOne_eq
  rw [he]
  exact dvd_mul_two_pow hn _

theorem representable_unitsPerOne : Representable unitsPerOne := by
  have := representable_mul_unitsPerOne (n := 1) (by decide)
  rwa [Nat.one_mul] at this

/-- Whole numbers of up to 53 bits are exact. -/
theorem ofNat_eq {n : Nat} (hn : n ≤ Nat.pow 2 53) :
    ofNat n = finite false (n * unitsPerOne) (representable_mul_unitsPerOne hn) := by
  have hexact := ofUnits_of_representable false (representable_mul_unitsPerOne hn) Nat.one_pos
  rwa [Nat.mul_one] at hexact

theorem one_eq : (1 : Binary64) = finite false unitsPerOne representable_unitsPerOne := by
  show ofNat 1 = _
  rw [ofNat_eq (by decide)]
  simp only [Nat.one_mul]

theorem isFinite_ofNat {n : Nat} (hn : n ≤ Nat.pow 2 53) : (ofNat n).isFinite = true := by
  rw [ofNat_eq hn, isFinite]

theorem place_ofNat {n : Nat} (hn : n ≤ Nat.pow 2 53) :
    (ofNat n).place = (n * unitsPerOne : Nat) := by
  rw [ofNat_eq hn]
  rfl

theorem isFinite_zero : (0 : Binary64).isFinite = true := isFinite_ofNat (Nat.zero_le _)

theorem isFinite_one : (1 : Binary64).isFinite = true := by rw [one_eq, isFinite]

theorem zero_ne_nan : (0 : Binary64) ≠ nan := ne_nan_of_isFinite isFinite_zero

theorem one_ne_nan : (1 : Binary64) ≠ nan := ne_nan_of_isFinite isFinite_one

theorem place_zero : (0 : Binary64).place = 0 := by
  have := place_ofNat (Nat.zero_le _)
  rwa [Nat.zero_mul] at this

theorem place_one : (1 : Binary64).place = unitsPerOne := by rw [one_eq]; rfl

/-! ### Steps -/

/-- A negative power of two is representable, and so are its small multiples. -/
theorem exists_step {d s : Nat} (hs : s = Nat.pow 2 d) (hd : d ≤ 54) :
    ∃ w, unitsPerOne = s * w ∧ ∀ {k : Nat}, k ≤ Nat.pow 2 53 → Representable (k * w) := by
  subst hs
  obtain ⟨e, he⟩ := exists_unitsPerOne_eq
  have hstep : unitsPerOne = Nat.pow 2 d * Nat.pow 2 (54 - d + e) := by
    simp only [he, Nat.pow_eq, ← Nat.pow_add]
    congr 1
    omega
  refine ⟨_, hstep, fun {k} hk => ⟨?_, dvd_mul_two_pow hk _⟩⟩
  calc k * Nat.pow 2 (54 - d + e) ≤ k * unitsPerOne :=
        Nat.mul_le_mul_left k (hstep ▸ Nat.le_mul_of_pos_left _ (Nat.two_pow_pos d))
    _ < unitLimit := mul_unitsPerOne_lt hk

section Quotient

variable (num : Nat) {den m s w : Nat} (hden : 0 < den) (hone : unitsPerOne = s * w)
  (hfits : Representable (m * w))

include hden hone hfits

/-- A quotient that does not exceed a multiple of a step is not rounded above it. -/
theorem roundUnits_le_mul (h : num * s ≤ m * den) :
    roundUnits (num * unitsPerOne) den ≤ m * w := by
  calc roundUnits (num * unitsPerOne) den ≤ roundUnits (m * w * den) den := by
        refine roundUnits_mono hden hden (Nat.mul_le_mul_right den ?_)
        rw [hone, ← Nat.mul_assoc, Nat.mul_right_comm m]
        exact Nat.mul_le_mul_right w h
    _ = m * w := roundUnits_of_representable hfits hden

theorem mul_le_roundUnits (h : m * den ≤ num * s) :
    m * w ≤ roundUnits (num * unitsPerOne) den := by
  calc m * w = roundUnits (m * w * den) den := (roundUnits_of_representable hfits hden).symm
    _ ≤ roundUnits (num * unitsPerOne) den := by
        refine roundUnits_mono hden hden (Nat.mul_le_mul_right den ?_)
        rw [hone, ← Nat.mul_assoc, Nat.mul_right_comm m]
        exact Nat.mul_le_mul_right w h

end Quotient

end Bursary.Binary64
