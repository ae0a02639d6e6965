import Bursary.Arithmetic
import Bursary.Proofs.Binary64.Sum

/-! Numbers of the unit interval. A finite number stays finite when it is weighed by one of them,
and finite numbers never add up to a NaN, however large their sum gets. -/

namespace Bursary.Binary64

attribute [local irreducible] unitLimit unitsPerOne

variable {x y : Binary64}

/-- A number of the unit interval. -/
structure IsProportion (x : Binary64) : Prop where
  nonneg : (0 : Binary64).le x = true
  le_one : x.le 1 = true

instance (x : Binary64) : Decidable x.IsProportion :=
  decidable_of_iff ((0 : Binary64).le x = true ∧ x.le 1 = true)
    ⟨fun h => ⟨h.1, h.2⟩, fun h => ⟨h.1, h.2⟩⟩

theorem isProportion_iff :
    x.IsProportion ↔ x ≠ nan ∧ 0 ≤ x.place ∧ x.place ≤ unitsPerOne := by
  constructor
  · intro h
    have hlow := le_iff.mp h.nonneg
    have hhigh := le_iff.mp h.le_one
    rw [place_zero] at hlow
    rw [place_one] at hhigh
    exact ⟨hlow.2.1, hlow.2.2, hhigh.2.2⟩
  · rintro ⟨hx, hlow, hhigh⟩
    refine ⟨le_iff.mpr ⟨zero_ne_nan, hx, ?_⟩, le_iff.mpr ⟨hx, one_ne_nan, ?_⟩⟩
    · rwa [place_zero]
    · rwa [place_one]

theorem IsProportion.place_nonneg (h : x.IsProportion) : 0 ≤ x.place := (isProportion_iff.mp h).2.1

theorem isProportion_zero : (0 : Binary64).IsProportion := by
  refine isProportion_iff.mpr ⟨zero_ne_nan, ?_⟩
  rw [place_zero]
  omega

theorem isProportion_one : (1 : Binary64).IsProportion := by
  refine isProportion_iff.mpr ⟨one_ne_nan, ?_⟩
  rw [place_one]
  omega

/-- A proportion is a finite number of at most as many units as one has. -/
theorem IsProportion.exists_finite (h : x.IsProportion) :
    ∃ s u fits, x = finite s u fits ∧ u ≤ unitsPerOne := by
  have hlimit := unitsPerOne_lt_unitLimit
  obtain ⟨hx, hlow, hhigh⟩ := isProportion_iff.mp h
  cases x with
  | nan => exact absurd rfl hx
  | infinite s => cases s <;> simp at hlow hhigh <;> omega
  | finite s u fits =>
    refine ⟨s, u, fits, rfl, ?_⟩
    cases s <;> simp at hlow hhigh <;> omega

theorem IsProportion.isFinite (h : x.IsProportion) : x.isFinite = true := by
  obtain ⟨s, u, fits, rfl, -⟩ := h.exists_finite
  rfl

theorem IsProportion.ne_nan (h : x.IsProportion) : x ≠ nan := ne_nan_of_isFinite h.isFinite

/-! ### Clamping -/

theorem const_zero : (Arithmetic.const 0 : Binary64) = 0 := rfl

theorem const_one : (Arithmetic.const 1 : Binary64) = 1 := rfl

theorem const_natCast (n : Nat) : (Arithmetic.const (n : Rat) : Binary64) = ofNat n := by
  show ofFraction _ _ _ = ofFraction false n 1
  rw [Rat.num_natCast, Rat.den_natCast, Int.natAbs_natCast, decide_eq_false (by omega)]

theorem clamp_eq (x : Binary64) : Arithmetic.clamp x =
    if lt 0 (if lt x 1 then x else 1) then (if lt x 1 then x else 1) else 0 := rfl

/-- What is clamped is a proportion, whatever it was before. -/
theorem isProportion_clamp (x : Binary64) : (Arithmetic.clamp x).IsProportion := by
  rw [clamp_eq]
  by_cases hx : lt x 1 = true
  · rw [if_pos hx]
    by_cases h0 : lt 0 x = true
    · rw [if_pos h0]
      exact ⟨le_of_lt h0, le_of_lt hx⟩
    · rw [if_neg h0]
      exact isProportion_zero
  · rw [if_neg hx]
    split
    · exact isProportion_one
    · exact isProportion_zero

/-! ### Weighted sums -/

theorem finite_mul_finite (s t : Bool) {u v : Nat} (h : Representable u) (h' : Representable v) :
    finite s u h * finite t v h' = ofUnits (s != t) (u * v) unitsPerOne := by
  show mul _ _ = _
  rw [mul]

theorem isFinite_mul (hx : x.isFinite = true) (hy : y.IsProportion) : (x * y).isFinite = true := by
  obtain ⟨s, u, fits, rfl⟩ := isFinite_iff.mp hx
  obtain ⟨t, v, fits', rfl, hv⟩ := hy.exists_finite
  have hle : roundUnits (u * v) unitsPerOne ≤ u := by
    have hexact := roundUnits_of_representable fits unitsPerOne_pos
    calc roundUnits (u * v) unitsPerOne ≤ roundUnits (u * unitsPerOne) unitsPerOne :=
          roundUnits_mono unitsPerOne_pos unitsPerOne_pos
            (Nat.mul_le_mul_right _ (Nat.mul_le_mul_left u hv))
      _ = u := hexact
  rw [finite_mul_finite, ofUnits_of_lt _ (Nat.lt_of_le_of_lt hle fits.1)]
  rfl

theorem foldl_add_ne_nan {xs : List Binary64} (h : ∀ x ∈ xs, x.isFinite = true) {start : Binary64}
    (hstart : start ≠ nan) : xs.foldl (· + ·) start ≠ nan := by
  induction xs generalizing start with
  | nil => exact hstart
  | cons x xs ih =>
    rw [List.forall_mem_cons] at h
    exact ih h.2 (add_ne_nan hstart (ne_nan_of_isFinite h.1) (.inr h.1))

theorem sum_ne_nan {xs : List Binary64} (h : ∀ x ∈ xs, x.isFinite = true) :
    Arithmetic.sum xs ≠ nan :=
  foldl_add_ne_nan h zero_ne_nan

/-! ### Quotients -/

theorem div_ne_nan (hx : x.isFinite = true) (hy : y ≠ nan) (hy0 : y.place ≠ 0) : x / y ≠ nan := by
  obtain ⟨s, u, fits, rfl⟩ := isFinite_iff.mp hx
  show div _ _ ≠ nan
  cases y with
  | nan => exact absurd rfl hy
  | infinite t => exact ofUnits_ne_nan _ _ _
  | finite t v fits' =>
    have hv : v ≠ 0 := by
      rintro rfl
      simp at hy0
    rw [div, if_neg hv]
    exact ofUnits_ne_nan _ _ _

theorem div_self (hx : x.isFinite = true) (hpos : 0 < x.place) : x / x = 1 := by
  obtain ⟨s, u, fits, rfl⟩ := isFinite_iff.mp hx
  have hu : 0 < u := by
    rcases Nat.eq_zero_or_pos u with rfl | hu
    · simp at hpos
    · exact hu
  show div _ _ = _
  rw [div, if_neg (by omega), bne_self_eq_false, Nat.mul_comm u,
    ofUnits_of_representable _ representable_unitsPerOne hu, one_eq]

end Bursary.Binary64
