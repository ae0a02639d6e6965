import Bursary.Proofs.Binary64.Rounding

/-! Sums of binary64 numbers. A sum of finite numbers stands at the place nearest to the exact
sum, and only infinities of both signs add up to a NaN. So a number never falls by adding one
that is not negative, which is what a clock needs. -/

namespace Bursary.Binary64

attribute [local irreducible] unitLimit unitsPerOne

variable {x y e : Binary64}

@[simp] theorem nan_add (y : Binary64) : nan + y = nan := rfl

@[simp] theorem add_nan (x : Binary64) : x + nan = nan := by cases x <;> rfl

theorem infinite_add_infinite (s t : Bool) :
    infinite s + infinite t = if s == t then infinite s else nan := rfl

theorem infinite_add {s : Bool} (h : y.isFinite = true) : infinite s + y = infinite s := by
  obtain ⟨t, v, fits, rfl⟩ := isFinite_iff.mp h
  rfl

theorem add_infinite {t : Bool} (h : x.isFinite = true) : x + infinite t = infinite t := by
  obtain ⟨s, u, fits, rfl⟩ := isFinite_iff.mp h
  rfl

theorem finite_add_finite (s t : Bool) {u v : Nat} (h : Representable u) (h' : Representable v) :
    let sum := (finite s u h).place + (finite t v h').place
    finite s u h + finite t v h' =
      if sum = 0 then ofUnits (s && t) 0 1 else ofUnits (sum < 0) sum.natAbs 1 := rfl

theorem place_add (hx : x.isFinite = true) (hy : y.isFinite = true) :
    (x + y).place = nearestPlace (x.place + y.place) := by
  obtain ⟨s, u, h, rfl⟩ := isFinite_iff.mp hx
  obtain ⟨t, v, h', rfl⟩ := isFinite_iff.mp hy
  rw [finite_add_finite]
  generalize (finite s u h).place + (finite t v h').place = i
  by_cases hi : i = 0
  · rw [if_pos hi, place_ofUnits_eq, hi]
    cases s && t <;> rfl
  · rw [if_neg hi, place_ofUnits, nearestPlace]
    simp only [decide_eq_true_eq]

/-- Only infinities of both signs add up to a NaN. -/
theorem add_ne_nan (hx : x ≠ nan) (hy : y ≠ nan) (h : x.isFinite = true ∨ y.isFinite = true) :
    x + y ≠ nan := by
  cases x with
  | nan => exact absurd rfl hx
  | infinite s =>
    rw [infinite_add (h.resolve_left (by simp [isFinite]))]
    exact hx
  | finite s u fits =>
    cases y with
    | nan => exact absurd rfl hy
    | infinite t =>
      rw [add_infinite rfl]
      exact hy
    | finite t v fits' =>
      rw [finite_add_finite]
      split <;> exact ofUnits_ne_nan _ _ _

/-- Adding what is not negative does not lead back. -/
theorem place_le_add (hy : 0 ≤ y.place) (h : x + y ≠ nan) : x.place ≤ (x + y).place := by
  have pos := unitLimit_pos
  cases x with
  | nan => exact absurd (nan_add y) h
  | infinite s =>
    cases y with
    | nan => exact absurd (add_nan _) h
    | infinite t =>
      rw [infinite_add_infinite] at h ⊢
      split at h
      case isTrue hst =>
        exact Int.le_of_eq (by rw [if_pos hst])
      case isFalse => exact absurd rfl h
    | finite t v fits =>
      exact Int.le_of_eq (by rw [infinite_add rfl])
  | finite s u fits =>
    cases y with
    | nan => exact absurd (add_nan _) h
    | infinite t =>
      rw [add_infinite rfl]
      cases t with
      | false => exact (place_bounds _).2
      | true => simp at hy; omega
    | finite t v fits' =>
      rw [place_add rfl rfl]
      calc (finite s u fits).place = nearestPlace (finite s u fits).place :=
            (nearestPlace_place rfl).symm
        _ ≤ nearestPlace ((finite s u fits).place + (finite t v fits').place) :=
            nearestPlace_mono (by omega)

theorem lt_zero_add (h : (0 : Binary64).lt x = true) : (0 : Binary64).lt (0 + x) = true := by
  obtain ⟨-, hx, hlt⟩ := lt_iff.mp h
  refine lt_iff.mpr ⟨zero_ne_nan, add_ne_nan zero_ne_nan hx (.inl isFinite_zero), ?_⟩
  cases x with
  | nan => exact absurd rfl hx
  | infinite s => rwa [add_infinite isFinite_zero]
  | finite s u fits =>
    rw [place_add isFinite_zero rfl, place_zero, Int.zero_add, nearestPlace_place rfl]
    rwa [place_zero] at hlt

/-- What has reached a bound does not fall below it by adding what is not negative. -/
theorem add_lt_eq_false (h : x.lt e = false) (hy : y.lt 0 = false) : (x + y).lt e = false := by
  by_cases hsum : x + y = nan
  · rw [hsum]
    rfl
  · have hplace : 0 ≤ y.place := by
      rcases lt_eq_false_iff.mp hy with rfl | h0 | h0
      · exact absurd (add_nan x) hsum
      · exact absurd h0 zero_ne_nan
      · rwa [place_zero] at h0
    have hle := place_le_add hplace hsum
    rw [lt_eq_false_iff] at h ⊢
    rcases h with rfl | h | h
    · exact absurd (nan_add y) hsum
    · exact .inr (.inl h)
    · exact .inr (.inr (Int.le_trans h hle))

end Bursary.Binary64
