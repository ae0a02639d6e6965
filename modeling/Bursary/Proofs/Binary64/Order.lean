import Bursary.Binary64.Basic

/-! The order of binary64 numbers, told by places on a line of integers. A finite number stands
at its signed count of units and an infinity beyond all of them, so that every number but a NaN
has a place, and only the two zeros share one. -/

namespace Bursary.Binary64

theorem exists_unitsPerOne_eq : ∃ e, unitsPerOne = Nat.pow 2 (54 + e) := ⟨1020, by decide +kernel⟩

theorem unitsPerOne_pos : 0 < unitsPerOne := by
  obtain ⟨e, he⟩ := exists_unitsPerOne_eq
  rw [he]
  exact Nat.two_pow_pos _

/-- All whole numbers of up to 53 bits are far below the limit. -/
theorem mul_unitsPerOne_lt {n : Nat} (hn : n ≤ Nat.pow 2 53) : n * unitsPerOne < unitLimit := by
  have hlimit : Nat.pow 2 53 * unitsPerOne < unitLimit := by decide +kernel
  exact Nat.lt_of_le_of_lt (Nat.mul_le_mul_right _ hn) hlimit

theorem unitsPerOne_lt_unitLimit : unitsPerOne < unitLimit := by
  have := mul_unitsPerOne_lt (n := 1) (by decide)
  rwa [Nat.one_mul] at this

theorem unitLimit_pos : 0 < unitLimit := Nat.zero_lt_of_lt unitsPerOne_lt_unitLimit

-- the powers of two behind these are never to be computed
attribute [local irreducible] unitLimit unitsPerOne

/-- Where a number stands; a NaN stands nowhere, which counts as zero here. -/
def place : Binary64 → Int
  | nan => 0
  | infinite s => if s then -(unitLimit : Int) else unitLimit
  | x@(finite ..) => x.signedUnits

@[simp] theorem place_nan : nan.place = 0 := rfl

@[simp] theorem place_infinite (s : Bool) :
    (infinite s).place = if s then -(unitLimit : Int) else unitLimit := rfl

@[simp] theorem place_finite (s : Bool) (u : Nat) (h : Representable u) :
    (finite s u h).place = if s then -(u : Int) else u := rfl

theorem isFinite_iff {x : Binary64} : x.isFinite = true ↔ ∃ s u h, x = finite s u h := by
  cases x with
  | nan => simp [isFinite]
  | infinite s => simp [isFinite]
  | finite s u h => exact ⟨fun _ => ⟨s, u, h, rfl⟩, fun _ => rfl⟩

theorem ne_nan_of_isFinite {x : Binary64} (h : x.isFinite = true) : x ≠ nan := by
  rintro rfl
  cases h

theorem place_bounds (x : Binary64) : -(unitLimit : Int) ≤ x.place ∧ x.place ≤ unitLimit := by
  cases x with
  | nan => simp
  | infinite s => cases s <;> simp
  | finite s u h =>
    have := h.1
    cases s <;> simp <;> omega

/-! ### Comparisons are comparisons of places -/

theorem lt_equals_of_ne_nan {x y : Binary64} (hx : x ≠ nan) (hy : y ≠ nan) :
    (x.lt y = true ↔ x.place < y.place) ∧ (x.equals y = true ↔ x.place = y.place) := by
  have pos := unitLimit_pos
  match x, y with
  | nan, _ => exact absurd rfl hx
  | infinite _, nan => exact absurd rfl hy
  | finite .., nan => exact absurd rfl hy
  | infinite s, infinite t => cases s <;> cases t <;> simp [lt, equals] <;> omega
  | infinite s, finite t v h =>
    have := h.1
    cases s <;> cases t <;> simp [lt, equals] <;> omega
  | finite s u h, infinite t =>
    have := h.1
    cases s <;> cases t <;> simp [lt, equals] <;> omega
  | finite s u h, finite t v h' =>
    cases s <;> cases t <;> simp [lt, equals, signedUnits]

theorem lt_nan (x : Binary64) : x.lt nan = false := by cases x <;> rfl

theorem equals_nan (x : Binary64) : x.equals nan = false := by cases x <;> rfl

theorem lt_iff {x y : Binary64} : x.lt y = true ↔ x ≠ nan ∧ y ≠ nan ∧ x.place < y.place := by
  constructor
  · intro h
    have hx : x ≠ nan := by
      rintro rfl
      cases h
    have hy : y ≠ nan := by
      rintro rfl
      rw [lt_nan] at h
      cases h
    exact ⟨hx, hy, (lt_equals_of_ne_nan hx hy).1.mp h⟩
  · rintro ⟨hx, hy, h⟩
    exact (lt_equals_of_ne_nan hx hy).1.mpr h

theorem equals_iff {x y : Binary64} :
    x.equals y = true ↔ x ≠ nan ∧ y ≠ nan ∧ x.place = y.place := by
  constructor
  · intro h
    have hx : x ≠ nan := by
      rintro rfl
      cases h
    have hy : y ≠ nan := by
      rintro rfl
      rw [equals_nan] at h
      cases h
    exact ⟨hx, hy, (lt_equals_of_ne_nan hx hy).2.mp h⟩
  · rintro ⟨hx, hy, h⟩
    exact (lt_equals_of_ne_nan hx hy).2.mpr h

theorem le_iff {x y : Binary64} : x.le y = true ↔ x ≠ nan ∧ y ≠ nan ∧ x.place ≤ y.place := by
  rw [le, Bool.or_eq_true, lt_iff, equals_iff]
  constructor
  · rintro (⟨hx, hy, h⟩ | ⟨hx, hy, h⟩)
    · exact ⟨hx, hy, by omega⟩
    · exact ⟨hx, hy, by omega⟩
  · rintro ⟨hx, hy, h⟩
    rcases Int.lt_or_eq_of_le h with h | h
    · exact .inl ⟨hx, hy, h⟩
    · exact .inr ⟨hx, hy, h⟩

/-- Of two numbers one is below the other or not; a NaN is never below. -/
theorem lt_eq_false_iff {x y : Binary64} :
    x.lt y = false ↔ x = nan ∨ y = nan ∨ y.place ≤ x.place := by
  rw [← Bool.not_eq_true, lt_iff]
  by_cases hx : x = nan <;> by_cases hy : y = nan <;> simp [hx, hy]

/-- A choice by the order is a choice by places. -/
theorem place_ite_lt {x y : Binary64} (hx : x ≠ nan) (hy : y ≠ nan) (a b : Binary64) :
    (if x.lt y then a else b).place = if x.place < y.place then a.place else b.place := by
  by_cases h : x.place < y.place
  · rw [if_pos h, if_pos (lt_iff.mpr ⟨hx, hy, h⟩)]
  · rw [if_neg h, if_neg fun hlt => h (lt_iff.mp hlt).2.2]

theorem le_trans {x y z : Binary64} (h : x.le y = true) (h' : y.le z = true) :
    x.le z = true := by
  rw [le_iff] at h h' ⊢
  exact ⟨h.1, h'.2.1, Int.le_trans h.2.2 h'.2.2⟩

theorem le_of_lt {x y : Binary64} (h : x.lt y = true) : x.le y = true := by
  rw [le, h, Bool.true_or]

theorem lt_eq_false_of_le {x y : Binary64} (h : x.le y = true) : y.lt x = false :=
  lt_eq_false_iff.mpr (.inr (.inr (le_iff.mp h).2.2))

theorem le_eq_false_of_lt {x y : Binary64} (h : x.lt y = true) : y.le x = false := by
  rw [← Bool.not_eq_true]
  intro hle
  rw [lt_eq_false_of_le hle] at h
  cases h

/-- Finite numbers are below each other or not. -/
theorem le_of_lt_eq_false {x y : Binary64} (hx : x.isFinite = true) (hy : y.isFinite = true)
    (h : x.lt y = false) : y.le x = true := by
  rcases lt_eq_false_iff.mp h with rfl | rfl | hle
  · cases hx
  · cases hy
  · exact le_iff.mpr ⟨ne_nan_of_isFinite hy, ne_nan_of_isFinite hx, hle⟩

theorem lt_of_lt_of_le {x y z : Binary64} (h : x.lt y = true) (h' : y.le z = true) :
    x.lt z = true := by
  rw [lt_iff] at h ⊢
  rw [le_iff] at h'
  exact ⟨h.1, h'.2.1, Int.lt_of_lt_of_le h.2.2 h'.2.2⟩

theorem lt_trans {x y z : Binary64} (h : x.lt y = true) (h' : y.lt z = true) :
    x.lt z = true := by
  rw [lt_iff] at h h' ⊢
  exact ⟨h.1, h'.2.1, Int.lt_trans h.2.2 h'.2.2⟩

theorem place_of_isZero {x : Binary64} (h : x.isZero = true) : x.place = 0 := by
  cases x with
  | nan => cases h
  | infinite s => cases h
  | finite s u fits =>
    obtain rfl : u = 0 := eq_of_beq h
    cases s <;> rfl

theorem isZero_of_place {x : Binary64} (hx : x.isFinite = true) (h : x.place = 0) :
    x.isZero = true := by
  obtain ⟨s, u, fits, rfl⟩ := isFinite_iff.mp hx
  have hu : u = 0 := by
    cases s <;> simp at h <;> omega
  exact beq_iff_eq.mpr hu

/-- Only zeros and what is no number stand at zero. -/
theorem place_ne_zero {x : Binary64} (hx : x ≠ nan) (h : x.isZero = false) : x.place ≠ 0 := by
  have pos := unitLimit_pos
  intro hplace
  cases x with
  | nan => exact hx rfl
  | infinite s => cases s <;> simp at hplace <;> omega
  | finite s u fits =>
    rw [isZero_of_place rfl hplace] at h
    cases h

end Bursary.Binary64
