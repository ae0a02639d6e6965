import Mathlib.Algebra.Order.Field.Basic
import Mathlib.Algebra.Order.Field.Rat
import Mathlib.Tactic.FieldSimp
import Mathlib.Tactic.Linarith
import Bursary.Proofs.Binary64.Error

/-! What rounding to an integer comes to. It gives the nearest integer, and of two that are equally
near the even one, which leaves one integer for every number. A quotient that has been rounded to a
binary64 number before gives the same integer, unless the divisor is very large. -/

namespace Bursary

/-- The integer nearest to a number, the even one of two. -/
structure IsRounding (q : Rat) (n : Int) : Prop where
  nearest : |q - n| ≤ 1 / 2
  even_of_tie : |q - n| = 1 / 2 → n % 2 = 0

theorem IsRounding.unique {q : Rat} {m n : Int} (h : IsRounding q m) (h' : IsRounding q n) :
    m = n := by
  obtain ⟨hlow, hhigh⟩ := abs_le.mp h.nearest
  obtain ⟨hlow', hhigh'⟩ := abs_le.mp h'.nearest
  have hnear : m ≤ n + 1 ∧ n ≤ m + 1 := by
    constructor <;> refine (Int.cast_le (R := Rat)).mp ?_ <;> push_cast <;> linarith
  -- neighbours are both half away, and cannot both be even
  have htie {a b : Int} (ha : IsRounding q a) (hb : IsRounding q b) (hab : b = a + 1) : False := by
    have hsum : (b : Rat) = a + 1 := by exact_mod_cast hab
    have hupper := (abs_le.mp ha.nearest).2
    have hlower := (abs_le.mp hb.nearest).1
    have heven := ha.even_of_tie (by rw [abs_of_nonneg] <;> linarith)
    have heven' := hb.even_of_tie (by rw [abs_of_nonpos] <;> linarith)
    omega
  by_contra hne
  rcases Int.lt_or_gt_of_ne hne with hlt | hgt
  · exact htie h h' (by omega)
  · exact htie h' h (by omega)

section Fraction

variable (i : Int) {den : Nat} (hd : 0 < den) (n : Int)

include hd

theorem abs_div_sub : |(i / den : Rat) - n| = ((i - n * den).natAbs : Rat) / den := by
  have hden : (0 : Rat) < den := Nat.cast_pos.mpr hd
  rw [show (i / den : Rat) - n = (i - n * den) / den by field_simp, abs_div, abs_of_pos hden,
    Nat.cast_natAbs]
  push_cast
  rfl

theorem abs_div_sub_le_half_iff :
    |(i / den : Rat) - n| ≤ 1 / 2 ↔ 2 * (i - n * den).natAbs ≤ den := by
  rw [abs_div_sub i hd, div_le_div_iff₀ (Nat.cast_pos.mpr hd) two_pos, one_mul, mul_comm]
  exact_mod_cast Iff.rfl

theorem abs_div_sub_eq_half_iff :
    |(i / den : Rat) - n| = 1 / 2 ↔ 2 * (i - n * den).natAbs = den := by
  rw [abs_div_sub i hd, div_eq_div_iff (Nat.cast_pos.mpr hd).ne' two_ne_zero, one_mul, mul_comm]
  exact_mod_cast Iff.rfl

/-- A fraction is rounded by what its numerator lies off a multiple of the denominator. -/
theorem isRounding_div_iff : IsRounding (i / den) n ↔
    2 * (i - n * den).natAbs ≤ den ∧ (2 * (i - n * den).natAbs = den → n % 2 = 0) := by
  rw [← abs_div_sub_le_half_iff i hd, ← abs_div_sub_eq_half_iff i hd]
  exact ⟨fun h => ⟨h.1, h.2⟩, fun h => ⟨h.1, h.2⟩⟩

end Fraction

theorem even_roundDiv_of_tie {num den : Nat} (h : 2 * (num % den) = den) :
    roundDiv num den % 2 = 0 := by
  unfold roundDiv
  dsimp only
  split <;> omega

theorem isRounding_roundDiv (num : Nat) {den : Nat} (hd : 0 < den) :
    IsRounding ((num : Int) / den) (roundDiv num den) := by
  rw [isRounding_div_iff num hd]
  have hsplit := Nat.div_add_mod' num den
  have herror := roundDiv_error num hd
  have hcast : ((roundDiv num den * den : Nat) : Int) = roundDiv num den * den := Nat.cast_mul _ _
  rw [← hcast]
  refine ⟨by omega, fun htie => ?_⟩
  suffices h : 2 * (num % den) = den by
    have := even_roundDiv_of_tie h
    omega
  rcases roundDiv_eq num den with ⟨hq, hr⟩ | ⟨hq, hr⟩
  · rw [hq] at htie
    omega
  · rw [hq, Nat.add_mul, Nat.one_mul] at htie
    have := Nat.mod_lt num hd
    omega

namespace Binary64

attribute [local irreducible] unitLimit unitsPerOne

theorem toRat_finite (s : Bool) {u : Nat} (fits : Representable u) :
    (finite s u fits).toRat = ((if s then -(u : Int) else u : Int) : Rat) / unitsPerOne :=
  Rat.mkRat_eq_div _ _

/-- A finite number is rounded to the nearest integer, and to no other. -/
theorem roundToInt_eq_iff {x : Binary64} (hx : x.isFinite = true) (n : Int) :
    x.roundToInt = n ↔ IsRounding x.toRat n := by
  suffices h : IsRounding x.toRat x.roundToInt from ⟨fun hn => hn ▸ h, h.unique⟩
  obtain ⟨s, u, fits, rfl⟩ := isFinite_iff.mp hx
  have hround := isRounding_roundDiv u unitsPerOne_pos
  rw [toRat_finite]
  cases s with
  | false => exact hround
  | true =>
    have hmirror : (finite true u fits).roundToInt = -(roundDiv u unitsPerOne : Int) := rfl
    rw [isRounding_div_iff u unitsPerOne_pos] at hround
    rw [if_pos rfl, hmirror, isRounding_div_iff _ unitsPerOne_pos, Int.neg_mul]
    refine ⟨by omega, fun htie => ?_⟩
    have := hround.2 (by omega)
    omega

/-! ### Quotients that are rounded twice -/

/-- A quotient that is within a half of an integer stays so when it is rounded. If it is nearer than
a half, by what the divisor leaves, then it stays nearer by a step of `2 ^ -46`. -/
theorem near_of_quotient_near (num : Nat) {den n w δ : Nat} (hden : 0 < den) (hfew : den ≤ 2 ^ 45)
    (hone : unitsPerOne = 2 ^ 46 * w)
    (hfits : ∀ {k : Nat}, k ≤ Nat.pow 2 53 → Representable (k * w)) (hn : n ≤ 100) (hδ : δ ≤ 1)
    (h : 2 * ((num : Int) - (n * den : Nat)).natAbs + δ ≤ den) :
    2 * ((roundUnits (num * unitsPerOne) den : Int) - (n * unitsPerOne : Nat)).natAbs +
      2 * (δ * w) ≤ unitsPerOne := by
  have hlimit : Nat.pow 2 53 = 2 ^ 53 := rfl
  have hδden : δ * den ≤ 2 ^ 45 * δ := by
    rw [Nat.mul_comm δ]
    exact Nat.mul_le_mul_right δ hfew
  have hunits : n * unitsPerOne = 2 ^ 46 * (n * w) := by rw [hone, Nat.mul_left_comm]
  obtain ⟨m, hm⟩ : ∃ m, m + δ = 2 ^ 46 * n + 2 ^ 45 := ⟨_, Nat.sub_add_cancel (by omega)⟩
  have hscaled (x : Nat) : m * x + δ * x = 2 ^ 46 * (n * x) + 2 ^ 45 * x := by
    rw [← Nat.add_mul, hm, Nat.add_mul, Nat.mul_assoc]
  have hupper := roundUnits_le_mul num (m := m) hden hone (hfits (by omega)) (by
    have := hscaled den
    omega)
  have hlower : 2 ^ 46 * (n * w) + δ * w ≤ roundUnits (num * unitsPerOne) den + 2 ^ 45 * w := by
    rcases Nat.eq_zero_or_pos n with rfl | hn0
    · have := Nat.mul_le_mul_right w hδ
      omega
    obtain ⟨k, hk⟩ : ∃ k, k + 2 ^ 45 = 2 ^ 46 * n + δ := ⟨_, Nat.sub_add_cancel (by omega)⟩
    have hscaled (x : Nat) : k * x + 2 ^ 45 * x = 2 ^ 46 * (n * x) + δ * x := by
      rw [← Nat.add_mul, hk, Nat.add_mul, Nat.mul_assoc]
    have hreached := mul_le_roundUnits num (m := k) hden hone (hfits (by omega)) (by
      have := hscaled den
      omega)
    have := hscaled w
    omega
  have := hscaled w
  rw [hunits, hone] at *
  omega

/-- A quotient of at most a hundred by a divisor of at most 45 bits is rounded to the same integer
when it has been rounded to a binary64 number first. -/
theorem roundToInt_ofFraction {num den : Nat} (hden : 0 < den) (hfew : den ≤ 2 ^ 45)
    (hle : num ≤ 100 * den) : (ofFraction false num den).roundToInt = roundDiv num den := by
  obtain ⟨w, hone, hfits⟩ := exists_step (s := 2 ^ 46) (d := 46) rfl (by decide)
  have hw : 0 < w := by
    have := unitsPerOne_pos
    rw [hone] at this
    exact Nat.pos_of_mul_pos_left this
  have hn : roundDiv num den ≤ 100 := by
    have := roundDiv_mono hden hden (Nat.mul_le_mul_right den hle)
    rwa [roundDiv_mul_right 100 hden] at this
  have hround := (isRounding_div_iff num hden _).mp (isRounding_roundDiv num hden)
  have hnear {δ : Nat} := near_of_quotient_near num (δ := δ) hden hfew hone hfits hn
  have hlt : roundUnits (num * unitsPerOne) den < unitLimit := by
    have hbound := roundUnits_le_mul num (m := 100 * 2 ^ 46) hden hone
      (hfits (by decide)) (by rw [Nat.mul_right_comm]; exact Nat.mul_le_mul_right _ hle)
    rw [Nat.mul_assoc, ← hone] at hbound
    exact Nat.lt_of_le_of_lt hbound (mul_unitsPerOne_lt (by decide))
  rw [ofFraction, ofUnits_of_lt false hlt, roundToInt_eq_iff rfl, toRat_finite,
    if_neg Bool.false_ne_true, isRounding_div_iff _ unitsPerOne_pos, ← Int.natCast_mul]
  rw [← Int.natCast_mul] at hround
  generalize roundUnits (num * unitsPerOne) den = r at hnear ⊢
  have hhalf := hnear (δ := 0) (by omega) hround.1
  refine ⟨by omega, fun htie => hround.2 ?_⟩
  by_contra hne
  have := hnear (δ := 1) (Nat.le_refl 1) (by omega)
  omega

end Binary64

end Bursary
