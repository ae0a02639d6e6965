/-! Rounding a quotient of natural numbers to the nearest integer, a half going to
the even neighbour. `roundDiv_mono` says that a larger quotient never rounds to a
smaller integer. -/

namespace Bursary

/-- `num / den` to the nearest integer, a half going to the even neighbour. -/
def roundDiv (num den : Nat) : Nat :=
  let q := num / den
  let twice := 2 * (num % den)
  if twice < den ∨ (twice = den ∧ q % 2 = 0) then q else q + 1

/-- The decision that `roundDiv` takes on quotient, remainder and divisor. -/
theorem roundDiv_eq (num den : Nat) :
    roundDiv num den = num / den ∧ 2 * (num % den) ≤ den ∨
      roundDiv num den = num / den + 1 ∧ den ≤ 2 * (num % den) := by
  unfold roundDiv
  dsimp only
  split <;> omega

theorem le_roundDiv (num den : Nat) : num / den ≤ roundDiv num den := by
  rcases roundDiv_eq num den with h | h <;> omega

theorem roundDiv_le (num den : Nat) : roundDiv num den ≤ num / den + 1 := by
  rcases roundDiv_eq num den with h | h <;> omega

theorem div_le_div_of_cross {a b c d : Nat} (hb : 0 < b) (hd : 0 < d) (h : a * d ≤ c * b) :
    a / b ≤ c / d := by
  rw [Nat.le_div_iff_mul_le hd]
  have h1 : a / b * b ≤ a := Nat.div_mul_le_self a b
  refine Nat.le_of_mul_le_mul_right ?_ hb
  calc a / b * d * b = a / b * b * d := by rw [Nat.mul_right_comm]
    _ ≤ a * d := Nat.mul_le_mul_right d h1
    _ ≤ c * b := h

/-- Of two quotients with one integer part, the larger has the larger rest. -/
theorem rest_cross {a b c d : Nat} (hq : a / b = c / d) (h : a * d ≤ c * b) :
    a % b * d ≤ c % d * b := by
  have ha := Nat.div_add_mod a b
  have hc := Nat.div_add_mod c d
  rw [← ha, ← hc, Nat.add_mul, Nat.add_mul, ← hq, Nat.mul_right_comm b, Nat.mul_right_comm d,
    Nat.mul_comm d b] at h
  omega

theorem roundDiv_mono {a b c d : Nat} (hb : 0 < b) (hd : 0 < d) (h : a * d ≤ c * b) :
    roundDiv a b ≤ roundDiv c d := by
  have hq := div_le_div_of_cross hb hd h
  rcases Nat.lt_or_eq_of_le hq with hlt | heq
  · have := roundDiv_le a b
    have := le_roundDiv c d
    omega
  · have hr := rest_cross heq h
    have atHalf : b ≤ 2 * (a % b) → d ≤ 2 * (c % d) := fun h1 => by
      refine Nat.le_of_mul_le_mul_right (c := b) ?_ hb
      have := Nat.mul_le_mul_right d h1
      rw [Nat.mul_assoc] at this ⊢
      rw [Nat.mul_comm d b]
      omega
    have beyond : b < 2 * (a % b) → d < 2 * (c % d) := fun h1 => by
      refine Nat.lt_of_mul_lt_mul_right (a := b) ?_
      have := Nat.mul_lt_mul_of_pos_right h1 hd
      rw [Nat.mul_assoc] at this ⊢
      rw [Nat.mul_comm d b]
      omega
    simp only [roundDiv, heq]
    split <;> split <;> omega

theorem roundDiv_mul_right (n : Nat) {den : Nat} (h : 0 < den) : roundDiv (n * den) den = n := by
  simp [roundDiv, Nat.mul_div_cancel _ h, Nat.mul_mod_left, h]

end Bursary
