import Bursary.Binary64.Basic

/-! The logistic function on binary64 numbers. Exponential decay is computed in whole
multiples of `2 ^ -200`: a power series at a 1024th of the argument, squared ten times.
Every step of it is monotone in the argument, so a larger argument never decays less. -/

namespace Bursary.Binary64

/-- The precision of the series, as the number of steps per one. -/
def seriesScale : Nat := Nat.pow 2 200

/-- `n` nested terms of `1 + t/k (1 + t/(k+1) (1 + …))`, in steps. -/
def nestedTerms (t : Nat) : (k n : Nat) → Nat
  | _, 0 => seriesScale
  | k, n + 1 => seriesScale + t * nestedTerms t (k + 1) n / (k * seriesScale)

/-- Squares `n` times, in steps. -/
def squareTimes : (n s : Nat) → Nat
  | 0, s => s
  | n + 1, s => squareTimes n (s * s / seriesScale)

/-- Exponential growth at a count of units, in steps. -/
def growth (units : Nat) : Nat :=
  squareTimes 10 (nestedTerms (units * seriesScale / (1024 * unitsPerOne)) 1 40)

/-- The argument from which decay is below the smallest number. -/
def decayLimit : Nat := 800

/-- Exponential decay `e ^ -|x|`. -/
def decay : Binary64 → Binary64
  | nan => nan
  | infinite _ => 0
  | finite _ u _ =>
    ofFraction false seriesScale (growth (min u (decayLimit * unitsPerOne)))

/-- The logistic function, by the formula whose decay cannot overflow. -/
def logistic (z : Binary64) : Binary64 :=
  if le 0 z then 1 / (1 + decay z) else decay z / (1 + decay z)

end Bursary.Binary64
