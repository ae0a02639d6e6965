import Bursary.Binary64.Basic

/-! Arithmetic in which scores are computed: on binary64 numbers, where every operation
rounds, or on rational numbers, where none does. -/

namespace Bursary

class Arithmetic (α : Type) extends Add α, Sub α, Mul α, Div α where
  /-- A constant. -/
  const : Rat → α
  /-- A measured number. -/
  measured : Binary64 → α
  abs : α → α
  lt : α → α → Bool
  le : α → α → Bool

instance : Arithmetic Binary64 where
  const := Binary64.ofRat
  measured := id
  abs := Binary64.abs
  lt := Binary64.lt
  le := Binary64.le

instance : Arithmetic Rat where
  const := id
  measured := Binary64.toRat
  abs q := if q < 0 then -q else q
  lt p q := p < q
  le p q := p ≤ q

namespace Arithmetic

variable {α : Type} [Arithmetic α]

/-- The sum of a list, from left to right and rounded at each step. That is what the built-in sum
does up to version 3.11 of the runtime; from 3.12 on it compensates for the roundings, and sums of
binary64 numbers may differ in their last places. -/
def sum (xs : List α) : α := xs.foldl (· + ·) (const 0)

/-- The nearest number of the unit interval. -/
def clamp (x : α) : α :=
  let capped := if lt x (const 1) then x else const 1
  if lt (const 0) capped then capped else const 0

end Arithmetic

end Bursary
