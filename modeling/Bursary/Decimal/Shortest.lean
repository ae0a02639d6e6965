import Bursary.Decimal.Layout

/-! The shortest decimal that reads back as a given number. For one, two, … digits in turn
the two neighbours of the number on that decimal grid are tried; the first grid with a
hit wins, and of two hits the nearer, or the even one. -/

namespace Bursary.Decimal

/-- A decimal count of units of `10 ^ position` reads back as `units`. -/
def readsBack (units : Nat) (n : Nat) (position : Int) : Bool :=
  let (num, den) :=
    if position < 0 then (n, Nat.pow 10 position.natAbs) else (n * Nat.pow 10 position.natAbs, 1)
  Binary64.roundUnits (num * Binary64.unitsPerOne) den == units

/-- The decimal of `count` digits that reads back and is nearest to `units`, if one does. -/
def candidate? (units count : Nat) : Option (Nat × Int) :=
  let position := leading units Binary64.unitsPerOne - (count - 1 : Nat)
  let (num, den) := inUnits units Binary64.unitsPerOne position
  let below := num / den
  let hits := [roundDiv num den, below, below + 1].filter (readsBack units · position)
  hits.head?.map (·, position)

/-- The shortest decimal that reads back as a positive count of units: seventeen digits
are always enough. -/
def shortest (units : Nat) : Nat × Int :=
  ((List.range 17).findSome? fun i => candidate? units (i + 1)).getD
    (significant 17 units Binary64.unitsPerOne)

/-- Positional notation from `1e-4` up to, but not including, `1e16`, always with a point;
scientific notation outside. -/
def shortestDigits (units : Nat) : List Char :=
  if units = 0 then ['0', '.', '0'] else
    let (n, position) := shortest units
    let e := position + ((digits n).length - 1 : Nat)
    let kept := ((digits n).reverse.dropWhile (· == '0')).reverse
    if e < -4 ∨ 16 ≤ e then scientific kept e
    else if position < 0 then
      let text := dropZeros (pointed digits position.natAbs n)
      if text.contains '.' then text else text ++ ['.', '0']
    else digits (n * Nat.pow 10 position.natAbs) ++ ['.', '0']

/-- A number in the fewest digits that read back. -/
def shortestText : Binary64 → String := textWith shortestDigits

end Bursary.Decimal
