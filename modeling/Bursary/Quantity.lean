import Bursary.Value.Display

/-! Quantities, their exact order and arithmetic, and how they are shown. -/

namespace Bursary

/-- A count, or a measured number. -/
inductive Quantity where
  | whole (i : Int)
  | real (x : Binary64)
  deriving DecidableEq

namespace Quantity

def toBinary64 : Quantity → Binary64
  | whole i => .ofInt i
  | real x => x

def toValue : Quantity → Value
  | whole i => .whole i
  | real x => .real x

/-- The number nearest to a quantity. -/
def measure : Quantity → Except Failure Binary64
  | whole i => let x := Binary64.ofInt i; if x.isFinite then .ok x else .error .integerTooLarge
  | real x => .ok x

def isZero : Quantity → Bool
  | whole i => i == 0
  | real x => x.isZero

/-! ### Order -/

def lt : Quantity → Quantity → Bool
  | whole i, whole j => i < j
  | whole i, real y => Binary64.intLt i y
  | real x, whole j => x.ltInt j
  | real x, real y => x.lt y

def equals : Quantity → Quantity → Bool
  | whole i, whole j => i == j
  | whole i, real y => y.equalsInt i
  | real x, whole j => x.equalsInt j
  | real x, real y => x.equals y

def le (p q : Quantity) : Bool := p.lt q || p.equals q

/-! ### Arithmetic -/

/-- The sum; only that of two integers is exact. -/
def plus : Quantity → Quantity → Except Failure Quantity
  | whole i, whole j => .ok (whole (i + j))
  | p, q => do return real ((← p.measure) + (← q.measure))

/-- The quotient, rounded once; two integers need not be binary64 numbers themselves. -/
def dividedBy : Quantity → Quantity → Except Failure Binary64
  | whole i, whole j =>
    let x := Binary64.ofFraction (decide (i < 0) != decide (j < 0)) i.natAbs j.natAbs
    if x.isFinite then .ok x else .error .quotientTooLarge
  | p, q => do return (← p.measure) / (← q.measure)

/-! ### Text -/

/-- The integer that a quantity is, if it is one. -/
def integer? : Quantity → Option Int
  | whole i => some i
  | real x => if x.isInteger then some x.truncate else none

def intText (digits : Nat → List Char) (i : Int) : String :=
  String.ofList (Decimal.sign (i < 0) ++ digits i.natAbs)

/-- A quantity in at most six significant digits, integers in full. -/
def plainText (q : Quantity) : String :=
  match q.integer? with
  | some i => intText Decimal.digits i
  | none => Decimal.generalText 6 q.toBinary64

/-- An amount of pesos with its thousands set off, and centavos unless it is whole. -/
def pesoText (q : Quantity) : String :=
  "₱" ++ match q.integer? with
    | some i => intText Decimal.grouped i
    | none => Decimal.groupedText 2 q.toBinary64

end Quantity

end Bursary
