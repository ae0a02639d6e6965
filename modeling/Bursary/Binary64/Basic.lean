import Bursary.Rounding

/-! Binary64 numbers and their arithmetic. A finite number is a sign and a count of
units of `2 ^ -1074`, the spacing of the smallest numbers; every operation computes
the exact result and rounds it once to the nearest number, a tie going to the even
one. -/

namespace Bursary

namespace Binary64

/-- One, in units of `2 ^ -1074`. -/
def unitsPerOne : Nat := Nat.pow 2 1074

/-- The first count of units too large for a finite number. -/
def unitLimit : Nat := Nat.pow 2 2098

/-- Counts of units that have at most 53 significant bits and are below the limit. -/
def Representable (units : Nat) : Prop :=
  units < unitLimit ∧ Nat.pow 2 (units.log2 - 52) ∣ units

instance (units : Nat) : Decidable (Representable units) :=
  inferInstanceAs (Decidable (_ ∧ _))

end Binary64

/-- A binary64 number. -/
inductive Binary64 where
  | nan
  | infinite (negative : Bool)
  | finite (negative : Bool) (units : Nat) (fits : Binary64.Representable units)
  deriving DecidableEq

namespace Binary64

/-! ### Rounding -/

/-- The count of units with at most 53 significant bits that is nearest to `num / den`. -/
def roundUnits (num den : Nat) : Nat :=
  let step := Nat.pow 2 ((num / den).log2 - 52)
  roundDiv num (den * step) * step

/-- In the step that is chosen, the rounded quotient has at most 53 bits, or is the first number
with more. -/
theorem roundDiv_step_le (num den : Nat) :
    roundDiv num (den * Nat.pow 2 ((num / den).log2 - 52)) ≤ Nat.pow 2 53 := by
  simp only [Nat.pow_eq]
  generalize he : (num / den).log2 - 52 = e
  have h1 := roundDiv_le num (den * 2 ^ e)
  rw [← Nat.div_div_eq_div_mul] at h1
  have h2 : num / den / 2 ^ e < 2 ^ 53 := by
    rw [Nat.div_lt_iff_lt_mul (Nat.two_pow_pos e), ← Nat.pow_add]
    have h3 : num / den < 2 ^ ((num / den).log2 + 1) := Nat.lt_log2_self
    exact Nat.lt_of_lt_of_le h3 (Nat.pow_le_pow_right (by decide) (by omega))
  omega

/-- Up to `2 ^ 53` steps make a number of at most 53 significant bits. -/
theorem dvd_mul_two_pow {k : Nat} (hk : k ≤ Nat.pow 2 53) (e : Nat) :
    Nat.pow 2 ((k * Nat.pow 2 e).log2 - 52) ∣ k * Nat.pow 2 e := by
  simp only [Nat.pow_eq] at hk ⊢
  rcases Nat.lt_or_eq_of_le hk with h | h
  · refine Nat.dvd_trans (Nat.pow_dvd_pow 2 ?_) (Nat.dvd_mul_left _ _)
    by_cases h0 : k * 2 ^ e = 0
    · simp [h0]
    · have h4 : k * 2 ^ e < 2 ^ (53 + e) := by
        rw [Nat.pow_add]
        exact Nat.mul_lt_mul_of_pos_right h (Nat.two_pow_pos e)
      have := (Nat.log2_lt h0).2 h4
      omega
  · rw [h, ← Nat.pow_add, Nat.log2_two_pow]
    exact Nat.pow_dvd_pow 2 (by omega)

theorem roundUnits_dvd (num den : Nat) :
    Nat.pow 2 ((roundUnits num den).log2 - 52) ∣ roundUnits num den :=
  dvd_mul_two_pow (roundDiv_step_le num den) _

/-- The number nearest to `num / den` units, infinite from the overflow bound on. -/
def ofUnits (negative : Bool) (num den : Nat) : Binary64 :=
  if h : roundUnits num den < unitLimit then
    finite negative (roundUnits num den) ⟨h, roundUnits_dvd num den⟩
  else infinite negative

/-- The number nearest to `num / den`. -/
def ofFraction (negative : Bool) (num den : Nat) : Binary64 :=
  ofUnits negative (num * unitsPerOne) den

def ofNat (n : Nat) : Binary64 := ofFraction false n 1

def ofInt (i : Int) : Binary64 := ofFraction (i < 0) i.natAbs 1

def ofRat (q : Rat) : Binary64 := ofFraction (q.num < 0) q.num.natAbs q.den

instance (n : Nat) : OfNat Binary64 n := ⟨ofNat n⟩

instance : OfScientific Binary64 := ⟨fun m s e => ofRat (OfScientific.ofScientific m s e)⟩

instance : Inhabited Binary64 := ⟨0⟩

/-! ### Views -/

def isFinite : Binary64 → Bool
  | finite .. => true
  | _ => false

def isNegative : Binary64 → Bool
  | nan => false
  | infinite s => s
  | finite s _ _ => s

/-- The signed count of units of a finite number. -/
def signedUnits : Binary64 → Int
  | finite s u _ => if s then -(u : Int) else u
  | _ => 0

/-- The exact value of a finite number. -/
def toRat (x : Binary64) : Rat := mkRat x.signedUnits unitsPerOne

/-- Zero of either sign. -/
def isZero : Binary64 → Bool
  | finite _ u _ => u == 0
  | _ => false

def isInteger : Binary64 → Bool
  | finite _ u _ => u % unitsPerOne == 0
  | _ => false

/-- The integer part of a finite number, its fraction cut off. -/
def truncate (x : Binary64) : Int := x.signedUnits.tdiv unitsPerOne

/-- The nearest integer to a finite number, a half going to the even neighbour. -/
def roundToInt : Binary64 → Int
  | finite s u _ => let n := roundDiv u unitsPerOne; if s then -(n : Int) else n
  | _ => 0

/-! ### Order -/

/-- The numerical order; nothing is below or above a NaN. -/
def lt : Binary64 → Binary64 → Bool
  | nan, _ => false
  | _, nan => false
  | infinite s, infinite t => s && !t
  | infinite s, finite .. => s
  | finite .., infinite t => !t
  | x@(finite ..), y@(finite ..) => x.signedUnits < y.signedUnits

/-- Numerical equality: the zeros are equal and a NaN equals nothing. -/
def equals : Binary64 → Binary64 → Bool
  | nan, _ => false
  | _, nan => false
  | infinite s, infinite t => s == t
  | infinite _, finite .. => false
  | finite .., infinite _ => false
  | x@(finite ..), y@(finite ..) => x.signedUnits == y.signedUnits

def le (x y : Binary64) : Bool := x.lt y || x.equals y

/-- Whether a number is below an integer, which need not be a binary64 number itself. -/
def ltInt : Binary64 → Int → Bool
  | nan, _ => false
  | infinite s, _ => s
  | x@(finite ..), i => x.signedUnits < i * unitsPerOne

/-- Whether an integer is below a number. -/
def intLt (i : Int) : Binary64 → Bool
  | nan => false
  | infinite s => !s
  | x@(finite ..) => i * unitsPerOne < x.signedUnits

def equalsInt (x : Binary64) (i : Int) : Bool := x.isInteger && x.truncate == i

/-! ### Arithmetic -/

def neg : Binary64 → Binary64
  | nan => nan
  | infinite s => infinite !s
  | finite s u h => finite (!s) u h

def abs : Binary64 → Binary64
  | nan => nan
  | infinite _ => infinite false
  | finite _ u h => finite false u h

def add : Binary64 → Binary64 → Binary64
  | nan, _ => nan
  | _, nan => nan
  | infinite s, infinite t => if s == t then infinite s else nan
  | infinite s, finite .. => infinite s
  | finite .., infinite t => infinite t
  | x@(finite s _ _), y@(finite t _ _) =>
    let sum := x.signedUnits + y.signedUnits
    if sum = 0 then ofUnits (s && t) 0 1 else ofUnits (sum < 0) sum.natAbs 1

def sub (x y : Binary64) : Binary64 := x.add y.neg

def mul : Binary64 → Binary64 → Binary64
  | nan, _ => nan
  | _, nan => nan
  | infinite s, infinite t => infinite (s != t)
  | infinite s, finite t u _ => if u = 0 then nan else infinite (s != t)
  | finite s u _, infinite t => if u = 0 then nan else infinite (s != t)
  | finite s u _, finite t v _ => ofUnits (s != t) (u * v) unitsPerOne

def div : Binary64 → Binary64 → Binary64
  | nan, _ => nan
  | _, nan => nan
  | infinite _, infinite _ => nan
  | infinite s, finite t _ _ => infinite (s != t)
  | finite s _ _, infinite t => ofUnits (s != t) 0 1
  | finite s u _, finite t v _ =>
    if v = 0 then (if u = 0 then nan else infinite (s != t))
    else ofUnits (s != t) (u * unitsPerOne) v

instance : Add Binary64 := ⟨add⟩
instance : Sub Binary64 := ⟨sub⟩
instance : Mul Binary64 := ⟨mul⟩
instance : Div Binary64 := ⟨div⟩
instance : Neg Binary64 := ⟨neg⟩

end Binary64

end Bursary
