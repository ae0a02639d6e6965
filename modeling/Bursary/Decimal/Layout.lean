import Bursary.Binary64.Basic

/-! Decimal digits and the layouts of numbers in text: a fixed number of places, and a
number of significant digits. Both round the exact value once, a tie going to the even
digit. -/

namespace Bursary.Decimal

/-- The digits of a number, most significant first. -/
def digits (n : Nat) : List Char := Nat.toDigits 10 n

/-- A number in full. -/
def natText (n : Nat) : String := String.ofList (digits n)

/-- Digits from least to most significant with a comma after every third. -/
def groupReversed : List Char → List Char
  | a :: b :: c :: d :: rest => a :: b :: c :: ',' :: groupReversed (d :: rest)
  | few => few

/-- A number with its thousands set off by commas. -/
def grouped (n : Nat) : List Char := (groupReversed (digits n).reverse).reverse

/-- Digits filled up with zeros on the left. -/
def padded (width n : Nat) : List Char :=
  List.replicate (width - (digits n).length) '0' ++ digits n

/-- Drops the zeros at the end, and the point if nothing follows it. -/
def dropZeros (cs : List Char) : List Char :=
  match cs.reverse.dropWhile (· == '0') with
  | '.' :: whole => whole.reverse
  | kept => kept.reverse

def sign (negative : Bool) : List Char := if negative then ['-'] else []

/-- The integer part and, after a point, `places` further digits of `n / 10 ^ places`. -/
def pointed (whole : Nat → List Char) (places n : Nat) : List Char :=
  whole (n / Nat.pow 10 places) ++
    if places = 0 then [] else '.' :: padded places (n % Nat.pow 10 places)

/-- The position `e` of the leading digit of a positive quotient:
`10 ^ e ≤ num / den < 10 ^ (e + 1)`. -/
def leading (num den : Nat) : Int :=
  if den ≤ num then (digits (num / den)).length - 1
  else -((digits ((den - 1) / num)).length : Int)

/-- `num / den` in units of `10 ^ position`, as a quotient. -/
def inUnits (num den : Nat) (position : Int) : Nat × Nat :=
  if position < 0 then (num * Nat.pow 10 position.natAbs, den)
  else (num, den * Nat.pow 10 position.natAbs)

/-- `num / den` to a number of significant digits, with the position of the last digit. -/
def significant (count num den : Nat) : Nat × Int :=
  let position := leading num den - (count - 1 : Nat)
  let (n, d) := inUnits num den position
  let rounded := roundDiv n d
  if rounded = Nat.pow 10 count then (rounded / 10, position + 1) else (rounded, position)

/-- An exponent mark with a sign and at least two digits. -/
def exponentMark (e : Int) : List Char :=
  'e' :: (if e < 0 then '-' else '+') :: padded 2 e.natAbs

/-- A digit, a point, the other digits. -/
def scientific (ds : List Char) (e : Int) : List Char :=
  (match ds with
    | [] => []
    | [d] => [d]
    | d :: rest => d :: '.' :: rest) ++ exponentMark e

/-- A positive quotient in `count` significant digits at most, without trailing zeros;
in scientific notation when its exponent is below -4 or not below `count`. -/
def general (count num den : Nat) : List Char :=
  let (n, position) := significant count num den
  let e := position + (count - 1 : Nat)
  if e < -4 ∨ (count : Int) ≤ e then
    scientific ((digits n).reverse.dropWhile (· == '0')).reverse e
  else if position < 0 then dropZeros (pointed digits position.natAbs n)
  else digits (n * Nat.pow 10 position.natAbs)

/-- Text of a number with the layout of its size given by `f`. -/
def textWith (f : Nat → List Char) : Binary64 → String
  | .nan => "nan"
  | .infinite s => String.ofList (sign s ++ ['i', 'n', 'f'])
  | .finite s u _ => String.ofList (sign s ++ f u)

/-- A number with a fixed number of places. -/
def fixedText (places : Nat) : Binary64 → String :=
  textWith fun u => pointed digits places (roundDiv (u * Nat.pow 10 places) Binary64.unitsPerOne)

/-- A number with a fixed number of places and its thousands set off. -/
def groupedText (places : Nat) : Binary64 → String :=
  textWith fun u => pointed grouped places (roundDiv (u * Nat.pow 10 places) Binary64.unitsPerOne)

/-- A number in at most `count` significant digits. -/
def generalText (count : Nat) : Binary64 → String :=
  textWith fun u => if u = 0 then ['0'] else general count u Binary64.unitsPerOne

/-- The number nearest to the one with `places` places that is nearest to `x`. -/
def roundTo (places : Nat) : Binary64 → Binary64
  | .finite s u _ =>
    .ofFraction s (roundDiv (u * Nat.pow 10 places) Binary64.unitsPerOne) (Nat.pow 10 places)
  | x => x

end Bursary.Decimal
