import Bursary.Decimal.Layout
import Bursary.Text.Blank
import Bursary.Text.Digit

/-! Decimal numerals in text: an optional sign, digits with an optional point, an optional
exponent; or a name of infinity or of no number. Blanks may stand around a numeral and
single underscores between its digits. -/

namespace Bursary

/-- What a numeral says, before it is rounded to a number. -/
inductive Numeral where
  /-- `digits * 10 ^ exponent`, negated if `negative`. -/
  | decimal (negative : Bool) (digits : Nat) (exponent : Int)
  | infinity (negative : Bool)
  | notANumber
  deriving DecidableEq

namespace Numeral

open Text

/-- The number that digits of base ten spell. -/
def value (ds : List Char) : Nat := ds.foldl (fun n c => 10 * n + (c.toNat - '0'.toNat)) 0

/-- A sign in front, and what follows it. -/
def takeSign : List Char → Bool × List Char
  | '-' :: rest => (true, rest)
  | '+' :: rest => (false, rest)
  | cs => (false, cs)

/-- An exponent at the end of a numeral; nothing is exponent zero. -/
def exponent? : List Char → Option Int
  | [] => some 0
  | c :: rest =>
    let (negative, ds) := takeSign rest
    if (c == 'e' || c == 'E') && !ds.isEmpty && ds.all isAsciiDigit then
      some (if negative then -(value ds : Int) else value ds)
    else none

/-- The fraction's digits after a point, and what follows them. -/
def fraction : List Char → List Char × List Char
  | '.' :: rest => (rest.takeWhile isAsciiDigit, rest.dropWhile isAsciiDigit)
  | cs => ([], cs)

/-- A numeral without its sign. -/
def unsigned? (negative : Bool) (cs : List Char) : Option Numeral :=
  let word := cs.map Char.toLower
  if word == "inf".toList || word == "infinity".toList then some (.infinity negative)
  else if word == "nan".toList then some .notANumber
  else
    let whole := cs.takeWhile isAsciiDigit
    let (part, rest) := fraction (cs.dropWhile isAsciiDigit)
    if whole.isEmpty && part.isEmpty then none
    else (exponent? rest).map fun e => .decimal negative (value (whole ++ part)) (e - part.length)

/-- Removes the underscores, each of which must stand between two digits; `previous` is the
character in front. -/
def dropUnderscores (previous : Char) : List Char → Option (List Char)
  | [] => if previous == '_' then none else some []
  | c :: rest =>
    if c == '_' then
      if isAsciiDigit previous then dropUnderscores c rest else none
    else if previous == '_' && !isAsciiDigit c then none
    else (dropUnderscores c rest).map (c :: ·)

/-- Digits of any script become ASCII digits, and blanks beyond ASCII spaces. -/
def toAscii (c : Char) : Char :=
  if c.toNat < 128 then c
  else match digit? c with
    | some d => Char.ofNat ('0'.toNat + d)
    | none => if isBlank c then ' ' else c

/-- Reads a numeral that takes up the whole text but for blanks around it. -/
def ofText? (s : String) : Option Numeral := do
  let cs ← dropUnderscores ' ' (trimBy isAsciiBlank (s.toList.map toAscii))
  let (negative, rest) := takeSign cs
  unsigned? negative rest

/-- The number nearest to a numeral. Exponents far outside the range are not expanded. -/
def toBinary64 : Numeral → Binary64
  | .infinity negative => .infinite negative
  | .notANumber => .nan
  | .decimal negative digits e =>
    let size := (Decimal.digits digits).length + e
    if digits = 0 || size < -400 then .ofUnits negative 0 1
    else if 400 < size then .infinite negative
    else if e < 0 then .ofFraction negative digits (Nat.pow 10 e.natAbs)
    else .ofFraction negative (digits * Nat.pow 10 e.natAbs) 1

end Numeral

end Bursary
