import Bursary.Binary64.Basic
import Bursary.Decimal.Numeral
import Bursary.Failure

/-! Numbers that are written as text in a form. The text may have spaces around it. A text
that is no number as it stands is read once more with its underscores taken out; a whole
number may then also have a plus sign, zeros in front, and a point with zeros behind it. -/

namespace Bursary.Form

def trimSpaces (s : String) : List Char := Text.trimBy Text.isSpace s.toList

/-- The characters without underscores, none of which may stand at an end or next to
another. -/
def withoutUnderscores? (cs : List Char) : Option (List Char) :=
  let doubled := (cs.zip cs.tail).any fun (a, b) => a == '_' && b == '_'
  if cs.head? == some '_' || cs.getLast? == some '_' || doubled then none
  else some (cs.filter (· != '_'))

def numeral? (cs : List Char) : Option Numeral :=
  let (negative, rest) := Numeral.takeSign cs
  Numeral.unsigned? negative rest

/-- The number that a text spells. With underscores it may not have spaces around it. -/
def numberOfText? (s : String) : Option Binary64 :=
  ((numeral? (trimSpaces s)).or ((withoutUnderscores? s.toList).bind numeral?)).map
    Numeral.toBinary64

/-! ### Whole numbers -/

/-- What a text is as a whole number. -/
inductive WholeReading where
  | whole (i : Int)
  /-- It starts with more digits than are read; a minus sign counts as one. -/
  | tooLong
  | none

/-- Reads a whole number in its plain spelling: perhaps a minus sign, and digits of which
the first is zero only if it is the only one. -/
def plainWhole (cs : List Char) : WholeReading :=
  let (negative, body) := match cs with
    | '-' :: rest => (true, rest)
    | rest => (false, rest)
  let ds := body.takeWhile Text.isAsciiDigit
  let size := ds.length + if negative then 1 else 0
  if ds.head? != some '0' && Failure.digitLimit < size then .tooLong
  else if ds.isEmpty || ds.length < body.length || (ds.head? == some '0' && 1 < ds.length) then
    .none
  else .whole (if negative then -(Numeral.value ds : Int) else Numeral.value ds)

/-- Whether a character can start a plain whole number other than zero. -/
def startsWhole (c : Char) : Bool := c == '-' || ('1' ≤ c && c ≤ '9')

/-- What is left of a text behind a zero: from a point on with the character `previous`
before it, from a sign or another digit on, or the last character. Underscores between the
zeros go with them. -/
def behindZero? (previous : Char) : List Char → Option (List Char)
  | [] => some [previous]
  | c :: rest =>
    if c == '.' then some (previous :: c :: rest)
    else if c == '0' || c == '_' then behindZero? c rest
    else if startsWhole c then some (c :: rest)
    else none

/-- A text without the zeros in front. -/
def withoutZeros? : List Char → Option (List Char)
  | [] => none
  | c :: rest =>
    if c == '0' then behindZero? c rest else if startsWhole c then some (c :: rest) else none

/-- A text without a point and the zeros behind it, if there is nothing else behind it. -/
def withoutFraction (cs : List Char) : List Char :=
  let zeros := (cs.dropWhile (· != '.')).drop 1
  if zeros.isEmpty || !zeros.all (· == '0') then cs else cs.takeWhile (· != '.')

/-- The plain spelling of a whole number without sign that is written with zeros in front,
zeros behind a point, or underscores. -/
def plainDigits? (cs : List Char) : Option (List Char) :=
  (withoutZeros? cs).map fun cs =>
    let whole := withoutFraction cs
    (withoutUnderscores? whole).getD whole

/-- The same for a number that may have a sign; a plus sign is dropped. -/
def plainSpelling? (cs : List Char) : Option (List Char) :=
  match if cs.head? == some '+' then cs.tail else cs with
  | '-' :: rest => (plainDigits? rest).map ('-' :: ·)
  | rest => plainDigits? rest

/-- The whole number that a text spells. A number of too many digits is told apart only in
its plain spelling. -/
def wholeOfText (s : String) : WholeReading :=
  let cs := trimSpaces s
  match plainWhole cs with
  | .none =>
    match (plainSpelling? cs).map plainWhole with
    | some (.whole i) => .whole i
    | _ => .none
  | reading => reading

end Bursary.Form
