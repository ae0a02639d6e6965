import Bursary.Decimal.Numeral
import Bursary.Text.Case
import Bursary.Text.Search
import Bursary.Value.Display

/-! Loose readings of a value: as a number, a flag, a text, a list of texts or a record.
A value that does not fit reads as nothing given; only texts are refused, of integers beyond
the digit limit and of values nested beyond the depth limit. -/

namespace Bursary

namespace Record

/-- The first value under one of the keys that is not null. -/
def first (r : Record) (keys : List String) : Value :=
  ((keys.map r.get).find? (!·.isNull)).getD .null

/-- The first value under one of the keys that counts as given. -/
def firstTruthy (r : Record) (keys : List String) : Value :=
  ((keys.map r.get).find? (·.isTruthy)).getD .null

end Record

namespace Value

def finite? (x : Binary64) : Option Binary64 := if x.isFinite then some x else none

/-- The finite number that a value is or spells, its text first put through `clean`. -/
def numberBy (clean : String → String) : Value → Option Binary64
  | whole i => finite? (.ofInt i)
  | real x => finite? x
  | text s => (Numeral.ofText? (clean s)).bind fun n => finite? n.toBinary64
  | _ => none

/-- A number; blanks around its text do not count. -/
def number? : Value → Option Binary64 := numberBy Text.trim

/-- A number that may be written with thousands commas and a peso sign. -/
def amount? : Value → Option Binary64 :=
  numberBy fun s => Text.trim (String.ofList (s.toList.filter fun c => c != ',' && c != '₱'))

/-- A number of a trained model, whose text is a numeral as it stands. -/
def coefficient? : Value → Option Binary64 := numberBy id

/-- The integer part of an amount. -/
def count? (v : Value) : Option Int := v.amount?.map Binary64.truncate

/-- A flag; of the texts only the words for yes are true. -/
def toFlag : Value → Bool
  | text s => ["true", "yes", "1", "y"].contains (Text.lower (Text.trim s))
  | v => v.isTruthy

/-- The text of a value without the blanks around it; null is empty. -/
def toText : Value → Except Failure String
  | null => .ok ""
  | v => v.asText.map Text.trim

/-- The text of a value that counts as given. -/
def textIfGiven (v : Value) : Except Failure (Option String) :=
  if v.isTruthy then v.asText.map some else .ok none

/-- The texts of the members of a list that are neither null nor blank. -/
def textsOf : List Value → Except Failure (List String)
  | [] => .ok []
  | v :: vs => do
    let s ← v.toText
    let rest ← textsOf vs
    return if s.isEmpty then rest else s :: rest

/-- A field with its name, in parentheses. -/
def pairTexts : List (String × Value) → Except Failure (List String)
  | [] => .ok []
  | (k, v) :: es => do
    let shown ← inside Failure.depthLimit fun room => displayWithin room v
    return ("(" ++ Text.quoted k ++ ", " ++ shown ++ ")") :: (← pairTexts es)

/-- A list of texts, also written as one text with commas. A form is a list of its fields. -/
def toTexts : Value → Except Failure (List String)
  | text s => .ok (((Text.split ',' s).map Text.trim).filter (!·.isEmpty))
  | list vs => textsOf vs
  | form _ fields => pairTexts fields
  | _ => .ok []

/-- The entries of a record or keyed structure; anything else has none. -/
def toRecord : Value → Record
  | record es => es
  | keyed es => es
  | _ => []

/-- The entries of a record proper. -/
def record? : Value → Option Record
  | record es => some es
  | _ => none

/-- A text, null if there is none. -/
def ofText? : Option String → Value
  | some s => text s
  | none => null

end Value

end Bursary
