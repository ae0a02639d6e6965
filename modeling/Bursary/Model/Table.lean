import Bursary.Decimal.Layout
import Bursary.Model.Registry
import Bursary.Value.Reading

/-! The table of trained models. Among the active rows of a kind the one trained last is in
force; a row without a time of training is older than any other, and of two rows of one time
the one with the larger id is newer. -/

namespace Bursary

/-- A time of training, without a zone. -/
structure Timestamp where
  year : Nat
  month : Nat
  day : Nat
  hour : Nat := 0
  minute : Nat := 0
  second : Nat := 0
  micros : Nat := 0
  deriving DecidableEq

namespace Timestamp

/-- Microseconds on a scale in which later times are larger. -/
def rank (t : Timestamp) : Nat :=
  ((((((t.year * 12 + t.month) * 31 + t.day) * 24 + t.hour) * 60 + t.minute) * 60 + t.second)
    * 1000000) + t.micros

/-- Year, month and day, a `T`, hours, minutes and seconds, and the microseconds if any. -/
def text (t : Timestamp) : String :=
  let two (n : Nat) : List Char := Decimal.padded 2 n
  String.ofList <|
    Decimal.padded 4 t.year ++ '-' :: two t.month ++ '-' :: two t.day ++
      'T' :: two t.hour ++ ':' :: two t.minute ++ ':' :: two t.second ++
      if t.micros = 0 then [] else '.' :: Decimal.padded 6 t.micros

/-- The number that digits write from a place on. -/
def numberAt (ds : List Char) (start width : Nat) : Nat :=
  Numeral.value ((ds.drop start).take width)

/-- The digits of a part of a second, as microseconds. -/
def microsOf (ds : List Char) : Nat :=
  let ds := ds.take 6
  Numeral.value ds * Nat.pow 10 (6 - ds.length)

/-- Reads a time in the layout of `text`. The signs between the parts may be left out, as may
the end of the time of day; a zone after it does not count. -/
def ofText (s : String) : Timestamp :=
  let cs := s.toList
  let width := if cs[4]? = some '-' then 10 else 8
  let date := (cs.take width).filter Text.isAsciiDigit
  let inClock (c : Char) : Bool := Text.isAsciiDigit c || c == ':'
  let clock := cs.drop (width + 1)
  let time := (clock.takeWhile inClock).filter Text.isAsciiDigit
  let fraction := match clock.dropWhile inClock with
    | '.' :: ds | ',' :: ds => ds.takeWhile Text.isAsciiDigit
    | _ => []
  { year := numberAt date 0 4, month := numberAt date 4 2, day := numberAt date 6 2
    hour := numberAt time 0 2, minute := numberAt time 2 2, second := numberAt time 4 2
    micros := microsOf fraction }

end Timestamp

/-- A row. Rows of the kind `scholarship` hold the model of one scholarship, rows of the kind
`global` one for all. -/
structure ModelRow where
  id : Int
  scholarshipId : Option String := none
  kind : String := "global"
  isActive : Bool := true
  weights : Value := .null
  bias : Option Binary64 := some 0
  metrics : Value := .null
  accuracy : Option Binary64 := none
  trainedAt : Option Timestamp := none

namespace ModelRow

/-- Whether a row was trained before another. -/
def olderThan (a b : ModelRow) : Bool :=
  match a.trainedAt, b.trainedAt with
  | none, some _ => true
  | some _, none => false
  | none, none => a.id < b.id
  | some s, some t => s.rank < t.rank || (s.rank == t.rank && a.id < b.id)

/-- The number in a numeric column, which reads texts and does not hold a NaN. -/
def numberIn (v : Value) : Option Binary64 :=
  let given : Option Binary64 := match v with
    | .whole i => some (.ofInt i)
    | .real x => some x
    | .flag b => some (if b then 1 else 0)
    | .text s => (Numeral.ofText? s).map Numeral.toBinary64
    | _ => none
  given.filter (· ≠ .nan)

/-- The text in a text column, which holds numbers by their text and flags as one or zero. -/
def textIn (v : Value) : Option String :=
  match v with
  | .text s => some s
  | .flag b => some (if b then "1" else "0")
  | .whole i => some (Quantity.intText Decimal.digits i)
  | .real x => some (Decimal.shortestText x)
  | _ => none

/-- The row of a record of columns. What is left out or null has its default. -/
def ofRecord (id : Int) (r : Record) : ModelRow where
  id := id
  scholarshipId := textIn (r.get "scholarship_id")
  kind := (textIn (r.get "model_type")).getD "global"
  isActive := (r.get "is_active").isNull || (r.get "is_active").isTruthy
  weights := r.get "weights"
  bias := if (r.get "bias").isNull then some 0 else numberIn (r.get "bias")
  metrics := r.get "metrics"
  accuracy := numberIn (r.get "accuracy")
  trainedAt := (textIn (r.get "trained_at")).map Timestamp.ofText

/-- The row as the record of a model. -/
def toRecord (r : ModelRow) : Record :=
  let given (v : Value) : Value := if v.isTruthy then v else .record []
  let number (x : Option Binary64) : Value := (x.map Value.real).getD .null
  [("id", .whole r.id), ("scholarship_id", .ofText? r.scholarshipId),
    ("model_type", .text r.kind), ("weights", given r.weights), ("bias", number r.bias),
    ("metrics", given r.metrics), ("accuracy", number r.accuracy),
    ("trained_at", .ofText? (r.trainedAt.map Timestamp.text))]

end ModelRow

/-- The table of a database, absent if it was never made. -/
structure ModelTable where
  rows : Option (List ModelRow)

namespace ModelTable

/-- Adds a row; unless it has an id, it takes the one after the largest. -/
def insert (rows : List ModelRow) (r : Record) : List ModelRow :=
  let largest := (rows.map (·.id)).max?
  let id := match r.get "id" with
    | .whole i => i
    | _ => largest.getD 0 + 1
  rows ++ [ModelRow.ofRecord id r]

def ofRecords (rs : List Record) : ModelTable := ⟨some (rs.foldl insert [])⟩

/-- The newest of some rows. -/
def newest? : List ModelRow → Option ModelRow
  | [] => none
  | r :: rs =>
    match newest? rs with
    | some s => if r.olderThan s then some s else some r
    | none => some r

/-- The row in force among those that satisfy a condition. -/
def latest? (rows : List ModelRow) (wanted : ModelRow → Bool) : Option ModelRow :=
  newest? (rows.filter fun r => r.isActive && wanted r)

def scholarshipModel (t : ModelTable) (id : String) : Except Failure (Option ModelRow) :=
  match t.rows with
  | some rows =>
    .ok (latest? rows fun r => r.kind == "scholarship" && r.scholarshipId == some id)
  | none => .error (.lookupFailed [("model_type", "scholarship"), ("scholarship_id", id)])

def globalModel (t : ModelTable) : Except Failure (Option ModelRow) :=
  match t.rows with
  | some rows => .ok (latest? rows fun r => r.kind == "global")
  | none => .error (.lookupFailed [("model_type", "global")])

/-- What a lookup replies. -/
def reply : Except Failure (Option ModelRow) → Reply
  | .ok (some r) => .answer (.record r.toRecord)
  | .ok none => .answer .null
  | .error _ => .refusal

/-- The table as a store of trained models. -/
def toRegistry (t : ModelTable) : Registry where
  scholarshipModel id := reply (t.scholarshipModel id)
  globalModel := reply t.globalModel

end ModelTable

end Bursary
