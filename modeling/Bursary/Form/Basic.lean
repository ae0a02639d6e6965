import Bursary.Form.Numeral
import Bursary.Value.Reading

/-! Forms: records of named fields that are checked one by one. A form is refused with all
its faulty fields; a field that is left out takes its default. -/

namespace Bursary

/-- A value read from a form, or everything that is wrong with it. -/
inductive Checked (α : Type) where
  | ok (a : α)
  | faulty (issues : List Issue)

namespace Checked

variable {α β : Type}

protected def map (f : α → β) : Checked α → Checked β
  | ok a => ok (f a)
  | faulty issues => faulty issues

/-- Applies a function from one part of a form to a value from another; the issues of both
parts are kept. -/
protected def apply : Checked (α → β) → Checked α → Checked β
  | ok f, ok a => ok (f a)
  | ok _, faulty js => faulty js
  | faulty is, ok _ => faulty is
  | faulty is, faulty js => faulty (is ++ js)

instance : Applicative Checked where
  pure := ok
  map := Checked.map
  seq f a := Checked.apply f (a ())

def fault (reason : String) : Checked α := faulty [⟨[], reason⟩]

/-- The same, as seen from outside the part `name`. -/
def within (name : String) : Checked α → Checked α
  | ok a => ok a
  | faulty issues => faulty (issues.map (Issue.within name))

/-- Goes on with a value, if it could be read. -/
protected def bind (c : Checked α) (f : α → Checked β) : Checked β :=
  match c with
  | ok a => f a
  | faulty issues => faulty issues

def toExcept : Checked α → Except Failure α
  | ok a => .ok a
  | faulty issues => .error (.malformed issues)

end Checked

namespace Form

open Checked

variable {α : Type}

/-- A field that may be left out. -/
def field (r : Record) (name : String) (default : α) (read : Value → Checked α) : Checked α :=
  match r.get? name with
  | some v => (read v).within name
  | none => ok default

/-- A field that must be there. -/
def required (r : Record) (name : String) (read : Value → Checked α) : Checked α :=
  match r.get? name with
  | some v => (read v).within name
  | none => (fault "missing").within name

/-- A value that may be null. -/
def optional (read : Value → Checked α) : Value → Checked (Option α)
  | .null => ok none
  | v => (read v).map some

/-- A number, also written as text, or a flag as one or zero. -/
def number : Value → Checked Binary64
  | .flag b => ok (if b then 1 else 0)
  | .whole i =>
    let x := Binary64.ofInt i
    if x.isFinite then ok x else fault "float_type"
  | .real x => ok x
  | .text s =>
    match numberOfText? s with
    | some x => ok x
    | none => fault "float_parsing"
  | _ => fault "float_type"

def finiteNumber (v : Value) : Checked Binary64 :=
  (number v).bind fun x => if x.isFinite then ok x else fault "finite_number"

/-- A number that is at least `low`, and no NaN. -/
def atLeast (low : Binary64) (x : Binary64) : Checked Binary64 :=
  if low.le x then ok x else fault "greater_than_equal"

def atMost (high : Binary64) (x : Binary64) : Checked Binary64 :=
  if x.le high then ok x else fault "less_than_equal"

def above (low : Binary64) (x : Binary64) : Checked Binary64 :=
  if low.lt x then ok x else fault "greater_than"

/-- Whole numbers that come as other numbers are smaller than this. -/
def countLimit : Nat := Nat.pow 2 63

/-- A whole number, also written as text or as a number without fraction. -/
def count : Value → Checked Int
  | .flag b => ok (if b then 1 else 0)
  | .whole i => ok i
  | .real x =>
    if !x.isFinite then fault "finite_number"
    else if !x.isInteger then fault "int_from_float"
    else if x.truncate.natAbs < countLimit then ok x.truncate
    else fault "int_parsing_size"
  | .text s =>
    match wholeOfText s with
    | .whole i => ok i
    | .tooLong => fault "int_parsing_size"
    | .none => fault "int_parsing"
  | _ => fault "int_type"

def countAtLeast (low : Int) (i : Int) : Checked Int :=
  if i < low then fault "greater_than_equal" else ok i

def yesWords : List String := ["1", "on", "t", "true", "y", "yes"]

def noWords : List String := ["0", "off", "f", "false", "n", "no"]

/-- A flag written as a number: one or zero. Numbers that are too large or have a fraction
are not looked at. -/
def flagOfNumber (i : Int) : Checked Bool :=
  if i = 1 then ok true
  else if i = 0 then ok false
  else if -(countLimit : Int) ≤ i ∧ i < countLimit then fault "bool_parsing"
  else fault "bool_type"

/-- A flag, also written as a word or as one or zero. -/
def flag : Value → Checked Bool
  | .flag b => ok b
  | .whole i => flagOfNumber i
  | .real x =>
    if x.isInteger && x.truncate.natAbs < countLimit then flagOfNumber x.truncate
    else fault "bool_type"
  | .text s =>
    let word := String.ofList (s.toList.map Char.toLower)
    if yesWords.contains word then ok true
    else if noWords.contains word then ok false else fault "bool_parsing"
  | _ => fault "bool_type"

def text : Value → Checked String
  | .text s => ok s
  | _ => fault "string_type"

/-- Any value. -/
def any : Value → Checked Value := ok

/-- Reads the items of a list from a position on. -/
def itemsFrom (read : Value → Checked α) (position : Nat) : List Value → Checked (List α)
  | [] => ok []
  | v :: vs =>
    List.cons <$> (read v).within (Decimal.natText position) <*> itemsFrom read (position + 1) vs

def list (read : Value → Checked α) : Value → Checked (List α)
  | .list vs => itemsFrom read 0 vs
  | .form _ fields => itemsFrom read 0 (fields.map fun (name, v) => .list [.text name, v])
  | _ => fault "list_type"

def record : Value → Checked Record
  | .record es => ok es
  | _ => fault "dict_type"

/-- One of the words of a choice. -/
def choice (ofWord? : String → Option α) : Value → Checked α
  | .text s =>
    match ofWord? s with
    | some a => ok a
    | none => fault "enum"
  | _ => fault "enum"

end Form

end Bursary
