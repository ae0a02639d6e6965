import Bursary.Decimal.Shortest
import Bursary.Failure
import Bursary.Text.Quoted
import Bursary.Value.Basic

/-! The text of a value. Texts inside lists and records stand in quotes. Only integers beyond the
digit limit and what is nested beyond the depth limit have no text; of several such parts the one
that is met first, from left to right, is the one that is reported. -/

namespace Bursary.Value

/-- The first size that has too many digits. -/
def digitBound : Nat := Nat.pow 10 Failure.digitLimit

def wholeText (i : Int) : Except Failure String :=
  if i.natAbs < digitBound then
    .ok (String.ofList (Decimal.sign (i < 0) ++ Decimal.digits i.natAbs))
  else .error .tooManyDigits

/-- Writes what is inside a list or record, if there is room for one more level. -/
def inside {α : Type} (room : Nat) (write : Nat → Except Failure α) : Except Failure α :=
  match room with
  | 0 => .error .tooDeep
  | room + 1 => write room

mutual

/-- The text of a value inside a list or record, with room for so many levels. -/
def displayWithin (room : Nat) : Value → Except Failure String
  | null => .ok "None"
  | flag b => .ok (if b then "True" else "False")
  | whole i => wholeText i
  | real x => .ok (Decimal.shortestText x)
  | text s => .ok (Text.quoted s)
  | list xs =>
    (inside room fun room => displayItems room xs).map fun items =>
      "[" ++ ", ".intercalate items ++ "]"
  | record es =>
    (inside room fun room => displayEntries room es).map fun items =>
      "\x7b" ++ ", ".intercalate items ++ "\x7d"
  | keyed es =>
    (inside room fun room => displayEntries room es).map fun items =>
      "\x7b" ++ ", ".intercalate items ++ "\x7d"
  | form kind fields =>
    (inside room fun room => displayFields room fields).map fun items =>
      kind ++ "(" ++ ", ".intercalate items ++ ")"

def displayItems (room : Nat) : List Value → Except Failure (List String)
  | [] => .ok []
  | x :: xs => do return (← displayWithin room x) :: (← displayItems room xs)

def displayEntries (room : Nat) : List (String × Value) → Except Failure (List String)
  | [] => .ok []
  | (k, v) :: es => do
    return (Text.quoted k ++ ": " ++ (← displayWithin room v)) :: (← displayEntries room es)

def displayFields (room : Nat) : List (String × Value) → Except Failure (List String)
  | [] => .ok []
  | (k, v) :: es => do
    return (k ++ "=" ++ (← displayWithin room v)) :: (← displayFields room es)

end

/-- The text of a value as it is shown inside others. -/
def display (v : Value) : Except Failure String := displayWithin Failure.depthLimit v

/-- The text of a value; a text is its own, and a form shows its fields alone. -/
def asText : Value → Except Failure String
  | text s => .ok s
  | form _ fields =>
    (inside Failure.depthLimit fun room => displayFields room fields).map (" ".intercalate ·)
  | v => display v

end Bursary.Value
