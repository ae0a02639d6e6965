import Bursary.Decimal.Numeral
import Bursary.Failure
import Bursary.Value.Basic

/-! Reading JSON text. A number is an integer unless it has a fraction or an exponent; the
words for infinity and no number are allowed. A fault is reported with the position of the
character at which reading cannot go on. -/

namespace Bursary.Json

inductive Fault where
  | invalid (position : Nat)
  /-- An integer has too many digits to be read. -/
  | tooManyDigits
  /-- Lists and records are nested too deeply. -/
  | tooDeep
  deriving DecidableEq

/-- The characters that are left, and the position of the first of them. -/
structure Cursor where
  rest : List Char
  position : Nat

namespace Cursor

def advance (c : Cursor) (n : Nat) : Cursor := ⟨c.rest.drop n, c.position + n⟩

def isBlank (c : Char) : Bool := c == ' ' || c == '\t' || c == '\n' || c == '\r'

def skipBlanks (c : Cursor) : Cursor := c.advance (c.rest.takeWhile isBlank).length

def fail {α : Type} (c : Cursor) : Except Fault α := .error (.invalid c.position)

end Cursor

def hexValue? (c : Char) : Option Nat :=
  if '0' ≤ c && c ≤ '9' then some (c.toNat - '0'.toNat)
  else if 'a' ≤ c && c ≤ 'f' then some (c.toNat - 'a'.toNat + 10)
  else if 'A' ≤ c && c ≤ 'F' then some (c.toNat - 'A'.toNat + 10)
  else none

/-- The code unit that four hexadecimal digits name. -/
def codeUnit? (cs : List Char) : Option Nat :=
  if cs.length < 4 then none
  else (cs.take 4).foldlM (fun n c => (hexValue? c).map (16 * n + ·)) 0

/-- The character after a backslash, other than `u`. -/
def escaped? : Char → Option Char
  | '"' => some '"'
  | '\\' => some '\\'
  | '/' => some '/'
  | 'b' => some '\x08'
  | 'f' => some '\x0c'
  | 'n' => some '\n'
  | 'r' => some '\r'
  | 't' => some '\t'
  | _ => none

/-- The character of a code unit, with its low half from the following escape if it is the
high half of a pair; the count is how many characters after the first `u` it took. -/
def unicodeEscape (cs : List Char) : Option (Char × Nat) := do
  let high ← codeUnit? cs
  -- A pair is only looked for when more text follows it.
  if 0xd800 ≤ high && high < 0xdc00 && 10 < cs.length && (cs.drop 4).take 2 == ['\\', 'u'] then
    let low ← codeUnit? (cs.drop 6)
    if 0xdc00 ≤ low && low < 0xe000 then
      return (Char.ofNat (0x10000 + (high - 0xd800) * 0x400 + (low - 0xdc00)), 10)
  return (if 0xd800 ≤ high && high < 0xe000 then '\ufffd' else Char.ofNat high, 4)

/-- Where a faulty `\u` escape is reported, `at_` being the position of its first digit. -/
def escapeFault (at_ : Nat) (cs : List Char) : Fault :=
  if (codeUnit? cs).isSome then .invalid (at_ + 5) else .invalid (at_ - 1)

/-- The characters of a string up to its closing quote; `start` is the opening quote. -/
def stringFrom (start : Nat) : (fuel : Nat) → Cursor → Except Fault (List Char × Cursor)
  | 0, _ => .error (.invalid start)
  | fuel + 1, c =>
    match c.rest with
    | [] => .error (.invalid start)
    | '"' :: _ => .ok ([], c.advance 1)
    | '\\' :: [] => .error (.invalid start)
    | '\\' :: 'u' :: digits =>
      if digits.length < 5 then .error (.invalid (c.position + 1))
      else match unicodeEscape digits with
        | none => .error (escapeFault (c.position + 2) digits)
        | some (ch, n) => do
          let (rest, after) ← stringFrom start fuel (c.advance (2 + n))
          return (ch :: rest, after)
    | '\\' :: e :: _ =>
      match escaped? e with
      | none => c.fail
      | some ch => do
        let (rest, after) ← stringFrom start fuel (c.advance 2)
        return (ch :: rest, after)
    | ch :: _ =>
      if ch.toNat < 0x20 then c.fail
      else do
        let (rest, after) ← stringFrom start fuel (c.advance 1)
        return (ch :: rest, after)

def stringAt (c : Cursor) : Except Fault (String × Cursor) := do
  let (cs, after) ← stringFrom c.position (c.rest.length + 1) (c.advance 1)
  return (String.ofList cs, after)

/-- The fraction of a number, if a digit follows the point. -/
def fractionOf : List Char → List Char
  | '.' :: rest =>
    let ds := rest.takeWhile Text.isAsciiDigit
    if ds.isEmpty then [] else '.' :: ds
  | _ => []

/-- The exponent of a number, if it has digits. -/
def exponentOf : List Char → List Char
  | e :: rest =>
    let (signs, after) := match rest with
      | '+' :: tail => (['+'], tail)
      | '-' :: tail => (['-'], tail)
      | tail => ([], tail)
    let ds := after.takeWhile Text.isAsciiDigit
    if (e == 'e' || e == 'E') && !ds.isEmpty then e :: signs ++ ds else []
  | [] => []

def numberAt (c : Cursor) : Except Fault (Value × Cursor) :=
  let negative := c.rest.head? == some '-'
  let body := if negative then c.rest.drop 1 else c.rest
  let whole := match body with
    | '0' :: _ => ['0']
    | _ => body.takeWhile Text.isAsciiDigit
  if whole.isEmpty then c.fail
  else
    let fraction := fractionOf (body.drop whole.length)
    let exponent := exponentOf (body.drop (whole.length + fraction.length))
    let size := whole.length + fraction.length + exponent.length
    let after := c.advance (size + if negative then 1 else 0)
    if fraction.isEmpty && exponent.isEmpty then
      if Failure.digitLimit < whole.length then .error .tooManyDigits
      else
        let n := Numeral.value whole
        .ok (.whole (if negative then -(n : Int) else n), after)
    else
      match Numeral.unsigned? negative (body.take size) with
      | some n => .ok (.real n.toBinary64, after)
      | none => c.fail

/-- The words that stand for values. -/
def words : List (String × Value) := [
  ("null", .null), ("true", .flag true), ("false", .flag false), ("NaN", .real .nan),
  ("Infinity", .real (.infinite false)), ("-Infinity", .real (.infinite true))]

def word? (c : Cursor) : Option (Value × Cursor) :=
  (words.find? fun (w, _) => w.toList.isPrefixOf c.rest).map fun (w, v) =>
    (v, c.advance w.length)

/-- How deep lists and records may be nested. -/
def depthLimit : Nat := 990

mutual

/-- The value that starts at the cursor. -/
def valueAt : (fuel depth : Nat) → Cursor → Except Fault (Value × Cursor)
  | 0, _, c => c.fail
  | fuel + 1, depth, c =>
    match c.rest with
    | '"' :: _ => (stringAt c).map fun (s, after) => (.text s, after)
    | '[' :: _ => do
      if depth = 0 then throw .tooDeep
      let inner := (c.advance 1).skipBlanks
      if inner.rest.head? == some ']' then return (.list [], inner.advance 1)
      let (vs, after) ← itemsAt fuel (depth - 1) inner
      return (.list vs, after)
    | '\x7b' :: _ => do
      if depth = 0 then throw .tooDeep
      let inner := (c.advance 1).skipBlanks
      if inner.rest.head? == some '\x7d' then return (.record [], inner.advance 1)
      let (es, after) ← entriesAt fuel (depth - 1) inner
      return (.record (Record.ofEntries es), after)
    | _ =>
      match word? c with
      | some found => .ok found
      | none => numberAt c

/-- The items of a list from the cursor to its closing bracket. -/
def itemsAt : (fuel depth : Nat) → Cursor → Except Fault (List Value × Cursor)
  | 0, _, c => c.fail
  | fuel + 1, depth, c => do
    let (v, afterValue) ← valueAt fuel depth c
    let next := afterValue.skipBlanks
    match next.rest with
    | ']' :: _ => return ([v], next.advance 1)
    | ',' :: _ =>
      let (vs, after) ← itemsAt fuel depth (next.advance 1).skipBlanks
      return (v :: vs, after)
    | _ => next.fail

/-- The entries of a record from the cursor to its closing brace. -/
def entriesAt : (fuel depth : Nat) → Cursor → Except Fault (List (String × Value) × Cursor)
  | 0, _, c => c.fail
  | fuel + 1, depth, c => do
    if c.rest.head? != some '"' then c.fail
    let (key, afterKey) ← stringAt c
    let colon := afterKey.skipBlanks
    if colon.rest.head? != some ':' then colon.fail
    let (v, afterValue) ← valueAt fuel depth (colon.advance 1).skipBlanks
    let next := afterValue.skipBlanks
    match next.rest with
    | '\x7d' :: _ => return ([(key, v)], next.advance 1)
    | ',' :: _ =>
      let (es, after) ← entriesAt fuel depth (next.advance 1).skipBlanks
      return ((key, v) :: es, after)
    | _ => next.fail

end

/-- Reads a text that holds one value and nothing else. -/
def read (s : String) : Except Fault Value := do
  let start : Cursor := ⟨s.toList, 0⟩
  let (v, after) ← valueAt (2 * s.length + 2) depthLimit start.skipBlanks
  let rest := after.skipBlanks
  if rest.rest.isEmpty then return v else rest.fail

end Bursary.Json
