import Bursary.Quantity
import Bursary.Criteria
import Bursary.Rule.Field
import Bursary.Rule.Test
import Bursary.Sorting
import Bursary.Value.Order

/-! The checks of a scholarship's own rules. A rule that could not be read counts as a
failed check; the checks stand in the order of the rules' places. -/

namespace Bursary

/-! ### Texts -/

/-- A number in at most six significant digits, integers in full; other values by their
text. -/
def numberText (v : Value) : String :=
  match v.number? with
  | some x => (Quantity.real x).plainText
  | none =>
    match v.asText with
    | .ok s => s
    | .error _ => "Invalid number"

/-- A number as it is shown. What is nested too deeply to be written out cannot be shown as an
invalid number either. -/
def shownNumber (v : Value) : Except Failure String :=
  match v.asText with
  | .error .tooDeep => .error .tooDeep
  | _ => .ok (numberText v)

namespace RangeOperator

def symbol : RangeOperator → String
  | lt => "<"
  | lte => "≤"
  | gt => ">"
  | gte => "≥"
  | eq => "="
  | neq => "≠"
  | between | betweenExclusive | outside => ""

/-- One bound of a span, or the sign of infinity. -/
def boundText (v : Value) : Except Failure String := if v.isNull then .ok "∞" else shownNumber v

/-- The bounds or the limit that a number is compared with. -/
def thresholdText (op : RangeOperator) (threshold : Value) : Except Failure String :=
  if op.isSpan then do
    let r := threshold.record?.getD []
    let span := (← boundText (Record.get r "min")) ++ " - " ++ (← boundText (Record.get r "max"))
    return if op = outside then "outside " ++ span else span
  else return op.symbol ++ " " ++ (← shownNumber threshold)

end RangeOperator

def itemTexts : List Value → Except Failure (List String)
  | [] => .ok []
  | v :: vs => do return (← v.asText) :: (← itemTexts vs)

/-- The items of a list with commas between them. -/
def joinedText (vs : List Value) : Except Failure String :=
  (itemTexts vs).map (", ".intercalate ·)

namespace RuleTest

/-- The student's side of a test. -/
def studentText (t : RuleTest) (v : Value) : Except Failure String :=
  match t with
  | range .. => if v.isNull then .ok "Not specified" else shownNumber v
  | boolean .. => .ok (if v.isTruthy then "Yes" else "No")
  | list .. =>
    match v with
    | .list vs => joinedText vs
    | _ => if v.isTruthy then v.asText else .ok "Not specified"

/-- The scholarship's side of a test. -/
def requiredText : RuleTest → Except Failure String
  | range op threshold => op.thresholdText threshold
  | boolean _ expected => .ok (if expected.isTruthy then "Required" else "Not required")
  | list _ required =>
    match required with
    | .list vs => joinedText vs
    | _ => required.asText

end RuleTest

/-! ### Checks -/

/-- The group of a rule's category tag. -/
def Category.ofTag (tag : String) : Category :=
  match Text.lower tag with
  | "academic" => .academic
  | "financial" => .financial
  | "demographic" => .demographic
  | "enrollment" => .academic
  | _ => .status

/-- The group of a category that is given as any value; one that is not given has no tag. -/
def Category.ofValue : Value → Except Failure Category
  | .text tag => .ok (ofTag tag)
  | v => if v.isTruthy then .error (.unsupported v.kindName "lower") else .ok (ofTag "")

def Rule.check (r : Rule) (s : Student) : Except Failure Check := do
  let v := s.resolve r.field
  let studentValue ← r.test.studentText v
  let requiredValue ← r.test.requiredText
  return {
    id := r.id, criterion := r.name, passed := r.test.holds v, studentValue, requiredValue
    category := Category.ofTag r.category, importance := r.importance, kind := r.test.kind }

namespace Unreadable

def word? : Value → Option String
  | .text s => some s
  | _ => none

/-- The importance that an unreadable rule declares, if it is one. -/
def importance (raw : Record) : Importance :=
  ((word? (raw.get "importance")).bind Importance.ofWord?).getD .required

def kind (raw : Record) : Kind :=
  ((word? (raw.get "condition_type")).bind Kind.ofWord?).getD .range

def isActive (raw : Record) : Bool := ((raw.get? "is_active").map Value.isTruthy).getD true

/-- The failed check of an unreadable rule. -/
def check (raw : Record) : Except Failure Check := do
  let id ← (raw.get "id").asText
  let criterion ← (raw.get "name").asText
  let category ← Category.ofValue (raw.get "category")
  return {
    id, criterion, passed := false
    studentValue := "Not specified", requiredValue := "Invalid condition"
    category, importance := importance raw, kind := kind raw }

/-- The place that an unreadable rule declares, or else `index`. -/
def position (raw : Record) (index : Nat) : Value :=
  let declared := raw.get "position"
  if declared.isNull then .whole index else declared

end Unreadable

/-- A check at its place. The places of rules that could be read are integers, those of
others any values. -/
abbrev PlacedCheck := Value × Check

/-- The checks of active rules with their places; `index` is the place of the first if it
declares none. -/
def placedChecks (s : Student) (index : Nat) : List Rule → Except Failure (List PlacedCheck)
  | [] => .ok []
  | r :: rs => do
    if r.isActive then
      let check ← r.check s
      return (.whole (r.position.getD index), check) :: (← placedChecks s (index + 1) rs)
    else placedChecks s (index + 1) rs

/-- The same for rules that could not be read. -/
def placedFailures (index : Nat) : List Record → Except Failure (List PlacedCheck)
  | [] => .ok []
  | raw :: raws => do
    if Unreadable.isActive raw then
      let check ← Unreadable.check raw
      return (Unreadable.position raw index, check) :: (← placedFailures (index + 1) raws)
    else placedFailures (index + 1) raws

/-- The checks of all active rules in the order of their places. -/
def ruleChecks (s : Student) (rules : List Rule) (unreadable : List Record) :
    Except Failure (List Check) := do
  let placed ← placedChecks s 0 rules
  let failures ← placedFailures rules.length unreadable
  let sorted ← Sorting.sort (fun a b => a.1.comesBefore b.1) (placed ++ failures)
  return sorted.map (·.2)

end Bursary
