import Bursary.Criteria

/-! Rules from loosely shaped records. Every element of a scholarship's list is first read
as a draft, whatever it holds; a draft becomes a rule exactly when its kind, its operator
and its importance are known words. Otherwise it is kept as it was read. -/

namespace Bursary

/-- A rule as it was written down. -/
structure RuleDraft where
  id : String
  name : String
  description : String
  kind : String
  field : String
  operator : String
  category : String
  importance : String
  isActive : Bool
  position : Nat
  value : Option Value

namespace RuleDraft

/-- A text, or another one if it is empty. -/
def orElse (s fallback : String) : String := if s.isEmpty then fallback else s

/-- Whether a value is the flag that is off; texts and numbers are not. -/
def isOff : Value → Bool
  | .flag b => !b
  | _ => false

/-- Reads the element at a position of the list. -/
def ofValue (position : Nat) (raw : Value) : Except Failure RuleDraft := do
  let item := raw.toRecord
  let id ← (item.first ["id", "_id"]).toText
  let name ← (item.first ["name", "label"]).toText
  let description ← (item.get "description").toText
  let kind ← (item.first ["conditionType", "condition_type", "type"]).toText
  let field ← (item.first ["studentField", "student_field"]).toText
  let operator ← (item.get "operator").toText
  let category ← (item.get "category").toText
  let importance ← (item.get "importance").toText
  return {
    id := orElse id ("custom_" ++ Decimal.natText position)
    name := orElse name ("Custom condition " ++ Decimal.natText (position + 1))
    description
    kind := Text.lower kind
    field
    operator := Text.lower operator
    category := orElse (Text.lower category) "custom"
    importance := orElse (Text.lower importance) "required"
    isActive := !isOff (item.first ["isActive", "is_active"])
    position
    value := item.get? "value" }

/-- The rule that a draft spells, if all its words are known. -/
def toRule? (d : RuleDraft) : Option Rule := do
  let kind ← Kind.ofWord? d.kind
  let test ← RuleTest.make? kind d.operator d.value
  let importance ← Importance.ofWord? d.importance
  return {
    id := d.id, name := d.name, description := d.description, field := d.field
    category := d.category, importance, isActive := d.isActive, position := some d.position
    test }

def toRecord (d : RuleDraft) : Record := [
  ("id", .text d.id), ("name", .text d.name), ("description", .text d.description),
  ("condition_type", .text d.kind), ("student_field", .text d.field),
  ("operator", .text d.operator), ("category", .text d.category),
  ("importance", .text d.importance), ("is_active", .flag d.isActive),
  ("position", .whole d.position)] ++ (d.value.map fun v => ("value", v)).toList

/-- Reads the elements of a list from a position on. -/
def ofValues (position : Nat) : List Value → Except Failure (List RuleDraft)
  | [] => .ok []
  | v :: vs => do
    let draft ← ofValue position v
    return draft :: (← ofValues (position + 1) vs)

/-- The drafts of a list; anything but a list has none. A form lists its fields, none of
which says anything of a rule. -/
def ofList : Value → Except Failure (List RuleDraft)
  | .list vs => ofValues 0 vs
  | .form _ fields => ofValues 0 (fields.map fun _ => .null)
  | _ => .ok []

end RuleDraft

end Bursary
