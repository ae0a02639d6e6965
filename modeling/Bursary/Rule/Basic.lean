import Bursary.Check
import Bursary.Value.Reading

/-! Rules that an administrator adds to a scholarship: a field of the student, an operator
and a value to compare the field with. -/

namespace Bursary

inductive RangeOperator where
  | lt | lte | gt | gte | eq | neq | between | betweenExclusive | outside
  deriving DecidableEq

namespace RangeOperator

def all : List RangeOperator := [lt, lte, gt, gte, eq, neq, between, betweenExclusive, outside]

def word : RangeOperator → String
  | lt => "lt"
  | lte => "lte"
  | gt => "gt"
  | gte => "gte"
  | eq => "eq"
  | neq => "neq"
  | between => "between"
  | betweenExclusive => "between_exclusive"
  | outside => "outside"

def ofWord? (s : String) : Option RangeOperator := all.find? (·.word == s)

end RangeOperator

inductive BooleanOperator where
  | is | isNot | isTrue | isFalse | present | absent
  deriving DecidableEq

namespace BooleanOperator

def all : List BooleanOperator := [is, isNot, isTrue, isFalse, present, absent]

def word : BooleanOperator → String
  | is => "is"
  | isNot => "is_not"
  | isTrue => "is_true"
  | isFalse => "is_false"
  | present => "exists"
  | absent => "not_exists"

def ofWord? (s : String) : Option BooleanOperator := all.find? (·.word == s)

end BooleanOperator

inductive ListOperator where
  | isIn | notIn | contains | notContains | containsAll | containsAny | isEmpty | isNotEmpty
  | matchesAny | matchesAll
  deriving DecidableEq

namespace ListOperator

def all : List ListOperator := [isIn, notIn, contains, notContains, containsAll, containsAny,
  isEmpty, isNotEmpty, matchesAny, matchesAll]

def word : ListOperator → String
  | isIn => "in"
  | notIn => "not_in"
  | contains => "contains"
  | notContains => "not_contains"
  | containsAll => "contains_all"
  | containsAny => "contains_any"
  | isEmpty => "is_empty"
  | isNotEmpty => "is_not_empty"
  | matchesAny => "matches_any"
  | matchesAll => "matches_all"

def ofWord? (s : String) : Option ListOperator := all.find? (·.word == s)

end ListOperator

/-- What a rule asks of the student's field. -/
inductive RuleTest where
  /-- A number within bounds; the threshold is a number, or a record of `min` and `max`. -/
  | range (operator : RangeOperator) (threshold : Value)
  | boolean (operator : BooleanOperator) (expected : Value)
  /-- A choice among, or a list compared with, the required values. -/
  | list (operator : ListOperator) (required : Value)

namespace RuleTest

def kind : RuleTest → Kind
  | range .. => .range
  | boolean .. => .boolean
  | list .. => .list

def operatorWord : RuleTest → String
  | range operator _ => operator.word
  | boolean operator _ => operator.word
  | list operator _ => operator.word

def value : RuleTest → Value
  | range _ threshold => threshold
  | boolean _ expected => expected
  | list _ required => required

/-- The test of a kind, if the operator is one of that kind's. A value that is left out is
no threshold, the flag true or no required values. -/
def make? (kind : Kind) (operator : String) (value : Option Value) : Option RuleTest :=
  match kind with
  | .range => (RangeOperator.ofWord? operator).map (range · (value.getD .null))
  | .boolean => (BooleanOperator.ofWord? operator).map (boolean · (value.getD (.flag true)))
  | .list => (ListOperator.ofWord? operator).map (list · (value.getD (.list [])))

end RuleTest

structure Rule where
  id : String
  name : String
  description : String := ""
  /-- The path of the student's field. -/
  field : String
  category : String := "custom"
  importance : Importance := .required
  isActive : Bool := true
  /-- The place among all rules of the scholarship. -/
  position : Option Int := none
  test : RuleTest

namespace Rule

def toRecord (r : Rule) : Record := [
  ("id", .text r.id), ("name", .text r.name), ("description", .text r.description),
  ("student_field", .text r.field), ("category", .text r.category),
  ("importance", .text r.importance.word), ("is_active", .flag r.isActive),
  ("position", (r.position.map Value.whole).getD .null),
  ("condition_type", .text r.test.kind.word), ("operator", .text r.test.operatorWord),
  ("value", r.test.value)]

end Rule

end Bursary
