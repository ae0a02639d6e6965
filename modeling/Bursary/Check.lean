import Bursary.Value.Basic

/-! The outcome of one condition, as shown to the student. -/

namespace Bursary

/-- How a condition affects the verdict. -/
inductive Importance where
  /-- Must pass. -/
  | required
  /-- Counts in the score only. -/
  | preferred
  /-- For information. -/
  | optional
  deriving DecidableEq

namespace Importance

def all : List Importance := [required, preferred, optional]

def word : Importance → String
  | required => "required"
  | preferred => "preferred"
  | optional => "optional"

def ofWord? (s : String) : Option Importance := all.find? (·.word == s)

end Importance

/-- The group under which a condition is shown. -/
inductive Category where
  | academic | financial | status | location | demographic
  deriving DecidableEq

def Category.word : Category → String
  | academic => "academic"
  | financial => "financial"
  | status => "status"
  | location => "location"
  | demographic => "demographic"

/-- What a condition looks at: a number, a flag or a choice from a list. -/
inductive Kind where
  | range | boolean | list
  deriving DecidableEq

namespace Kind

def all : List Kind := [range, boolean, list]

def word : Kind → String
  | range => "range"
  | boolean => "boolean"
  | list => "list"

def ofWord? (s : String) : Option Kind := all.find? (·.word == s)

end Kind

structure Check where
  id : String
  criterion : String
  passed : Bool
  studentValue : String
  requiredValue : String
  category : Category
  importance : Importance
  kind : Kind
  deriving DecidableEq

namespace Check

/-- Whether the check decides against the student. -/
def blocks (c : Check) : Bool := c.importance = .required && !c.passed

def toRecord (c : Check) : Record := [
  ("id", .text c.id), ("criterion", .text c.criterion), ("passed", .flag c.passed),
  ("student_value", .text c.studentValue), ("required_value", .text c.requiredValue),
  ("category", .text c.category.word), ("importance", .text c.importance.word),
  ("condition_type", .text c.kind.word)]

/-- One line on a failed check. -/
def summary (c : Check) : String :=
  c.criterion ++ ": " ++ c.studentValue ++ " (required: " ++ c.requiredValue ++ ")"

end Check

end Bursary
