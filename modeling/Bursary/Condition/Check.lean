import Bursary.Condition.Basic

/-! The checks of the standard conditions, with both sides shown in words. -/

namespace Bursary.Condition

def given (s fallback : String) : String := if s.isEmpty then fallback else s

/-- Up to `limit` items, or how many there are. -/
def joinLimited (items : List String) (limit : Nat) (noun : String) : String :=
  if items.length ≤ limit then ", ".intercalate items
  else Decimal.natText items.length ++ " " ++ noun

def twoPlaces : Binary64 → String := Decimal.fixedText 2

def unitsText (q : Quantity) : String := q.plainText ++ " units"

/-- The student's side. -/
def studentText (cond : Condition) (s : Student) : Except Failure String :=
  match cond with
  | gwa => .ok (if s.gwaProvided then twoPlaces s.gwa else "Not specified")
  | unitsEnrolled => .ok (unitsText s.unitsEnrolled)
  | unitsPassed => .ok ((s.unitsPassed.map fun x => unitsText (.real x)).getD "Not specified")
  | income =>
    .ok (if s.incomeProvided then s.annualFamilyIncome.pesoText else "Not specified")
  | householdSize =>
    match s.householdSize with
    | some size => (Value.wholeText size).map (· ++ " members")
    | none => .ok "Not specified"
  | yearLevel => .ok s.yearLevel
  | college => .ok (given s.college "Not specified")
  | course => .ok (given s.course "Not specified")
  | major => .ok (given (s.major.getD "") "None specified")
  | stBracket => .ok (given (s.stBracket.getD "") "Not specified")
  | province => .ok (given s.province "Not specified")
  | citizenship => .ok (given s.citizenship Student.defaultCitizenship)
  | noOtherScholarship =>
    .ok (if s.hasExistingScholarship then "Has scholarship" else "No scholarship")
  | noDisciplinaryAction => .ok (if s.hasDisciplinaryAction then "Has record" else "Clean record")
  | noThesisGrant => .ok (if s.hasThesisGrant then "Has thesis grant" else "No thesis grant")
  | approvedThesis => .ok (if s.hasApprovedThesisOutline then "Yes" else "No")
  | noFailingGrade =>
    .ok (if s.hasFailingGrade then "Has failing grade(s)" else "No failing grades")
  | noGradeOf4 => .ok (if s.hasGradeOf4 then "Has grade of 4" else "No conditional grades")
  | noIncompleteGrade => .ok (if s.hasIncompleteGrade then "Has INC" else "All grades complete")
  | graduating => .ok (if s.isGraduating then "Yes" else "No")

/-- The bounds on the grade average that lie within the range of grades; if there are none,
the worst accepted average as it is, which has no text unless it is given. -/
def gwaBoundsText (c : Criteria) : Except Failure String :=
  let low := (Criteria.bound c.minGwa).filter (Student.bestGwa.lt ·)
  match low, c.gwaCap, c.maxGwa with
  | some l, some h, _ => .ok (twoPlaces l ++ " - " ++ twoPlaces h)
  | some l, none, _ => .ok ("≥ " ++ twoPlaces l)
  | none, _, some h => .ok ("≤ " ++ twoPlaces h)
  | none, _, none => .error (.noNumberLayout Value.null.kindName)

def pesos (x : Binary64) : String := (Quantity.real x).pesoText

def incomeBoundsText (c : Criteria) : String :=
  match Criteria.bound c.minIncome, Criteria.bound c.maxIncome with
  | some low, some high => pesos low ++ " - " ++ pesos high
  | some low, none => "≥ " ++ pesos low
  | none, high => "≤ " ++ pesos (high.getD .nan)

def householdBoundsText (c : Criteria) : Except Failure String := do
  let low ← Value.wholeText c.smallestHousehold
  match c.maxHouseholdSize with
  | some size => return low ++ " - " ++ (← Value.wholeText size) ++ " members"
  | none => return "≥ " ++ low ++ " members"

/-- A least number of units. -/
def leastUnits (x : Option Binary64) : String :=
  "≥ " ++ ((x.map fun x => (Quantity.real x).plainText).getD "Not specified") ++ " units"

/-- The scholarship's side. -/
def requiredText (cond : Condition) (c : Criteria) : Except Failure String :=
  match cond with
  | gwa => gwaBoundsText c
  | unitsEnrolled => .ok (leastUnits c.minUnitsEnrolled)
  | unitsPassed => .ok (leastUnits c.minUnitsPassed)
  | income => .ok (incomeBoundsText c)
  | householdSize => householdBoundsText c
  | yearLevel => .ok (", ".intercalate c.yearLevels)
  | college => .ok (joinLimited c.colleges 2 "colleges")
  | course => .ok (joinLimited c.courses 2 "courses")
  | major => .ok (", ".intercalate c.majors)
  | stBracket => .ok (", ".intercalate c.stBrackets)
  | province => .ok (joinLimited c.provinces 3 "provinces")
  | citizenship => .ok (", ".intercalate c.acceptedCitizenships)
  | noOtherScholarship => .ok "Must not have other scholarship"
  | noDisciplinaryAction => .ok "Required clean record"
  | noThesisGrant => .ok "Must not have thesis grant"
  | approvedThesis => .ok "Required"
  | noFailingGrade => .ok "Must not have any failing grades"
  | noGradeOf4 => .ok "Must not have grade of 4"
  | noIncompleteGrade => .ok "Must not have INC"
  | graduating => .ok "Required"

def check (cond : Condition) (s : Student) (c : Criteria) : Except Failure Check := do
  let studentValue ← cond.studentText s
  let requiredValue ← cond.requiredText c
  return {
    id := cond.id, criterion := cond.title, passed := cond.holds s c, studentValue, requiredValue
    category := cond.category, importance := cond.importance, kind := cond.kind }

/-- The checks of those conditions of a list that apply. -/
def checks (s : Student) (c : Criteria) : List Condition → Except Failure (List Check)
  | [] => .ok []
  | cond :: rest => do
    if cond.applies c then
      let first ← cond.check s c
      return first :: (← checks s c rest)
    else checks s c rest

end Bursary.Condition
