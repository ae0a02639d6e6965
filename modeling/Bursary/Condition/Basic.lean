import Bursary.Canonical
import Bursary.Criteria
import Bursary.Student

/-! The standard conditions, in the order in which they are checked. Each knows from the
criteria whether it applies and decides about a student when it does. -/

namespace Bursary

inductive Condition where
  | gwa | unitsEnrolled | unitsPassed
  | income | householdSize
  | yearLevel | college | course | major
  | stBracket
  | province | citizenship
  | noOtherScholarship | noDisciplinaryAction | noThesisGrant
  | approvedThesis | noFailingGrade | noGradeOf4 | noIncompleteGrade | graduating
  deriving DecidableEq

namespace Condition

/-- The catalogue. -/
def all : List Condition := [
  gwa, unitsEnrolled, unitsPassed, income, householdSize, yearLevel, college, course, major,
  stBracket, province, citizenship, noOtherScholarship, noDisciplinaryAction, noThesisGrant,
  approvedThesis, noFailingGrade, noGradeOf4, noIncompleteGrade, graduating]

def id : Condition → String
  | gwa => "gwa"
  | unitsEnrolled => "unitsEnrolled"
  | unitsPassed => "unitsPassed"
  | income => "annualFamilyIncome"
  | householdSize => "householdSize"
  | yearLevel => "yearLevel"
  | college => "college"
  | course => "course"
  | major => "major"
  | stBracket => "stBracket"
  | province => "province"
  | citizenship => "citizenship"
  | noOtherScholarship => "noOtherScholarship"
  | noDisciplinaryAction => "noDisciplinaryAction"
  | noThesisGrant => "noThesisGrant"
  | approvedThesis => "approvedThesis"
  | noFailingGrade => "noFailingGrade"
  | noGradeOf4 => "noGradeOf4"
  | noIncompleteGrade => "noIncompleteGrade"
  | graduating => "mustBeGraduating"

def ofId? (s : String) : Option Condition := all.find? (·.id == s)

def title : Condition → String
  | gwa => "GWA Requirement"
  | unitsEnrolled => "Units Enrolled"
  | unitsPassed => "Units Passed"
  | income => "Annual Family Income"
  | householdSize => "Household Size"
  | yearLevel => "Year Level"
  | college => "College"
  | course => "Course"
  | major => "Major/Specialization"
  | stBracket => "ST Bracket"
  | province => "Province"
  | citizenship => "Citizenship"
  | noOtherScholarship => "No Other Scholarship"
  | noDisciplinaryAction => "No Disciplinary Action"
  | noThesisGrant => "No Thesis Grant"
  | approvedThesis => "Approved Thesis Outline"
  | noFailingGrade => "No Failing Grade"
  | noGradeOf4 => "No Grade of 4"
  | noIncompleteGrade => "No Incomplete Grade"
  | graduating => "Graduating Student"

def category : Condition → Category
  | income | householdSize | stBracket => .financial
  | province => .location
  | citizenship => .demographic
  | noOtherScholarship | noDisciplinaryAction | noThesisGrant => .status
  | gwa | unitsEnrolled | unitsPassed | yearLevel | college | course | major
  | approvedThesis | noFailingGrade | noGradeOf4 | noIncompleteGrade | graduating => .academic

def kind : Condition → Kind
  | gwa | unitsEnrolled | unitsPassed | income | householdSize => .range
  | yearLevel | college | course | major | stBracket | province | citizenship => .list
  | noOtherScholarship | noDisciplinaryAction | noThesisGrant
  | approvedThesis | noFailingGrade | noGradeOf4 | noIncompleteGrade | graduating => .boolean

/-- Every standard condition must pass. -/
def importance (_ : Condition) : Importance := .required

end Condition

/-! ### Bounds and lists of the criteria -/

namespace Criteria

/-- A bound that restricts somebody: one that is given and not zero. -/
def bound (x : Option Binary64) : Option Binary64 := x.filter (!·.isZero)

/-- The worst accepted grade average, if it is within the range of grades. -/
def gwaCap (c : Criteria) : Option Binary64 := (bound c.maxGwa).filter (·.lt Student.worstGwa)

/-- The smallest household, at least one unless a smaller one is asked for. -/
def smallestHousehold (c : Criteria) : Int := (c.minHouseholdSize.filter (· != 0)).getD 1

/-- The accepted citizenships. -/
def acceptedCitizenships (c : Criteria) : List String :=
  if !c.citizenships.isEmpty then c.citizenships
  else if c.filipinoOnly then [Student.defaultCitizenship] else []

/-- Whether the grade average is bounded within the range of grades. -/
def boundsGwa (c : Criteria) : Bool :=
  let maxOpen := ((bound c.maxGwa).map (Student.worstGwa.le ·)).getD true
  let minOpen := ((bound c.minGwa).map (Binary64.le · Student.bestGwa)).getD true
  !(maxOpen && minOpen)

end Criteria

/-- Whether one of two texts occurs in the other, in any letter case. -/
def overlaps (a b : String) : Bool :=
  Text.occursIn (Text.lower a) (Text.lower b) || Text.occursIn (Text.lower b) (Text.lower a)

/-- Whether a canonical name is among those that the entries of a list stand for. -/
def namedIn (table : Canonical.Table) (name : String) (entries : List String) : Bool :=
  entries.any fun entry =>
    Text.lower ((Canonical.nameOfText? table entry).getD "") == Text.lower name

namespace Condition

/-- Whether the criteria ask for the condition at all. -/
def applies (cond : Condition) (c : Criteria) : Bool :=
  match cond with
  | gwa => c.boundsGwa
  | unitsEnrolled => (Criteria.bound c.minUnitsEnrolled).isSome
  | unitsPassed => (Criteria.bound c.minUnitsPassed).isSome
  | income => (Criteria.bound c.maxIncome).isSome || (Criteria.bound c.minIncome).isSome
  | householdSize => c.minHouseholdSize.isSome || c.maxHouseholdSize.isSome
  | yearLevel => !c.yearLevels.isEmpty
  | college => !c.colleges.isEmpty
  | course => !c.courses.isEmpty
  | major => !c.majors.isEmpty
  | stBracket => !c.stBrackets.isEmpty
  | province => !c.provinces.isEmpty
  | citizenship => !c.acceptedCitizenships.isEmpty
  | noOtherScholarship => c.noOtherScholarship
  | noDisciplinaryAction => c.noDisciplinaryAction
  | noThesisGrant => c.noThesisGrant
  | approvedThesis => c.approvedThesisOutline
  | noFailingGrade => c.noFailingGrade
  | noGradeOf4 => c.noGradeOf4
  | noIncompleteGrade => c.noIncompleteGrade
  | graduating => c.graduating

/-- Whether `x` reaches a bound. -/
def reaches (x : Binary64) (low : Option Binary64) : Bool :=
  ((Criteria.bound low).map (Binary64.le · x)).getD true

/-- An income that is not reported is not held against the student. -/
def incomeHolds (s : Student) (c : Criteria) : Bool :=
  let tooHigh := ((Criteria.bound c.maxIncome).map (Binary64.lt · s.income)).getD false
  let tooLow := ((Criteria.bound c.minIncome).map (s.income.lt ·)).getD false
  !s.incomeProvided || (!tooHigh && !tooLow)

def householdHolds (s : Student) (c : Criteria) : Bool :=
  match s.householdSize with
  | none => false
  | some size =>
    let tooLarge := (c.maxHouseholdSize.map fun most => decide (most < size)).getD false
    decide (c.smallestHousehold ≤ size) && !tooLarge

/-- Whether a text is given and overlaps an entry of a list. -/
def overlapsAny (s : String) (entries : List String) : Bool :=
  !s.isEmpty && entries.any (overlaps s)

/-- Whether the student satisfies the condition. -/
def holds (cond : Condition) (s : Student) (c : Criteria) : Bool :=
  match cond with
  | gwa =>
    ((Criteria.bound c.minGwa).getD Student.bestGwa).le s.gwa &&
      s.gwa.le ((Criteria.bound c.maxGwa).getD Student.worstGwa)
  | unitsEnrolled => reaches s.unitsEnrolled.toBinary64 c.minUnitsEnrolled
  | unitsPassed => (s.unitsPassed.map (reaches · c.minUnitsPassed)).getD false
  | income => incomeHolds s c
  | householdSize => householdHolds s c
  | yearLevel => namedIn Canonical.yearLevels s.yearLevel c.yearLevels
  | college => namedIn Canonical.colleges s.college c.colleges
  | course => overlapsAny s.course c.courses
  | major => overlapsAny (s.major.getD "") c.majors
  | stBracket =>
    let bracket := s.stBracket.getD ""
    !bracket.isEmpty && namedIn Canonical.brackets bracket c.stBrackets
  | province => overlapsAny s.province c.provinces
  | citizenship => c.acceptedCitizenships.any fun r => Text.lower r == Text.lower s.citizenship
  | noOtherScholarship => !s.hasExistingScholarship
  | noDisciplinaryAction => !s.hasDisciplinaryAction
  | noThesisGrant => !s.hasThesisGrant
  | approvedThesis => s.hasApprovedThesisOutline
  | noFailingGrade => !s.hasFailingGrade
  | noGradeOf4 => !s.hasGradeOf4
  | noIncompleteGrade => !s.hasIncompleteGrade
  | graduating => s.isGraduating

end Condition

end Bursary
