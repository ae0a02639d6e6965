import Bursary.Quantity
import Bursary.Value.Reading

/-! Students as they are evaluated. -/

namespace Bursary

namespace Student

def bestGwa : Binary64 := 1.0

def worstGwa : Binary64 := 5.0

def defaultYearLevel : String := "Freshman"

def defaultCitizenship : String := "Filipino"

end Student

/-- A student. The grade average runs from 1.0, the best, to 5.0, the worst. -/
structure Student where
  gwa : Binary64 := Student.worstGwa
  gwaProvided : Bool := false
  yearLevel : String := Student.defaultYearLevel
  college : String := ""
  course : String := ""
  major : Option String := none
  unitsEnrolled : Quantity := .whole 0
  unitsPassed : Option Binary64 := none
  annualFamilyIncome : Quantity := .whole 0
  incomeProvided : Bool := false
  stBracket : Option String := none
  householdSize : Option Int := none
  province : String := ""
  citizenship : String := Student.defaultCitizenship
  hasExistingScholarship : Bool := false
  hasDisciplinaryAction : Bool := false
  hasThesisGrant : Bool := false
  hasApprovedThesisOutline : Bool := false
  hasFailingGrade : Bool := false
  hasGradeOf4 : Bool := false
  hasIncompleteGrade : Bool := false
  isGraduating : Bool := false
  profileCompleted : Bool := false
  /-- Further data that a scholarship's own rules may ask for. -/
  customFields : Record := []

namespace Student

/-- The yearly family income as a number. -/
def income (s : Student) : Binary64 := s.annualFamilyIncome.toBinary64

def toRecord (s : Student) : Record := [
  ("gwa", .real s.gwa),
  ("gwa_provided", .flag s.gwaProvided),
  ("year_level", .text s.yearLevel),
  ("college", .text s.college),
  ("course", .text s.course),
  ("major", .ofText? s.major),
  ("units_enrolled", s.unitsEnrolled.toValue),
  ("units_passed", (s.unitsPassed.map Value.real).getD .null),
  ("annual_family_income", s.annualFamilyIncome.toValue),
  ("income_provided", .flag s.incomeProvided),
  ("st_bracket", .ofText? s.stBracket),
  ("household_size", (s.householdSize.map Value.whole).getD .null),
  ("province", .text s.province),
  ("citizenship", .text s.citizenship),
  ("has_existing_scholarship", .flag s.hasExistingScholarship),
  ("has_disciplinary_action", .flag s.hasDisciplinaryAction),
  ("has_thesis_grant", .flag s.hasThesisGrant),
  ("has_approved_thesis_outline", .flag s.hasApprovedThesisOutline),
  ("has_failing_grade", .flag s.hasFailingGrade),
  ("has_grade_of_4", .flag s.hasGradeOf4),
  ("has_incomplete_grade", .flag s.hasIncompleteGrade),
  ("is_graduating", .flag s.isGraduating),
  ("profile_completed", .flag s.profileCompleted),
  ("custom_fields", .record s.customFields)]

/-- What the form of a student is called. -/
def formKind : String := "NormalizedStudent"

/-- The student among other data. -/
def toForm (s : Student) : Value := .form formKind s.toRecord

end Student

end Bursary
