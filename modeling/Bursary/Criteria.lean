import Bursary.Rule.Basic

/-! What a scholarship asks of its students. -/

namespace Bursary

/-- The criteria of a scholarship. An absent or zero bound, an empty list and a flag that is
off restrict nobody. -/
structure Criteria where
  maxGwa : Option Binary64 := none
  minGwa : Option Binary64 := none
  minUnitsEnrolled : Option Binary64 := none
  minUnitsPassed : Option Binary64 := none
  maxIncome : Option Binary64 := none
  minIncome : Option Binary64 := none
  minHouseholdSize : Option Int := none
  maxHouseholdSize : Option Int := none
  yearLevels : List String := []
  colleges : List String := []
  courses : List String := []
  majors : List String := []
  stBrackets : List String := []
  provinces : List String := []
  citizenships : List String := []
  noOtherScholarship : Bool := false
  noDisciplinaryAction : Bool := false
  noThesisGrant : Bool := false
  approvedThesisOutline : Bool := false
  noFailingGrade : Bool := false
  noGradeOf4 : Bool := false
  noIncompleteGrade : Bool := false
  graduating : Bool := false
  filipinoOnly : Bool := false
  rules : List Rule := []
  /-- Rules that could not be read; each active one counts as failed. -/
  unreadableRules : List Record := []

namespace Criteria

def number (x : Option Binary64) : Value := (x.map Value.real).getD .null

def count (i : Option Int) : Value := (i.map Value.whole).getD .null

def texts (xs : List String) : Value := .list (xs.map Value.text)

def toRecord (c : Criteria) : Record := [
  ("max_gwa", number c.maxGwa),
  ("min_gwa", number c.minGwa),
  ("min_units_enrolled", number c.minUnitsEnrolled),
  ("min_units_passed", number c.minUnitsPassed),
  ("max_annual_family_income", number c.maxIncome),
  ("min_annual_family_income", number c.minIncome),
  ("min_household_size", count c.minHouseholdSize),
  ("max_household_size", count c.maxHouseholdSize),
  ("eligible_year_levels", texts c.yearLevels),
  ("eligible_colleges", texts c.colleges),
  ("eligible_courses", texts c.courses),
  ("eligible_majors", texts c.majors),
  ("eligible_st_brackets", texts c.stBrackets),
  ("eligible_provinces", texts c.provinces),
  ("eligible_citizenship", texts c.citizenships),
  ("must_not_have_other_scholarship", .flag c.noOtherScholarship),
  ("must_not_have_disciplinary_action", .flag c.noDisciplinaryAction),
  ("must_not_have_thesis_grant", .flag c.noThesisGrant),
  ("requires_approved_thesis_outline", .flag c.approvedThesisOutline),
  ("must_not_have_failing_grade", .flag c.noFailingGrade),
  ("must_not_have_grade_of_4", .flag c.noGradeOf4),
  ("must_not_have_incomplete_grade", .flag c.noIncompleteGrade),
  ("must_be_graduating", .flag c.graduating),
  ("filipino_only", .flag c.filipinoOnly),
  ("custom_conditions", .list (c.rules.map fun r => .record r.toRecord)),
  ("invalid_custom_conditions", .list (c.unreadableRules.map Value.record))]

/-- What the form of criteria is called. -/
def formKind : String := "EligibilityCriteria"

/-- The criteria among other data. -/
def toForm (c : Criteria) : Value := .form formKind c.toRecord

end Criteria

/-- A scholarship; inactive ones take no part in matching. -/
structure Scholarship where
  id : Option String := none
  name : String := ""
  isActive : Bool := true
  criteria : Criteria := {}

namespace Scholarship

def toRecord (s : Scholarship) : Record := [
  ("id", .ofText? s.id), ("name", .text s.name), ("is_active", .flag s.isActive),
  ("criteria", .record s.criteria.toRecord)]

/-- What the form of a scholarship is called. -/
def formKind : String := "Scholarship"

/-- The scholarship among other data, its criteria a form as well. -/
def toForm (s : Scholarship) : Value :=
  .form formKind (s.toRecord.set "criteria" s.criteria.toForm)

end Scholarship

end Bursary
