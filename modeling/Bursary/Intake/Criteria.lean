import Bursary.Form.Criteria
import Bursary.Intake.Rule

/-! Criteria and scholarships from loosely shaped records, in which several keys have an
older spelling. -/

namespace Bursary

namespace Criteria

/-- Reads the entries of criteria. -/
def ofRecord (data : Record) : Except Failure Criteria := do
  let amount (key : String) := (data.get key).amount?
  let flag (keys : List String) : Bool := (data.firstTruthy keys).toFlag
  let drafts ← RuleDraft.ofList (data.get "customConditions")
  let yearLevels ← (data.firstTruthy
    ["eligibleClassifications", "requiredYearLevels", "eligibleYearLevels"]).toTexts
  let colleges ← (data.get "eligibleColleges").toTexts
  let courses ← (data.get "eligibleCourses").toTexts
  let majors ← (data.get "eligibleMajors").toTexts
  let stBrackets ← (data.firstTruthy ["eligibleSTBrackets", "requiredSTBrackets"]).toTexts
  let provinces ← (data.get "eligibleProvinces").toTexts
  let citizenships ← (data.get "eligibleCitizenship").toTexts
  return {
    maxGwa := amount "maxGWA"
    minGwa := amount "minGWA"
    minUnitsEnrolled := amount "minUnitsEnrolled"
    minUnitsPassed := amount "minUnitsPassed"
    maxIncome := amount "maxAnnualFamilyIncome"
    minIncome := amount "minAnnualFamilyIncome"
    minHouseholdSize := (data.get "minHouseholdSize").count?
    maxHouseholdSize := (data.get "maxHouseholdSize").count?
    yearLevels, colleges, courses, majors, stBrackets, provinces, citizenships
    noOtherScholarship := flag ["mustNotHaveOtherScholarship", "noExistingScholarship"]
    noDisciplinaryAction := flag ["mustNotHaveDisciplinaryAction", "noDisciplinaryRecord"]
    noThesisGrant := flag ["mustNotHaveThesisGrant", "noExistingThesisGrant"]
    approvedThesisOutline :=
      flag ["requiresApprovedThesisOutline", "requiresApprovedThesis", "requireThesisApproval"]
    noFailingGrade := flag ["mustNotHaveFailingGrade"]
    noGradeOf4 := flag ["mustNotHaveGradeOf4"]
    noIncompleteGrade := flag ["mustNotHaveIncompleteGrade"]
    graduating := flag ["mustBeGraduating"]
    filipinoOnly := flag ["isFilipinoOnly", "filipinoOnly"]
    rules := drafts.filterMap RuleDraft.toRule?
    unreadableRules := (drafts.filter (·.toRule?.isNone)).map RuleDraft.toRecord }

/-- Reads criteria. A form of criteria is taken as it is; what is no record restricts
nobody. -/
def ofValue : Value → Except Failure Criteria
  | .form kind fields =>
    if kind == formKind then (Form.criteria fields).toExcept else ofRecord []
  | raw => ofRecord raw.toRecord

end Criteria

namespace Scholarship

/-- Whether a scholarship is open: by its flag, else by its status, else yes. -/
def openness (data : Record) : Except Failure Bool :=
  let isActive := data.get "isActive"
  let status := data.get "status"
  if !isActive.isNull then .ok isActive.toFlag
  else if status.isNull then .ok true
  else status.asText.map fun s => ["active", "open"].contains (Text.lower s)

/-- Reads a scholarship. -/
def ofValue (raw : Value) : Except Failure Scholarship := do
  let data := raw.toRecord
  let isActive ← openness data
  let id ← (data.first ["id", "_id"]).toText
  let name ← (data.first ["name", "title"]).toText
  let criteria ← Criteria.ofValue (data.first ["eligibilityCriteria", "criteria"])
  return { id := if id.isEmpty then none else some id, name, isActive, criteria }

end Scholarship

end Bursary
