import Bursary.Canonical
import Bursary.Student

/-! Students from loosely shaped records. The profile stands at the top or under
`studentProfile`; several keys have an older spelling. -/

namespace Bursary.Student

/-- The record that holds the profile. -/
def profile (raw : Value) : Record :=
  let data := raw.toRecord
  ((data.get "studentProfile").record?).getD data

/-- An amount, a plain zero if it is not given or zero. -/
def orZero (amount : Option Binary64) : Quantity :=
  .real ((amount.filter (!·.isZero)).getD 0)

/-- The name after canonical spelling, or `fallback` if it is not given or blank. -/
def nameOr (table : Canonical.Table) (fallback : String) (v : Value) : Except Failure String := do
  let name ← Canonical.nameOf? table v
  return match name with
    | some s => if s.isEmpty then fallback else s
    | none => fallback

/-- The text of a value, or `fallback` if it is blank. -/
def textOr (fallback : String) (v : Value) : Except Failure String := do
  let s ← v.toText
  return if s.isEmpty then fallback else s

/-- The province, or the home town, or the province of the home address. -/
def provinceOf (data : Record) : Value :=
  let stated := data.firstTruthy ["provinceOfOrigin", "hometown"]
  if stated.isTruthy then stated else (data.get "homeAddress").toRecord.get "province"

/-- Reads a student. A zero income counts as not given, like an absent one. -/
def ofValue (raw : Value) : Except Failure Student := do
  let data := profile raw
  let gwa := (data.get "gwa").amount?
  let income := (data.first ["familyAnnualIncome", "annualFamilyIncome"]).amount?
  let flag (keys : List String) : Bool := (data.first keys).toFlag
  let yearLevel ← nameOr Canonical.yearLevels defaultYearLevel
    (data.firstTruthy ["classification", "yearLevel"])
  let college ← nameOr Canonical.colleges "" (data.get "college")
  let course ← (data.get "course").toText
  let major ← (data.get "major").toText
  let stBracket ← Canonical.nameOf? Canonical.brackets (data.get "stBracket")
  let province ← (provinceOf data).toText
  let citizenship ← textOr defaultCitizenship (data.get "citizenship")
  return {
    gwa := gwa.getD worstGwa
    gwaProvided := gwa.isSome
    yearLevel, college, course
    major := if major.isEmpty then none else some major
    unitsEnrolled := orZero (data.get "unitsEnrolled").amount?
    unitsPassed := (data.get "unitsPassed").amount?
    annualFamilyIncome := orZero income
    incomeProvided := (income.filter (!·.isZero)).isSome
    stBracket
    householdSize := (data.first ["householdSize", "familySize"]).count?
    province, citizenship
    hasExistingScholarship :=
      flag ["hasExistingScholarship", "hasOtherScholarship", "isScholarshipRecipient"]
    hasDisciplinaryAction := flag ["hasDisciplinaryAction"]
    hasThesisGrant := flag ["hasThesisGrant"]
    hasApprovedThesisOutline := flag ["hasApprovedThesisOutline", "hasApprovedThesis"]
    hasFailingGrade := flag ["hasFailingGrade", "hasGradeOf5"]
    hasGradeOf4 := flag ["hasGradeOf4", "hasConditionalGrade"]
    hasIncompleteGrade := flag ["hasIncompleteGrade", "hasINC"]
    isGraduating := flag ["isGraduating", "graduatingThisSemester"]
    profileCompleted := flag ["profileCompleted"]
    customFields := (data.get "customFields").toRecord }

end Bursary.Student
