import Bursary.Form.Basic
import Bursary.Student

/-! Forms of students. -/

namespace Bursary.Form

def quantity (v : Value) : Checked Quantity := Quantity.real <$> number v

/-- Reads the fields of a student. -/
def student (r : Record) : Checked Student :=
  let d : Student := {}
  let flagOf (name : String) := field r name false flag
  Student.mk
    <$> field r "gwa" d.gwa number
    <*> flagOf "gwa_provided"
    <*> field r "year_level" d.yearLevel text
    <*> field r "college" d.college text
    <*> field r "course" d.course text
    <*> field r "major" d.major (optional text)
    <*> field r "units_enrolled" d.unitsEnrolled quantity
    <*> field r "units_passed" d.unitsPassed (optional number)
    <*> field r "annual_family_income" d.annualFamilyIncome quantity
    <*> flagOf "income_provided"
    <*> field r "st_bracket" d.stBracket (optional text)
    <*> field r "household_size" d.householdSize (optional count)
    <*> field r "province" d.province text
    <*> field r "citizenship" d.citizenship text
    <*> flagOf "has_existing_scholarship"
    <*> flagOf "has_disciplinary_action"
    <*> flagOf "has_thesis_grant"
    <*> flagOf "has_approved_thesis_outline"
    <*> flagOf "has_failing_grade"
    <*> flagOf "has_grade_of_4"
    <*> flagOf "has_incomplete_grade"
    <*> flagOf "is_graduating"
    <*> flagOf "profile_completed"
    <*> field r "custom_fields" d.customFields record

end Bursary.Form
