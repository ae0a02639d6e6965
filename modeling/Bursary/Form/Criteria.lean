import Bursary.Form.Basic
import Bursary.Criteria

/-! Forms of criteria, of their rules and of scholarships. -/

namespace Bursary.Form

/-- The test of a rule of a known kind. -/
def ruleTest (kind : Kind) (r : Record) : Checked RuleTest :=
  match kind with
  | .range => RuleTest.range <$> required r "operator" (choice RangeOperator.ofWord?)
      <*> field r "value" .null any
  | .boolean => RuleTest.boolean <$> required r "operator" (choice BooleanOperator.ofWord?)
      <*> field r "value" (.flag true) any
  | .list => RuleTest.list <$> required r "operator" (choice ListOperator.ofWord?)
      <*> field r "value" (.list []) any

/-- Reads the fields of a rule of a known kind. -/
def ruleOfKind (kind : Kind) (r : Record) : Checked Rule :=
  Rule.mk
    <$> required r "id" text
    <*> required r "name" text
    <*> field r "description" "" text
    <*> required r "student_field" text
    <*> field r "category" "custom" text
    <*> field r "importance" .required (choice Importance.ofWord?)
    <*> field r "is_active" true flag
    <*> field r "position" none (optional count)
    <*> ruleTest kind r

/-- Reads a rule; its kind decides which operators it may have. -/
def rule : Value → Checked Rule
  | .record r =>
    match Record.get? r "condition_type" with
    | none => .fault "union_tag_not_found"
    | some (.text word) =>
      match Kind.ofWord? word with
      | some kind => (ruleOfKind kind r).within word
      | none => .fault "union_tag_invalid"
    | some _ => .fault "union_tag_invalid"
  | .keyed _ | .form .. => .fault "union_tag_not_found"
  | _ => .fault "model_attributes_type"

/-- Reads the fields of criteria. -/
def criteria (r : Record) : Checked Criteria :=
  let numberOf (name : String) := field r name none (optional number)
  let countOf (name : String) := field r name none (optional count)
  let textsOf (name : String) := field r name [] (list text)
  let flagOf (name : String) := field r name false flag
  Criteria.mk
    <$> numberOf "max_gwa"
    <*> numberOf "min_gwa"
    <*> numberOf "min_units_enrolled"
    <*> numberOf "min_units_passed"
    <*> numberOf "max_annual_family_income"
    <*> numberOf "min_annual_family_income"
    <*> countOf "min_household_size"
    <*> countOf "max_household_size"
    <*> textsOf "eligible_year_levels"
    <*> textsOf "eligible_colleges"
    <*> textsOf "eligible_courses"
    <*> textsOf "eligible_majors"
    <*> textsOf "eligible_st_brackets"
    <*> textsOf "eligible_provinces"
    <*> textsOf "eligible_citizenship"
    <*> flagOf "must_not_have_other_scholarship"
    <*> flagOf "must_not_have_disciplinary_action"
    <*> flagOf "must_not_have_thesis_grant"
    <*> flagOf "requires_approved_thesis_outline"
    <*> flagOf "must_not_have_failing_grade"
    <*> flagOf "must_not_have_grade_of_4"
    <*> flagOf "must_not_have_incomplete_grade"
    <*> flagOf "must_be_graduating"
    <*> flagOf "filipino_only"
    <*> field r "custom_conditions" [] (list rule)
    <*> field r "invalid_custom_conditions" [] (list record)

/-- Reads criteria, or takes those that have been read. -/
def criteriaOf : Value → Checked Criteria
  | .record es => criteria es
  | .form kind fields => if kind == Criteria.formKind then criteria fields else .fault "model_type"
  | _ => .fault "model_type"

/-- Reads the fields of a scholarship. -/
def scholarship (r : Record) : Checked Scholarship :=
  Scholarship.mk
    <$> field r "id" none (optional text)
    <*> field r "name" "" text
    <*> field r "is_active" true flag
    <*> field r "criteria" {} criteriaOf

end Bursary.Form
