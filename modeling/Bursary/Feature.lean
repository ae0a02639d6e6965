/-! The features of a student with respect to a scholarship, in the order in which they
are weighed. -/

namespace Bursary

inductive Feature where
  | gwaScore | yearLevelMatch | incomeMatch | stBracketMatch | collegeMatch | courseMatch
  | citizenshipMatch | documentCompleteness | applicationTiming | eligibilityScore
  deriving DecidableEq

namespace Feature

def all : List Feature := [gwaScore, yearLevelMatch, incomeMatch, stBracketMatch, collegeMatch,
  courseMatch, citizenshipMatch, documentCompleteness, applicationTiming, eligibilityScore]

theorem mem_all (f : Feature) : f ∈ all := by cases f <;> decide

def name : Feature → String
  | gwaScore => "gwa_score"
  | yearLevelMatch => "year_level_match"
  | incomeMatch => "income_match"
  | stBracketMatch => "st_bracket_match"
  | collegeMatch => "college_match"
  | courseMatch => "course_match"
  | citizenshipMatch => "citizenship_match"
  | documentCompleteness => "document_completeness"
  | applicationTiming => "application_timing"
  | eligibilityScore => "eligibility_score"

/-- The spelling that stores of trained models use as well. -/
def camelName : Feature → String
  | gwaScore => "gwaScore"
  | yearLevelMatch => "yearLevelMatch"
  | incomeMatch => "incomeMatch"
  | stBracketMatch => "stBracketMatch"
  | collegeMatch => "collegeMatch"
  | courseMatch => "courseMatch"
  | citizenshipMatch => "citizenshipMatch"
  | documentCompleteness => "documentCompleteness"
  | applicationTiming => "applicationTiming"
  | eligibilityScore => "eligibilityScore"

/-- The feature that a key names in either spelling. -/
def ofKey? (key : String) : Option Feature := all.find? fun f => f.name == key || f.camelName == key

/-- The features that can only speak for a student. -/
def favourable : List Feature := [eligibilityScore, gwaScore, incomeMatch, citizenshipMatch]

end Feature

end Bursary
