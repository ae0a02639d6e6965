import Bursary.Intake.Criteria
import Bursary.Intake.Student
import Bursary.Verdict

/-! What a caller hands in: a loosely shaped value that has yet to be read, or a student,
criteria or scholarship that is ready and is taken as it is. -/

namespace Bursary

inductive StudentEntry where
  | ready (s : Student)
  | raw (v : Value)

def StudentEntry.read : StudentEntry → Except Failure Student
  | ready s => .ok s
  | raw v => Student.ofValue v

inductive CriteriaEntry where
  | ready (c : Criteria)
  | raw (v : Value)

def CriteriaEntry.read : CriteriaEntry → Except Failure Criteria
  | ready c => .ok c
  | raw v => Criteria.ofValue v

inductive ScholarshipEntry where
  | ready (s : Scholarship)
  | raw (v : Value)

def ScholarshipEntry.read : ScholarshipEntry → Except Failure Scholarship
  | ready s => .ok s
  | raw v => Scholarship.ofValue v

/-- The verdict on what a caller hands in. -/
def assess (student : StudentEntry) (criteria : CriteriaEntry) : Except Failure Verdict := do
  let s ← student.read
  let c ← criteria.read
  evaluate s c

def quickAssess (student : StudentEntry) (criteria : CriteriaEntry) : Except Failure Bool := do
  let s ← student.read
  let c ← criteria.read
  quickVerdict s c

end Bursary
