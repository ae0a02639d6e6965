import Bursary.Intake.Entry
import Bursary.Model.Provider

/-! Matching a student with scholarships. A match is full if the student is eligible; a batch
may keep others as partial matches. Full matches come first. -/

namespace Bursary

inductive MatchKind where
  | full | partly
  deriving DecidableEq

def MatchKind.word : MatchKind → String
  | full => "full"
  | partly => "partial"

structure Match where
  scholarshipId : Option String
  scholarshipName : String
  verdict : Verdict
  prediction : Option Prediction
  kind : Option MatchKind

namespace Match

def isEligible (m : Match) : Bool := m.verdict.passed

def predictionScore (m : Match) : Option Binary64 := m.prediction.map (·.probability)

/-- A line on every required check that failed. -/
def failedCriteria (m : Match) : List String := m.verdict.failedRequired.map Check.summary

def toRecord (m : Match) : Record := [
  ("scholarship_id", .ofText? m.scholarshipId), ("scholarship_name", .text m.scholarshipName),
  ("is_eligible", .flag m.isEligible), ("eligibility", .record m.verdict.toRecord),
  ("prediction", (m.prediction.map fun p => Value.record p.toRecord).getD .null),
  ("prediction_score", (m.predictionScore.map Value.real).getD .null),
  ("failed_criteria", .list (m.failedCriteria.map Value.text)),
  ("match_type", .ofText? (m.kind.map MatchKind.word))]

end Match

structure MatchOptions where
  includePrediction : Bool := true
  /-- Whether to predict for students who are not eligible too. -/
  predictIneligible : Bool := false

structure BatchOptions extends MatchOptions where
  limit : Option Int := none
  includePartial : Bool := true
  /-- The least score of a partial match. -/
  minScore : Binary64 := 50

namespace Matching

def predict (s : Student) (scholarship : Scholarship) : Provision Prediction := do
  let r ← Provision.resolve scholarship.id
  return .of s scholarship.criteria r.weights r.trained r.source
    (Prediction.conventionFor r.trained)

/-- Whether a match is to have a prediction. -/
def wantsPrediction (o : MatchOptions) (v : Verdict) : Bool :=
  o.includePrediction && (v.passed || o.predictIneligible)

/-- Matches a student with one scholarship. -/
def matchOne (s : Student) (scholarship : Scholarship) (o : MatchOptions) : Provision Match := do
  let verdict ← evaluate s scholarship.criteria
  let prediction ←
    if wantsPrediction o verdict then some <$> predict s scholarship else pure none
  return {
    scholarshipId := scholarship.id, scholarshipName := scholarship.name, verdict, prediction
    kind := if verdict.passed then some .full else none }

/-- Whether a batch keeps a match. -/
def keeps (o : BatchOptions) (m : Match) : Bool :=
  m.isEligible || (o.includePartial && !(Binary64.ofNat m.verdict.score).lt o.minScore)

/-- A match as a batch shows it. -/
def inBatch (m : Match) : Match := { m with kind := some (if m.isEligible then .full else .partly) }

/-- Matches a student with the active scholarships of a list, one after the other, and keeps
what a batch keeps. -/
def collect (s : Student) (o : BatchOptions) : List ScholarshipEntry → Provision (List Match)
  | [] => return []
  | entry :: rest => do
    let scholarship ← entry.read
    if scholarship.isActive then
      let m ← matchOne s scholarship o.toMatchOptions
      let ms ← collect s o rest
      return if keeps o m then inBatch m :: ms else ms
    else collect s o rest

/-- What a full match is ranked by. -/
def fullRank (m : Match) : Binary64 := m.predictionScore.getD 0

/-- Full matches by prediction, then partial ones by score, highest first; matches of one
rank keep their order. -/
def ranked (ms : List Match) : List Match :=
  (ms.filter (·.isEligible)).mergeSort (fun a b => (fullRank b).le (fullRank a)) ++
    (ms.filter (!·.isEligible)).mergeSort (fun a b => b.verdict.score ≤ a.verdict.score)

/-- At most as many as the limit says. -/
def cut (limit : Option Int) (ms : List Match) : List Match :=
  match limit with
  | some n => ms.take n.toNat
  | none => ms

/-- Refuses a negative limit. -/
def checkLimit : Option Int → Except Failure Unit
  | some n => if n < 0 then .error (.negativeLimit n) else .ok ()
  | none => .ok ()

/-- Matches a student with many scholarships. -/
def batch (student : StudentEntry) (scholarships : List ScholarshipEntry) (o : BatchOptions) :
    Provision (List Match) := do
  checkLimit o.limit
  let s ← student.read
  let ms ← collect s o scholarships
  return cut o.limit (ranked ms)

end Matching

end Bursary
