import Bursary.Model.Ranking
import Bursary.Report
import Bursary.Service.Request

/-! The responses of the matching service. -/

namespace Bursary

inductive Response where
  | answer (r : Record)
  /-- The request's form is filled in wrongly; what is wrong is sent back. -/
  | invalid (issues : List Issue) (echoed : List Value)
  /-- What the request asks for cannot be done. -/
  | refused (report : Record)
  /-- The body cannot be read. -/
  | unreadable
  | notFound
  | methodNotAllowed
  /-- Answering failed. -/
  | broken (message : String)

namespace Response

def status : Response → Nat
  | answer _ => 200
  | invalid .. => 422
  | refused _ => 400
  | unreadable => 400
  | notFound => 404
  | methodNotAllowed => 405
  | broken _ => 500

/-- Issues by their location, each with its reason. -/
def issueRows (issues : List Issue) : List (String × String) :=
  (issues.map fun i => (i.location, i.reason)).mergeSort fun a b =>
    a.1 < b.1 || (a.1 == b.1 && a.2 ≤ b.2)

def body : Response → Value
  | answer r => .record r
  | invalid issues _ =>
    .list ((issueRows issues).map fun (place, reason) => .list [.text place, .text reason])
  | refused report => .record [("detail", .record report)]
  | unreadable => .record [("detail", .text "There was an error parsing the body")]
  | notFound => .record [("detail", .text "Not Found")]
  | methodNotAllowed => .record [("detail", .text "Method Not Allowed")]
  | broken message => .record [("error", .text message)]

mutual

/-- Whether all numbers in a value are finite. -/
def isSendable : Value → Bool
  | .real x => x.isFinite
  | .list vs => areSendable vs
  | .record es => entriesAreSendable es
  | .keyed es => entriesAreSendable es
  | _ => true

def areSendable : List Value → Bool
  | [] => true
  | v :: vs => isSendable v && areSendable vs

def entriesAreSendable : List (String × Value) → Bool
  | [] => true
  | (_, v) :: es => isSendable v && entriesAreSendable es

end

/-- A response as it is sent, unless it holds a number that is not finite. -/
def delivered (r : Response) : Except Failure Response :=
  let echoed := match r with
    | invalid _ echoed => echoed
    | _ => []
  if isSendable r.body && areSendable echoed then .ok r else .error .unsendableNumber

/-- The response to a failure. -/
def ofFailure (f : Failure) : Response :=
  match f with
  | .negativeLimit _ | .notAnObject _ => refused (f.report?.getD [])
  | _ => broken f.message

/-- The response to a result. -/
def ofResult {α : Type} (toRecord : α → Record) : Except Failure α → Response
  | .ok a => answer (toRecord a)
  | .error f => ofFailure f

/-! ### Numbers are sent with few places -/

def rounded (places : Nat) (x : Binary64) : Value := .real (Decimal.roundTo places x)

def factorRecord (f : Factor Binary64) : Record := [
  ("factor", .text f.aspect.title), ("value", rounded 3 f.value),
  ("weight", rounded 3 f.weight), ("contribution", rounded 4 f.contribution),
  ("raw_contribution", rounded 4 f.raw), ("description", .text f.description),
  ("met", .flag f.isMet)]

def predictionRecord (p : Prediction) : Record :=
  (p.toRecord.set "probability" (rounded 4 p.probability)).set "factors"
    (.list (p.factors.map fun f => .record (factorRecord f)))

def matchRecord (m : Match) : Record :=
  (m.toRecord.set "prediction"
    ((m.prediction.map fun p => Value.record (predictionRecord p)).getD .null)).set
    "prediction_score" ((m.predictionScore.map (rounded 4)).getD .null)

def batchRecord (ms : List Match) : Record :=
  let eligible := ms.countP (·.isEligible)
  [("matches", .list (ms.map fun m => .record (matchRecord m))),
    ("count", .whole ms.length), ("eligible_count", .whole eligible),
    ("partial_count", .whole (ms.length - eligible))]

/-- The importance of features, with the scholarship that was asked for. -/
def importanceRecord (id : Option String) (r : ResolvedWeights) : Record := [
  ("scholarship_id", .ofText? id), ("trained", .flag r.trained),
  ("source", .text r.source.word), ("accuracy", (r.accuracy.map Value.real).getD .null),
  ("intercept", .real r.weights.intercept),
  ("importance", .list (r.weights.ranking.map fun f => .record f.toRecord))]

end Response

end Bursary
