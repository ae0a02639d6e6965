import Bursary.Service.Response
import Bursary.Value.Json

/-! How the matching service answers. -/

namespace Bursary.Service

/-- A value that has to be a record. -/
def requireRecord (field : String) (v : Value) : Except Failure Value :=
  match v with
  | .record es => .ok (.record es)
  | _ => .error (.notAnObject field)

/-- A list of scholarships, from a position on, that have to be records. -/
def requireScholarships (position : Nat) : List Value → Except Failure (List ScholarshipEntry)
  | [] => .ok []
  | v :: vs => do
    let first ← requireRecord ("scholarships[" ++ Decimal.natText position ++ "]") v
    let rest ← requireScholarships (position + 1) vs
    return .raw first :: rest

def check (r : CheckRequest) : Except Failure Verdict := do
  let student ← requireRecord "student" r.student
  let criteria ← requireRecord "criteria" r.criteria
  assess (.raw student) (.raw criteria)

def quickCheck (r : CheckRequest) : Except Failure Bool := do
  let student ← requireRecord "student" r.student
  let criteria ← requireRecord "criteria" r.criteria
  quickAssess (.raw student) (.raw criteria)

def matchOne (r : MatchRequest) : Provision Match := do
  let student ← requireRecord "student" r.student
  let scholarship ← requireRecord "scholarship" r.scholarship
  let s ← Student.ofValue student
  let offered ← Scholarship.ofValue scholarship
  Matching.matchOne s offered r.options

def matchBatch (r : BatchRequest) : Provision (List Match) := do
  let student ← requireRecord "student" r.student
  let scholarships ← requireScholarships 0 r.scholarships
  Matching.batch (.raw student) scholarships r.options

/-! ### Bodies -/

/-- The text of a body without a mark of its byte order. -/
def unmarked (s : String) : String :=
  match s.toList with
  | '\ufeff' :: rest => String.ofList rest
  | _ => s

/-- The fields of a form in a body, or the response to a body without them. -/
def formFields (v : Value) : Except Response Record :=
  match v with
  | .null => .error (.invalid [⟨["body"], "missing"⟩] [])
  | .record es => .ok es
  | v => .error (.invalid [⟨["body"], "model_attributes_type"⟩] [v])

def bodyFields : Body → Except Response Record
  | .absent => formFields .null
  | .json v => formFields v
  | .text s =>
    if s.isEmpty then formFields .null
    else
      match Json.read (unmarked s) with
      | .ok v => formFields v
      | .error (.invalid position) =>
        .error (.invalid [⟨["body", Decimal.natText position], "json_invalid"⟩] [])
      | .error _ => .error .unreadable

/-- What is wrong in a body: the value of a field, or all of the body if the field is
missing. -/
def faultyPart (r : Record) (issue : Issue) : Value :=
  match issue.path with
  | [name] => (r.get? name).getD (.record r)
  | _ => .record r

/-- Reads the form in a body and answers it. -/
def withForm {α : Type} (body : Body) (form : Record → Checked α)
    (reply : α → StateM Provider Response) : StateM Provider Response :=
  match bodyFields body with
  | .error response => pure response
  | .ok r =>
    match form r with
    | .faulty issues =>
      pure (.invalid (issues.map (Issue.within "body")) (issues.map (faultyPart r)))
    | .ok a => reply a

/-! ### Endpoints -/

def answerAt (e : Endpoint) (r : Request) : StateM Provider Response :=
  match e with
  | .root => pure (.answer [("status", .text "ok"), ("service", .text "eligibility")])
  | .health =>
    pure (.answer
      [("status", .text "ok"), ("engine", .text "eligibility"), ("version", .text "1.0.0")])
  | .check => withForm r.body Form.checkRequest fun form =>
      pure (.ofResult Verdict.toRecord (check form))
  | .quickCheck => withForm r.body Form.checkRequest fun form =>
      pure (.ofResult (fun eligible => [("eligible", .flag eligible)]) (quickCheck form))
  | .matchOne => withForm r.body Form.matchRequest fun form =>
      return .ofResult Response.matchRecord (← (matchOne form).run)
  | .matchBatch => withForm r.body Form.batchRequest fun form =>
      return .ofResult Response.batchRecord (← (matchBatch form).run)
  | .importance => do
    let id := r.params.lookup "scholarship_id"
    return .ofResult (Response.importanceRecord id) (← (Provision.resolve id).run)
  | .clearCache => do
    modify Provider.clear
    return .answer [("status", .text "ok"), ("cleared", .flag true)]

/-- Answers a request. -/
def answer (r : Request) : StateM Provider Response :=
  match Endpoint.ofPath? r.path with
  | none => pure .notFound
  | some e => if r.method == e.method then answerAt e r else pure .methodNotAllowed

/-- Answers requests one after the other. -/
def answers : List Request → StateM Provider (List Response)
  | [] => return []
  | r :: rs => return (← answer r) :: (← answers rs)

end Bursary.Service
