import Bursary.Prediction.Score

/-! Stores of trained models. -/

namespace Bursary

/-- What a store does when it is asked for a model. -/
inductive Reply where
  /-- It answers with a model, or with nothing that counts as one. -/
  | answer (v : Value)
  /-- It fails. -/
  | refusal
  /-- It does not answer in time. -/
  | silence

/-- A store with models for single scholarships and one for all of them. -/
structure Registry where
  scholarshipModel : String → Reply
  globalModel : Reply

/-- What asking a store for the model of a scholarship ends in. -/
inductive Fetched where
  | model (stored : Value) (source : Source)
  | nothing
  | failed
  /-- The store has not answered in time, and goes on being waited for. -/
  | late

def Fetched.isLate : Fetched → Bool
  | late => true
  | _ => false

namespace Registry

def fetchGlobal (r : Registry) : Fetched :=
  match r.globalModel with
  | .answer v => if v.isTruthy then .model v .global else .nothing
  | .refusal => .failed
  | .silence => .late

/-- Asks for the model of a scholarship and then for the global one, and counts the questions. -/
def fetch (r : Registry) : Option String → Fetched × Nat
  | none => (r.fetchGlobal, 1)
  | some id =>
    match r.scholarshipModel id with
    | .answer v => if v.isTruthy then (.model v .scholarship, 1) else (r.fetchGlobal, 2)
    | .refusal => (.failed, 1)
    | .silence => (.late, 1)

end Registry

/-- What a store of models in memory does at present. -/
inductive StoreState where
  | working | failing | stalled
  deriving DecidableEq

/-- A store of models in memory, by the ids of their scholarships. -/
structure ModelStore where
  models : Record := []
  global : Value := .null
  state : StoreState := .working

namespace ModelStore

def setModel (m : ModelStore) (id : String) (model : Value) : ModelStore :=
  { m with models := m.models.set id model }

def toRegistry (m : ModelStore) : Registry :=
  match m.state with
  | .working => ⟨fun id => .answer (m.models.get id), .answer m.global⟩
  | .failing => ⟨fun _ => .refusal, .refusal⟩
  | .stalled => ⟨fun _ => .silence, .silence⟩

end ModelStore

end Bursary
