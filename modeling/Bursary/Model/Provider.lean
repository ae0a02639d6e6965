import Bursary.Model.Accepted
import Bursary.Model.Cache
import Bursary.Model.Registry
import Bursary.Settings

/-! The provider of weights. It looks in its cache, then asks the store of trained models, and
falls back on neutral weights; only the weights of trained models are cached. A few workers ask
the store. One that gets no answer in time goes on waiting for it, and a request that finds all of
them waiting is put in a queue: nobody asks the store before its time is up, and so it gets the
neutral weights as well. -/

namespace Bursary

/-- Weights with what is known of their model. -/
structure ResolvedWeights where
  weights : Weights Binary64
  trained : Bool
  source : Source
  accuracy : Option Binary64 := none
  modelId : Option String := none

namespace ResolvedWeights

/-- The neutral weights. -/
def fallback : ResolvedWeights := { weights := .neutral, trained := false, source := .fallback }

/-- The weights of an accepted model. -/
def ofModel (model : Record) (source : Source) : Except Failure ResolvedWeights := do
  let modelId ← (model.firstTruthy ["id", "_id"]).textIfGiven
  return {
    weights := Model.weights model, trained := true, source
    accuracy := some (Model.accuracy model), modelId }

def toRecord (r : ResolvedWeights) : Record := [
  ("weights", .record r.weights.toRecord), ("trained", .flag r.trained),
  ("source", .text r.source.word), ("accuracy", (r.accuracy.map Value.real).getD .null),
  ("model_id", .ofText? r.modelId)]

end ResolvedWeights

structure Provider where
  settings : Settings
  registry : Option Registry
  cache : Cache Binary64 ResolvedWeights
  /-- The time in seconds. -/
  now : Binary64
  /-- How often the store has been asked. -/
  calls : Nat
  /-- How many workers wait for a store that has not answered in time. -/
  waiting : Nat := 0
  /-- The requests that no worker has taken up, for which scholarship each. -/
  queue : List (Option String) := []

/-- A step that uses the provider and may fail. -/
abbrev Provision := ExceptT Failure (StateM Provider)

namespace Provider

/-- A provider that has not been used. -/
def fresh (settings : Settings) (registry : Option Registry) : Provider :=
  { settings, registry, cache := { lifetime := settings.cacheLifetime }, now := 0, calls := 0 }

/-- The scholarship that is asked for; an empty id asks for none. -/
def asked (id : Option String) : Option String := id.filter (!·.isEmpty)

/-- The key of the weights that are asked for without a scholarship. -/
def globalKey : String := "global"

def cacheKey (id : Option String) : String := (asked id).getD globalKey

/-- How many workers a provider has. -/
def workers : Nat := 4

/-- The weights that a fetched model gives, neutral ones if it is not accepted. -/
def settle (settings : Settings) : Fetched → Except Failure ResolvedWeights
  | .model stored source =>
    match Model.accepted? stored (.real settings.minAccuracy) with
    | some model => ResolvedWeights.ofModel model source
    | none => .ok .fallback
  | .nothing | .failed | .late => .ok .fallback

/-- Keeps the weights of a trained model. -/
def keep (p : Provider) (key : String) (r : ResolvedWeights) : Provider :=
  if r.trained then { p with cache := p.cache.set p.now key r } else p

/-- What a worker brings from the store; it goes on waiting if the store is late. -/
def fetch (p : Provider) (registry : Registry) (id : Option String) : Fetched × Provider :=
  let (fetched, questions) := registry.fetch id
  (fetched, { p with
    calls := p.calls + questions
    waiting := if fetched.isLate then p.waiting + 1 else p.waiting })

/-- Has a worker ask the store and keeps what it gives, or queues the request if there is none. -/
def ask (p : Provider) (registry : Registry) (id : Option String) :
    Except Failure ResolvedWeights × Provider :=
  if p.waiting < workers then
    let (fetched, p) := p.fetch registry (asked id)
    match settle p.settings fetched with
    | .ok r => (.ok r, p.keep (cacheKey id) r)
    | .error f => (.error f, p)
  else (.ok .fallback, { p with queue := p.queue ++ [asked id] })

/-- The weights for a scholarship, or for all of them. -/
def resolve (p : Provider) (id : Option String) : Except Failure ResolvedWeights × Provider :=
  let (cached, cache) := p.cache.get p.now (cacheKey id)
  let p := { p with cache }
  match cached, p.registry with
  | some r, _ => (.ok r, p)
  | none, none => (.ok .fallback, p)
  | none, some registry => p.ask registry id

def isCached (p : Provider) (id : Option String) : Bool × Provider :=
  let (found, cache) := p.cache.isCached p.now (cacheKey id)
  (found, { p with cache })

def clear (p : Provider) : Provider := { p with cache := p.cache.clear }

def advance (p : Provider) (seconds : Binary64) : Provider := { p with now := p.now + seconds }

/-- A worker that is free goes through the queue, until it is empty or the store is late. Nobody
waits any more for what it brings, so nothing of it is kept. -/
def serve (p : Provider) (registry : Registry) : List (Option String) → Provider
  | [] => { p with queue := [] }
  | id :: rest =>
    let (fetched, p) := p.fetch registry id
    if fetched.isLate then { p with queue := rest } else p.serve registry rest

/-- The store is done with a request that was out of time, after some more questions about it. -/
def release (p : Provider) (questions : Nat) : Provider :=
  if p.waiting = 0 then p
  else
    let p := { p with waiting := p.waiting - 1, calls := p.calls + questions }
    match p.registry with
    | none => p
    | some registry => p.serve registry p.queue

end Provider

/-- The weights for a scholarship, as a step. -/
def Provision.resolve (id : Option String) : Provision ResolvedWeights := fun p => p.resolve id

end Bursary
