import Bursary.Form.Basic
import Bursary.Matching

/-! The requests of the matching service: its endpoints, and the forms of their bodies. -/

namespace Bursary

inductive Endpoint where
  | root | health | check | quickCheck | matchOne | matchBatch | importance | clearCache
  deriving DecidableEq

namespace Endpoint

def all : List Endpoint :=
  [root, health, check, quickCheck, matchOne, matchBatch, importance, clearCache]

def path : Endpoint → String
  | root => "/"
  | health => "/eligibility/health"
  | check => "/eligibility/check"
  | quickCheck => "/eligibility/quick-check"
  | matchOne => "/eligibility/match"
  | matchBatch => "/eligibility/match/batch"
  | importance => "/eligibility/models/importance"
  | clearCache => "/eligibility/models/cache/clear"

/-- The method that an endpoint answers to. -/
def method : Endpoint → String
  | root | health | importance => "GET"
  | check | quickCheck | matchOne | matchBatch | clearCache => "POST"

/-- A path without the slashes at its end; the root keeps its own. -/
def withoutSlashes (path : String) : String :=
  if path == "/" then path
  else String.ofList (path.toList.reverse.dropWhile (· == '/')).reverse

/-- The endpoint of a path; slashes at the end do not count. -/
def ofPath? (path : String) : Option Endpoint := all.find? (·.path == withoutSlashes path)

end Endpoint

/-- The body of a request. -/
inductive Body where
  | absent
  | text (s : String)
  | json (v : Value)

structure Request where
  method : String
  path : String
  params : List (String × String) := []
  body : Body := .absent

structure CheckRequest where
  student : Value
  criteria : Value

structure MatchRequest where
  student : Value
  scholarship : Value
  options : MatchOptions

structure BatchRequest where
  student : Value
  scholarships : List Value
  options : BatchOptions

namespace Form

def checkRequest (r : Record) : Checked CheckRequest :=
  CheckRequest.mk <$> required r "student" any <*> field r "criteria" (.record []) any

def matchOptions (r : Record) : Checked MatchOptions :=
  MatchOptions.mk
    <$> field r "include_prediction" true flag
    <*> field r "predict_ineligible" false flag

def matchRequest (r : Record) : Checked MatchRequest :=
  MatchRequest.mk <$> required r "student" any <*> required r "scholarship" any <*> matchOptions r

def batchOptions (r : Record) : Checked BatchOptions :=
  let limit (v : Value) := (count v).bind (countAtLeast 1)
  let score (v : Value) := ((number v).bind (atMost 100)).bind (atLeast 0)
  BatchOptions.mk
    <$> matchOptions r
    <*> field r "limit" none (optional limit)
    <*> field r "include_partial" true flag
    <*> field r "min_eligibility_score" 50 score

def batchRequest (r : Record) : Checked BatchRequest :=
  BatchRequest.mk
    <$> required r "student" any
    <*> field r "scholarships" [] (list any)
    <*> batchOptions r

end Form

end Bursary
