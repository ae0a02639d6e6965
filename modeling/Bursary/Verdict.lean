import Bursary.Condition.Check
import Bursary.Rule.Check

/-! The verdict on a student: every check, the required ones that failed, and the share
that passed. The quick verdict stops at the first required condition that fails. -/

namespace Bursary

structure Verdict where
  passed : Bool
  /-- The percentage of checks that passed; 100 if there are none. -/
  score : Nat
  checks : List Check
  failedRequired : List Check
  total : Nat
  passedCount : Nat
  failedCount : Nat

namespace Verdict

/-- The percentage that `part` is of `total`, to the nearest integer. -/
def percentage (part total : Nat) : Nat := if total = 0 then 100 else roundDiv (100 * part) total

/-- The verdict over a list of checks. -/
def ofChecks (checks : List Check) : Verdict :=
  let failedRequired := checks.filter (·.blocks)
  let passedCount := checks.countP (·.passed)
  { passed := failedRequired.isEmpty
    score := percentage passedCount checks.length
    checks, failedRequired
    total := checks.length
    passedCount
    failedCount := checks.length - passedCount }

def toRecord (v : Verdict) : Record := [
  ("passed", .flag v.passed), ("score", .whole v.score),
  ("checks", .list (v.checks.map fun c => .record c.toRecord)),
  ("failed_required", .list (v.failedRequired.map fun c => .record c.toRecord)),
  ("summary", .record [
    ("total", .whole v.total), ("passed", .whole v.passedCount), ("failed", .whole v.failedCount),
    ("percentage", .whole v.score)])]

end Verdict

/-- All checks of a student, standard conditions first. -/
def allChecks (s : Student) (c : Criteria) : Except Failure (List Check) := do
  let standard ← Condition.checks s c Condition.all
  let own ← ruleChecks s c.rules c.unreadableRules
  return standard ++ own

def evaluate (s : Student) (c : Criteria) : Except Failure Verdict :=
  (allChecks s c).map Verdict.ofChecks

/-! ### The quick verdict -/

/-- Whether no required rule among the active ones fails. -/
def quickRules (s : Student) : List Rule → Except Failure Bool
  | [] => .ok true
  | r :: rs => do
    if r.isActive && r.importance = .required then
      let check ← r.check s
      if check.passed then quickRules s rs else return false
    else quickRules s rs

/-- Whether no unreadable rule is both active and required. -/
def quickUnreadable : List Record → Except Failure Bool
  | [] => .ok true
  | raw :: raws => do
    if Unreadable.isActive raw then
      let check ← Unreadable.check raw
      if check.importance = .required then return false else quickUnreadable raws
    else quickUnreadable raws

def quickVerdict (s : Student) (c : Criteria) : Except Failure Bool := do
  let standard := Condition.all.all fun cond =>
    cond.importance != .required || !cond.applies c || cond.holds s c
  if standard then
    let rules ← quickRules s c.rules
    if rules then quickUnreadable c.unreadableRules else return false
  else return false

end Bursary
