import Bursary.Feature
import Bursary.Fit

/-! The features of a student with respect to criteria, as numbers of the unit interval. -/

namespace Bursary

/-- How the outcome of a criterion becomes a number. -/
inductive Convention where
  /-- Met or not. -/
  | binary
  /-- A narrow band below one, in which trained models are fitted. -/
  | graded
  deriving DecidableEq

namespace Convention

def all : List Convention := [binary, graded]

def word : Convention → String
  | binary => "binary"
  | graded => "graded"

def ofWord? (s : String) : Option Convention := all.find? (·.word == s)

end Convention

namespace Features

open Arithmetic

variable {α : Type} [Arithmetic α]

def binary : Option Bool → α
  | some false => const 0
  | _ => const 1

def graded : Option Bool → α
  | none => const 0.95
  | some true => const 1
  | some false => const 0.85

/-- An income within the cap counts from 0.9 at the cap to 1.0 at nothing; one that is not
given counts as one above it. -/
def gradedIncome (s : Student) (c : Criteria) : α :=
  match Criteria.bound c.maxIncome with
  | none => const 0.95
  | some cap =>
    if s.income.isZero then const 0.85
    else if s.income.le cap then
      const 0.9 + (const 1 - measured s.income / measured cap) * const 0.1
    else const 0.85

/-- Scores of accepted brackets. -/
def bracketScores : List (String × Rat) := [
  ("Full Discount with Stipend", 1),
  ("Full Discount", 0.95),
  ("PD80", 0.9),
  ("PD60", 0.85),
  ("PD40", 0.85),
  ("PD20", 0.85),
  ("No Discount", 0.85)]

def gradedBracket (s : Student) : Option Bool → α
  | some true => const ((bracketScores.lookup (s.stBracket.getD "")).getD 1)
  | outcome => graded outcome

/-- The grade average on a scale from 0 for the worst to 1 for the best. -/
def gwaLevel (gwa : Binary64) : α :=
  clamp ((measured Student.worstGwa - measured gwa) / const 4)

def ofBinary (s : Student) (fit : Fit) : Feature → α
  | .gwaScore => gwaLevel (Fit.scoredGwa s)
  | .yearLevelMatch => binary fit.yearLevel
  | .incomeMatch => binary fit.income
  | .stBracketMatch => binary fit.stBracket
  | .collegeMatch => binary fit.college
  | .courseMatch => binary fit.course
  | .citizenshipMatch => binary fit.citizenship
  | .documentCompleteness => const (if s.profileCompleted then 1 else 0.7)
  | .applicationTiming => const 0.9
  | .eligibilityScore => clamp fit.ratio

def ofGraded (s : Student) (c : Criteria) (fit : Fit) : Feature → α
  | .gwaScore => gwaLevel (Fit.scoredGwa s)
  | .yearLevelMatch => graded fit.yearLevel
  | .incomeMatch => clamp (gradedIncome s c)
  | .stBracketMatch => gradedBracket s fit.stBracket
  | .collegeMatch => graded fit.college
  | .courseMatch => graded fit.course
  | .citizenshipMatch => graded fit.citizenship
  | .documentCompleteness => const (if s.profileCompleted then 1 else 0.9)
  | .applicationTiming => const 0.9
  | .eligibilityScore => clamp fit.ratio

def of (convention : Convention) (s : Student) (c : Criteria) : Feature → α :=
  match convention with
  | .binary => ofBinary s (Fit.of s c)
  | .graded => ofGraded s c (Fit.of s c)

def toRecord (convention : Convention) (x : Feature → Binary64) : Record :=
  Feature.all.map (fun f => (f.name, Value.real (x f))) ++ [("convention", .text convention.word)]

end Features

end Bursary
