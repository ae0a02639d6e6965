import Bursary.Features
import Bursary.Sorting
import Bursary.Weights

/-! The factors that explain a prediction. Each is an aspect of the student with a value in
the model's weighing; the factors stand in the order of the size of their contributions. -/

namespace Bursary

inductive Aspect where
  | eligibility | college | need | citizenship | grades | yearLevel | course | bracket | profile
  deriving DecidableEq

namespace Aspect

def all : List Aspect :=
  [eligibility, college, need, citizenship, grades, yearLevel, course, bracket, profile]

theorem mem_all (a : Aspect) : a ∈ all := by cases a <;> decide

def title : Aspect → String
  | eligibility => "Overall Eligibility"
  | college => "College"
  | need => "Financial Need"
  | citizenship => "Citizenship"
  | grades => "Academic Performance (GWA)"
  | yearLevel => "Year Level"
  | course => "Course/Major"
  | bracket => "ST Bracket"
  | profile => "Profile Completeness"

/-- The feature whose weight the aspect has. -/
def feature : Aspect → Feature
  | eligibility => .eligibilityScore
  | college => .collegeMatch
  | need => .incomeMatch
  | citizenship => .citizenshipMatch
  | grades => .gwaScore
  | yearLevel => .yearLevelMatch
  | course => .courseMatch
  | bracket => .stBracketMatch
  | profile => .documentCompleteness

section Value

open Arithmetic

variable {α : Type} [Arithmetic α]

/-- The grade average as a level, one half if the student gave none. -/
def gradesValue (s : Student) : α :=
  if s.gwaProvided then Features.gwaLevel s.gwa else const 0.5

/-- The cap that need is measured by where a scholarship has none. -/
def defaultCap : Binary64 := 500000

/-- Financial need: one for no income down to one half at the cap, nothing above it, one
half if income or cap are not known. -/
def needValue (income : Binary64) (cap : Option Binary64) : α :=
  match Criteria.bound cap with
  | none => const 0.5
  | some cap =>
    if income.isZero then const 0.5
    else if income.le cap then const 1 - measured income / measured cap * const 0.5
    else const 0

/-- The same for quantities, which are compared and divided exactly. -/
def needOf (income : Quantity) (cap : Option Quantity) : Except Failure Binary64 :=
  match cap.filter (!·.isZero) with
  | none => .ok 0.5
  | some cap =>
    if income.isZero then .ok 0.5
    else if income.le cap then do return 1 - (← income.dividedBy cap) * 0.5
    else .ok 0

/-- The need that brackets stand for. -/
def bracketNeeds : List (String × Rat) := [
  ("Full Discount with Stipend", 1),
  ("Full Discount", 0.9),
  ("PD80", 0.8),
  ("PD60", 0.6),
  ("PD40", 0.4),
  ("PD20", 0.2),
  ("No Discount", 0.1)]

def bracketNeed (bracket : Option String) : α :=
  const ((bracketNeeds.lookup (bracket.getD "")).getD 0.5)

def outcomeValue : Option Bool → α
  | none => const 0.5
  | some met => const (if met then 1 else 0)

def value (s : Student) (c : Criteria) (fit : Fit) : Aspect → α
  | eligibility => fit.ratio
  | college => outcomeValue fit.college
  | need => needValue s.income (some ((Criteria.bound c.maxIncome).getD defaultCap))
  | citizenship => const (if s.citizenship = Student.defaultCitizenship then 1 else 0.4)
  | grades => gradesValue s
  | yearLevel => outcomeValue fit.yearLevel
  | course => outcomeValue fit.course
  | bracket => if fit.stBracket = some true then const 1 else bracketNeed s.stBracket
  | profile => const (if s.profileCompleted then 1 else 0.7)

end Value

/-- Whether the student satisfies what is asked in this respect. -/
def isMet (s : Student) (c : Criteria) (fit : Fit) : Aspect → Bool
  | eligibility => fit.total ≤ 2 * fit.matched
  | college => fit.college != some false
  | need => ((Criteria.bound c.maxIncome).map (s.income.le ·)).getD true
  | citizenship => fit.citizenship != some false
  | grades => (c.gwaCap.map (s.gwa.le ·)).getD true
  | yearLevel => fit.yearLevel != some false
  | course => fit.course != some false
  | bracket => fit.stBracket != some false
  | profile => s.profileCompleted

/-! ### Descriptions -/

def orUnspecified (s : String) : String := if s.isEmpty then "Not specified" else s

def pesos (x : Binary64) : String := "₱" ++ Decimal.groupedText 0 x

def eligibilityText (fit : Fit) : String :=
  if fit.total = 0 then "No explicit criteria"
  else
    let percent := (fit.ratio * 100 : Binary64).roundToInt
    Decimal.natText fit.matched ++ "/" ++ Decimal.natText fit.total ++ " criteria met (" ++
      Quantity.intText Decimal.digits percent ++ "%)"

def needText (s : Student) (c : Criteria) : String :=
  match Criteria.bound c.maxIncome with
  | some cap => pesos s.income ++ " / " ++ pesos cap ++ " max"
  | none => pesos s.income ++ " annual income"

def gradesText (s : Student) (c : Criteria) : String :=
  if s.gwaProvided then
    "GWA of " ++ Decimal.fixedText 2 s.gwa ++
      match c.gwaCap with
      | some cap => " (requires ≤" ++ Decimal.generalText 6 cap ++ ")"
      | none => ""
  else "GWA not provided"

/-- Describes an outcome for `name`, by `unmet` if it is bad and by `free` if there is none. -/
def outcomeText (name met unmet free : String) : Option Bool → String
  | none => free
  | some true => name ++ " " ++ met
  | some false => unmet

def requirement (entries : List String) : String := "Requires: " ++ ", ".intercalate entries

def description (s : Student) (c : Criteria) (fit : Fit) : Aspect → String
  | eligibility => eligibilityText fit
  | college =>
    outcomeText s.college "is eligible" "College not in eligible list" "Open to all colleges"
      fit.college
  | need => needText s c
  | citizenship => orUnspecified s.citizenship
  | grades => gradesText s c
  | yearLevel =>
    outcomeText s.yearLevel "is eligible" (requirement c.yearLevels) (orUnspecified s.yearLevel)
      fit.yearLevel
  | course =>
    outcomeText s.course "matches" "Course not in list" "Open to all courses" fit.course
  | bracket =>
    let bracket := s.stBracket.getD ""
    outcomeText bracket "qualifies" (requirement c.stBrackets) (orUnspecified bracket)
      fit.stBracket
  | profile => if s.profileCompleted then "Profile complete" else "Profile incomplete"

end Aspect

/-- One row of an explanation. -/
structure Factor (α : Type) where
  aspect : Aspect
  value : α
  weight : α
  /-- The weighted value. -/
  raw : α
  /-- The weighted value as a share of the sizes of all of them. -/
  contribution : α
  description : String
  isMet : Bool

namespace Factor

open Arithmetic

variable {α : Type} [Arithmetic α]

/-- The share of `x` in `total`, nothing if there is no positive total. -/
def share (x total : α) : α := if lt (const 0) total then x / total else const 0

/-- The weighted value of an aspect. -/
def weighted (s : Student) (c : Criteria) (w : Weights α) (a : Aspect) : α :=
  a.value s c (Fit.of s c) * w.of a.feature

/-- The sizes of all weighted values together. -/
def totalSize (s : Student) (c : Criteria) (w : Weights α) : α :=
  sum (Aspect.all.map fun a => abs (weighted s c w a))

def of (s : Student) (c : Criteria) (w : Weights α) (a : Aspect) : Factor α :=
  let fit := Fit.of s c
  { aspect := a
    value := a.value s c fit
    weight := w.of a.feature
    raw := weighted s c w a
    contribution := share (weighted s c w a) (totalSize s c w)
    description := a.description s c fit
    isMet := a.isMet s c fit }

/-- Whether a factor weighs less than another. -/
def weighsLess (f g : Factor α) : Bool := lt (abs f.raw) (abs g.raw)

/-- The factors of a prediction, those that weigh most first. -/
def ranked (s : Student) (c : Criteria) (w : Weights α) : List (Factor α) :=
  Sorting.descending weighsLess (Aspect.all.map (of s c w))

def toRecord (f : Factor Binary64) : Record := [
  ("factor", .text f.aspect.title), ("value", .real f.value), ("weight", .real f.weight),
  ("raw_contribution", .real f.raw), ("contribution", .real f.contribution),
  ("description", .text f.description), ("met", .flag f.isMet)]

end Factor

end Bursary
