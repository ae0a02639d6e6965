import Bursary.Arithmetic
import Bursary.Condition.Basic

/-! How a student fits the criteria that are scored. -/

namespace Bursary

/-- Whether each scored criterion is met; none if it restricts nobody. -/
structure Fit where
  gwa : Option Bool
  income : Option Bool
  yearLevel : Option Bool
  college : Option Bool
  course : Option Bool
  stBracket : Option Bool
  citizenship : Option Bool
  deriving DecidableEq

namespace Fit

/-- The outcome of a standard condition, if it applies. -/
def ofCondition (cond : Condition) (s : Student) (c : Criteria) : Option Bool :=
  if cond.applies c then some (cond.holds s c) else none

/-- The grade average that is scored, a middling one if the student gave none. -/
def scoredGwa (s : Student) : Binary64 := if s.gwaProvided then s.gwa else 2.5

def of (s : Student) (c : Criteria) : Fit where
  gwa := c.gwaCap.map ((scoredGwa s).le ·)
  income := (Criteria.bound c.maxIncome).map (s.income.le ·)
  yearLevel := ofCondition .yearLevel s c
  college := ofCondition .college s c
  course := ofCondition .course s c
  stBracket := ofCondition .stBracket s c
  citizenship := ofCondition .citizenship s c

/-- The outcomes of those counted criteria that restrict somebody. -/
def counted (fit : Fit) : List Bool :=
  [fit.gwa, fit.income, fit.yearLevel, fit.college, fit.course].filterMap id

def matched (fit : Fit) : Nat := fit.counted.countP id

def total (fit : Fit) : Nat := fit.counted.length

/-- The share of counted criteria that are met, one half if there are none. -/
def ratio {α : Type} [Arithmetic α] (fit : Fit) : α :=
  if fit.total = 0 then Arithmetic.const 0.5
  else Arithmetic.const fit.matched / Arithmetic.const fit.total

def toRecord (fit : Fit) : Record :=
  let outcome (x : Option Bool) : Value := (x.map Value.flag).getD .null
  [("gwa", outcome fit.gwa), ("income", outcome fit.income),
    ("year_level", outcome fit.yearLevel), ("college", outcome fit.college),
    ("course", outcome fit.course), ("st_bracket", outcome fit.stBracket),
    ("citizenship", outcome fit.citizenship)]

end Fit

end Bursary
