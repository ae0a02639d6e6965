import Bursary.Binary64.Logistic
import Bursary.Prediction.Factor
import Bursary.Prediction.Label

/-! Predictions of how likely an application is to be approved. -/

namespace Bursary

/-- Where the weights of a prediction come from. -/
inductive Source where
  | scholarship | global | fallback
  deriving DecidableEq

namespace Source

def all : List Source := [scholarship, global, fallback]

def word : Source → String
  | scholarship => "scholarship"
  | global => "global"
  | fallback => "fallback"

def ofWord? (s : String) : Option Source := all.find? (·.word == s)

end Source

structure Prediction where
  probability : Binary64
  percentage : Int
  confidence : Confidence
  factors : List (Factor Binary64)
  advice : Advice
  level : Level
  trained : Bool
  source : Source

namespace Prediction

/-- The distance that probabilities keep from zero and one. -/
def margin : Binary64 := 1e-9

/-- The probability for a linear score, never zero or one. -/
def probabilityOf (score : Binary64) : Binary64 :=
  let raw := score.logistic
  let raised := if raw.lt margin then margin else raw
  if (1 - margin).lt raised then 1 - margin else raised

def percentageOf (probability : Binary64) : Int :=
  min (max (probability * 100).roundToInt 0) 100

/-- The prediction that weights make in a convention. -/
def of (s : Student) (c : Criteria) (w : Weights Binary64) (trained : Bool) (source : Source)
    (convention : Convention) : Prediction :=
  let probability := probabilityOf (w.linearScore (Features.of convention s c))
  let percentage := percentageOf probability
  { probability, percentage
    confidence := .of s
    factors := Factor.ranked s c w
    advice := .ofPercentage percentage
    level := .ofProbability probability
    trained, source }

/-- Trained weights are fitted in the graded convention. -/
def conventionFor (trained : Bool) : Convention := if trained then .graded else .binary

def toRecord (p : Prediction) : Record := [
  ("probability", .real p.probability),
  ("percentage_score", .whole p.percentage),
  ("confidence", .text p.confidence.word),
  ("factors", .list (p.factors.map fun f => .record f.toRecord)),
  ("recommendation", .text p.advice.text),
  ("match_level", .text p.level.text),
  ("trained_model", .flag p.trained),
  ("model_source", .text p.source.word)]

end Prediction

end Bursary
