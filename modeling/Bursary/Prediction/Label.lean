import Bursary.Student

/-! The words in which a prediction is given. -/

namespace Bursary

/-- What a percentage advises. -/
inductive Advice where
  | strong | good | moderate | low | against
  deriving DecidableEq

namespace Advice

/-- The least percentage of each advice, highest first. -/
def bands : List (Int × Advice) := [(75, strong), (60, good), (40, moderate), (25, low)]

def ofPercentage (p : Int) : Advice :=
  ((bands.find? fun (least, _) => least ≤ p).map (·.2)).getD against

/-- The same for a percentage that need not be an integer. -/
def ofQuantity (q : Quantity) : Advice :=
  ((bands.find? fun (least, _) => (Quantity.whole least).le q).map (·.2)).getD against

def text : Advice → String
  | strong => "Strongly recommended! Your profile is an excellent match for this scholarship."
  | good => "Good match. You have a solid chance of approval with a complete application."
  | moderate =>
    "Moderate match. Consider strengthening your application with additional documentation."
  | low => "Low match. Review eligibility criteria carefully before applying."
  | against => "Not recommended. You may not meet key eligibility requirements."

end Advice

/-- What a probability is called. -/
inductive Level where
  | strong | good | moderate | weak
  deriving DecidableEq

namespace Level

/-- The least probability of each level, highest first. -/
def bands : List (Binary64 × Level) := [(0.75, strong), (0.60, good), (0.45, moderate)]

def ofProbability (p : Binary64) : Level :=
  ((bands.find? fun (least, _) => least.le p).map (·.2)).getD weak

def text : Level → String
  | strong => "Strong Match"
  | good => "Good Match"
  | moderate => "Moderate Match"
  | weak => "Weak Match"

end Level

/-- How much of the student is known. -/
inductive Confidence where
  | high | medium | low
  deriving DecidableEq

namespace Confidence

def of (s : Student) : Confidence :=
  if s.profileCompleted then high
  else if s.gwaProvided && s.incomeProvided then medium
  else low

def word : Confidence → String
  | high => "high"
  | medium => "medium"
  | low => "low"

end Confidence

end Bursary
