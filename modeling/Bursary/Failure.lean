/-! Why a request cannot be answered. -/

namespace Bursary

/-- One field of a form that was filled in wrongly. -/
structure Issue where
  /-- The field's name, after the names of the parts that hold it. -/
  path : List String
  reason : String
  deriving DecidableEq

namespace Issue

/-- The issue as seen from outside the part `name`. -/
def within (name : String) (issue : Issue) : Issue := { issue with path := name :: issue.path }

def location (issue : Issue) : String := ".".intercalate issue.path

end Issue

inductive Failure where
  /-- An integer has too many digits to be written out. -/
  | tooManyDigits
  /-- Lists and records are nested too deeply to be written out. -/
  | tooDeep
  /-- A word is not one of the choices of its kind. -/
  | unknownChoice (word kind : String)
  | malformed (issues : List Issue)
  | negativeLimit (limit : Int)
  | notAnObject (field : String)
  /-- The store of trained models cannot be read; `filters` say what was looked for. -/
  | lookupFailed (filters : List (String × String))
  /-- Values of two kinds have no order between them. -/
  | incomparable (relation left right : String)
  /-- A value is of a kind that does not have an operation. -/
  | unsupported (kind operation : String)
  /-- A value is of a kind that has no layout as a number. -/
  | noNumberLayout (kind : String)
  /-- An integer is too large for a binary64 number. -/
  | integerTooLarge
  /-- The quotient of two integers is too large for a binary64 number. -/
  | quotientTooLarge
  /-- An infinite number or a NaN cannot be sent. -/
  | unsendableNumber
  deriving DecidableEq

namespace Failure

/-- An integer is written out only up to this many digits. -/
def digitLimit : Nat := 4300

/-- Lists and records are written out only if nested at most this deep. A thousand calls may be
open at once, and writing takes one for each level; a hundred are left here to those that lead to
it, who may need less. Only the failure of what is nested deeper depends on the number. -/
def depthLimit : Nat := 900

def message : Failure → String
  | tooManyDigits =>
    "Exceeds the limit (4300 digits) for integer string conversion; " ++
      "use sys.set_int_max_str_digits() to increase the limit"
  | tooDeep => "maximum recursion depth exceeded while getting the repr of an object"
  | unknownChoice word kind => word ++ " is not a valid " ++ kind
  | malformed issues =>
    "; ".intercalate
      ((issues.map fun i => i.location ++ ": " ++ i.reason).mergeSort (· ≤ ·))
  | negativeLimit _ => "limit must not be negative"
  | notAnObject field => field ++ " must be a JSON object"
  | lookupFailed _ => "Trained model lookup failed"
  | incomparable relation left right =>
    "'" ++ relation ++ "' not supported between instances of '" ++ left ++ "' and '" ++ right ++ "'"
  | unsupported kind operation => "'" ++ kind ++ "' object has no attribute '" ++ operation ++ "'"
  | noNumberLayout kind => "unsupported format string passed to " ++ kind ++ ".__format__"
  | integerTooLarge => "int too large to convert to float"
  | quotientTooLarge => "integer division result too large for a float"
  | unsendableNumber => "Out of range float values are not JSON compliant"

end Failure

end Bursary
