import Bursary.Form.Features

/-! The extraction of features as it can fail: by a division by zero, and by a feature that the
form of features does not accept. Features are computed as elsewhere, in an arithmetic that
notices zero divisors. -/

namespace Bursary

/-- A number, or what a division by zero leaves of a computation. -/
inductive Guarded where
  | number (x : Binary64)
  | undefined
  deriving DecidableEq

namespace Guarded

/-- An operation that is not defined where one of its operands is not. -/
def map₂ (op : Binary64 → Binary64 → Binary64) : Guarded → Guarded → Guarded
  | number x, number y => number (op x y)
  | _, _ => undefined

def div : Guarded → Guarded → Guarded
  | number x, number y => if y.isZero then undefined else number (x / y)
  | _, _ => undefined

def abs : Guarded → Guarded
  | number x => number x.abs
  | undefined => undefined

/-- Comparisons with what is undefined hold, so that clamping does not hide it. -/
def compare (rel : Binary64 → Binary64 → Bool) : Guarded → Guarded → Bool
  | number x, number y => rel x y
  | _, _ => true

instance : Arithmetic Guarded where
  add := map₂ (· + ·)
  sub := map₂ (· - ·)
  mul := map₂ (· * ·)
  div := div
  const q := number (Arithmetic.const q)
  measured := number
  abs := abs
  lt := compare Binary64.lt
  le := compare Binary64.le

end Guarded

namespace Features

/-- Why features cannot be extracted. -/
inductive Fault where
  | divisionByZero
  | refused (failure : Failure)
  deriving DecidableEq

/-- The number that a computation came to. -/
def settled : Guarded → Except Fault Binary64
  | .number x => .ok x
  | .undefined => .error .divisionByZero

/-- Computes the features one after the other and fills in their form. -/
def extract (convention : Convention) (s : Student) (c : Criteria) :
    Except Fault FeatureVector := do
  let entries ← Feature.all.mapM fun f => do
    let x ← settled (of convention s c f)
    return (f.name, Value.real x)
  let form := Form.features (entries ++ [("convention", .text convention.word)])
  form.toExcept.mapError .refused

end Features

end Bursary
