import Bursary.Arithmetic
import Bursary.Feature
import Bursary.Value.Basic

/-! Weights of a regression model. -/

namespace Bursary

/-- An intercept and a weight for every feature. -/
structure Weights (α : Type) where
  intercept : α
  of : Feature → α

namespace Weights

variable {α : Type} [Arithmetic α]

open Arithmetic

/-- The weights that are used without a trained model. The features alone decide; the
intercept balances their sum. -/
def neutral : Weights α := ⟨const (-3), fun _ => const 1⟩

/-- The intercept plus the weighted features. -/
def linearScore (w : Weights α) (x : Feature → α) : α :=
  w.intercept + sum (Feature.all.map fun f => w.of f * x f)

def toRecord (w : Weights Binary64) : Record :=
  ("intercept", .real w.intercept) :: Feature.all.map fun f => (f.name, .real (w.of f))

end Weights

end Bursary
