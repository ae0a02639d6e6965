import Bursary.Form.Basic
import Bursary.Weights

/-! Forms of model weights. -/

namespace Bursary.Form

/-- The weights of the features of a list; others are one. -/
def weightsOf (r : Record) : List Feature → Checked (Feature → Binary64)
  | [] => .ok fun _ => 1
  | f :: fs =>
    (fun x of g => if g = f then x else of g)
      <$> field r f.name 1 finiteNumber <*> weightsOf r fs

/-- Reads the fields of weights; the intercept is zero unless given. -/
def weights (r : Record) : Checked (Weights Binary64) :=
  Weights.mk <$> field r "intercept" 0 finiteNumber <*> weightsOf r Feature.all

end Bursary.Form
