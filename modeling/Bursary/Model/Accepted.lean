import Bursary.Quantity
import Bursary.Value.Reading
import Bursary.Weights

/-! Trained models as they are stored, and the weights that are taken from them. A model is
accepted if it is a record with entries that reports enough accuracy. -/

namespace Bursary

namespace Model

/-- The accuracy that a model reports among its metrics or else itself, zero if neither. -/
def accuracy (model : Record) : Binary64 :=
  let metrics := ((model.get "metrics").record?).getD []
  let reported := (Record.get metrics "accuracy").coefficient?.filter (!·.isZero)
  let stated := (model.get "accuracy").coefficient?.filter (!·.isZero)
  (reported.or stated).getD 0

/-- Whether a model reports less than the least accuracy. -/
def fallsShort (model : Record) (least : Quantity) : Bool :=
  (Quantity.real (accuracy model)).lt least

/-- The model in a stored value, if its accuracy is not below the least one. -/
def accepted? (stored : Value) (least : Quantity) : Option Record :=
  stored.record?.filter fun model => !model.isEmpty && !fallsShort model least

/-- The same, told with the least accuracy in percent where a model is turned down for it;
an integer may be too large for that. -/
def judged (stored : Value) (least : Quantity) : Except Failure (Option Record) :=
  match stored.record?, least with
  | some model, .whole i =>
    if !model.isEmpty && fallsShort model least then
      (Quantity.whole (i * 100)).measure.map fun _ => none
    else .ok (accepted? stored least)
  | _, _ => .ok (accepted? stored least)

/-- The record of a model's weights. -/
def storedWeights (model : Record) : Record := ((model.get "weights").record?).getD []

/-- The numbers that a record of weights has for a feature, in the order of its entries. -/
def numbersFor (stored : Record) (f : Feature) : List Binary64 :=
  stored.filterMap fun (key, v) => if Feature.ofKey? key = some f then v.coefficient? else none

/-- The weight of a feature as it is stored: the last number for it. -/
def storedWeight? (model : Record) (f : Feature) : Option Binary64 :=
  (numbersFor (storedWeights model) f).getLast?

/-- A weight without its sign, if it is negative and the feature can only speak for a
student. -/
def adjusted (f : Feature) (w : Binary64) : Binary64 :=
  if f ∈ Feature.favourable ∧ w.lt 0 then w.abs else w

/-- The weights of a model. A feature without one counts with one; the intercept stands
among the weights or is the bias. -/
def weights (model : Record) : Weights Binary64 where
  intercept := ((Record.get (storedWeights model) "intercept").coefficient?.or
    (model.get "bias").coefficient?).getD 0
  of f := adjusted f ((storedWeight? model f).getD 1)

/-- A negative weight that lost its sign. -/
structure Adjustment where
  feature : Feature
  weight : Binary64
  deriving DecidableEq

def Adjustment.text (a : Adjustment) : String :=
  a.feature.name ++ ": " ++ Decimal.fixedText 2 a.weight ++ " → " ++
    Decimal.fixedText 2 a.weight.abs

/-- The adjustments that the weights of a model need. -/
def adjustments (model : Record) : List Adjustment :=
  Feature.favourable.filterMap fun f =>
    ((storedWeight? model f).filter (·.lt 0)).map fun w => ⟨f, w⟩

end Model

end Bursary
