import Bursary.Quantity

/-! The order of values: numbers by size, texts by their characters, lists by their first
different items. Values of other kinds, and of two kinds, have none. -/

namespace Bursary

namespace Value

/-- The quantity that a value is; a flag is one or zero. -/
def quantity? : Value → Option Quantity
  | flag b => some (.whole (if b then 1 else 0))
  | whole i => some (.whole i)
  | real x => some (.real x)
  | _ => none

/-- The order of two values that are not both lists. -/
def plainlyBefore (v w : Value) : Except Failure Bool :=
  match v, w, v.quantity?, w.quantity? with
  | _, _, some p, some q => .ok (p.lt q)
  | text s, text t, _, _ => .ok (s < t)
  | _, _, _, _ => .error (.incomparable "<" v.kindName w.kindName)

mutual

/-- Whether a value comes before another. -/
def comesBefore : Value → Value → Except Failure Bool
  | list xs, list ys => listBefore xs ys
  | v, w => plainlyBefore v w

def listBefore : List Value → List Value → Except Failure Bool
  | [], ys => .ok !ys.isEmpty
  | _ :: _, [] => .ok false
  | x :: xs, y :: ys => if x.equals y then listBefore xs ys else comesBefore x y

end

end Value

end Bursary
