import Bursary.Rule.Basic

/-! Whether a value passes a rule's test. Every test is decided for every value: what is
missing or of the wrong shape fails it. -/

namespace Bursary

/-! ### Numbers -/

namespace RangeOperator

/-- Whether the operator compares with two bounds. -/
def isSpan : RangeOperator → Bool
  | between | betweenExclusive | outside => true
  | _ => false

/-- The comparison with one limit. -/
def compares (op : RangeOperator) (x limit : Binary64) : Bool :=
  match op with
  | lt => x.lt limit
  | lte => x.le limit
  | gt => limit.lt x
  | gte => limit.le x
  | eq => x.equals limit
  | neq => !x.equals limit
  | between | betweenExclusive | outside => false

/-- The comparison with two bounds. -/
def spans (op : RangeOperator) (x low high : Binary64) : Bool :=
  match op with
  | between => low.le x && x.le high
  | betweenExclusive => low.lt x && x.lt high
  | outside => x.lt low || high.lt x
  | _ => false

end RangeOperator

/-- The bounds of a record of `min` and `max`; a bound that is no number is open. -/
def bounds? (threshold : Value) : Option (Binary64 × Binary64) :=
  threshold.record?.map fun r =>
    ((r.get "min").number?.getD (.infinite true), (r.get "max").number?.getD (.infinite false))

def rangeHolds (op : RangeOperator) (threshold v : Value) : Bool :=
  match v.number? with
  | none => false
  | some x =>
    if op.isSpan then ((bounds? threshold).map fun (low, high) => op.spans x low high).getD false
    else (threshold.number?.map (op.compares x)).getD false

/-! ### Flags -/

def Value.isFlag : Value → Bool
  | .flag _ => true
  | _ => false

/-- Equality in which a flag equals only itself, not a number. -/
def sameValue (v expected : Value) : Bool := v.isFlag == expected.isFlag && v.equals expected

def booleanHolds (op : BooleanOperator) (expected v : Value) : Bool :=
  match op with
  | .is => sameValue v expected
  | .isNot => !sameValue v expected
  | .isTrue => v.isFlag && v.isTruthy
  | .isFalse => v.isFlag && !v.isTruthy
  | .present => !v.isNull
  | .absent => v.isNull

/-! ### Lists -/

/-- A text in lower case without the blanks around it; other values as they are. -/
def folded : Value → Value
  | .text s => .text (Text.trim (Text.lower s))
  | v => v

def Value.list? : Value → Option (List Value)
  | .list vs => some vs
  | _ => none

/-- Membership by equality alone. A NaN is in no list, not even in one that holds the same object,
where a test that asks for identity first would find it. -/
def Value.isIn (v : Value) (vs : List Value) : Bool := vs.any v.equals

/-- Whether the pattern is a text that occurs in `s`. -/
def patternIn (s : String) : Value → Bool
  | .text pattern => Text.occursIn pattern s
  | _ => false

/-- Whether a text value, folded, satisfies a condition; other values do not. -/
def textHolds (p : String → Bool) (v : Value) : Bool :=
  match folded v with
  | .text s => p s
  | _ => false

/-- A list operator against required values that have been folded. -/
def listCompares (op : ListOperator) (targets : List Value) (v : Value) : Bool :=
  let items := v.list?.map fun vs => vs.map folded
  let meets := (items.map fun vs => vs.any (·.isIn targets)).getD false
  match op with
  | .isIn => (folded v).isIn targets
  | .notIn => !(folded v).isIn targets
  | .contains => meets
  | .notContains => !meets
  | .containsAll => (items.map fun vs => targets.all (·.isIn vs)).getD false
  | .containsAny => meets
  | .isEmpty => !v.isTruthy
  | .isNotEmpty => v.isTruthy
  | .matchesAny => textHolds (fun s => targets.any (patternIn s)) v
  | .matchesAll => textHolds (fun s => targets.all (patternIn s)) v

/-- No required values restrict nobody. -/
def listHolds (op : ListOperator) (required v : Value) : Bool :=
  match required.list? with
  | none => true
  | some [] => true
  | some targets => listCompares op (targets.map folded) v

/-! ### Any test -/

def RuleTest.holds (t : RuleTest) (v : Value) : Bool :=
  match t with
  | .range op threshold => rangeHolds op threshold v
  | .boolean op expected => booleanHolds op expected v
  | .list op required => listHolds op required v

end Bursary
