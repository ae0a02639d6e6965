import Bursary.Proofs.Prediction
import Bursary.Proofs.Value.Equality

/-! The operators of rules among each other. What a number is compared with is a limit or a span,
and every other combination of value and threshold fails all operators; where a comparison is made
it is one of numbers, none of which is a NaN, so that an operator and its negation exclude each
other and exhaust the cases. Operators on flags and lists come in pairs as well. That a list which
contains all required values contains one of them turns the equality of values round, since each
side is looked up in the other. -/

namespace Bursary

attribute [local irreducible] Binary64.unitsPerOne Binary64.unitLimit

/-! ### Ranges -/

namespace Binary64

variable {x y : Binary64}

theorem lt_eq_not_le (hx : x ≠ nan) (hy : y ≠ nan) : x.lt y = !y.le x := by
  rw [Bool.eq_iff_iff, Bool.not_eq_true', lt_iff, ← Bool.not_eq_true, le_iff]
  simp only [hx, hy, ne_eq, not_false_eq_true, true_and, Int.not_le]

end Binary64

theorem Value.ne_nan_of_number? {v : Value} {x : Binary64} (h : v.number? = some x) : x ≠ .nan :=
  Binary64.ne_nan_of_isFinite (isFinite_of_numberBy h)

section Ranges

variable {op : RangeOperator} {threshold v : Value}

/-- Whether an operator can compare with a threshold: with a limit or, if it takes two bounds, with
a record. -/
def RangeOperator.Fits (op : RangeOperator) (threshold : Value) : Prop :=
  if op.isSpan then threshold.record?.isSome = true else threshold.number?.isSome = true

theorem rangeHolds_eq_false (h : ¬(v.number?.isSome = true ∧ op.Fits threshold)) :
    rangeHolds op threshold v = false := by
  unfold rangeHolds
  split
  case h_1 => rfl
  case h_2 x hx =>
    have hfits : ¬op.Fits threshold := fun hfits => h ⟨by simp [hx], hfits⟩
    unfold RangeOperator.Fits at hfits
    split at hfits
    case isTrue hop =>
      rw [if_pos hop, bounds?, Option.not_isSome_iff_eq_none.mp hfits]
      rfl
    case isFalse hop =>
      rw [if_neg hop, Option.not_isSome_iff_eq_none.mp hfits]
      rfl

theorem fits_of_rangeHolds (h : rangeHolds op threshold v = true) :
    v.number?.isSome = true ∧ op.Fits threshold := by
  by_contra hnot
  rw [rangeHolds_eq_false hnot] at h
  cases h

/-- With a limit, all operators that take one compare the same two numbers. -/
theorem exists_limit (hv : v.number?.isSome = true) (ht : threshold.number?.isSome = true) :
    ∃ x limit, x ≠ .nan ∧ limit ≠ .nan ∧ ∀ op : RangeOperator, op.isSpan = false →
      rangeHolds op threshold v = op.compares x limit := by
  obtain ⟨x, hx⟩ := Option.isSome_iff_exists.mp hv
  obtain ⟨limit, hlimit⟩ := Option.isSome_iff_exists.mp ht
  refine ⟨x, limit, Value.ne_nan_of_number? hx, Value.ne_nan_of_number? hlimit, fun op hop => ?_⟩
  simp [rangeHolds, hx, hlimit, hop]

/-- Bounds are no NaNs; one that is not given is open. -/
theorem bound_ne_nan (v : Value) (s : Bool) : v.number?.getD (.infinite s) ≠ .nan := by
  cases hv : v.number? with
  | none => simp
  | some y => exact Value.ne_nan_of_number? hv

/-- With a record, all operators that take two bounds compare with the same. -/
theorem exists_span (hv : v.number?.isSome = true) (ht : threshold.record?.isSome = true) :
    ∃ x low high, x ≠ .nan ∧ low ≠ .nan ∧ high ≠ .nan ∧ ∀ op : RangeOperator, op.isSpan = true →
      rangeHolds op threshold v = op.spans x low high := by
  obtain ⟨x, hx⟩ := Option.isSome_iff_exists.mp hv
  obtain ⟨r, hr⟩ := Option.isSome_iff_exists.mp ht
  refine ⟨x, _, _, Value.ne_nan_of_number? hx, bound_ne_nan (r.get "min") true,
    bound_ne_nan (r.get "max") false, fun op hop => ?_⟩
  simp [rangeHolds, bounds?, hx, hr, hop]

theorem outside_eq_not_between {x low high : Binary64} (hx : x ≠ .nan) (hlow : low ≠ .nan)
    (hhigh : high ≠ .nan) :
    RangeOperator.spans .outside x low high = !RangeOperator.spans .between x low high := by
  show (x.lt low || high.lt x) = !(low.le x && x.le high)
  rw [Binary64.lt_eq_not_le hx hlow, Binary64.lt_eq_not_le hhigh hx, Bool.not_and]

end Ranges

/-- How the nine operators on numbers hang together. -/
structure RangeLaws (threshold v : Value) : Prop where
  limits : v.number?.isSome = true → threshold.number?.isSome = true →
    rangeHolds .lt threshold v = !rangeHolds .gte threshold v ∧
    rangeHolds .gt threshold v = !rangeHolds .lte threshold v ∧
    rangeHolds .eq threshold v = !rangeHolds .neq threshold v
  spans : v.number?.isSome = true → threshold.record?.isSome = true →
    rangeHolds .outside threshold v = !rangeHolds .between threshold v
  exclusive : rangeHolds .betweenExclusive threshold v = true →
    rangeHolds .between threshold v = true
  bounded (r : Record) : threshold = .record r → (r.get "min").number?.isSome = true →
    (r.get "max").number?.isSome = true →
    rangeHolds .between threshold v =
      (rangeHolds .gte (r.get "min") v && rangeHolds .lte (r.get "max") v)
  others (op : RangeOperator) : ¬(v.number?.isSome = true ∧ op.Fits threshold) →
    rangeHolds op threshold v = false

theorem rangeLaws (threshold v : Value) : RangeLaws threshold v where
  limits hv ht := by
    obtain ⟨x, limit, hx, hlimit, hholds⟩ := exists_limit hv ht
    rw [hholds .lt rfl, hholds .gte rfl, hholds .gt rfl, hholds .lte rfl, hholds .eq rfl,
      hholds .neq rfl]
    exact ⟨Binary64.lt_eq_not_le hx hlimit, Binary64.lt_eq_not_le hlimit hx,
      (Bool.not_not _).symm⟩
  spans hv ht := by
    obtain ⟨x, low, high, hx, hlow, hhigh, hholds⟩ := exists_span hv ht
    rw [hholds .outside rfl, hholds .between rfl]
    exact outside_eq_not_between hx hlow hhigh
  exclusive h := by
    obtain ⟨hv, ht⟩ := fits_of_rangeHolds h
    obtain ⟨x, low, high, -, -, -, hholds⟩ := exists_span hv ht
    rw [hholds .betweenExclusive rfl, RangeOperator.spans, Bool.and_eq_true] at h
    rw [hholds .between rfl, RangeOperator.spans, Bool.and_eq_true]
    exact ⟨Binary64.le_of_lt h.1, Binary64.le_of_lt h.2⟩
  bounded r ht hmin hmax := by
    subst ht
    obtain ⟨low, hlow⟩ := Option.isSome_iff_exists.mp hmin
    obtain ⟨high, hhigh⟩ := Option.isSome_iff_exists.mp hmax
    cases hv : v.number? with
    | none => simp [rangeHolds, hv]
    | some x =>
      simp [rangeHolds, bounds?, Value.record?, hv, hlow, hhigh, RangeOperator.isSpan,
        RangeOperator.spans, RangeOperator.compares]
  others _ := rangeHolds_eq_false

/-! ### Flags -/

/-- How the six operators on flags hang together. -/
structure BooleanLaws (expected v : Value) : Prop where
  isNot : booleanHolds .isNot expected v = !booleanHolds .is expected v
  absent : booleanHolds .absent expected v = !booleanHolds .present expected v
  isTrue : booleanHolds .isTrue expected v = booleanHolds .is (.flag true) v
  isFalse : booleanHolds .isFalse expected v = booleanHolds .is (.flag false) v

/-- Only flags are the same as a flag. -/
theorem sameValue_flag (v : Value) (b : Bool) :
    sameValue v (.flag b) = (v.isFlag && v.isTruthy == b) := by
  cases v with
  | flag c => simp [sameValue, Value.isFlag, Value.equals, Value.equalNumbers, Value.isTruthy]
  | _ => rfl

theorem booleanLaws (expected v : Value) : BooleanLaws expected v where
  isNot := rfl
  absent := (Bool.not_not _).symm
  isTrue := by
    show (v.isFlag && v.isTruthy) = sameValue v (.flag true)
    rw [sameValue_flag]
    cases v.isTruthy <;> rfl
  isFalse := by
    show (v.isFlag && !v.isTruthy) = sameValue v (.flag false)
    rw [sameValue_flag]
    cases v.isTruthy <;> rfl

/-! ### Lists -/

section Lists

variable {v : Value} {targets : List Value}

theorem everywhere_folded (h : v.everywhere Value.hasDistinctKeys = true) :
    (folded v).everywhere Value.hasDistinctKeys = true := by
  cases v with
  | text s => rfl
  | _ => exact h

/-- A value that is among some has one of them equal to it, and the other way round. -/
theorem exists_isIn_of_isIn {items : List Value} (hv : v.everywhere Value.hasDistinctKeys = true)
    (h : v.isIn items = true) : ∃ item ∈ items, item.equals v = true := by
  obtain ⟨item, hitem, heq⟩ := List.any_eq_true.mp h
  exact ⟨item, hitem, Value.equals_symm hv item heq⟩

/-- A list that contains all of several values contains one of them. -/
theorem containsAny_of_containsAll (hne : targets ≠ [])
    (hdistinct : ∀ t ∈ targets, t.everywhere Value.hasDistinctKeys = true)
    (h : listCompares .containsAll (targets.map folded) v = true) :
    listCompares .containsAny (targets.map folded) v = true := by
  obtain ⟨t, ts, rfl⟩ := List.exists_cons_of_ne_nil hne
  simp only [listCompares] at h ⊢
  cases hv : v.list? with
  | none => simp [hv] at h
  | some vs =>
    simp only [hv, Option.map_some, Option.getD_some, List.map_cons, List.all_cons,
      Bool.and_eq_true] at h ⊢
    obtain ⟨item, hitem, heq⟩ := exists_isIn_of_isIn (everywhere_folded (hdistinct t (by simp))) h.1
    refine List.any_eq_true.mpr ⟨item, hitem, ?_⟩
    exact List.any_eq_true.mpr ⟨folded t, List.mem_cons_self, heq⟩

theorem matchesAny_of_matchesAll (hne : targets ≠ [])
    (h : listCompares .matchesAll targets v = true) :
    listCompares .matchesAny targets v = true := by
  obtain ⟨t, ts, rfl⟩ := List.exists_cons_of_ne_nil hne
  simp only [listCompares, textHolds] at h ⊢
  split at h
  case h_1 s hs =>
    rw [List.all_cons, Bool.and_eq_true] at h
    rw [List.any_cons, h.1, Bool.true_or]
  case h_2 => cases h

end Lists

/-- How the ten operators on lists hang together, for required values of which there are some. -/
structure ListLaws (targets : List Value) (v : Value) : Prop where
  notIn : listHolds .notIn (.list targets) v = !listHolds .isIn (.list targets) v
  notContains : listHolds .notContains (.list targets) v = !listHolds .contains (.list targets) v
  isNotEmpty : listHolds .isNotEmpty (.list targets) v = !listHolds .isEmpty (.list targets) v
  containsAny : listHolds .containsAny (.list targets) v = listHolds .contains (.list targets) v
  /-- The keys of the required values are distinct, as those of records are. -/
  containsAll : (Value.list targets).everywhere Value.hasDistinctKeys = true →
    listHolds .containsAll (.list targets) v = true →
    listHolds .containsAny (.list targets) v = true
  matchesAll : listHolds .matchesAll (.list targets) v = true →
    listHolds .matchesAny (.list targets) v = true

theorem listHolds_of_ne_nil {targets : List Value} (hne : targets ≠ []) (op : ListOperator)
    (v : Value) : listHolds op (.list targets) v = listCompares op (targets.map folded) v := by
  obtain ⟨t, ts, rfl⟩ := List.exists_cons_of_ne_nil hne
  rfl

theorem listLaws {targets : List Value} (hne : targets ≠ []) (v : Value) : ListLaws targets v := by
  have hmap : targets.map folded ≠ [] := by simpa using hne
  constructor <;> simp only [listHolds_of_ne_nil hne]
  case notIn => rfl
  case notContains => rfl
  case isNotEmpty => exact (Bool.not_not _).symm
  case containsAny => rfl
  case containsAll =>
    intro hdistinct
    exact containsAny_of_containsAll hne (Value.everywhere_list.mp hdistinct).2
  case matchesAll => exact matchesAny_of_matchesAll hmap

/-- The algebra of the operators, for every value and whatever it is compared with. -/
theorem operator_algebra (v w target : Value) (targets : List Value) :
    RangeLaws w v ∧ BooleanLaws w v ∧ ListLaws (target :: targets) v :=
  ⟨rangeLaws w v, booleanLaws w v, listLaws (List.cons_ne_nil target targets) v⟩

end Bursary
