import Bursary.Proofs.Sorting
import Bursary.Proofs.Value.Writable
import Bursary.Verdict

/-! When an evaluation comes to a verdict. It does exactly if every condition that applies and
every active rule can be checked, and the places of the active rules have an order among them;
nothing else in it can fail. Checks fail only for want of a text. -/

namespace Bursary

attribute [local irreducible] Value.digitBound

/-! ### The order of places -/

namespace Value

/-- The kinds of values that have an order. -/
inductive OrderKind where
  | number | text | list
  deriving DecidableEq

def orderKind : Value → Option OrderKind
  | flag _ | whole _ | real _ => some .number
  | text _ => some .text
  | list _ => some .list
  | _ => none

/-- A value that is no list is compared exactly with the values of its kind. Whether two lists are
depends on their items. -/
theorem comesBefore_returns_iff {v w : Value} (hv : v.orderKind ≠ some .list) :
    Returns (v.comesBefore w) ↔ ∃ k, v.orderKind = some k ∧ w.orderKind = some k := by
  have hplain : v.comesBefore w = plainlyBefore v w := by
    rw [comesBefore.eq_def]
    split
    · exact absurd rfl hv
    · rfl
  rw [hplain]
  cases v <;> cases w <;> first
    | exact absurd rfl hv
    | simp [plainlyBefore, quantity?, orderKind, Yields]

end Value

theorem Value.one_lt_digitBound : 1 < Value.digitBound := by decide +kernel

/-! ### Standard conditions -/

namespace Condition

variable {s : Student} {c : Criteria}

theorem checks_returns_iff {conds : List Condition} :
    Returns (checks s c conds) ↔
      ∀ cond ∈ conds, cond.applies c = true → Returns (cond.check s c) := by
  induction conds with
  | nil => exact iff_of_true (.ok trivial) fun cond h => nomatch h
  | cons cond conds ih =>
    rw [checks, List.forall_mem_cons]
    split
    case isTrue ha => rw [returns_both, ih]; simp only [ha, forall_const]
    case isFalse ha => rw [ih]; simp only [ha, Bool.false_eq_true, false_implies, true_and]

theorem check_returns_iff {cond : Condition} :
    Returns (cond.check s c) ↔ Returns (cond.studentText s) ∧ Returns (cond.requiredText c) :=
  returns_both

theorem all_checks_returns_iff :
    Returns (checks s c all) ↔ ∀ cond : Condition, cond.applies c = true →
      Returns (cond.studentText s) ∧ Returns (cond.requiredText c) := by
  have hall (cond : Condition) : cond ∈ all := by cases cond <;> decide
  simp only [checks_returns_iff, check_returns_iff, hall, forall_const]

/-- Only the size of a household may be too long to be shown. -/
theorem studentText_returns {s : Student} (h : ∀ n ∈ s.householdSize, n.natAbs < Value.digitBound)
    (cond : Condition) : Returns (cond.studentText s) := by
  cases cond with
  | householdSize =>
    unfold studentText
    dsimp only
    split
    case h_1 size hs => exact (Value.wholeText_returns_iff.mpr (h size hs)).map fun _ _ => trivial
    case h_2 => exact .ok trivial
  | _ => exact .ok trivial

theorem bestGwa_ne_nan : Student.bestGwa ≠ .nan := by decide +kernel

/-- The bounds on a grade average that some average satisfies can be shown: the lower one is no
NaN, and if it lies outside the range of grades there is an upper one. -/
theorem gwaBoundsText_returns (ha : c.boundsGwa = true) (h : c.minGwa ≠ some .nan) :
    Returns (gwaBoundsText c) := by
  have hbound : c.maxGwa = none →
      ∃ low, (Criteria.bound c.minGwa).filter (Student.bestGwa.lt ·) = some low := by
    intro hmax
    -- without an upper bound, the lower one must be above the best average
    cases hm : Criteria.bound c.minGwa with
    | none =>
      rw [Criteria.boundsGwa, hmax, hm] at ha
      cases ha
    | some m =>
      have hnan : m ≠ .nan := by
        rintro rfl
        exact h (Option.filter_eq_some_iff.mp hm).1
      have hle : m.le Student.bestGwa = false := by
        rw [Criteria.boundsGwa, hmax, hm] at ha
        simpa [Criteria.bound] using ha
      refine ⟨m, Option.filter_eq_some_iff.mpr ⟨rfl, Binary64.lt_iff.mpr ⟨bestGwa_ne_nan, hnan, ?_⟩⟩⟩
      rw [← Bool.not_eq_true, Binary64.le_iff] at hle
      exact Int.not_le.mp fun hplace => hle ⟨hnan, bestGwa_ne_nan, hplace⟩
  unfold gwaBoundsText
  dsimp only
  split
  case h_4 hlow hmax =>
    obtain ⟨low, h⟩ := hbound hmax
    cases hlow.symm.trans h
  all_goals exact .ok trivial

theorem householdBoundsText_returns (hmin : ∀ n ∈ c.minHouseholdSize, n.natAbs < Value.digitBound)
    (hmax : ∀ n ∈ c.maxHouseholdSize, n.natAbs < Value.digitBound) :
    Returns (householdBoundsText c) := by
  have hsmallest : c.smallestHousehold.natAbs < Value.digitBound := by
    unfold Criteria.smallestHousehold
    cases hsize : c.minHouseholdSize.filter (· != 0) with
    | none => exact Value.one_lt_digitBound
    | some n => exact hmin n (Option.filter_eq_some_iff.mp hsize).1
  refine (Value.wholeText_returns_iff.mpr hsmallest).bind fun _ _ => ?_
  split
  case h_1 size hs =>
    exact (Value.wholeText_returns_iff.mpr (hmax size hs)).bind fun _ _ => .ok trivial
  case h_2 => exact .ok trivial

theorem requiredText_returns {cond : Condition} (ha : cond.applies c = true)
    (hgwa : c.minGwa ≠ some .nan)
    (hmin : ∀ n ∈ c.minHouseholdSize, n.natAbs < Value.digitBound)
    (hmax : ∀ n ∈ c.maxHouseholdSize, n.natAbs < Value.digitBound) :
    Returns (cond.requiredText c) := by
  cases cond with
  | gwa => exact gwaBoundsText_returns ha hgwa
  | householdSize => exact householdBoundsText_returns hmin hmax
  | _ => exact .ok trivial

end Condition

/-! ### A scholarship's own rules -/

theorem shownNumber_returns {v : Value} (h : v.Writable) : Returns (shownNumber v) := by
  obtain ⟨s, hs, -⟩ := h.asText
  rw [shownNumber, hs]
  exact .ok trivial

theorem RangeOperator.boundText_returns {v : Value} (h : v.Writable) :
    Returns (boundText v) := by
  unfold boundText
  split
  · exact .ok trivial
  · exact shownNumber_returns h

theorem RangeOperator.thresholdText_returns (op : RangeOperator) {threshold : Value}
    (h : threshold.Writable) : Returns (op.thresholdText threshold) := by
  have hbounds : (threshold.record?.getD []).Writable := by
    cases threshold with
    | record es => exact h.toRecord
    | _ => exact fun e he => nomatch he
  unfold thresholdText
  split
  · refine (boundText_returns (hbounds.get "min")).bind fun _ _ => ?_
    exact (boundText_returns (hbounds.get "max")).bind fun _ _ => .ok trivial
  · exact (shownNumber_returns h).bind fun _ _ => .ok trivial

namespace RuleTest

theorem studentText_returns (t : RuleTest) {v : Value} (h : v.Writable) :
    Returns (t.studentText v) := by
  cases t with
  | range op threshold =>
    unfold studentText
    dsimp only
    split
    · exact .ok trivial
    · exact shownNumber_returns h
  | boolean op expected => exact .ok trivial
  | list op required =>
    cases v with
    | list vs => exact joinedText_returns (Value.everywhere_list.mp h).2
    | _ =>
      unfold studentText
      dsimp only
      split
      · exact h.asText
      · exact .ok trivial

theorem requiredText_returns {t : RuleTest} (h : t.value.Writable) : Returns t.requiredText := by
  cases t with
  | range op threshold => exact op.thresholdText_returns h
  | boolean op expected => exact .ok trivial
  | list op required =>
    cases required with
    | list vs => exact joinedText_returns (Value.everywhere_list.mp h).2
    | _ => exact h.asText

end RuleTest

theorem Rule.check_returns_iff {r : Rule} {s : Student} :
    Returns (r.check s) ↔
      Returns (r.test.studentText (s.resolve r.field)) ∧ Returns r.test.requiredText :=
  returns_both

theorem Rule.check_returns {r : Rule} {s : Student} (hs : s.Writable)
    (hr : r.test.value.Writable) : Returns (r.check s) :=
  check_returns_iff.mpr ⟨r.test.studentText_returns (hs.resolve r.field),
    RuleTest.requiredText_returns hr⟩

theorem Unreadable.check_returns_iff {raw : Record} :
    Returns (check raw) ↔ Returns (raw.get "id").asText ∧ Returns (raw.get "name").asText ∧
      Returns (Category.ofValue (raw.get "category")) := by
  simp only [check, returns_bind]
  constructor
  · rintro ⟨id, hid, name, hname, category, hcategory, -⟩
    exact ⟨returns_of_eq_ok hid, returns_of_eq_ok hname, returns_of_eq_ok hcategory⟩
  · rintro ⟨⟨id, hid, -⟩, ⟨name, hname, -⟩, category, hcategory, -⟩
    exact ⟨id, hid, name, hname, category, hcategory, .ok trivial⟩

theorem placedChecks_returns_iff {s : Student} (index : Nat) {rules : List Rule} :
    Returns (placedChecks s index rules) ↔
      ∀ r ∈ rules, r.isActive = true → Returns (r.check s) := by
  induction rules generalizing index with
  | nil => exact iff_of_true (.ok trivial) fun r h => nomatch h
  | cons r rules ih =>
    rw [placedChecks, List.forall_mem_cons]
    split
    case isTrue ha => rw [returns_both, ih]; simp only [ha, forall_const]
    case isFalse ha => rw [ih]; simp only [ha, Bool.false_eq_true, false_implies, true_and]

theorem placedFailures_returns_iff (index : Nat) {raws : List Record} :
    Returns (placedFailures index raws) ↔
      ∀ raw ∈ raws, Unreadable.isActive raw = true → Returns (Unreadable.check raw) := by
  induction raws generalizing index with
  | nil => exact iff_of_true (.ok trivial) fun r h => nomatch h
  | cons raw raws ih =>
    rw [placedFailures, List.forall_mem_cons]
    split
    case isTrue ha => rw [returns_both, ih]; simp only [ha, forall_const]
    case isFalse ha => rw [ih]; simp only [ha, Bool.false_eq_true, false_implies, true_and]

/-- The kind of the place of an unreadable rule; one that declares none has a number. -/
def Unreadable.placeKind (raw : Record) : Option Value.OrderKind := (position raw 0).orderKind

theorem Unreadable.orderKind_position (raw : Record) (index : Nat) :
    (position raw index).orderKind = placeKind raw := by
  unfold placeKind position
  dsimp only
  split <;> rfl

theorem orderKinds_placedChecks {s : Student} {index : Nat} {rules : List Rule}
    {placed : List PlacedCheck} (h : placedChecks s index rules = .ok placed) :
    placed.map (·.1.orderKind) = (rules.filter (·.isActive)).map fun _ => some .number := by
  induction rules generalizing index placed with
  | nil => cases h; rfl
  | cons r rules ih =>
    rw [placedChecks] at h
    split at h
    case isTrue ha =>
      simp only [bind_eq_ok, pure_eq_ok] at h
      obtain ⟨k, -, ks, hks, rfl⟩ := h
      rw [List.filter_cons_of_pos ha, List.map_cons, List.map_cons, ih hks]
      rfl
    case isFalse ha => rw [List.filter_cons_of_neg ha, ih h]

theorem orderKinds_placedFailures {index : Nat} {raws : List Record} {placed : List PlacedCheck}
    (h : placedFailures index raws = .ok placed) :
    placed.map (·.1.orderKind) = (raws.filter Unreadable.isActive).map Unreadable.placeKind := by
  induction raws generalizing index placed with
  | nil => cases h; rfl
  | cons raw raws ih =>
    rw [placedFailures] at h
    split at h
    case isTrue ha =>
      simp only [bind_eq_ok, pure_eq_ok] at h
      obtain ⟨k, -, ks, hks, rfl⟩ := h
      rw [List.filter_cons_of_pos ha, List.map_cons, List.map_cons, ih hks,
        Unreadable.orderKind_position]
    case isFalse ha => rw [List.filter_cons_of_neg ha, ih h]

namespace Criteria

/-- The kinds of the places of all active rules. -/
def placeKinds (c : Criteria) : List (Option Value.OrderKind) :=
  (c.rules.filter (·.isActive)).map (fun _ => some .number) ++
    (c.unreadableRules.filter Unreadable.isActive).map Unreadable.placeKind

/-- Whether all places are of one kind, if there are two at all. -/
def HasOrderedPlaces (c : Criteria) : Prop :=
  c.placeKinds.length ≤ 1 ∨ ∃ k, ∀ kind ∈ c.placeKinds, kind = some k

end Criteria

/-- Where no place is a list, the checks of the rules can be put in order exactly if the places
have one. -/
theorem ruleChecks_returns_iff {s : Student} {c : Criteria}
    (hplain : some .list ∉ c.placeKinds) :
    Returns (ruleChecks s c.rules c.unreadableRules) ↔
      (∀ r ∈ c.rules, r.isActive = true → Returns (r.check s)) ∧
        (∀ raw ∈ c.unreadableRules, Unreadable.isActive raw = true →
          Returns (Unreadable.check raw)) ∧ c.HasOrderedPlaces := by
  have hsort {placed failures : List PlacedCheck} (hp : placedChecks s 0 c.rules = .ok placed)
      (hf : placedFailures c.rules.length c.unreadableRules = .ok failures) :
      Returns (Sorting.sort (fun a b => a.1.comesBefore b.1) (placed ++ failures)) ↔
        c.HasOrderedPlaces := by
    have hkinds : (placed ++ failures).map (·.1.orderKind) = c.placeKinds := by
      rw [List.map_append, orderKinds_placedChecks hp, orderKinds_placedFailures hf]
      rfl
    have hlist {a : PlacedCheck} (ha : a ∈ placed ++ failures) : a.1.orderKind ≠ some .list := by
      intro h
      refine hplain ?_
      rw [← hkinds, ← h]
      exact List.mem_map_of_mem ha
    have hcompared (a : PlacedCheck) (ha : a ∈ placed ++ failures) (b : PlacedCheck)
        (_ : b ∈ placed ++ failures) : Returns (a.1.comesBefore b.1) ↔
          ∃ k, a.1.orderKind = some k ∧ b.1.orderKind = some k :=
      Value.comesBefore_returns_iff (hlist ha)
    rw [Sorting.sort_returns_iff (fun a : PlacedCheck => a.1.orderKind) hcompared]
    simp only [Criteria.HasOrderedPlaces, ← hkinds, List.length_map, List.forall_mem_map]
  rw [← placedChecks_returns_iff 0, ← placedFailures_returns_iff c.rules.length, ruleChecks]
  constructor
  · intro h
    simp only [returns_bind] at h
    obtain ⟨placed, hp, failures, hf, sorted, hs, -⟩ := h
    exact ⟨returns_of_eq_ok hp, returns_of_eq_ok hf, (hsort hp hf).mp (returns_of_eq_ok hs)⟩
  · rintro ⟨⟨placed, hp, -⟩, ⟨failures, hf, -⟩, hplaces⟩
    rw [hp, hf]
    exact ((hsort hp hf).mpr hplaces).bind fun _ _ => .ok trivial

/-- An evaluation comes to a verdict exactly if everything in it that applies can be checked, and
the rules' places have an order. -/
theorem evaluate_returns_iff {s : Student} {c : Criteria} (hplain : some .list ∉ c.placeKinds) :
    Returns (evaluate s c) ↔
      (∀ cond : Condition, cond.applies c = true →
        Returns (cond.studentText s) ∧ Returns (cond.requiredText c)) ∧
      (∀ r ∈ c.rules, r.isActive = true → Returns (r.check s)) ∧
      (∀ raw ∈ c.unreadableRules, Unreadable.isActive raw = true →
        Returns (Unreadable.check raw)) ∧ c.HasOrderedPlaces := by
  rw [evaluate, returns_map, allChecks, returns_both, Condition.all_checks_returns_iff,
    ruleChecks_returns_iff hplain]

end Bursary
