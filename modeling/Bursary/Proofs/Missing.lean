import Bursary.Proofs.Evaluation

/-! What a rule makes of a missing value. A missing number, a missing flag and a missing text fail
whatever is asked of them, and so does a list that is not there. There are two kinds of exceptions.
A rule without required values restricts nobody. And absence passes where the rule asks for it: by
the operators for absence and emptiness, or by null among the values that it accepts. A rule that
only excludes values is another matter, and nothing is said of it here unless null is one of
them. -/

namespace Bursary

namespace RuleTest

/-- The required values of a test on lists; anything but a list has none. -/
def requiredValues (required : Value) : List Value := required.list?.getD []

/-- Whether a test restricts nobody, for want of required values. -/
def isOpen : RuleTest → Bool
  | list _ required => (requiredValues required).isEmpty
  | _ => false

/-- Whether absence is among what a test asks for. -/
def asksForAbsence : RuleTest → Bool
  | boolean .absent _ => true
  | boolean .is expected => expected.isNull
  | list .isEmpty _ => true
  | list .isIn required => (requiredValues required).any (·.isNull)
  | _ => false

/-- Whether a test asks for anything but certain values, and null is none of them. -/
def excludes : RuleTest → Bool
  | boolean .isNot expected => !expected.isNull
  | list .notIn required => !(requiredValues required).any (·.isNull)
  | list .notContains _ => true
  | _ => false

/-! ### Tests of null -/

/-- Null is among required values exactly if one of them is null, as folding only changes texts. -/
theorem isIn_folded (vs : List Value) :
    Value.null.isIn (vs.map folded) = vs.any (·.isNull) := by
  rw [Value.isIn, List.any_map]
  congr 1
  funext v
  cases v <;> rfl

theorem booleanHolds_null (op : BooleanOperator) (expected : Value) :
    booleanHolds op expected .null =
      ((boolean op expected).asksForAbsence || (boolean op expected).excludes) := by
  have hsame : sameValue .null expected = expected.isNull := by cases expected <;> rfl
  cases op <;> simp [booleanHolds, asksForAbsence, excludes, hsame, Value.isFlag, Value.isNull]

/-- Null is no list and no text, but it can be a required value. -/
theorem listCompares_null (op : ListOperator) (targets : List Value) :
    listCompares op (targets.map folded) .null =
      ((list op (.list targets)).asksForAbsence || (list op (.list targets)).excludes) := by
  have hin : (folded .null).isIn (targets.map folded) = targets.any (·.isNull) :=
    isIn_folded targets
  cases op <;> simp only [listCompares, hin] <;> simp [asksForAbsence, excludes, requiredValues,
    Value.list?, textHolds, folded, Value.isTruthy]

/-- What null passes: tests that are open, that ask for absence, or that exclude other values. -/
theorem holds_null (t : RuleTest) :
    t.holds .null = (t.isOpen || t.asksForAbsence || t.excludes) := by
  cases t with
  | range op threshold => rfl
  | boolean op expected => exact booleanHolds_null op expected
  | list op required =>
    show listHolds op required .null = _
    unfold listHolds
    cases hrequired : required.list? with
    | none => simp [isOpen, requiredValues, hrequired]
    | some targets =>
      obtain rfl : required = .list targets := by
        cases required <;> cases hrequired
        rfl
      cases targets with
      | nil => rfl
      | cons target targets => exact listCompares_null op (target :: targets)

end RuleTest

/-! ### Checks of missing values -/

theorem Value.eq_null_of_isNull {v : Value} (h : v.isNull = true) : v = .null := by
  cases v <;> cases h
  rfl

theorem Rule.passed_of_check {r : Rule} {s : Student} {k : Check} (h : r.check s = .ok k) :
    k.passed = r.test.holds (s.resolve r.field) := by
  simp only [Rule.check, bind_eq_ok, pure_eq_ok] at h
  obtain ⟨-, -, -, -, rfl⟩ := h
  rfl

/-- A missing value can always be shown. -/
theorem RuleTest.studentText_null_returns (t : RuleTest) : Returns (t.studentText .null) := by
  cases t <;> exact .ok trivial

/-- A rule that does more than exclude values fails where its value is missing, unless it restricts
nobody or asks for absence. -/
theorem Rule.check_of_missing {r : Rule} {s : Student} (hmissing : s.resolve r.field = .null)
    (hexcludes : r.test.isOpen = true ∨ r.test.excludes = false) :
    (Returns (r.check s) ↔ Returns r.test.requiredText) ∧
      ∀ k, r.check s = .ok k → k.passed = (r.test.isOpen || r.test.asksForAbsence) := by
  refine ⟨?_, fun k hk => ?_⟩
  · rw [check_returns_iff, hmissing]
    exact and_iff_right r.test.studentText_null_returns
  · rw [passed_of_check hk, hmissing, RuleTest.holds_null]
    rcases hexcludes with hopen | hexcludes
    · simp [hopen]
    · rw [hexcludes, Bool.or_false]

theorem Rule.check_of_missing_number :
    let r : Rule := {
      id := "units", name := "Units", field := "customFields.units"
      test := .range .gte (.whole 15) }
    ({} : Student).resolve r.field = .null ∧ r.test.excludes = false ∧
      ∃ k, r.check {} = .ok k ∧ k.passed = false := by
  intro r
  have hmissing : ({} : Student).resolve r.field = .null :=
    Value.eq_null_of_isNull (by decide +kernel)
  have hrequired : Returns r.test.requiredText :=
    RuleTest.requiredText_returns (by decide +kernel)
  obtain ⟨hreturns, hpassed⟩ := Rule.check_of_missing hmissing (.inr rfl)
  obtain ⟨k, hk, -⟩ := hreturns.mpr hrequired
  exact ⟨hmissing, rfl, k, hk, hpassed k hk⟩

/-- Missing values pass by more operators than those for absence and emptiness: here no
organizations are required. -/
theorem Rule.passed_of_missing :
    ¬∀ (s : Student) (r : Rule), r.test.operatorWord ∉ ["not_exists", "is_empty"] →
      s.resolve r.field = .null → ∀ k, r.check s = .ok k → k.passed = false := by
  intro h
  let r : Rule := {
    id := "orgs", name := "Organizations", field := "customFields.orgs"
    test := .list .contains (.list []) }
  have hmissing : ({} : Student).resolve r.field = .null :=
    Value.eq_null_of_isNull (by decide +kernel)
  obtain ⟨k, hk, -⟩ : Returns (r.check {}) := by
    rw [check_returns_iff, hmissing]
    exact ⟨r.test.studentText_null_returns, .ok trivial⟩
  have hpassed : k.passed = true := passed_of_check hk
  rw [h {} r (by decide) hmissing k hk] at hpassed
  cases hpassed

/-- The negated operators let a missing value pass: a student who does not state a value is not
refused for having it. That is not what is meant, which is that a missing value fails. -/
theorem Rule.passed_of_excludes {r : Rule} {s : Student} {k : Check}
    (hmissing : s.resolve r.field = .null) (hexcludes : r.test.excludes = true)
    (h : r.check s = .ok k) : k.passed = true := by
  rw [passed_of_check h, hmissing, RuleTest.holds_null, hexcludes, Bool.or_true]

end Bursary
