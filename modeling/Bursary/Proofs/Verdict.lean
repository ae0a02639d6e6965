import Bursary.Intake.Entry
import Bursary.Proofs.Sorting

/-! The quick verdict agrees with the full one. A verdict passes exactly if none of its checks
blocks, so the places of the checks do not count, and the quick verdict may stop at the first
required condition that fails. Only one direction can hold of failures: the quick verdict asks
for no texts and skips rules that are not required, so it may be reached where the full one is
not. -/

namespace Bursary

theorem Verdict.passed_ofChecks (ks : List Check) :
    (Verdict.ofChecks ks).passed = !ks.any (·.blocks) := by
  rw [Bool.eq_iff_iff]
  simp [Verdict.ofChecks]

/-! ### Standard conditions -/

namespace Condition

theorem blocks_of_check {cond : Condition} {s : Student} {c : Criteria} {k : Check}
    (h : cond.check s c = .ok k) : k.blocks = !cond.holds s c := by
  simp only [check, bind_eq_ok, pure_eq_ok] at h
  obtain ⟨-, -, -, -, rfl⟩ := h
  simp [Check.blocks, importance]

theorem any_blocks_of_checks {s : Student} {c : Criteria} {conds : List Condition}
    {ks : List Check} (h : checks s c conds = .ok ks) :
    ks.any (·.blocks) = conds.any fun cond => cond.applies c && !cond.holds s c := by
  induction conds generalizing ks with
  | nil => cases h; rfl
  | cons cond conds ih =>
    rw [checks] at h
    split at h
    case isTrue ha =>
      simp only [bind_eq_ok, pure_eq_ok] at h
      obtain ⟨k, hk, ks, hks, rfl⟩ := h
      simp [blocks_of_check hk, ih hks, ha]
    case isFalse ha => simp [ih h, ha]

end Condition

/-! ### A scholarship's own rules -/

theorem Rule.importance_of_check {r : Rule} {s : Student} {k : Check} (h : r.check s = .ok k) :
    k.importance = r.importance := by
  simp only [Rule.check, bind_eq_ok, pure_eq_ok] at h
  obtain ⟨-, -, -, -, rfl⟩ := h
  rfl

theorem quickRules_of_placedChecks {s : Student} {index : Nat} {rules : List Rule}
    {placed : List PlacedCheck} (h : placedChecks s index rules = .ok placed) :
    quickRules s rules = .ok (!placed.any (·.2.blocks)) := by
  induction rules generalizing index placed with
  | nil => cases h; rfl
  | cons r rules ih =>
    rw [placedChecks] at h
    split at h
    case isFalse ha => simp [quickRules, ha, ih h]
    case isTrue ha =>
      simp only [bind_eq_ok, pure_eq_ok] at h
      obtain ⟨k, hk, ks, hks, rfl⟩ := h
      have hi := Rule.importance_of_check hk
      by_cases hr : r.importance = .required
      · have hb : k.blocks = !k.passed := by simp [Check.blocks, hi, hr]
        cases hp : k.passed <;> simp [quickRules, ha, hr, hk, ih hks, hb, hp, pure_eq_ok]
      · simp [quickRules, hr, ih hks, Check.blocks, hi]

theorem Unreadable.not_passed_of_check {raw : Record} {k : Check}
    (h : Unreadable.check raw = .ok k) : k.passed = false := by
  simp only [Unreadable.check, bind_eq_ok, pure_eq_ok] at h
  obtain ⟨-, -, -, -, -, -, rfl⟩ := h
  rfl

theorem quickUnreadable_of_placedFailures {index : Nat} {raws : List Record}
    {placed : List PlacedCheck} (h : placedFailures index raws = .ok placed) :
    quickUnreadable raws = .ok (!placed.any (·.2.blocks)) := by
  induction raws generalizing index placed with
  | nil => cases h; rfl
  | cons raw raws ih =>
    rw [placedFailures] at h
    split at h
    case isFalse ha => simp [quickUnreadable, ha, ih h]
    case isTrue ha =>
      simp only [bind_eq_ok, pure_eq_ok] at h
      obtain ⟨k, hk, ks, hks, rfl⟩ := h
      have hb : k.blocks = decide (k.importance = .required) := by
        simp [Check.blocks, Unreadable.not_passed_of_check hk]
      by_cases hi : k.importance = .required <;>
        simp [quickUnreadable, ha, hk, ih hks, hb, hi, pure_eq_ok]

/-- The checks of a scholarship's own rules are those of its active rules, readable or not, in
some order. -/
theorem ruleChecks_perm {s : Student} {rules : List Rule} {raws : List Record} {ks : List Check}
    (h : ruleChecks s rules raws = .ok ks) :
    ∃ placed failures, placedChecks s 0 rules = .ok placed ∧
      placedFailures rules.length raws = .ok failures ∧
      ks.Perm ((placed ++ failures).map (·.2)) := by
  simp only [ruleChecks, bind_eq_ok, pure_eq_ok] at h
  obtain ⟨placed, hp, failures, hf, sorted, hs, rfl⟩ := h
  exact ⟨placed, failures, hp, hf, (Sorting.sort_perm hs).map _⟩

/-! ### When the quick verdict is positive -/

theorem quickRules_eq_true_iff {s : Student} {rules : List Rule} :
    quickRules s rules = .ok true ↔ ∀ r ∈ rules, r.isActive = true → r.importance = .required →
      ∃ k, r.check s = .ok k ∧ k.passed = true := by
  induction rules with
  | nil => exact iff_of_true rfl fun r h => nomatch h
  | cons r rules ih =>
    rw [quickRules, List.forall_mem_cons, ← ih]
    split
    case isTrue h =>
      simp only [Bool.and_eq_true, decide_eq_true_eq] at h
      simp only [bind_eq_ok, h, forall_const]
      constructor
      · rintro ⟨k, hk, hrest⟩
        split at hrest
        case isTrue hp => exact ⟨⟨k, hk, hp⟩, hrest⟩
        case isFalse => cases hrest
      · rintro ⟨⟨k, hk, hp⟩, hrest⟩
        exact ⟨k, hk, by rw [if_pos hp]; exact hrest⟩
    case isFalse h =>
      refine (and_iff_right fun ha hi => absurd ?_ h).symm
      rw [Bool.and_eq_true, decide_eq_true_eq]
      exact ⟨ha, hi⟩

namespace Unreadable

theorem importance_of_check {raw : Record} {k : Check} (h : check raw = .ok k) :
    k.importance = importance raw := by
  simp only [check, bind_eq_ok, pure_eq_ok] at h
  obtain ⟨-, -, -, -, -, -, rfl⟩ := h
  rfl

/-- An unreadable rule that can be checked and does not decide against the student. -/
def Tolerable (raw : Record) : Prop := Returns (check raw) ∧ importance raw ≠ .required

end Unreadable

theorem quickUnreadable_eq_true_iff {raws : List Record} :
    quickUnreadable raws = .ok true ↔
      ∀ raw ∈ raws, Unreadable.isActive raw = true → Unreadable.Tolerable raw := by
  induction raws with
  | nil => exact iff_of_true rfl fun r h => nomatch h
  | cons raw raws ih =>
    rw [quickUnreadable, List.forall_mem_cons, ← ih]
    split
    case isTrue h =>
      simp only [bind_eq_ok, h, forall_const]
      constructor
      · rintro ⟨k, hk, hrest⟩
        split at hrest
        case isTrue => cases hrest
        case isFalse hi =>
          rw [Unreadable.importance_of_check hk] at hi
          exact ⟨⟨returns_of_eq_ok hk, hi⟩, hrest⟩
      · rintro ⟨⟨⟨k, hk, -⟩, hi⟩, hrest⟩
        rw [← Unreadable.importance_of_check hk] at hi
        exact ⟨k, hk, by rw [if_neg hi]; exact hrest⟩
    case isFalse h => exact (and_iff_right fun ha => absurd ha h).symm

theorem quickVerdict_eq_true_iff {s : Student} {c : Criteria} :
    quickVerdict s c = .ok true ↔
      (∀ cond : Condition, cond.applies c = true → cond.holds s c = true) ∧
        quickRules s c.rules = .ok true ∧ quickUnreadable c.unreadableRules = .ok true := by
  have hmem (cond : Condition) : cond ∈ Condition.all := by cases cond <;> decide
  have hall : (Condition.all.all fun cond =>
      cond.importance != .required || !cond.applies c || cond.holds s c) = true ↔
      ∀ cond : Condition, cond.applies c = true → cond.holds s c = true := by
    rw [List.all_eq_true]
    refine forall_congr' fun cond => ?_
    cases cond.applies c <;> simp [hmem cond, Condition.importance]
  rw [quickVerdict, ← hall]
  split
  case isFalse h =>
    refine iff_of_false (fun h' => ?_) fun h' => h h'.1
    cases h'
  case isTrue h =>
    rw [bind_eq_ok, and_iff_right h]
    constructor
    · rintro ⟨rules, hrules, hrest⟩
      cases rules with
      | true => exact ⟨hrules, hrest⟩
      | false => cases hrest
    · rintro ⟨hrules, hrest⟩
      exact ⟨true, hrules, hrest⟩

/-! ### Both together -/

theorem quickVerdict_of_allChecks {s : Student} {c : Criteria} {ks : List Check}
    (h : allChecks s c = .ok ks) : quickVerdict s c = .ok (!ks.any (·.blocks)) := by
  simp only [allChecks, bind_eq_ok, pure_eq_ok] at h
  obtain ⟨standard, hs, own, ho, rfl⟩ := h
  obtain ⟨placed, failures, hp, hf, hperm⟩ := ruleChecks_perm ho
  have hstandard : (Condition.all.all fun cond =>
      cond.importance != .required || !cond.applies c || cond.holds s c) =
      !standard.any (·.blocks) := by
    rw [Condition.any_blocks_of_checks hs, List.not_any_eq_all_not]
    simp [Condition.importance]
  -- the order in which the full verdict lists the rules is lost here
  have hown : own.any (·.blocks) = (placed.any (·.2.blocks) || failures.any (·.2.blocks)) := by
    rw [hperm.any_eq]
    simp [Function.comp_def]
  simp only [quickVerdict, hstandard, quickRules_of_placedChecks hp,
    quickUnreadable_of_placedFailures hf, List.any_append, hown]
  cases standard.any (·.blocks) <;> cases placed.any (·.2.blocks) <;> rfl

theorem quickVerdict_of_evaluate {s : Student} {c : Criteria} {v : Verdict}
    (h : evaluate s c = .ok v) : quickVerdict s c = .ok v.passed := by
  obtain ⟨ks, hk, rfl⟩ := map_eq_ok.mp h
  rw [quickVerdict_of_allChecks hk, Verdict.passed_ofChecks]

/-- Whenever the full verdict on what a caller hands in is reached, so is the quick one, and it
says the same. -/
theorem quickAssess_eq_passed (student : StudentEntry) (criteria : CriteriaEntry) (v : Verdict)
    (h : assess student criteria = .ok v) : quickAssess student criteria = .ok v.passed := by
  simp only [assess, bind_eq_ok] at h
  obtain ⟨s, hs, c, hc, h⟩ := h
  simp only [quickAssess, bind_eq_ok]
  exact ⟨s, hs, c, hc, quickVerdict_of_evaluate h⟩

/-- A profile to be read, and ready criteria with rules of every kind: a required one that holds,
an optional one that fails, an inactive one, and two unreadable ones of which the last declares
an unknown importance and so blocks. -/
theorem quickAssess_unreadable_rule :
    let student : StudentEntry := .raw (.record [("studentProfile", .record [
      ("gwa", .text "1.75"),
      ("customFields", .record [("siblings", .whole 3), ("clubs", .list [.text "Choir"])])])])
    let criteria : CriteriaEntry := .ready {
      maxGwa := some 2
      rules := [
        { id := "siblings", name := "Siblings", field := "siblings", position := some 5
          test := .range .gte (.text "2") },
        { id := "clubs", name := "Clubs", field := "customFields.clubs", importance := .optional
          test := .list .contains (.list [.text "chess"]) },
        { id := "pets", name := "Pets", field := "hasPet", isActive := false
          test := .boolean .isTrue .null }]
      unreadableRules := [
        [("importance", .text "preferred"), ("position", .whole 0)],
        [("importance", .text "urgent")]] }
    ∃ v, assess student criteria = .ok v ∧ v.passed = false ∧ v.score = 40 ∧
      quickAssess student criteria = .ok v.passed := by
  intro student criteria
  have hv : (assess student criteria).toOption.map (fun v => (v.passed, v.score)) =
      some (false, 40) := by decide +kernel
  obtain ⟨v, h, hp⟩ := Option.map_eq_some_iff.mp hv
  rw [toOption_eq_some] at h
  simp only [Prod.mk.injEq] at hp
  exact ⟨v, h, hp.1, hp.2, quickAssess_eq_passed student criteria v h⟩

end Bursary
