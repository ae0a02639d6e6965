import Bursary.Fit
import Bursary.Proofs.Checks

/-! The scored criteria agree with the verdict. Grades and incomes are scored by comparisons of
their own, apart from the conditions of the verdict, with other rules for what is not given. What
was read is finite, and what was not given stands at a fixed number, so the outcomes are those of
the conditions wherever the student gave both numbers, and never worse than a verdict that passes. -/

namespace Bursary

attribute [local irreducible] Binary64.unitLimit Binary64.unitsPerOne

/-! ### Readings -/

/-- What holds of a student that was read: grade and income are finite, and one that was not given
is the worst grade or no income. -/
structure Student.IsRead (s : Student) : Prop where
  gwa : s.gwa.isFinite = true
  income : s.income.isFinite = true
  missingGwa : s.gwaProvided = false → s.gwa = worstGwa
  missingIncome : s.incomeProvided = false → s.income = 0

theorem Value.isFinite_of_amount? {v : Value} {x : Binary64} (h : v.amount? = some x) :
    x.isFinite = true := isFinite_of_numberBy h

theorem Student.isRead_of_ofValue {raw : Value} {s : Student} (h : ofValue raw = .ok s) :
    s.IsRead := by
  simp only [ofValue, bind_eq_ok, pure_eq_ok] at h
  obtain ⟨-, -, -, -, -, -, -, -, -, -, -, -, -, -, rfl⟩ := h
  refine ⟨?_, ?_, fun hmissing => ?_, fun hmissing => ?_⟩
  · show (Option.getD _ worstGwa).isFinite = true
    cases hx : ((profile raw).get "gwa").amount? with
    | none => exact isFinite_worstGwa
    | some x => exact Value.isFinite_of_amount? hx
  · show (Option.getD (Option.filter _ _) (0 : Binary64)).isFinite = true
    cases hx : Option.filter (!·.isZero)
        ((profile raw).first ["familyAnnualIncome", "annualFamilyIncome"]).amount? with
    | none => exact Binary64.isFinite_zero
    | some x => exact Value.isFinite_of_amount? (Option.filter_eq_some_iff.mp hx).1
  · show Option.getD _ worstGwa = worstGwa
    rw [Option.isSome_eq_false_iff, Option.isNone_iff_eq_none] at hmissing
    rw [hmissing]
    rfl
  · show Option.getD (Option.filter _ _) (0 : Binary64) = 0
    rw [Option.isSome_eq_false_iff, Option.isNone_iff_eq_none] at hmissing
    rw [hmissing]
    rfl

/-- What holds of criteria that were read: the caps that are scored are finite. -/
structure Criteria.IsRead (c : Criteria) : Prop where
  maxGwa : ∀ x ∈ c.maxGwa, x.isFinite = true
  maxIncome : ∀ x ∈ c.maxIncome, x.isFinite = true

theorem Criteria.isRead_of_ofValue {raw : Value} (hraw : raw.isRaw = true) {c : Criteria}
    (h : ofValue raw = .ok c) : c.IsRead := by
  have hrecord := ofRecord_of_ofValue hraw h
  simp only [ofRecord, bind_eq_ok, pure_eq_ok] at hrecord
  obtain ⟨-, -, -, -, -, -, -, -, -, -, -, -, -, -, -, -, rfl⟩ := hrecord
  exact ⟨fun x hx => Value.isFinite_of_amount? hx, fun x hx => Value.isFinite_of_amount? hx⟩

theorem Criteria.mem_of_bound {x : Option Binary64} {y : Binary64} (h : bound x = some y) :
    y ∈ x := (Option.filter_eq_some_iff.mp h).1

/-! ### Outcomes of a verdict that passes -/

/-- The outcomes of a fit, each with the condition that it stands for. -/
def Fit.outcomes (fit : Fit) : List (Condition × Option Bool) := [
  (.gwa, fit.gwa), (.income, fit.income), (.yearLevel, fit.yearLevel), (.college, fit.college),
  (.course, fit.course), (.stBracket, fit.stBracket), (.citizenship, fit.citizenship)]

section Outcomes

variable {s : Student} {c : Criteria}

/-- A cap on grades that is scored makes the condition on grades apply. -/
theorem Criteria.boundsGwa_of_gwaCap {cap : Binary64} (h : c.gwaCap = some cap) :
    c.boundsGwa = true ∧ bound c.maxGwa = some cap ∧ cap.lt Student.worstGwa = true := by
  obtain ⟨hbound, hlt⟩ := Option.filter_eq_some_iff.mp h
  have hopen := Binary64.le_eq_false_of_lt hlt
  refine ⟨?_, hbound, hlt⟩
  simp [boundsGwa, hbound, hopen]

/-- A condition that holds where it applies has no outcome against the student. -/
theorem Fit.ofCondition_ne_false {cond : Condition}
    (h : cond.applies c = true → cond.holds s c = true) : ofCondition cond s c ≠ some false := by
  unfold ofCondition
  split
  case isTrue ha => simp [h ha]
  case isFalse => simp

/-- A student who meets the condition on grades is scored as meeting it; a grade that was not given
meets no condition that applies. -/
theorem Fit.gwa_ne_false (hs : s.IsRead)
    (h : Condition.gwa.applies c = true → Condition.gwa.holds s c = true) :
    (Fit.of s c).gwa ≠ some false := by
  show c.gwaCap.map _ ≠ _
  cases hcap : c.gwaCap with
  | none => simp
  | some cap =>
    obtain ⟨happlies, hbound, hlt⟩ := Criteria.boundsGwa_of_gwaCap hcap
    have hholds := h happlies
    simp only [Condition.holds, Bool.and_eq_true, hbound, Option.getD_some] at hholds
    have hprovided : s.gwaProvided = true := by
      rw [← Bool.not_eq_false]
      intro hmissing
      have hle := hholds.2
      rw [hs.missingGwa hmissing, Binary64.le_eq_false_of_lt hlt] at hle
      cases hle
    simp [scoredGwa, hprovided, hholds.2]

/-- The same of incomes; one that was not given is no income, which a cap allows unless it is
negative. -/
theorem Fit.income_ne_false (hs : s.IsRead) (hc : c.IsRead)
    (hmax : ∀ x ∈ c.maxIncome, x.lt 0 = false)
    (h : Condition.income.applies c = true → Condition.income.holds s c = true) :
    (Fit.of s c).income ≠ some false := by
  show (Criteria.bound c.maxIncome).map _ ≠ _
  cases hcap : Criteria.bound c.maxIncome with
  | none => simp
  | some cap =>
    have hmem := Criteria.mem_of_bound hcap
    have hfinite := hc.maxIncome cap hmem
    have hholds := h (by simp [Condition.applies, hcap])
    suffices hle : s.income.le cap = true by simp [hle]
    cases hprovided : s.incomeProvided with
    | false =>
      rw [hs.missingIncome hprovided]
      exact Binary64.le_of_lt_eq_false hfinite Binary64.isFinite_zero (hmax cap hmem)
    | true =>
      simp only [Condition.holds, Condition.incomeHolds, hcap, hprovided, Option.map_some,
        Option.getD_some, Bool.not_true, Bool.false_or, Bool.and_eq_true, Bool.not_eq_true'] at hholds
      exact Binary64.le_of_lt_eq_false hfinite hs.income hholds.1

/-- No scored criterion speaks against a student who passes. -/
theorem Fit.outcomes_of_passed {v : Verdict} (hs : s.IsRead) (hc : c.IsRead)
    (hmax : ∀ x ∈ c.maxIncome, x.lt 0 = false) (hv : evaluate s c = .ok v)
    (hp : v.passed = true) : ∀ x ∈ (Fit.of s c).outcomes, x.2 ≠ some false := by
  have hquick : quickVerdict s c = .ok true := by rw [quickVerdict_of_evaluate hv, hp]
  have hconditions := (quickVerdict_eq_true_iff.mp hquick).1
  have hcondition (cond : Condition) : ofCondition cond s c ≠ some false :=
    ofCondition_ne_false (hconditions cond)
  simp only [outcomes, List.forall_mem_cons, List.not_mem_nil, false_implies, implies_true,
    and_true]
  exact ⟨gwa_ne_false hs (hconditions .gwa), income_ne_false hs hc hmax (hconditions .income),
    hcondition .yearLevel, hcondition .college, hcondition .course, hcondition .stBracket,
    hcondition .citizenship⟩

end Outcomes

/-! ### Outcomes and checks -/

section Checks

variable {s : Student} {c : Criteria}

theorem Fit.ofCondition_eq_none_iff {cond : Condition} :
    ofCondition cond s c = none ↔ cond.applies c = false := by
  unfold ofCondition
  cases cond.applies c <;> simp

/-- Without a least grade, grades are bounded exactly where a cap is scored. -/
theorem Fit.gwa_eq_none_iff (hc : c.IsRead) (hmin : Criteria.bound c.minGwa = none) :
    (Fit.of s c).gwa = none ↔ Condition.gwa.applies c = false := by
  show c.gwaCap.map _ = none ↔ c.boundsGwa = false
  rw [Option.map_eq_none_iff]
  unfold Criteria.gwaCap Criteria.boundsGwa
  rw [hmin]
  cases hmax : Criteria.bound c.maxGwa with
  | none => simp
  | some cap =>
    have hfinite := hc.maxGwa cap (Criteria.mem_of_bound hmax)
    have hopen : cap.lt Student.worstGwa = false ↔ Student.worstGwa.le cap = true :=
      ⟨Binary64.le_of_lt_eq_false hfinite Student.isFinite_worstGwa, Binary64.lt_eq_false_of_le⟩
    simp [Option.filter_some, hopen]

/-- A grade that was given is scored by the condition on grades, if no grade is below the best. -/
theorem Fit.gwa_eq_ofCondition (hc : c.IsRead) (hprovided : s.gwaProvided = true)
    (hmin : Criteria.bound c.minGwa = none) (hbest : Student.bestGwa.le s.gwa = true) :
    (Fit.of s c).gwa = ofCondition .gwa s c := by
  cases hcap : c.gwaCap with
  | none =>
    have hnone : (Fit.of s c).gwa = none := by
      show c.gwaCap.map _ = none
      rw [hcap]
      rfl
    rw [hnone, eq_comm, ofCondition_eq_none_iff, ← gwa_eq_none_iff hc hmin, hnone]
  | some cap =>
    obtain ⟨happlies, hbound, -⟩ := Criteria.boundsGwa_of_gwaCap hcap
    show c.gwaCap.map _ = _
    simp [ofCondition, Condition.applies, Condition.holds, happlies, hcap, scoredGwa, hprovided,
      hmin, hbest, hbound]

/-- An income that was given is scored by the condition on incomes. -/
theorem Fit.income_eq_ofCondition (hs : s.IsRead) (hc : c.IsRead)
    (hprovided : s.incomeProvided = true) (hmin : Criteria.bound c.minIncome = none) :
    (Fit.of s c).income = ofCondition .income s c := by
  show (Criteria.bound c.maxIncome).map _ = _
  cases hcap : Criteria.bound c.maxIncome with
  | none => simp [ofCondition, Condition.applies, hcap, hmin]
  | some cap =>
    have hfinite := hc.maxIncome cap (Criteria.mem_of_bound hcap)
    have hle : s.income.le cap = !cap.lt s.income := by
      rw [Bool.eq_iff_iff, Bool.not_eq_true']
      exact ⟨Binary64.lt_eq_false_of_le, Binary64.le_of_lt_eq_false hfinite hs.income⟩
    simp [ofCondition, Condition.applies, Condition.holds, Condition.incomeHolds, hcap, hmin,
      hprovided, hle]

theorem Condition.id_injective {cond cond' : Condition} (h : cond.id = cond'.id) :
    cond = cond' := by
  have hfind (cond : Condition) : ofId? cond.id = some cond := by
    cases cond <;> rfl
  exact Option.some.inj ((hfind cond).symm.trans (h ▸ hfind cond'))

/-- The checks of standard conditions have the ids of those that apply, and say whether these
hold. -/
theorem Condition.checks_by_id {ks : List Check} (h : checks s c all = .ok ks) (cond : Condition) :
    ((∀ k ∈ ks, k.id ≠ cond.id) ↔ cond.applies c = false) ∧
      ∀ k ∈ ks, k.id = cond.id → Fit.ofCondition cond s c = some k.passed := by
  have hpairs := forall₂_checks h
  have hsound : ∀ k ∈ ks, k.id = cond.id → cond.applies c = true ∧ k.passed = cond.holds s c := by
    intro k hk hid
    obtain ⟨cond', hmem, hcheck⟩ := exists_mem_of_forall₂ hpairs.flip hk
    obtain rfl : cond' = cond := id_injective ((id_of_check hcheck).symm.trans hid)
    exact ⟨(List.mem_filter.mp hmem).2, passed_of_check hcheck⟩
  refine ⟨⟨fun hnone => ?_, fun ha k hk hid => ?_⟩, fun k hk hid => ?_⟩
  · rw [← Bool.not_eq_true]
    intro ha
    have hmem : cond ∈ all.filter (·.applies c) :=
      List.mem_filter.mpr ⟨by cases cond <;> decide, ha⟩
    obtain ⟨k, hk, hcheck⟩ := exists_mem_of_forall₂ hpairs hmem
    exact hnone k hk (id_of_check hcheck)
  · rw [(hsound k hk hid).1] at ha
    cases ha
  · obtain ⟨ha, hpassed⟩ := hsound k hk hid
    rw [Fit.ofCondition, if_pos ha, hpassed]

/-- Where grade and income were given and nothing but a cap bounds them, every scored outcome is the
result of the check of its condition, and there is none exactly where there is no such check. The
checks meant are those of standard conditions, and a grade below the best one is left out. -/
theorem Fit.outcomes_agree_with_checks {student criteria : Value} {v : Verdict}
    (hs : Student.ofValue student = .ok s) (hraw : criteria.isRaw = true)
    (hc : Criteria.ofValue criteria = .ok c) (hgwa : s.gwaProvided = true)
    (hincome : s.incomeProvided = true) (hminGwa : Criteria.bound c.minGwa = none)
    (hminIncome : Criteria.bound c.minIncome = none) (hv : evaluate s c = .ok v) :
    ∃ standard own, Condition.checks s c Condition.all = .ok standard ∧
      ruleChecks s c.rules c.unreadableRules = .ok own ∧ v.checks = standard ++ own ∧
      ∀ x ∈ (Fit.of s c).outcomes,
        (x.2 = none ↔ ∀ k ∈ standard, k.id ≠ x.1.id) ∧
          ((x.1 = .gwa → Student.bestGwa.le s.gwa = true) →
            ∀ k ∈ standard, k.id = x.1.id → x.2 = some k.passed) := by
  have hread := Student.isRead_of_ofValue hs
  have hcaps := Criteria.isRead_of_ofValue hraw hc
  obtain ⟨ks, hks, rfl⟩ := map_eq_ok.mp hv
  simp only [allChecks, bind_eq_ok, pure_eq_ok] at hks
  obtain ⟨standard, hstandard, own, hown, rfl⟩ := hks
  refine ⟨standard, own, hstandard, hown, rfl, ?_⟩
  have hsame {cond : Condition} {outcome : Option Bool}
      (h : outcome = ofCondition cond s c) : (outcome = none ↔ ∀ k ∈ standard, k.id ≠ cond.id) ∧
        ((cond = .gwa → Student.bestGwa.le s.gwa = true) →
          ∀ k ∈ standard, k.id = cond.id → outcome = some k.passed) := by
    obtain ⟨hnone, hsome⟩ := Condition.checks_by_id hstandard cond
    rw [h, hnone]
    exact ⟨ofCondition_eq_none_iff, fun _ => hsome⟩
  simp only [outcomes, List.forall_mem_cons, List.not_mem_nil, false_implies, implies_true,
    and_true]
  refine ⟨?_, hsame (income_eq_ofCondition hread hcaps hincome hminIncome), hsame rfl, hsame rfl,
    hsame rfl, hsame rfl, hsame rfl⟩
  -- only grades are scored otherwise than checked, and only those below the best
  obtain ⟨hnone, hsome⟩ := Condition.checks_by_id hstandard .gwa
  refine ⟨by rw [gwa_eq_none_iff hcaps hminGwa, hnone], fun hbest => ?_⟩
  rw [gwa_eq_ofCondition hcaps hgwa hminGwa (hbest trivial)]
  exact hsome

end Checks

/-- Reads a student and criteria, and evaluates them, to look at what comes of it. -/
def observe {γ : Type} (student criteria : Value) (look : Student → Criteria → Verdict → γ) :
    Except Failure γ := do
  let s ← Student.ofValue student
  let c ← Criteria.ofValue criteria
  let v ← evaluate s c
  return look s c v

theorem exists_of_observe {γ : Type} {student criteria : Value}
    {look : Student → Criteria → Verdict → γ} {seen : γ}
    (h : (observe student criteria look).toOption = some seen) :
    ∃ s c v, Student.ofValue student = .ok s ∧ Criteria.ofValue criteria = .ok c ∧
      evaluate s c = .ok v ∧ look s c v = seen := by
  simp only [observe, toOption_eq_some, bind_eq_ok, pure_eq_ok] at h
  obtain ⟨s, hs, c, hc, v, hv, hseen⟩ := h
  exact ⟨s, c, v, hs, hc, hv, hseen⟩

/-- A grade at the cap, an income above the cap, a college in short, and criteria that ask for
nothing else: three checks and three outcomes. -/
theorem Fit.outcomes_agree_at_caps :
    let student : Value := .record [("gwa", .text "2.25"), ("familyAnnualIncome", .text "₱250,001"),
      ("college", .text "CAS")]
    let criteria : Value := .record [("maxGWA", .real 2.25), ("minGWA", .whole 0),
      ("maxAnnualFamilyIncome", .whole 250000), ("eligibleColleges", .text "CAS, CEM")]
    criteria.isRaw = true ∧ ∃ s c v, Student.ofValue student = .ok s ∧
      Criteria.ofValue criteria = .ok c ∧ evaluate s c = .ok v ∧ s.gwaProvided = true ∧
      s.incomeProvided = true ∧ Criteria.bound c.minGwa = none ∧
      Criteria.bound c.minIncome = none ∧
      (Fit.of s c).outcomes.map (·.2) =
        [some true, some false, none, some true, none, none, none] ∧
      ∃ standard own, Condition.checks s c Condition.all = .ok standard ∧
        ruleChecks s c.rules c.unreadableRules = .ok own ∧ v.checks = standard ++ own ∧
        ∀ x ∈ (Fit.of s c).outcomes,
          (x.2 = none ↔ ∀ k ∈ standard, k.id ≠ x.1.id) ∧
            ((x.1 = .gwa → Student.bestGwa.le s.gwa = true) →
              ∀ k ∈ standard, k.id = x.1.id → x.2 = some k.passed) := by
  intro student criteria
  have hseen : (observe student criteria fun s c _ => (s.gwaProvided && s.incomeProvided &&
      (Criteria.bound c.minGwa).isNone && (Criteria.bound c.minIncome).isNone,
      (Fit.of s c).outcomes.map (·.2))).toOption =
      some (true, [some true, some false, none, some true, none, none, none]) := by
    decide +kernel
  obtain ⟨s, c, v, hs, hc, hv, hseen⟩ := exists_of_observe hseen
  simp only [Prod.mk.injEq, Bool.and_eq_true, Option.isNone_iff_eq_none] at hseen
  obtain ⟨⟨⟨⟨hgwa, hincome⟩, hminGwa⟩, hminIncome⟩, houtcomes⟩ := hseen
  exact ⟨rfl, s, c, v, hs, hc, hv, hgwa, hincome, hminGwa, hminIncome, houtcomes,
    outcomes_agree_with_checks hs rfl hc hgwa hincome hminGwa hminIncome hv⟩

/-- An own rule may take the id of a standard condition that does not apply, so that there is a check
without an outcome. A grade below the best one fails the check, which has a lower bound of its own,
and is scored as met. -/
theorem Fit.outcomes_differ_from_checks :
    let student (gwa : Binary64) : Value :=
      .record [("gwa", .real gwa), ("annualFamilyIncome", .whole 1000)]
    let named : Value := .record [("customConditions", .list [.record [("id", .text "college"),
      ("conditionType", .text "boolean"), ("studentField", .text "hasPet"),
      ("operator", .text "exists")]])]
    let capped : Value := .record [("maxGWA", .whole 2)]
    (∃ s c v, Student.ofValue (student 2) = .ok s ∧ Criteria.ofValue named = .ok c ∧
      evaluate s c = .ok v ∧ s.gwaProvided = true ∧ s.incomeProvided = true ∧ c.minGwa = none ∧
      c.minIncome = none ∧ (Fit.of s c).college = none ∧
      v.checks.map (fun k => (k.id, k.passed)) = [("college", false)]) ∧
    ∃ s c v, Student.ofValue (student 0.5) = .ok s ∧ Criteria.ofValue capped = .ok c ∧
      evaluate s c = .ok v ∧ s.gwaProvided = true ∧ s.incomeProvided = true ∧ c.minGwa = none ∧
      c.minIncome = none ∧ (Fit.of s c).gwa = some true ∧
      v.checks.map (fun k => (k.id, k.passed)) = [("gwa", false)] := by
  intro student named capped
  have hnamed : (observe (student 2) named fun s c v => (s.gwaProvided && s.incomeProvided &&
      c.minGwa.isNone && c.minIncome.isNone, (Fit.of s c).college,
      v.checks.map fun k => (k.id, k.passed))).toOption =
      some (true, none, [("college", false)]) := by
    decide +kernel
  have hcapped : (observe (student 0.5) capped fun s c v => (s.gwaProvided && s.incomeProvided &&
      c.minGwa.isNone && c.minIncome.isNone, (Fit.of s c).gwa,
      v.checks.map fun k => (k.id, k.passed))).toOption =
      some (true, some true, [("gwa", false)]) := by
    decide +kernel
  obtain ⟨s, c, v, hs, hc, hv, hseen⟩ := exists_of_observe hnamed
  obtain ⟨s', c', v', hs', hc', hv', hseen'⟩ := exists_of_observe hcapped
  simp only [Prod.mk.injEq, Bool.and_eq_true, Option.isNone_iff_eq_none, and_assoc] at hseen hseen'
  exact ⟨⟨s, c, v, hs, hc, hv, hseen⟩, s', c', v', hs', hc', hv', hseen'⟩

end Bursary
