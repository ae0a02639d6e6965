import Bursary.Proofs.Evaluation
import Bursary.Proofs.Relaxation.Condition
import Bursary.Proofs.Verdict
import Mathlib.Logic.Relation

/-! Relaxed criteria exclude nobody. The quick verdict stays positive through every relaxation. The
full one then cannot turn negative, and is reached again as long as the bounds on the household can
be shown and no place of an unreadable rule is a list: whether lists have an order depends on which
of them are compared, so without one of the rules there may be none. -/

namespace Bursary

attribute [local irreducible] Binary64.unitsPerOne Binary64.unitLimit Value.digitBound

/-! ### What relaxations keep of rules -/

theorem Record.get_set_of_ne (raw : Record) {key other : String} (h : other ≠ key) (v : Value) :
    (raw.set key v).get other = raw.get other := by
  rw [get, get?_set, if_neg h]
  rfl

namespace Unreadable

theorem isActive_deactivated (raw : Record) {v : Value} (h : v.isTruthy = false) :
    isActive (raw.set "is_active" v) = false := by
  rw [isActive, Record.get?_set, if_pos rfl]
  exact h

theorem isActive_demoted (raw : Record) (v : Value) :
    isActive (raw.set "importance" v) = isActive raw := by
  rw [isActive, Record.get?_set, if_neg (by decide)]
  rfl

theorem importance_demoted (raw : Record) (i : Importance) :
    importance (raw.set "importance" (.text i.word)) = i := by
  rw [importance, Record.get, Record.get?_set, if_pos rfl]
  cases i <;> rfl

theorem check_demoted_returns_iff (raw : Record) (v : Value) :
    Returns (check (raw.set "importance" v)) ↔ Returns (check raw) := by
  rw [check_returns_iff, check_returns_iff, Record.get_set_of_ne raw (by decide),
    Record.get_set_of_ne raw (by decide), Record.get_set_of_ne raw (by decide)]

theorem placeKind_demoted (raw : Record) (v : Value) :
    placeKind (raw.set "importance" v) = placeKind raw := by
  rw [placeKind, placeKind, position, position, Record.get_set_of_ne raw (by decide)]

end Unreadable

namespace Relaxation

variable {c d : Criteria} {s : Student}

/-- The rules of both kinds stay as they are but for one. -/
theorem ownRules (h : Relaxation c d) :
    (d.rules = c.rules ∨ OneRelaxed Rule.RelaxesTo c.rules d.rules) ∧
      (d.unreadableRules = c.unreadableRules ∨
        OneRelaxed Unreadable.RelaxesTo c.unreadableRules d.unreadableRules) := by
  cases h with
  | rule h => exact ⟨.inr h, .inl rfl⟩
  | unreadableRule h => exact ⟨.inl rfl, .inr h⟩
  | threshold t => cases t <;> exact ⟨.inl rfl, .inl rfl⟩
  | extend l => cases l <;> exact ⟨.inl rfl, .inl rfl⟩
  | empty l => cases l <;> exact ⟨.inl rfl, .inl rfl⟩
  | clear f => cases f <;> exact ⟨.inl rfl, .inl rfl⟩
  | raiseHousehold => exact ⟨.inl rfl, .inl rfl⟩
  | lowerHousehold => exact ⟨.inl rfl, .inl rfl⟩

theorem forall_rules (h : Relaxation c d) {P : Rule → Prop}
    (hP : ∀ r r', Rule.RelaxesTo r r' → P r → P r') (hc : ∀ r ∈ c.rules, P r) :
    ∀ r ∈ d.rules, P r := by
  rcases h.ownRules.1 with hsame | hone
  · rwa [hsame]
  · exact hone.forall_mem hP hc

theorem forall_unreadableRules (h : Relaxation c d) {P : Record → Prop}
    (hP : ∀ raw raw', Unreadable.RelaxesTo raw raw' → P raw → P raw')
    (hc : ∀ raw ∈ c.unreadableRules, P raw) : ∀ raw ∈ d.unreadableRules, P raw := by
  rcases h.ownRules.2 with hsame | hone
  · rwa [hsame]
  · exact hone.forall_mem hP hc

/-- The active rules lose at most one place and gain none. -/
theorem placeKinds_sublist (h : Relaxation c d) : d.placeKinds.Sublist c.placeKinds := by
  refine List.Sublist.append ?_ ?_
  · rcases h.ownRules.1 with hsame | hone
    · exact hsame ▸ List.Sublist.refl _
    · refine hone.map_filter_sublist fun r r' hr ha => ?_
      cases hr with
      | deactivate => cases ha
      | demote => exact ⟨ha, rfl⟩
  · rcases h.ownRules.2 with hsame | hone
    · exact hsame ▸ List.Sublist.refl _
    · refine hone.map_filter_sublist fun raw raw' hr ha => ?_
      cases hr with
      | deactivate hv => cases (Unreadable.isActive_deactivated raw hv).symm.trans ha
      | demote =>
        rw [Unreadable.isActive_demoted] at ha
        exact ⟨ha, Unreadable.placeKind_demoted raw _⟩

/-! ### One relaxation -/

/-- The quick verdict on a student stays positive. -/
theorem quickVerdict_eq_true (h : Relaxation c d) (hq : quickVerdict s c = .ok true) :
    quickVerdict s d = .ok true := by
  rw [quickVerdict_eq_true_iff, quickRules_eq_true_iff, quickUnreadable_eq_true_iff] at hq ⊢
  obtain ⟨hconditions, hrules, hraws⟩ := hq
  refine ⟨fun cond ha => ?_, h.forall_rules (fun r r' hr hpasses ha hi => ?_) hrules,
    h.forall_unreadableRules (fun raw raw' hr htolerable ha => ?_) hraws⟩
  · have hcond := h.relaxed cond
    exact hcond.holds ha s (hconditions cond (hcond.applies ha))
  · cases hr with
    | deactivate => cases ha
    | demote hdemoted => exact absurd hi hdemoted
  · cases hr with
    | deactivate hv => cases (Unreadable.isActive_deactivated raw hv).symm.trans ha
    | @demote i hi =>
      rw [Unreadable.isActive_demoted] at ha
      refine ⟨(Unreadable.check_demoted_returns_iff raw _).mpr (htolerable ha).1, ?_⟩
      rw [Unreadable.importance_demoted]
      exact hi

end Relaxation

/-- Everything in an evaluation but the bounds of the standard conditions can be shown and put in
order. -/
structure Criteria.Showable (c : Criteria) (s : Student) : Prop where
  conditions (cond : Condition) (h : cond.applies c = true) : Returns (cond.studentText s)
  rules : ∀ r ∈ c.rules, r.isActive = true → Returns (r.check s)
  unreadableRules : ∀ raw ∈ c.unreadableRules, Unreadable.isActive raw = true →
    Returns (Unreadable.check raw)
  plain : some .list ∉ c.placeKinds
  ordered : c.HasOrderedPlaces

namespace Relaxation

variable {c d : Criteria} {s : Student}

theorem showable (h : Relaxation c d) (hc : c.Showable s) : d.Showable s where
  conditions cond ha := hc.conditions cond ((h.relaxed cond).applies ha)
  rules := by
    refine h.forall_rules (fun r r' hr hcheck ha => ?_) hc.rules
    cases hr with
    | deactivate => cases ha
    | demote => exact Rule.check_returns_iff.mpr ((Rule.check_returns_iff (r := r)).mp (hcheck ha))
  unreadableRules := by
    refine h.forall_unreadableRules (fun raw raw' hr hcheck ha => ?_) hc.unreadableRules
    cases hr with
    | deactivate hv => cases (Unreadable.isActive_deactivated raw hv).symm.trans ha
    | demote =>
      rw [Unreadable.isActive_demoted] at ha
      exact (Unreadable.check_demoted_returns_iff raw _).mpr (hcheck ha)
  plain hmem := hc.plain (h.placeKinds_sublist.subset hmem)
  ordered := by
    have hsub := h.placeKinds_sublist
    rcases hc.ordered with hlength | ⟨kind, hkind⟩
    · exact .inl (Nat.le_trans hsub.length_le hlength)
    · exact .inr ⟨kind, fun k hk => hkind k (hsub.subset hk)⟩

end Relaxation

/-! ### All relaxations -/

/-- A student who passes the criteria is not bounded below by a NaN. -/
theorem minGwa_ne_nan_of_quickVerdict {s : Student} {c : Criteria}
    (hq : quickVerdict s c = .ok true) : c.minGwa ≠ some .nan := by
  intro hnan
  have happlies : Condition.gwa.applies c = true := by
    rw [Condition.applies, Criteria.boundsGwa, hnan]
    exact Bool.not_eq_true' _ |>.mpr (Bool.and_false _)
  have hholds := (quickVerdict_eq_true_iff.mp hq).1 .gwa happlies
  rw [Condition.holds, hnan, Bool.and_eq_true] at hholds
  cases hholds.1

theorem Criteria.Showable.evaluate_returns {s : Student} {c : Criteria} (h : c.Showable s)
    (hq : quickVerdict s c = .ok true)
    (hmin : ∀ n ∈ c.minHouseholdSize, n.natAbs < Value.digitBound)
    (hmax : ∀ n ∈ c.maxHouseholdSize, n.natAbs < Value.digitBound) : Returns (evaluate s c) := by
  rw [evaluate_returns_iff h.plain]
  refine ⟨fun cond ha => ⟨h.conditions cond ha, ?_⟩, h.rules, h.unreadableRules, h.ordered⟩
  exact Condition.requiredText_returns ha (minGwa_ne_nan_of_quickVerdict hq) hmin hmax

/-- A student who passes criteria passes them after any relaxations. The quick verdict says so in
every case; the full one never says otherwise, and does say so if the bounds on the household are
within the digit limit and no active rule that could not be read is placed by a list. -/
theorem passed_of_relaxations {s : Student} {c d : Criteria} {v : Verdict}
    (hv : evaluate s c = .ok v) (hpassed : v.passed = true)
    (h : Relation.ReflTransGen Relaxation c d) :
    quickVerdict s d = .ok true ∧ (∀ w, evaluate s d = .ok w → w.passed = true) ∧
      ((∀ n ∈ d.minHouseholdSize, n.natAbs < Value.digitBound) →
        (∀ n ∈ d.maxHouseholdSize, n.natAbs < Value.digitBound) →
        some .list ∉ c.placeKinds → ∃ w, evaluate s d = .ok w ∧ w.passed = true) := by
  have hquick : quickVerdict s c = .ok true := by rw [quickVerdict_of_evaluate hv, hpassed]
  have hq : quickVerdict s d = .ok true := by
    induction h with
    | refl => exact hquick
    | tail _ hstep ih => exact hstep.quickVerdict_eq_true ih
  have hpasses (w : Verdict) (hw : evaluate s d = .ok w) : w.passed = true :=
    Except.ok.inj ((quickVerdict_of_evaluate hw).symm.trans hq)
  refine ⟨hq, hpasses, fun hmin hmax hplain => ?_⟩
  have hshowable : d.Showable s := by
    obtain ⟨hconditions, hrules, hraws, hordered⟩ :=
      (evaluate_returns_iff hplain).mp (returns_of_eq_ok hv)
    have hc : c.Showable s :=
      ⟨fun cond ha => (hconditions cond ha).1, hrules, hraws, hplain, hordered⟩
    clear hv hpassed hquick hq hpasses hmin hmax hplain
    induction h with
    | refl => exact hc
    | tail _ hstep ih => exact hstep.showable ih
  obtain ⟨w, hw, -⟩ := hshowable.evaluate_returns hq hmin hmax
  exact ⟨w, hw, hpasses w hw⟩

/-- Grades, the household and citizenships are bounded less and a required rule is demoted, beside
an unreadable rule that is optional and fails. -/
theorem passed_of_four_relaxations :
    let s : Student := { gwa := 2.5, gwaProvided := true, householdSize := some 3 }
    let siblings : Rule := {
      id := "siblings", name := "Siblings", field := "gwa", test := .range .lt (.whole 3) }
    let c : Criteria := {
      maxGwa := some 3, maxHouseholdSize := some 4, citizenships := ["Filipino"]
      filipinoOnly := true, rules := [siblings]
      unreadableRules := [[("importance", .text "optional"), ("position", .real 0.5)]] }
    let d₁ : Criteria := { c with maxGwa := some 6 }
    let d₂ : Criteria := { d₁ with maxHouseholdSize := some (Int.ofNat (Nat.pow 10 4299)) }
    let d₃ : Criteria := { d₂ with citizenships := ["Thai", "Filipino"] }
    let d : Criteria := { d₃ with rules := [{ siblings with importance := .optional }] }
    Relation.ReflTransGen Relaxation c d ∧
      ∃ v, evaluate s c = .ok v ∧ v.passed = true ∧ v.score = 80 ∧ quickVerdict s d = .ok true ∧
        ∃ w, evaluate s d = .ok w ∧ w.passed = true := by
  intro s siblings c d₁ d₂ d₃ d
  have hgwa : Relaxation c d₁ :=
    .threshold .maxGwa (.raise rfl (by decide +kernel) (by decide +kernel))
  have hmembers : 4 < Int.ofNat (Nat.pow 10 4299) := by decide +kernel
  have hhousehold : Relaxation d₁ d₂ := .raiseHousehold rfl hmembers
  have hcitizenships : Relaxation d₂ d₃ :=
    .extend .citizenships (by decide +kernel) (by decide +kernel)
  have hrule : Relaxation d₃ d := .rule (.replace [] [] (.demote (by decide)))
  have h : Relation.ReflTransGen Relaxation c d :=
    .tail (.tail (.tail (.single hgwa) hhousehold) hcitizenships) hrule
  have hv : (evaluate s c).toOption.map (fun v => (v.passed, v.score)) = some (true, 80) := by
    decide +kernel
  obtain ⟨v, hv, hp⟩ := Option.map_eq_some_iff.mp hv
  rw [toOption_eq_some] at hv
  simp only [Prod.mk.injEq] at hp
  obtain ⟨hquick, -, hreturns⟩ := passed_of_relaxations hv hp.1 h
  exact ⟨h, v, hv, hp.1, hp.2, hquick,
    hreturns (by decide +kernel) (by decide +kernel) (by decide +kernel)⟩

/-- A bound on the household that has too many digits cannot be shown; and three lists in a row can
be put in order as they stand, where the first and the last cannot. -/
theorem relaxed_evaluation_fails :
    let s : Student := { householdSize := some 3 }
    let c : Criteria := { maxHouseholdSize := some 4 }
    let d : Criteria := { maxHouseholdSize := some (Int.ofNat (Nat.pow 10 4300)) }
    let placed (v : Value) : Record :=
      [("importance", .text "optional"), ("position", .list [.whole 1, v])]
    let first := placed (.text "a")
    let last := placed (.whole 2)
    let middle : Record := [("importance", .text "optional"), ("position", .list [.real .nan])]
    let c' : Criteria := { unreadableRules := [first, middle, last] }
    let d' : Criteria := { unreadableRules := [first, last] }
    (Relaxation c d ∧ (evaluate s c).toOption.map (·.passed) = some true ∧
      (evaluate s d).toOption.map (·.passed) = none) ∧
    Relaxation c' d' ∧ (evaluate s c').toOption.map (·.passed) = some true ∧
      (evaluate s d').toOption.map (·.passed) = none := by
  intro s c d placed first last middle c' d'
  have hmembers : 4 < Int.ofNat (Nat.pow 10 4300) := by decide +kernel
  exact ⟨⟨.raiseHousehold rfl hmembers, by decide +kernel, by decide +kernel⟩,
    .unreadableRule (.delete [first] [last] middle), by decide +kernel, by decide +kernel⟩

end Bursary
