import Bursary.Proofs.Checks
import Bursary.Proofs.Relaxation.Condition
import Bursary.Proofs.Value.Related

/-! Minimums of zero. In the place of an absent minimum a zero restricts nobody, with one exception:
where no size of a household is asked for, a least size of zero brings in the check of the
household, which asks for at least one member. All other checks are the same, and so is their
order. -/

namespace Bursary

attribute [local irreducible] Binary64.unitsPerOne Binary64.unitLimit Value.digitBound

open Criteria (bound bound_zero)

/-! ### Criteria with zeros -/

/-- A value, or a zero in the place of one that is no number. -/
def Value.ZeroFor (v w : Value) : Prop :=
  w = v ∨ v.amount? = none ∧ w.amount?.any (·.isZero) = true

theorem Binary64.truncate_of_isZero {x : Binary64} (h : x.isZero = true) : x.truncate = 0 := by
  cases x with
  | nan => cases h
  | infinite s => cases h
  | finite s u fits =>
    obtain rfl : u = 0 := eq_of_beq h
    cases s with
    | false => exact Int.zero_tdiv _
    | true => exact Int.zero_tdiv _

namespace Value.ZeroFor

variable {v w : Value} (h : v.ZeroFor w)

include h

theorem bound_amount? : bound w.amount? = bound v.amount? := by
  obtain rfl | ⟨hnone, hzero⟩ := h
  · rfl
  · obtain ⟨z, hz, hzero⟩ := (Option.any_eq_true _ _).mp hzero
    rw [hz, hnone, bound_zero hzero]
    rfl

theorem count? : w.count? = v.count? ∨ v.count? = none ∧ w.count? = some 0 := by
  obtain rfl | ⟨hnone, hzero⟩ := h
  · exact .inl rfl
  · obtain ⟨z, hz, hzero⟩ := (Option.any_eq_true _ _).mp hzero
    refine .inr ⟨?_, ?_⟩
    · rw [Value.count?, hnone]
      rfl
    · rw [Value.count?, hz, Option.map_some, Binary64.truncate_of_isZero hzero]

end Value.ZeroFor

namespace Criteria

/-- The keys under which criteria have minimums. -/
def minimumKeys : List String := ["minGWA", "minUnitsEnrolled", "minUnitsPassed",
  "minAnnualFamilyIncome", "minHouseholdSize"]

/-- Records of criteria with a zero in the place of some absent minimums. -/
structure HasZeros (r r' : Record) : Prop where
  minimum : ∀ key ∈ minimumKeys, (r.get key).ZeroFor (r'.get key)
  rest : Record.AgreeBut minimumKeys r r'

/-- A zero is set in the place of one absent minimum. -/
theorem HasZeros.set {r : Record} {key : String} (hkey : key ∈ minimumKeys) {v : Value}
    (h : (r.get key).ZeroFor v) : HasZeros r (r.set key v) where
  minimum k _ := by
    unfold Record.get at h ⊢
    rw [Record.get?_set]
    by_cases hk : k = key
    · rw [if_pos hk, hk]
      exact h
    · rw [if_neg hk]
      exact .inl rfl
  rest k hk := by
    rw [Record.get?_set, if_neg]
    rintro rfl
    exact hk hkey

theorem HasZeros.trans {r r' r'' : Record} (h : HasZeros r r') (h' : HasZeros r' r'') :
    HasZeros r r'' where
  minimum key hkey := by
    obtain heq | ⟨hnone, hzero⟩ := h.minimum key hkey
    · exact heq ▸ h'.minimum key hkey
    · obtain heq' | ⟨hnone', -⟩ := h'.minimum key hkey
      · exact .inr ⟨hnone, heq' ▸ hzero⟩
      · rw [hnone'] at hzero
        cases hzero
  rest key hkey := (h.rest key hkey).trans (h'.rest key hkey)

/-- The minimums of criteria. -/
structure Minimums where
  gwa : Option Binary64
  unitsEnrolled : Option Binary64
  unitsPassed : Option Binary64
  income : Option Binary64
  householdSize : Option Int

def withMinimums (c : Criteria) (m : Minimums) : Criteria :=
  { c with
    minGwa := m.gwa, minUnitsEnrolled := m.unitsEnrolled, minUnitsPassed := m.unitsPassed
    minIncome := m.income, minHouseholdSize := m.householdSize }

/-- Minimums that come to the same bounds as those of criteria. -/
structure Minimums.SameBounds (c : Criteria) (m : Minimums) : Prop where
  gwa : bound m.gwa = bound c.minGwa
  unitsEnrolled : bound m.unitsEnrolled = bound c.minUnitsEnrolled
  unitsPassed : bound m.unitsPassed = bound c.minUnitsPassed
  income : bound m.income = bound c.minIncome
  householdSize : m.householdSize = c.minHouseholdSize ∨
    c.minHouseholdSize = none ∧ m.householdSize = some 0

/-- Whether a least size of a household is new where no size was asked for. -/
def Minimums.Opens (c : Criteria) (m : Minimums) : Prop :=
  c.minHouseholdSize = none ∧ m.householdSize = some 0 ∧ c.maxHouseholdSize = none

/-- The same of records. -/
def Opens (r r' : Record) : Prop :=
  (r.get "minHouseholdSize").count? = none ∧ (r'.get "minHouseholdSize").count? = some 0 ∧
    (r.get "maxHouseholdSize").count? = none

instance (r r' : Record) : Decidable (Opens r r') := inferInstanceAs (Decidable (_ ∧ _))

theorem ofRecord_hasZeros {r r' : Record} (h : HasZeros r r') :
    Alike
      (fun c d => ∃ m : Minimums, d = c.withMinimums m ∧ m.SameBounds c ∧ (m.Opens c ↔ Opens r r'))
      (ofRecord r) (ofRecord r') := by
  have hbound (key : String) (hkey : key ∈ minimumKeys) :=
    (h.minimum key hkey).bound_amount?
  have hcount := (h.minimum "minHouseholdSize" (by decide)).count?
  unfold ofRecord Opens
  simp (disch := decide) only [h.rest.get, h.rest.firstTruthy]
  -- both records have the same rules and lists
  iterate 8 refine .bind_same fun _ => ?_
  let m : Minimums := {
    gwa := (r'.get "minGWA").amount?
    unitsEnrolled := (r'.get "minUnitsEnrolled").amount?
    unitsPassed := (r'.get "minUnitsPassed").amount?
    income := (r'.get "minAnnualFamilyIncome").amount?
    householdSize := (r'.get "minHouseholdSize").count? }
  exact .ok ⟨m, rfl, ⟨hbound _ (by decide), hbound _ (by decide), hbound _ (by decide),
    hbound _ (by decide), hcount⟩, Iff.rfl⟩

theorem eq_of_bound_eq {x y : Option Binary64} (h : bound x = bound y)
    (hsome : (bound y).isSome = true) : x = y := by
  obtain ⟨b, hb⟩ := Option.isSome_iff_exists.mp hsome
  rw [(Option.filter_eq_some_iff.mp (h.trans hb)).1, (Option.filter_eq_some_iff.mp hb).1]

end Criteria

/-! ### Checks -/

namespace Condition

variable {c : Criteria} {m : Criteria.Minimums} (h : m.SameBounds c)

include h

theorem smallestHousehold_withMinimums :
    (c.withMinimums m).smallestHousehold = c.smallestHousehold := by
  show (m.householdSize.filter (· != 0)).getD 1 = (c.minHouseholdSize.filter (· != 0)).getD 1
  obtain heq | ⟨hnone, hzero⟩ := h.householdSize
  · rw [heq]
  · rw [hnone, hzero]
    rfl

/-- Only the condition on the household can apply anew. -/
theorem applies_withMinimums {cond : Condition} (hcond : cond = householdSize → ¬m.Opens c) :
    cond.applies (c.withMinimums m) = cond.applies c := by
  cases cond with
  | gwa =>
    show (!(_ && ((bound m.gwa).map _).getD true)) = _
    rw [h.gwa]
    rfl
  | unitsEnrolled => exact congrArg Option.isSome h.unitsEnrolled
  | unitsPassed => exact congrArg Option.isSome h.unitsPassed
  | income =>
    show (_ || (bound m.income).isSome) = _
    rw [h.income]
    rfl
  | householdSize =>
    show (m.householdSize.isSome || c.maxHouseholdSize.isSome) = _
    obtain heq | ⟨hnone, hzero⟩ := h.householdSize
    · rw [heq]
      rfl
    · have hmax : c.maxHouseholdSize ≠ none := fun hmax => hcond rfl ⟨hnone, hzero, hmax⟩
      rw [applies, Option.isSome_iff_ne_none.mpr hmax, Bool.or_true, Bool.or_true]
  | _ => rfl

theorem holds_withMinimums (cond : Condition) (s : Student) :
    cond.holds s (c.withMinimums m) = cond.holds s c := by
  cases cond with
  | gwa =>
    show (((bound m.gwa).getD _).le _ && _) = _
    rw [h.gwa]
    rfl
  | unitsEnrolled =>
    show ((bound m.unitsEnrolled).map _).getD true = _
    rw [h.unitsEnrolled]
    rfl
  | unitsPassed =>
    show (s.unitsPassed.map fun x => ((bound m.unitsPassed).map (Binary64.le · x)).getD true).getD
      false = _
    rw [h.unitsPassed]
    rfl
  | income =>
    simp only [holds, incomeHolds, Criteria.withMinimums, h.income]
  | householdSize =>
    simp only [holds, householdHolds, smallestHousehold_withMinimums h]
    rfl
  | _ => rfl

theorem requiredText_withMinimums {cond : Condition} (happlies : cond.applies c = true) :
    cond.requiredText (c.withMinimums m) = cond.requiredText c := by
  cases cond with
  | gwa => simp only [requiredText, gwaBoundsText, Criteria.gwaCap, Criteria.withMinimums, h.gwa]
  | unitsEnrolled =>
    exact congrArg (Except.ok ∘ leastUnits) (Criteria.eq_of_bound_eq h.unitsEnrolled happlies)
  | unitsPassed =>
    exact congrArg (Except.ok ∘ leastUnits) (Criteria.eq_of_bound_eq h.unitsPassed happlies)
  | income => simp only [requiredText, incomeBoundsText, Criteria.withMinimums, h.income]
  | householdSize =>
    simp only [requiredText, householdBoundsText, smallestHousehold_withMinimums h]
    rfl
  | _ => rfl

theorem check_withMinimums {cond : Condition} (happlies : cond.applies c = true) (s : Student) :
    cond.check s (c.withMinimums m) = cond.check s c := by
  simp only [check, requiredText_withMinimums h happlies, holds_withMinimums h]

/-- The checks of conditions among which the one on the household does not apply anew. -/
theorem checks_withMinimums {conds : List Condition} (hconds : householdSize ∈ conds → ¬m.Opens c)
    (s : Student) : checks s (c.withMinimums m) conds = checks s c conds := by
  induction conds with
  | nil => rfl
  | cons cond conds ih =>
    have happlies : cond.applies (c.withMinimums m) = cond.applies c :=
      applies_withMinimums h fun hcond => hconds (hcond ▸ List.mem_cons_self)
    have hrest := ih fun hmem => hconds (List.mem_cons_of_mem cond hmem)
    rw [checks, checks, happlies, hrest]
    by_cases hcond : cond.applies c = true
    · rw [if_pos hcond, if_pos hcond, check_withMinimums h hcond]
    · rw [if_neg hcond, if_neg hcond]

omit h

theorem checks_append (s : Student) (c : Criteria) (front back : List Condition) :
    checks s c (front ++ back) = do return (← checks s c front) ++ (← checks s c back) := by
  induction front with
  | nil => exact (bind_pure _).symm
  | cons cond front ih =>
    rw [List.cons_append, checks, checks, ih]
    by_cases hcond : cond.applies c = true
    · simp only [if_pos hcond, bind_assoc, pure_bind, List.cons_append]
    · rw [if_neg hcond, if_neg hcond]

/-- The condition on the household stands in one place of the catalogue. -/
theorem all_eq_append : ∃ front back, all = front ++ householdSize :: back ∧
    householdSize ∉ front ∧ householdSize ∉ back :=
  ⟨all.take 4, all.drop 5, rfl, by decide, by decide⟩

/-- A check that asks for one member of the household at least. -/
structure AsksForMember (s : Student) (k : Check) : Prop where
  id : k.id = householdSize.id
  importance : k.importance = .required
  passed : k.passed = true ↔ ∃ n ∈ s.householdSize, 1 ≤ n

theorem check_of_opens (hopens : m.Opens c) {s : Student}
    (hsize : ∀ n ∈ s.householdSize, n.natAbs < Value.digitBound) :
    Yields (householdSize.check s (c.withMinimums m)) (AsksForMember s) := by
  obtain ⟨-, hzero, hmax⟩ := hopens
  have htext : Returns (householdSize.requiredText (c.withMinimums m)) := by
    refine householdBoundsText_returns (fun n hn => ?_) (fun n hn => ?_)
    · cases hn.symm.trans hzero
      exact Nat.lt_trans Nat.one_pos Value.one_lt_digitBound
    · cases hn.symm.trans hmax
  have hsmallest : (c.withMinimums m).smallestHousehold = 1 := by
    show (m.householdSize.filter _).getD 1 = 1
    rw [hzero]
    rfl
  have hmost : (c.withMinimums m).maxHouseholdSize = none := hmax
  refine (studentText_returns hsize householdSize).bind fun _ _ => htext.bind fun _ _ => ?_
  refine .ok ⟨rfl, rfl, ?_⟩
  simp only [holds, householdHolds, hsmallest, hmost]
  cases s.householdSize <;> simp

/-- The checks with a least size of zero: one more, for the household, where there was none. -/
theorem checks_of_opens (h : m.SameBounds c) (hopens : m.Opens c) {s : Student}
    (hsize : ∀ n ∈ s.householdSize, n.natAbs < Value.digitBound) :
    Alike (fun ks ks' => ∃ front k back, ks = front ++ back ∧ ks' = front ++ k :: back ∧
        AsksForMember s k)
      (checks s c all) (checks s (c.withMinimums m) all) := by
  obtain ⟨front, back, hall, hfront, hback⟩ := all_eq_append
  obtain ⟨k, hk, hasks⟩ := check_of_opens hopens hsize
  have hbefore : householdSize.applies c = false := by
    rw [applies, hopens.1, hopens.2.2]
    rfl
  have hafter : householdSize.applies (c.withMinimums m) = true := by
    show (m.householdSize.isSome || _) = true
    rw [hopens.2.1]
    rfl
  rw [hall, checks_append, checks_append, checks, checks, hbefore, hafter, hk,
    checks_withMinimums h (fun hmem => absurd hmem hfront),
    checks_withMinimums h (fun hmem => absurd hmem hback)]
  refine .bind_same fun ks => ?_
  rw [if_neg Bool.false_ne_true, if_pos rfl, ok_bind, bind_assoc]
  exact .bind_same fun ls => .ok ⟨ks, k, ls, rfl, rfl, hasks⟩

end Condition

/-! ### Verdicts -/

/-- A verdict with one more check than another one, which asks for a member of the household. -/
def Verdict.AsksForMember (s : Student) (v v' : Verdict) : Prop :=
  ∃ front k back, v.checks = front ++ back ∧ v'.checks = front ++ k :: back ∧
    Condition.AsksForMember s k ∧ v'.passed = (v.passed && k.passed) ∧
    v'.score = percentage (v.passedCount + k.passed.toNat) (v.total + 1)

theorem Verdict.asksForMember_ofChecks {s : Student} {front back : List Check} {k : Check}
    (hk : Condition.AsksForMember s k) :
    AsksForMember s (ofChecks (front ++ back)) (ofChecks (front ++ k :: back)) := by
  have hblocks : k.blocks = !k.passed := by rw [Check.blocks, hk.importance]; rfl
  refine ⟨front, k, back, rfl, rfl, hk, ?_, ?_⟩
  · rw [passed_ofChecks, passed_ofChecks, List.any_append, List.any_append, List.any_cons, hblocks]
    cases k.passed <;> simp
  · simp only [ofChecks, List.countP_append, List.countP_cons, List.length_append,
      List.length_cons, ← Nat.add_assoc]
    cases k.passed <;> rfl

/-- With zeros in the place of absent minimums a student gets the same verdict, unless that opens
the condition on the household; then the verdict differs in the check for one member alone. -/
theorem evaluate_withMinimums {c : Criteria} {m : Criteria.Minimums} (h : m.SameBounds c)
    {s : Student} (hsize : ∀ n ∈ s.householdSize, n.natAbs < Value.digitBound) :
    Alike (fun v v' => (v' = v ↔ ¬m.Opens c) ∧ (m.Opens c → v.AsksForMember s v'))
      (evaluate s c) (evaluate s (c.withMinimums m)) := by
  by_cases hopens : m.Opens c
  case neg =>
    have hchecks : Condition.checks s (c.withMinimums m) Condition.all =
        Condition.checks s c Condition.all :=
      Condition.checks_withMinimums h (fun _ => hopens) s
    have hsame : evaluate s (c.withMinimums m) = evaluate s c := by
      rw [evaluate, evaluate, allChecks, allChecks, hchecks]
      rfl
    rw [hsame]
    refine (Alike.of_eq rfl).mono fun v v' hv => ?_
    exact ⟨iff_of_true hv.symm hopens, fun ho => absurd ho hopens⟩
  case pos =>
    -- the new check stands among those of the catalogue, before the scholarship's own rules
    refine Alike.map (R := fun ks ks' => ∃ front k back, ks = front ++ back ∧
      ks' = front ++ k :: back ∧ Condition.AsksForMember s k) ?_ ?_
    · refine (Condition.checks_of_opens h hopens hsize).bind ?_
      rintro _ _ ⟨front, k, back, rfl, rfl, hasks⟩
      refine .bind_same fun own => .ok ⟨front, k, back ++ own, ?_, ?_, hasks⟩
      · exact List.append_assoc _ _ _
      · exact List.append_assoc _ _ _
    · rintro _ _ ⟨front, k, back, rfl, rfl, hasks⟩
      refine ⟨iff_of_false (fun heq => ?_) (not_not_intro hopens), fun _ =>
        Verdict.asksForMember_ofChecks hasks⟩
      have hlength := congrArg (fun v : Verdict => v.checks.length) heq
      simp only [Verdict.ofChecks, List.length_append, List.length_cons] at hlength
      omega

theorem Student.householdSize_lt_of_ofValue {raw : Value} {s : Student} (h : ofValue raw = .ok s) :
    ∀ n ∈ s.householdSize, n.natAbs < Value.digitBound := by
  simp only [ofValue, bind_eq_ok, pure_eq_ok] at h
  obtain ⟨-, -, -, -, -, -, -, -, -, -, -, -, -, -, rfl⟩ := h
  exact fun n hn => Value.natAbs_lt_of_mem_count? hn

/-- A zero in the place of an absent minimum changes no check, no verdict and no score, unless it is
the least size of a household where there is no greatest one. Then there is one more required check,
which a student passes who reports a household of one member at least. -/
theorem assess_of_hasZeros {student criteria criteria' : Value} (hraw : criteria.isRaw = true)
    (hraw' : criteria'.isRaw = true)
    (h : Criteria.HasZeros criteria.toRecord criteria'.toRecord) :
    let opens := Criteria.Opens criteria.toRecord criteria'.toRecord
    Alike
      (fun v v' => (v' = v ↔ ¬opens) ∧
        (opens → ∃ s, Student.ofValue student = .ok s ∧ v.AsksForMember s v'))
      (assess (.raw student) (.raw criteria)) (assess (.raw student) (.raw criteria')) := by
  simp only [assess, StudentEntry.read, CriteriaEntry.read, Criteria.ofValue_eq_ofRecord hraw,
    Criteria.ofValue_eq_ofRecord hraw']
  cases hs : Student.ofValue student with
  | error f => exact .error f
  | ok s =>
    refine (Criteria.ofRecord_hasZeros h).bind ?_
    rintro c _ ⟨m, rfl, hm, hopens⟩
    refine (evaluate_withMinimums hm (Student.householdSize_lt_of_ofValue hs)).mono ?_
    rintro v v' ⟨hsame, hmore⟩
    rw [hopens] at hsame hmore
    exact ⟨hsame, fun ho => ⟨s, rfl, hmore ho⟩⟩

/-- Zeros for all minimums, in different spellings. One of the minimums was a word before, and the
household has a greatest size. -/
theorem assess_of_five_zeros :
    let student : Value := .record [("gwa", .real 1.75), ("unitsEnrolled", .whole 15)]
    let bounds : Record := [("maxGWA", .real 2), ("minUnitsPassed", .text "none"),
      ("maxHouseholdSize", .whole 6)]
    let bounds' := ((((bounds.set "minGWA" (.whole 0)).set "minUnitsEnrolled" (.real (-0))).set
      "minUnitsPassed" (.text "0.0")).set "minAnnualFamilyIncome" (.text "₱0")).set
      "minHouseholdSize" (.text " 0 ")
    Criteria.HasZeros bounds bounds' ∧ ¬Criteria.Opens bounds bounds' ∧
      assess (.raw student) (.raw (.record bounds)) =
        assess (.raw student) (.raw (.record bounds')) ∧
      (assess (.raw student) (.raw (.record bounds'))).toOption.map
        (fun v => (v.passed, v.checks.map (·.id))) = some (false, ["gwa", "householdSize"]) := by
  intro student bounds bounds'
  have hstep {r : Record} {key : String} {v : Value} (hkey : key ∈ Criteria.minimumKeys)
      (hnone : (r.get key).amount? = none) (hzero : v.amount?.any (·.isZero) = true) :
      Criteria.HasZeros r (r.set key v) := .set hkey (.inr ⟨hnone, hzero⟩)
  have hzeros : Criteria.HasZeros bounds bounds' := by
    refine ((((hstep ?_ ?_ ?_).trans (hstep ?_ ?_ ?_)).trans (hstep ?_ ?_ ?_)).trans
      (hstep ?_ ?_ ?_)).trans (hstep ?_ ?_ ?_)
    all_goals decide +kernel
  have hopens : ¬Criteria.Opens bounds bounds' := by decide +kernel
  have hraw (r : Record) : (Value.record r).isRaw = true := rfl
  have hassess : assess (.raw student) (.raw (.record bounds)) =
      assess (.raw student) (.raw (.record bounds')) :=
    ((assess_of_hasZeros (hraw bounds) (hraw bounds') hzeros).mono
      fun v v' hv => (hv.1.mpr hopens).symm).eq
  exact ⟨hzeros, hopens, hassess, by decide +kernel⟩

/-- Without any criteria everybody passes. A least household of zero brings in a check, which a
student fails who reports no household. -/
theorem verdict_changes_of_zero_household :
    let student : Value := .record []
    let bounds : Record := []
    let bounds' := bounds.set "minHouseholdSize" (.whole 0)
    Criteria.HasZeros bounds bounds' ∧
      (assess (.raw student) (.raw (.record bounds))).toOption.map
        (fun v => (v.passed, v.score, v.checks.length)) = some (true, 100, 0) ∧
      (assess (.raw student) (.raw (.record bounds'))).toOption.map
        (fun v => (v.passed, v.score, v.checks.length)) = some (false, 0, 1) := by
  intro student bounds bounds'
  have hzero : (Record.get bounds "minHouseholdSize").ZeroFor (.whole 0) :=
    .inr ⟨rfl, by decide +kernel⟩
  exact ⟨.set (by decide) hzero, by decide +kernel, by decide +kernel⟩

end Bursary
