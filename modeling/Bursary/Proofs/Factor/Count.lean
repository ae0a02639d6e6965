import Bursary.Proofs.Agreement
import Bursary.Proofs.Factor.Decomposition

/-! What an explanation counts. The factor of overall eligibility shows how many criteria are met
out of those that restrict anybody, and each of these criteria has a factor of its own that says
whether it is met. The two agree on every criterion but one: a grade average that was not given is
counted as a middling one, though the factor of grades compares the worst one with the cap. -/

namespace Bursary

attribute [local irreducible] Binary64.unitLimit Binary64.unitsPerOne

/-! ### Restrictions and outcomes -/

namespace Aspect

/-- Whether an aspect stands for a criterion that is counted and restricts somebody. -/
def isRestricted (c : Criteria) : Aspect → Bool
  | grades => c.maxGwa.any fun cap => !cap.isZero && cap.lt Student.worstGwa
  | need => c.maxIncome.any fun cap => !cap.isZero
  | yearLevel => !c.yearLevels.isEmpty
  | college => !c.colleges.isEmpty
  | course => !c.courses.isEmpty
  | eligibility | citizenship | bracket | profile => false

/-- The outcome that an aspect is counted by. -/
def outcome (fit : Fit) : Aspect → Option Bool
  | grades => fit.gwa
  | need => fit.income
  | yearLevel => fit.yearLevel
  | college => fit.college
  | course => fit.course
  | eligibility | citizenship | bracket | profile => none

end Aspect

/-- Each counted outcome is that of one aspect. -/
theorem Fit.countP_counted (fit : Fit) {p : Option Bool → Bool} (hp : p none = false) :
    [fit.gwa, fit.income, fit.yearLevel, fit.college, fit.course].countP p =
      Aspect.all.countP fun a => p (a.outcome fit) := by
  simp only [Aspect.all, Aspect.outcome, List.countP_cons, List.countP_nil, hp,
    Bool.false_eq_true, if_false]
  omega

theorem Fit.total_eq (fit : Fit) :
    fit.total = Aspect.all.countP fun a => (a.outcome fit).isSome := by
  rw [total, counted, List.length_filterMap_eq_countP]
  exact fit.countP_counted rfl

theorem Fit.matched_eq (fit : Fit) :
    fit.matched = Aspect.all.countP fun a => a.outcome fit == some true := by
  rw [matched, counted, List.countP_filterMap, ← fit.countP_counted (p := (· == some true)) rfl]
  exact List.countP_congr fun x _ => by cases x <;> simp

/-- Whether a student is counted as meeting the cap on grades for want of a grade. -/
def Student.meetsByDefault (s : Student) (c : Criteria) : Bool :=
  !s.gwaProvided && c.maxGwa.any fun cap => (2.5 : Binary64).le cap && cap.lt worstGwa

section Student

variable {s : Student} {c : Criteria}

theorem Criteria.gwaCap_eq (c : Criteria) :
    c.gwaCap = c.maxGwa.filter fun cap => !cap.isZero && cap.lt Student.worstGwa :=
  Option.filter_filter

theorem Fit.isSome_ofCondition (cond : Condition) :
    (ofCondition cond s c).isSome = cond.applies c := by
  unfold ofCondition
  cases cond.applies c <;> rfl

namespace Aspect

/-- The criteria that have an outcome are those that restrict somebody. -/
theorem isSome_outcome (a : Aspect) : (a.outcome (Fit.of s c)).isSome = a.isRestricted c := by
  cases a with
  | grades =>
    show (c.gwaCap.map _).isSome = _
    rw [Option.isSome_map, c.gwaCap_eq, Option.isSome_filter]
    rfl
  | need =>
    show ((Criteria.bound c.maxIncome).map _).isSome = _
    rw [Option.isSome_map, Criteria.bound, Option.isSome_filter]
    rfl
  | yearLevel => exact Fit.isSome_ofCondition .yearLevel
  | college => exact Fit.isSome_ofCondition .college
  | course => exact Fit.isSome_ofCondition .course
  | eligibility | citizenship | bracket | profile => rfl

/-- The factor of a counted criterion is met as its outcome says, if both look at one grade. -/
theorem isMet_of_outcome {a : Aspect} {met : Bool} (ha : a = grades → s.gwaProvided = true)
    (h : a.outcome (Fit.of s c) = some met) : a.isMet s c (Fit.of s c) = met := by
  have hne {x : Option Bool} (hx : x = some met) : (x != some false) = met := by
    subst hx
    cases met <;> rfl
  cases a with
  | grades =>
    have hscored : Fit.scoredGwa s = s.gwa := if_pos (ha rfl)
    show (c.gwaCap.map _).getD true = met
    rw [← hscored]
    exact congrArg (·.getD true) h
  | need =>
    show ((Criteria.bound c.maxIncome).map _).getD true = met
    exact congrArg (·.getD true) h
  | yearLevel => exact hne h
  | college => exact hne h
  | course => exact hne h
  | eligibility | citizenship | bracket | profile => cases h

theorem outcome_eq_true {a : Aspect} (ha : a = grades → s.gwaProvided = true) :
    (a.outcome (Fit.of s c) == some true) = (a.isRestricted c && a.isMet s c (Fit.of s c)) := by
  rw [← isSome_outcome (s := s)]
  cases h : a.outcome (Fit.of s c) with
  | none => rfl
  | some met =>
    rw [isMet_of_outcome ha h]
    cases met <;> rfl

/-- Below the worst grade no cap is met by a student without a grade. -/
theorem isMet_grades_of_missing (hs : s.IsRead) (hmissing : s.gwaProvided = false) :
    (grades.isRestricted c && grades.isMet s c (Fit.of s c)) = false := by
  rw [← isSome_outcome (s := s)]
  show ((c.gwaCap.map _).isSome && (c.gwaCap.map (s.gwa.le ·)).getD true) = false
  cases hcap : c.gwaCap with
  | none => rfl
  | some cap =>
    obtain ⟨-, -, hlt⟩ := Criteria.boundsGwa_of_gwaCap hcap
    exact (hs.missingGwa hmissing).symm ▸ Binary64.le_eq_false_of_lt hlt

/-- It is counted as met from the middling grade on. -/
theorem outcome_grades_of_missing (hmissing : s.gwaProvided = false) :
    (grades.outcome (Fit.of s c) == some true) = s.meetsByDefault c := by
  have hscored : Fit.scoredGwa s = 2.5 := if_neg (by rw [hmissing]; exact Bool.false_ne_true)
  have hpos : 0 < (2.5 : Binary64).place := by decide +kernel
  show (c.gwaCap.map ((Fit.scoredGwa s).le ·) == some true) = _
  rw [hscored, c.gwaCap_eq, Student.meetsByDefault, hmissing]
  cases c.maxGwa with
  | none => rfl
  | some cap =>
    cases hle : (2.5 : Binary64).le cap with
    | false =>
      rw [Option.filter_some]
      split <;> simp [hle]
    | true =>
      have hzero : cap.isZero = false := by
        rw [← Bool.not_eq_true]
        intro h
        have hplace := (Binary64.le_iff.mp hle).2.2
        rw [Binary64.place_of_isZero h] at hplace
        omega
      cases hlt : cap.lt Student.worstGwa <;> simp [Option.filter_some, hzero, hle, hlt]

end Aspect

/-! ### Counts -/

theorem Fit.total_of (s : Student) (c : Criteria) :
    (Fit.of s c).total = Aspect.all.countP (·.isRestricted c) := by
  simp only [total_eq, Aspect.isSome_outcome]

/-- The criteria that are counted as met are those whose factors are, and the cap on grades where
it is met for want of a grade. -/
theorem Fit.matched_of (hs : s.IsRead) : (Fit.of s c).matched =
    (Aspect.all.countP fun a => a.isRestricted c && a.isMet s c (Fit.of s c)) +
      if s.meetsByDefault c then 1 else 0 := by
  have hnodup : Aspect.all.Nodup := by decide
  have hsplit := List.perm_cons_erase (Aspect.mem_all .grades)
  -- only grades are looked at twice
  have hothers : ((Aspect.all.erase .grades).countP fun a => a.outcome (Fit.of s c) == some true) =
      (Aspect.all.erase .grades).countP fun a => a.isRestricted c && a.isMet s c (Fit.of s c) := by
    refine List.countP_congr fun a ha => ?_
    rw [Aspect.outcome_eq_true fun h => absurd h (hnodup.mem_erase_iff.mp ha).1]
  rw [matched_eq, hsplit.countP_eq, hsplit.countP_eq, List.countP_cons, List.countP_cons, hothers]
  cases hprovided : s.gwaProvided with
  | true =>
    rw [Aspect.outcome_eq_true fun _ => hprovided, Student.meetsByDefault, hprovided]
    rfl
  | false =>
    rw [Aspect.outcome_grades_of_missing hprovided, Aspect.isMet_grades_of_missing hs hprovided]
    rfl

end Student

namespace Factor

/-- How many factors stand for a criterion that restricts somebody. -/
def restrictedCount (c : Criteria) (fs : List (Factor Binary64)) : Nat :=
  fs.countP fun f => f.aspect.isRestricted c

/-- How many of these are met. -/
def metCount (c : Criteria) (fs : List (Factor Binary64)) : Nat :=
  fs.countP fun f => f.aspect.isRestricted c && f.isMet

theorem countP_ranked (s : Student) (c : Criteria) (w : Weights Binary64)
    (p : Factor Binary64 → Bool) :
    (ranked s c w).countP p = Aspect.all.countP fun a => p (of s c w a) := by
  rw [(ranked_perm s c w).countP_eq, List.countP_map]
  rfl

/-- A factor that shows how many criteria are met out of those that restrict somebody. -/
structure IsTally (f : Factor Binary64) (met restricted : Nat) : Prop where
  value : f.value = if restricted = 0 then 0.5 else .ofNat met / .ofNat restricted
  isMet : f.isMet = decide (restricted ≤ 2 * met)
  description : f.description =
    if restricted = 0 then "No explicit criteria"
    else Decimal.natText met ++ "/" ++ Decimal.natText restricted ++ " criteria met (" ++
      Quantity.intText Decimal.digits (f.value * 100).roundToInt ++ "%)"

theorem isTally_eligibility (s : Student) (c : Criteria) (w : Weights Binary64) :
    (of s c w .eligibility).IsTally (Fit.of s c).matched (Fit.of s c).total where
  value := by
    rw [← Binary64.const_natCast, ← Binary64.const_natCast]
    rfl
  isMet := rfl
  description := rfl

/-- The one factor of overall eligibility shows the criteria whose own factors are met, out of
those that restrict somebody, and one more where the cap on grades is met for want of a grade. -/
theorem isTally_of_ranked {student : Value} {s : Student} (hs : Student.ofValue student = .ok s)
    (c : Criteria) (w : Weights Binary64) :
    ∃ f ∈ ranked s c w, f.aspect.title = "Overall Eligibility" ∧
      (∀ g ∈ ranked s c w, g.aspect.title = "Overall Eligibility" → g = f) ∧
      f.IsTally (metCount c (ranked s c w) + if s.meetsByDefault c then 1 else 0)
        (restrictedCount c (ranked s c w)) := by
  have htitle (a : Aspect) (h : a.title = "Overall Eligibility") : a = .eligibility := by
    revert h
    cases a <;> decide
  refine ⟨of s c w .eligibility, mem_ranked s c w _, rfl, fun g hg hg' => ?_, ?_⟩
  · rw [eq_of_mem_ranked hg, htitle _ hg']
  · have htally := isTally_eligibility s c w
    rw [Fit.matched_of (Student.isRead_of_ofValue hs), Fit.total_of] at htally
    rw [metCount, restrictedCount, countP_ranked, countP_ranked]
    exact htally

theorem metCount_ranked (s : Student) (c : Criteria) (w : Weights Binary64) :
    metCount c (ranked s c w) =
      Aspect.all.countP fun a => a.isRestricted c && a.isMet s c (Fit.of s c) :=
  countP_ranked s c w _

/-- A student of the wrong college without a grade, whose income is none, meets two criteria out of
three: the cap on grades by default. -/
theorem isTally_without_grade :
    let student : Value := .record [("college", .text "CAS")]
    let criteria : Value := .record [("maxGWA", .whole 3), ("maxAnnualFamilyIncome", .whole 250000),
      ("eligibleColleges", .list [.text "CEM"])]
    ∃ s c, Student.ofValue student = .ok s ∧ Criteria.ofValue criteria = .ok c ∧
      ∃ f ∈ ranked s c Weights.neutral, f.aspect.title = "Overall Eligibility" ∧ f.IsTally 2 3 := by
  intro student criteria
  let look (s : Student) (c : Criteria) (_ : Verdict) :=
    (Aspect.all.countP fun a => a.isRestricted c && a.isMet s c (Fit.of s c),
      Aspect.all.countP (·.isRestricted c), s.meetsByDefault c)
  have hseen : (observe student criteria look).toOption = some (1, 3, true) := by decide +kernel
  obtain ⟨s, c, v, hs, hc, -, hlook⟩ := exists_of_observe hseen
  obtain ⟨hmet, hrest⟩ := Prod.ext_iff.mp hlook
  obtain ⟨hrestricted, hdefault⟩ := Prod.ext_iff.mp hrest
  obtain ⟨f, hf, htitle, -, htally⟩ := isTally_of_ranked hs c Weights.neutral
  rw [metCount_ranked, restrictedCount, countP_ranked] at htally
  refine ⟨s, c, hs, hc, f, hf, htitle, ?_⟩
  rwa [show Aspect.all.countP _ = 1 from hmet, show Aspect.all.countP _ = 3 from hrestricted,
    if_pos hdefault] at htally

/-- A student without a grade is shown to meet a cap of 3.0, the only criterion, though no factor of
a criterion is met. -/
theorem count_disagrees_without_grade :
    ∃ s c, Student.ofValue (.record []) = .ok s ∧
      Criteria.ofValue (.record [("maxGWA", .whole 3)]) = .ok c ∧
      let fs : List (Factor Binary64) := ranked s c Weights.neutral
      ∃ f ∈ fs, f.aspect.title = "Overall Eligibility" ∧
        f.description = "1/1 criteria met (100%)" ∧ metCount c fs = 0 := by
  let look (s : Student) (c : Criteria) (_ : Verdict) :=
    (Aspect.eligibility.description s c (Fit.of s c),
      Aspect.all.countP fun a => a.isRestricted c && a.isMet s c (Fit.of s c))
  have hseen : (observe (.record []) (.record [("maxGWA", .whole 3)]) look).toOption =
      some ("1/1 criteria met (100%)", 0) := by decide +kernel
  obtain ⟨s, c, v, hs, hc, -, hlook⟩ := exists_of_observe hseen
  obtain ⟨hshown, hmet⟩ := Prod.ext_iff.mp hlook
  refine ⟨s, c, hs, hc, of s c Weights.neutral .eligibility, mem_ranked s c _ _, rfl, hshown, ?_⟩
  rw [metCount_ranked]
  exact hmet

end Factor

end Bursary
