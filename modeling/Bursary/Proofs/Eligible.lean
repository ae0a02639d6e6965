import Bursary.Proofs.Agreement
import Bursary.Proofs.Likelihood

/-! Students who pass are not scored as mismatches. No scored criterion speaks against them, so each
of their features is at least what it is for a student with the worst grade and no documents, whom
the neutral weights still rate as a strong match. -/

namespace Bursary

attribute [local irreducible] Binary64.unitsPerOne Binary64.unitLimit

open Arithmetic

/-! ### Criteria that are met -/

namespace Fit

variable {fit : Fit}

/-- If no outcome speaks against a student, all counted criteria are met. -/
theorem matched_eq_total (h : ∀ x ∈ fit.outcomes, x.2 ≠ some false) :
    fit.matched = fit.total := by
  simp only [outcomes, List.forall_mem_cons, List.not_mem_nil, false_implies, implies_true,
    and_true] at h
  obtain ⟨hgwa, hincome, hyear, hcollege, hcourse, -, -⟩ := h
  have hall : ∀ outcome ∈ [fit.gwa, fit.income, fit.yearLevel, fit.college, fit.course],
      outcome ≠ some false := by
    simp only [List.forall_mem_cons, List.not_mem_nil, false_implies, implies_true, and_true]
    exact ⟨hgwa, hincome, hyear, hcollege, hcourse⟩
  refine List.countP_eq_length.mpr fun met hmet => ?_
  obtain ⟨outcome, hmem, houtcome⟩ := List.mem_filterMap.mp hmet
  cases met with
  | true => rfl
  | false => exact absurd houtcome (hall outcome hmem)

/-- The share of criteria that are met is then one, or one half if there are none. -/
theorem ratio_of_matched (h : fit.matched = fit.total) :
    (fit.ratio : Rat) = (if fit.total = 0 then 0.5 else 1) ∧
      (fit.ratio : Binary64) = if fit.total = 0 then 0.5 else 1 := by
  unfold ratio
  rw [h]
  by_cases hzero : fit.total = 0
  · rw [if_pos hzero, if_pos hzero, if_pos hzero, if_pos hzero]
    exact ⟨rfl, rfl⟩
  · rw [if_neg hzero, if_neg hzero, if_neg hzero, if_neg hzero]
    obtain ⟨hfinite, hpos⟩ := fit.const_total hzero
    exact ⟨div_self (Nat.cast_ne_zero.mpr hzero), Binary64.div_self hfinite hpos⟩

end Fit

/-! ### Features -/

namespace Features

section Generic

variable {α : Type} [Arithmetic α]

/-- The features of a student with the worst grade and no documents, against whom no criterion
speaks and none speaks for. -/
def least : Feature → α
  | .gwaScore => const 0
  | .documentCompleteness => const 0.7
  | .applicationTiming => const 0.9
  | .eligibilityScore => const 0.5
  | _ => const 1

theorem binary_of_ne_false {outcome : Option Bool} (h : outcome ≠ some false) :
    (binary outcome : α) = const 1 := by
  rcases outcome with _ | _ | _
  · rfl
  · exact absurd rfl h
  · rfl

/-- Four features may be above the least ones. -/
theorem of_binary_of_outcomes {s : Student} {c : Criteria}
    (h : ∀ x ∈ (Fit.of s c).outcomes, x.2 ≠ some false) (f : Feature) :
    (Features.of .binary s c f : α) = match f with
      | .gwaScore => gwaLevel (Fit.scoredGwa s)
      | .documentCompleteness => const (if s.profileCompleted then 1 else 0.7)
      | .eligibilityScore => clamp (Fit.of s c).ratio
      | f => least f := by
  simp only [Fit.outcomes, List.forall_mem_cons, List.not_mem_nil, false_implies, implies_true,
    and_true] at h
  obtain ⟨-, hincome, hyear, hcollege, hcourse, hbracket, hcitizenship⟩ := h
  cases f with
  | incomeMatch => exact binary_of_ne_false hincome
  | yearLevelMatch => exact binary_of_ne_false hyear
  | collegeMatch => exact binary_of_ne_false hcollege
  | courseMatch => exact binary_of_ne_false hcourse
  | stBracketMatch => exact binary_of_ne_false hbracket
  | citizenshipMatch => exact binary_of_ne_false hcitizenship
  | _ => rfl

end Generic

variable {s : Student} {c : Criteria}

theorem clamp_nonneg (q : Rat) : 0 ≤ clamp q := by
  unfold clamp
  dsimp only
  generalize (if lt q (const 1) = true then q else const 1) = capped
  split
  · rename_i h
    exact Rat.le_of_lt (of_decide_eq_true h)
  · exact Rat.le_refl

theorem le_clamp {p q : Rat} (h : p ≤ q) (h' : p ≤ 1) : p ≤ clamp q := by
  have hcapped : p ≤ if lt q (const 1) = true then q else const 1 := by
    split
    · exact h
    · exact h'
  unfold clamp
  dsimp only
  generalize (if lt q (const 1) = true then q else const 1) = capped at hcapped ⊢
  split
  · exact hcapped
  · rename_i hpos
    exact Rat.le_trans hcapped (Rat.not_lt.mp fun h0 => hpos (decide_eq_true h0))

/-- Exactly computed features are at least the least ones. -/
theorem least_le (h : ∀ x ∈ (Fit.of s c).outcomes, x.2 ≠ some false) (f : Feature) :
    (least f : Rat) ≤ Features.of .binary s c f := by
  have hratio := (Fit.ratio_of_matched (Fit.matched_eq_total h)).1
  rw [of_binary_of_outcomes h]
  cases f with
  | gwaScore => exact clamp_nonneg _
  | documentCompleteness =>
    show (0.7 : Rat) ≤ if s.profileCompleted then 1 else 0.7
    split <;> norm_num
  | eligibilityScore =>
    show (0.5 : Rat) ≤ clamp (Fit.of s c).ratio
    refine le_clamp ?_ (by norm_num)
    rw [hratio]
    split <;> norm_num
  | _ => exact Rat.le_refl

theorem isProportion_least (f : Feature) : (least f : Binary64).IsProportion := by
  cases f <;> exact Binary64.isProportion_const (by norm_num) (by norm_num)

/-- So are rounded ones. -/
theorem least_le_rounded (h : ∀ x ∈ (Fit.of s c).outcomes, x.2 ≠ some false) (f : Feature) :
    (least f : Binary64).le (Features.of .binary s c f) = true := by
  have hratio := (Fit.ratio_of_matched (Fit.matched_eq_total h)).2
  rw [of_binary_of_outcomes h]
  cases f with
  | gwaScore => exact (Binary64.isProportion_clamp _).nonneg
  | documentCompleteness =>
    show (const 0.7 : Binary64).le (const (if s.profileCompleted then 1 else 0.7)) = true
    refine Binary64.ofRat_le_ofRat ?_
    split <;> norm_num
  | eligibilityScore =>
    show (const 0.5 : Binary64).le (clamp (Fit.of s c).ratio) = true
    refine Binary64.le_clamp (isProportion_least .eligibilityScore) ?_
    rw [hratio]
    split
    · exact Binary64.ofRat_le_ofRat (p := 0.5) (q := 0.5) (by norm_num)
    · exact Binary64.ofRat_le_ofRat (p := 0.5) (q := 1) (by norm_num)
  | _ => exact Binary64.le_refl (isProportion_least _).ne_nan

end Features

/-! ### Neutral weights -/

/-- Exactly computed, the neutral score is the sum of the features less three. -/
theorem Weights.le_linearScore_neutral {x : Feature → Rat} (h : ∀ f, Features.least f ≤ x f) :
    5 ≤ (neutral : Weights Rat).linearScore x := by
  have hgwa : 0 ≤ x .gwaScore := h .gwaScore
  have hyear : 1 ≤ x .yearLevelMatch := h .yearLevelMatch
  have hincome : 1 ≤ x .incomeMatch := h .incomeMatch
  have hbracket : 1 ≤ x .stBracketMatch := h .stBracketMatch
  have hcollege : 1 ≤ x .collegeMatch := h .collegeMatch
  have hcourse : 1 ≤ x .courseMatch := h .courseMatch
  have hcitizenship : 1 ≤ x .citizenshipMatch := h .citizenshipMatch
  have hdocuments : 0.7 ≤ x .documentCompleteness := h .documentCompleteness
  have htiming : 0.9 ≤ x .applicationTiming := h .applicationTiming
  have hratio : 0.5 ≤ x .eligibilityScore := h .eligibilityScore
  show (5 : Rat) ≤ -3 + (0 + 1 * x .gwaScore + 1 * x .yearLevelMatch + 1 * x .incomeMatch +
    1 * x .stBracketMatch + 1 * x .collegeMatch + 1 * x .courseMatch + 1 * x .citizenshipMatch +
    1 * x .documentCompleteness + 1 * x .applicationTiming + 1 * x .eligibilityScore)
  linarith

theorem Level.eq_strong_of_rank {l : Level} (h : 3 ≤ l.rank) : l = strong := by
  cases l with
  | strong => rfl
  | good | moderate | weak => exact absurd h (by decide)

/-- The neutral weights rate a student as a strong match against whom no criterion speaks. -/
theorem Prediction.level_neutral {s : Student} {c : Criteria}
    (h : ∀ x ∈ (Fit.of s c).outcomes, x.2 ≠ some false) (trained : Bool) (source : Source) :
    (Prediction.of s c .neutral trained source .binary).level = .strong := by
  have hleast : (Level.ofProbability (probabilityOf
      ((Weights.neutral : Weights Binary64).linearScore Features.least))).rank = 3 := by
    decide +kernel
  have hscore : ((Weights.neutral : Weights Binary64).linearScore Features.least).le
      ((Weights.neutral : Weights Binary64).linearScore (Features.of .binary s c)) = true :=
    Weights.linearScore_le Weights.isFinite_neutral Features.isProportion_least
      (Features.isProportion_of .binary s c) fun f => .inr
        ⟨Binary64.isProportion_one.place_nonneg, Features.least_le_rounded h f⟩
  have hrank := rank_probabilityOf_le hscore
  rw [hleast] at hrank
  exact Level.eq_strong_of_rank hrank

/-- A student who passes is scored without a mismatch: no criterion speaks against them, all that are
counted are met, and the neutral weights, in the convention that goes with them, come to a score of
at least five and a strong match. -/
theorem noMismatch_of_passed {student criteria : Value} {s : Student} {c : Criteria} {v : Verdict}
    (hs : Student.ofValue student = .ok s) (hraw : criteria.isRaw = true)
    (hc : Criteria.ofValue criteria = .ok c) (hmax : ∀ x ∈ c.maxIncome, x.lt 0 = false)
    (hv : evaluate s c = .ok v) (hp : v.passed = true) :
    (∀ x ∈ (Fit.of s c).outcomes, x.2 ≠ some false) ∧
      ((Fit.of s c).ratio : Rat) = (if (Fit.of s c).total = 0 then 0.5 else 1) ∧
      ((Fit.of s c).ratio : Binary64) = (if (Fit.of s c).total = 0 then 0.5 else 1) ∧
      5 ≤ (Weights.neutral : Weights Rat).linearScore (Features.of .binary s c) ∧
      ∀ trained source,
        (Prediction.of s c .neutral trained source .binary).level = .strong := by
  have houtcomes := Fit.outcomes_of_passed (Student.isRead_of_ofValue hs)
    (Criteria.isRead_of_ofValue hraw hc) hmax hv hp
  obtain ⟨hexact, hrounded⟩ := Fit.ratio_of_matched (Fit.matched_eq_total houtcomes)
  exact ⟨houtcomes, hexact, hrounded,
    Weights.le_linearScore_neutral (Features.least_le houtcomes),
    Prediction.level_neutral houtcomes⟩

/-- A student who passes without an income that was given, and with a grade at the cap. -/
theorem noMismatch_without_income :
    let student : Value := .record [("gwa", .real 2.5), ("college", .text "CAS")]
    let criteria : Value := .record [("maxGWA", .real 2.5),
      ("maxAnnualFamilyIncome", .whole 100000), ("minAnnualFamilyIncome", .whole 1),
      ("eligibleColleges", .text "CAS"), ("isFilipinoOnly", .flag true)]
    criteria.isRaw = true ∧ ∃ s c v, Student.ofValue student = .ok s ∧
      Criteria.ofValue criteria = .ok c ∧ (∀ x ∈ c.maxIncome, x.lt 0 = false) ∧
      evaluate s c = .ok v ∧ v.passed = true ∧ (Fit.of s c).total = 3 ∧
      (∀ x ∈ (Fit.of s c).outcomes, x.2 ≠ some false) ∧ ((Fit.of s c).ratio : Binary64) = 1 ∧
      5 ≤ (Weights.neutral : Weights Rat).linearScore (Features.of .binary s c) ∧
      (Prediction.of s c .neutral false .fallback .binary).level = .strong := by
  intro student criteria
  have hseen : (observe student criteria fun s c v => (c.maxIncome.all (!Binary64.lt · 0),
      v.passed, (Fit.of s c).total)).toOption = some (true, true, 3) := by
    decide +kernel
  obtain ⟨s, c, v, hs, hc, hv, hseen⟩ := exists_of_observe hseen
  simp only [Prod.mk.injEq, Option.all_eq_true, Bool.not_eq_true'] at hseen
  obtain ⟨hmax, hp, htotal⟩ := hseen
  obtain ⟨houtcomes, -, hratio, hscore, hlevel⟩ := noMismatch_of_passed hs rfl hc hmax hv hp
  rw [htotal, if_neg (by decide)] at hratio
  exact ⟨rfl, s, c, v, hs, hc, hmax, hv, hp, htotal, houtcomes, hratio, hscore,
    hlevel false .fallback⟩

end Bursary
