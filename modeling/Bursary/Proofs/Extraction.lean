import Bursary.Extraction
import Bursary.Proofs.Advantage
import Bursary.Proofs.Agreement
import Bursary.Proofs.Settings

/-! Features can always be extracted. Nothing is divided by zero: a cap of zero caps nobody, and
there is no share of criteria where none is counted. And the form accepts every feature, since what
is not a constant of the unit interval is clamped to it. A clamped NaN is one, because a number
that is not below one is capped.

Graded outcomes stay at 0.85 or above. For an income this needs a cap that is not negative: then an
income within the cap is a part of it, or negative, or both are infinite and their quotient is a
NaN. -/

namespace Bursary

attribute [local irreducible] Binary64.unitsPerOne Binary64.unitLimit

/-! ### Guarded numbers -/

namespace Guarded

open Arithmetic

variable {x y : Binary64}

theorem number_div (hy : y.isZero = false) : number x / number y = number (x / y) := by
  show Guarded.div _ _ = _
  rw [Guarded.div, hy]
  rfl

/-- Clamping keeps apart what is defined and what is not. -/
theorem clamp_number (x : Binary64) : clamp (number x) = number (clamp x) := by
  show (if compare Binary64.lt (number 0) (if x.lt 1 then number x else number 1) then
    (if x.lt 1 then number x else number 1) else number 0) = _
  rw [Binary64.clamp_eq]
  split
  · show (if Binary64.lt 0 x then number x else number 0) = _
    split <;> rfl
  · show (if Binary64.lt 0 1 then number 1 else number 0) = _
    split <;> rfl

theorem clamp_undefined : clamp undefined = undefined := rfl

end Guarded

/-! ### Divisors -/

theorem Criteria.isZero_of_bound {x : Option Binary64} {y : Binary64} (h : bound x = some y) :
    y.isZero = false := by
  simpa using (Option.filter_eq_some_iff.mp h).2

theorem Fit.ratio_guarded (fit : Fit) : (fit.ratio : Guarded) = .number fit.ratio := by
  unfold Fit.ratio
  split
  case isTrue => rfl
  case isFalse hne =>
    refine Guarded.number_div (Bool.eq_false_iff.mpr fun hzero => ?_)
    have hpos := (fit.const_total hne).2
    rw [Binary64.place_of_isZero hzero] at hpos
    exact Int.lt_irrefl 0 hpos

namespace Features

open Arithmetic Binary64

theorem gwaLevel_guarded (gwa : Binary64) : (gwaLevel gwa : Guarded) = .number (gwaLevel gwa) := by
  have hfour : (const 4 : Binary64).isZero = false := by decide +kernel
  show clamp (Guarded.number (measured Student.worstGwa - measured gwa) / .number (const 4)) = _
  rw [Guarded.number_div hfour, Guarded.clamp_number]
  rfl

theorem gradedIncome_guarded (s : Student) (c : Criteria) :
    (gradedIncome s c : Guarded) = .number (gradedIncome s c) := by
  unfold gradedIncome
  split
  case h_1 => rfl
  case h_2 cap hcap =>
    split
    · rfl
    split
    · show (.number (const 0.9) + (.number (const 1) - .number s.income / .number cap) *
        .number (const 0.1) : Guarded) = _
      rw [Guarded.number_div (Criteria.isZero_of_bound hcap)]
      rfl
    · rfl

theorem binary_guarded (outcome : Option Bool) :
    (binary outcome : Guarded) = .number (binary outcome) := by
  rcases outcome with _ | _ | _ <;> rfl

theorem graded_guarded (outcome : Option Bool) :
    (graded outcome : Guarded) = .number (graded outcome) := by
  rcases outcome with _ | _ | _ <;> rfl

theorem gradedBracket_guarded (s : Student) (outcome : Option Bool) :
    (gradedBracket s outcome : Guarded) = .number (gradedBracket s outcome) := by
  unfold gradedBracket
  split
  · rfl
  · exact graded_guarded _

/-- No feature divides by zero. -/
theorem of_guarded (convention : Convention) (s : Student) (c : Criteria) (f : Feature) :
    (of convention s c f : Guarded) = .number (of convention s c f) := by
  have hclamp {x : Guarded} {y : Binary64} (h : x = .number y) : clamp x = .number (clamp y) := by
    rw [h, Guarded.clamp_number]
  cases convention with
  | binary =>
    cases f with
    | gwaScore => exact gwaLevel_guarded _
    | documentCompleteness => rfl
    | applicationTiming => rfl
    | eligibilityScore => exact hclamp (Fit.ratio_guarded _)
    | _ => exact binary_guarded _
  | graded =>
    cases f with
    | gwaScore => exact gwaLevel_guarded _
    | incomeMatch => exact hclamp (gradedIncome_guarded s c)
    | stBracketMatch => exact gradedBracket_guarded s _
    | documentCompleteness => rfl
    | applicationTiming => rfl
    | eligibilityScore => exact hclamp (Fit.ratio_guarded _)
    | _ => exact graded_guarded _

end Features

/-! ### The form of features -/

namespace Form

variable {α : Type} {r : Record} {v : Value}

theorem proportion_eq_ok {x : Binary64} :
    proportion v = .ok x ↔ number v = .ok x ∧ x.IsProportion := by
  simp only [proportion, Checked.bind_eq_ok, atMost_eq_ok, atLeast_eq_ok]
  constructor
  · rintro ⟨y, ⟨y, hy, hhigh, rfl⟩, hlow, rfl⟩
    exact ⟨hy, hlow, hhigh⟩
  · rintro ⟨hx, h⟩
    exact ⟨x, ⟨x, hx, h.le_one, rfl⟩, h.nonneg, rfl⟩

theorem required_eq_ok {name : String} {read : Value → Checked α} {a : α} :
    required r name read = .ok a ↔ ∃ v, r.get? name = some v ∧ read v = .ok a := by
  unfold required
  cases r.get? name with
  | none => simp [Checked.within, Checked.fault]
  | some v => simp [Checked.within_eq_ok]

/-- A list of features can be read if each of them can. -/
theorem featuresOf_eq_ok {fs : List Feature} {x : Feature → Binary64} :
    featuresOf r fs = .ok x ↔
      (∀ f ∈ fs, required r f.name proportion = .ok (x f)) ∧ ∀ f ∉ fs, x f = 0 := by
  induction fs generalizing x with
  | nil => simp [featuresOf, funext_iff, eq_comm]
  | cons f fs ih =>
    simp only [featuresOf, Checked.seq_eq_ok, Checked.map_eq_ok, ih]
    constructor
    · rintro ⟨-, y, ⟨z, hz, rfl⟩, ⟨hy, hrest⟩, rfl⟩
      refine ⟨fun g hg => ?_, fun g hg => ?_⟩
      · dsimp only
        split
        case isTrue h => rw [h, hz]
        case isFalse h => exact hy g ((List.mem_cons.mp hg).resolve_left h)
      · rw [List.mem_cons, not_or] at hg
        exact (if_neg hg.1).trans (hrest g hg.2)
    · rintro ⟨hx, hrest⟩
      rw [List.forall_mem_cons] at hx
      refine ⟨_, fun g => if g ∈ fs then x g else 0, ⟨x f, hx.1, rfl⟩,
        ⟨fun g hg => ?_, fun g hg => ?_⟩, funext fun g => ?_⟩
      · show required r g.name proportion = .ok (if g ∈ fs then x g else 0)
        rw [if_pos hg]
        exact hx.2 g hg
      · exact if_neg hg
      · dsimp only
        split
        case isTrue h => rw [h]
        case isFalse h =>
          split
          · rfl
          · exact (hrest g (by simp [*])).symm

/-- The form asks for all features, and each must be a proportion. -/
theorem features_eq_ok {x : FeatureVector} :
    features r = .ok x ↔
      (∀ f : Feature, ∃ v, r.get? f.name = some v ∧ number v = .ok (x.of f) ∧
        (x.of f).IsProportion) ∧
      field r "convention" .graded (choice Convention.ofWord?) = .ok x.convention := by
  simp only [features, Checked.seq_eq_ok, Checked.map_eq_ok, featuresOf_eq_ok, required_eq_ok,
    proportion_eq_ok, Feature.mem_all, forall_const, not_true_eq_false, false_imp_iff, implies_true,
    and_true]
  constructor
  · rintro ⟨-, convention, ⟨of, hof, rfl⟩, hconvention, rfl⟩
    exact ⟨hof, hconvention⟩
  · rintro ⟨hof, hconvention⟩
    exact ⟨_, x.convention, ⟨x.of, hof, rfl⟩, hconvention, rfl⟩

end Form

namespace Features

open Arithmetic Binary64

theorem get?_toRecord (convention : Convention) (x : Feature → Binary64) (f : Feature) :
    (toRecord convention x).get? f.name = some (.real (x f)) := by
  cases f <;> rfl

/-- Features that are written down are accepted exactly if all of them are proportions. -/
theorem features_toRecord {convention : Convention} {x : Feature → Binary64} :
    Form.features (toRecord convention x) = .ok ⟨convention, x⟩ ↔ ∀ f, (x f).IsProportion := by
  have hconvention : Form.field (toRecord convention x) "convention" .graded
      (Form.choice Convention.ofWord?) = .ok convention := by
    cases convention <;> rfl
  simp [Form.features_eq_ok, get?_toRecord, hconvention, Form.number]

/-! ### Extraction -/

theorem mapM_settled {x : Feature → Guarded} {y : Feature → Binary64}
    (h : ∀ f, x f = .number (y f)) (fs : List Feature) :
    (fs.mapM fun f => do
      let z ← settled (x f)
      return (f.name, Value.real z)) = .ok (fs.map fun f => (f.name, Value.real (y f))) := by
  induction fs with
  | nil => rfl
  | cons f fs ih =>
    rw [List.mapM_cons, h f, ih]
    rfl

/-- Extraction comes to the features. -/
theorem extract_eq (convention : Convention) (s : Student) (c : Criteria) :
    extract convention s c = .ok ⟨convention, of convention s c⟩ := by
  unfold extract
  rw [mapM_settled (of_guarded convention s c), ok_bind]
  show ((Form.features (toRecord convention (of convention s c))).toExcept.mapError _) = _
  rw [features_toRecord.mpr (isProportion_of convention s c)]
  rfl

/-! ### Bounds -/

theorem binary_eq (outcome : Option Bool) :
    (binary outcome : Binary64) = 0 ∨ (binary outcome : Binary64) = 1 := by
  rcases outcome with _ | _ | _
  · exact .inr rfl
  · exact .inl rfl
  · exact .inr rfl

/-- What a graded outcome that is not met counts. -/
theorem isProportion_mismatch : (const 0.85 : Binary64).IsProportion :=
  isProportion_const (by norm_num) (by norm_num)

theorem le_graded (outcome : Option Bool) :
    (const 0.85 : Binary64).le (graded outcome) = true := by
  rcases outcome with _ | _ | _ <;> exact ofRat_le_ofRat (by norm_num)

theorem le_gradedBracket (s : Student) (outcome : Option Bool) :
    (const 0.85 : Binary64).le (gradedBracket s outcome) = true := by
  have hall : ∀ e ∈ bracketScores, (0.85 : Rat) ≤ e.2 := by norm_num [bracketScores]
  unfold gradedBracket
  split
  · exact ofRat_le_ofRat (of_lookup (P := (0.85 ≤ ·)) hall _ (by norm_num))
  · exact le_graded _

/-- A cap that limits incomes and is not negative is positive. -/
theorem cap_pos {x : Option Binary64} {cap income : Binary64} (hbound : Criteria.bound x = some cap)
    (hx : ∀ y ∈ x, y.lt 0 = false) (hle : income.le cap = true) :
    (0 : Binary64).lt cap = true := by
  have hcap := (le_iff.mp hle).2.1
  have hnonneg : 0 ≤ cap.place := by
    rcases lt_eq_false_iff.mp (hx cap (Criteria.mem_of_bound hbound)) with h | h | h
    · exact absurd h hcap
    · exact absurd h zero_ne_nan
    · rwa [place_zero] at h
  have hne := place_ne_zero hcap (Criteria.isZero_of_bound hbound)
  refine lt_iff.mpr ⟨zero_ne_nan, hcap, ?_⟩
  rw [place_zero]
  omega

theorem le_gradedIncome (s : Student) {c : Criteria} (hc : ∀ cap ∈ c.maxIncome, cap.lt 0 = false) :
    (const 0.85 : Binary64).le (clamp (gradedIncome s c)) = true := by
  have hself := le_clamp isProportion_mismatch (le_refl isProportion_mismatch.ne_nan)
  unfold gradedIncome
  split
  case h_1 => exact le_clamp isProportion_mismatch (ofRat_le_ofRat (by norm_num))
  case h_2 cap hcap =>
    split
    · exact hself
    split
    case isTrue hle =>
      have hpos := cap_pos hcap hc hle
      cases cap with
      | nan => exact absurd rfl (lt_iff.mp hpos).2.1
      | infinite t =>
        cases t with
        | true =>
          have hplace := (lt_iff.mp hpos).2.2
          rw [place_zero, place_infinite, if_pos rfl] at hplace
          omega
        | false =>
          show (const 0.85 : Binary64).le (clamp (withinCap s.income (infinite false))) = true
          rw [clamp_withinCap_infinite]
          exact ofRat_le_ofRat (by norm_num)
      | finite t u fits => exact le_clamp isProportion_mismatch (le_withinCap hpos hle rfl)
    case isFalse => exact hself

/-- Within a negative cap an income can count for less. -/
example : (clamp (withinCap (-2500) (-1000))).lt (const 0.85) = true := by decide +kernel

end Features

/-- The features that say whether a criterion is met. -/
def Feature.matching : List Feature := [
  yearLevelMatch, incomeMatch, stBracketMatch, collegeMatch, courseMatch, citizenshipMatch]

/-- Where the features of a vector lie for criteria. -/
structure FeatureVector.Bounded (v : FeatureVector) (c : Criteria) : Prop where
  proportion (f : Feature) : (v.of f).IsProportion
  binary : v.convention = .binary → ∀ f ∈ Feature.matching, v.of f = 0 ∨ v.of f = 1
  graded : v.convention = .graded → (∀ cap ∈ c.maxIncome, cap.lt 0 = false) →
    ∀ f ∈ Feature.documentCompleteness :: Feature.matching, (0.85 : Binary64).le (v.of f) = true

namespace Features

open Arithmetic Binary64

theorem bounded (convention : Convention) (s : Student) (c : Criteria) :
    FeatureVector.Bounded ⟨convention, of convention s c⟩ c where
  proportion := isProportion_of convention s c
  binary hconvention f hf := by
    obtain rfl : convention = .binary := hconvention
    cases f with
    | gwaScore | documentCompleteness | applicationTiming | eligibilityScore =>
      exact absurd hf (by decide)
    | _ => exact binary_eq _
  graded hconvention hc f hf := by
    obtain rfl : convention = .graded := hconvention
    cases f with
    | gwaScore | applicationTiming | eligibilityScore => exact absurd hf (by decide)
    | incomeMatch => exact le_gradedIncome s hc
    | stBracketMatch => exact le_gradedBracket s _
    | documentCompleteness =>
      show (const 0.85 : Binary64).le (const (if s.profileCompleted then 1 else 0.9)) = true
      cases s.profileCompleted <;> exact ofRat_le_ofRat (by norm_num)
    | _ => exact le_graded _

/-- Features are extracted for every student and all criteria. -/
theorem extract_total (convention : Convention) (s : Student) (c : Criteria) :
    Yields (extract convention s c) fun v =>
      v.convention = convention ∧ v.of = of convention s c ∧ v.Bounded c := by
  rw [extract_eq]
  exact .ok ⟨rfl, rfl, bounded convention s c⟩

end Features

end Bursary
