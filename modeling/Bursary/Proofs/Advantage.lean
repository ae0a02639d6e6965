import Bursary.Proofs.Binary64.Monotone
import Bursary.Proofs.Prediction

/-! Better students never score lower. A student who differs from another only in a better grade
average, a lower income or a citizenship that is accepted has features that are no lower where the
weights cannot be negative, and the same features elsewhere. So the linear score, every operation
of which rounds, is no lower either. -/

namespace Bursary

attribute [local irreducible] Binary64.unitsPerOne Binary64.unitLimit

/-! ### Students -/

/-- A student `s` who is better for the criteria than `t`, or equal: in the grade average if both
gave one, in the income if both gave a positive one, in the citizenship; and the same otherwise. -/
structure Student.Excels (c : Criteria) (s t : Student) : Prop where
  rest : s = { t with
    gwa := s.gwa, annualFamilyIncome := s.annualFamilyIncome, citizenship := s.citizenship }
  grade : s.gwa = t.gwa ∨ t.gwaProvided = true ∧ s.gwa.le t.gwa = true
  income : s.annualFamilyIncome = t.annualFamilyIncome ∨
    t.incomeProvided = true ∧ (0 : Binary64).lt s.income = true ∧ s.income.le t.income = true
  citizenship : s.citizenship = t.citizenship ∨
    Condition.citizenship.holds s c = true ∧ Condition.citizenship.holds t c = false

/-! ### Outcomes -/

/-- An outcome that stays, or turns from not met to met. -/
inductive Improves : Option Bool → Option Bool → Prop
  | same (outcome : Option Bool) : Improves outcome outcome
  | met : Improves (some false) (some true)

theorem Improves.of_imp {α : Type} (x : Option α) {p q : α → Bool}
    (h : ∀ a ∈ x, p a = true → q a = true) : Improves (x.map p) (x.map q) := by
  cases x with
  | none => exact .same none
  | some a =>
    have ha := h a rfl
    rw [Option.map_some, Option.map_some]
    cases hp : p a with
    | true => rw [ha hp]; exact .same _
    | false =>
      cases q a with
      | true => exact .met
      | false => exact .same _

/-- Outcomes none of which gets worse. -/
structure Fit.Improves (fit fit' : Fit) : Prop where
  gwa : Bursary.Improves fit.gwa fit'.gwa
  income : Bursary.Improves fit.income fit'.income
  yearLevel : fit'.yearLevel = fit.yearLevel
  college : fit'.college = fit.college
  course : fit'.course = fit.course
  stBracket : fit'.stBracket = fit.stBracket
  citizenship : Bursary.Improves fit.citizenship fit'.citizenship

namespace Fit.Improves

variable {fit fit' : Fit}

/-- As many criteria are counted, and no fewer of them are met. -/
theorem counts (h : fit.Improves fit') : fit'.total = fit.total ∧ fit.matched ≤ fit'.matched := by
  obtain ⟨gwa, income, yearLevel, college, course, stBracket, citizenship⟩ := fit
  obtain ⟨gwa', income', yearLevel', college', course', stBracket', citizenship'⟩ := fit'
  obtain ⟨hgwa, hincome, hyear, hcollege, hcourse, -, -⟩ := h
  dsimp only at hgwa hincome hyear hcollege hcourse
  subst hyear hcollege hcourse
  simp only [total, matched, counted]
  generalize [yearLevel', college', course'] = others
  have hcons (met : Bool) (xs : List (Option Bool)) :
      (some met :: xs).filterMap id = met :: xs.filterMap id := rfl
  have cons {x x' : Option Bool} (hx : Bursary.Improves x x') {xs xs' : List (Option Bool)}
      (hxs : (xs'.filterMap id).length = (xs.filterMap id).length ∧
        (xs.filterMap id).countP id ≤ (xs'.filterMap id).countP id) :
      ((x' :: xs').filterMap id).length = ((x :: xs).filterMap id).length ∧
        ((x :: xs).filterMap id).countP id ≤ ((x' :: xs').filterMap id).countP id := by
    cases hx with
    | same =>
      cases x with
      | none => exact hxs
      | some met =>
        rw [hcons, hcons, List.length_cons, List.length_cons, List.countP_cons, List.countP_cons]
        omega
    | met =>
      rw [hcons, hcons, List.length_cons, List.length_cons, List.countP_cons_of_neg (by decide),
        List.countP_cons_of_pos (by decide)]
      omega
  exact cons hgwa (cons hincome ⟨rfl, Nat.le_refl _⟩)

end Fit.Improves

theorem Fit.total_le (fit : Fit) : fit.total ≤ 5 := List.length_filterMap_le _ _

/-- The number of counted criteria, as a number to divide by. -/
theorem Fit.const_total (fit : Fit) (h : fit.total ≠ 0) :
    (Arithmetic.const fit.total : Binary64).isFinite = true ∧
      0 < (Arithmetic.const fit.total : Binary64).place := by
  have hfew : fit.total ≤ Nat.pow 2 53 := Nat.le_trans fit.total_le (by decide)
  have hunits := Nat.mul_pos (Nat.pos_of_ne_zero h) Binary64.unitsPerOne_pos
  rw [Binary64.const_natCast, Binary64.place_ofNat hfew]
  exact ⟨Binary64.isFinite_ofNat hfew, Int.natCast_pos.mpr hunits⟩

/-- The share of criteria that are met grows with their number. -/
theorem Fit.Improves.ratio_le {fit fit' : Fit} (h : fit.Improves fit') :
    (fit.ratio : Binary64).le fit'.ratio = true := by
  obtain ⟨htotal, hmatched⟩ := h.counts
  unfold Fit.ratio
  rw [htotal]
  split
  · exact Binary64.le_refl (Binary64.ofRat_ne_nan _)
  · rename_i hne
    obtain ⟨hfinite, hpos⟩ := fit.const_total hne
    exact Binary64.div_le_div_right hfinite hpos
      (Binary64.ofRat_le_ofRat (Rat.natCast_le_natCast.mpr hmatched))

/-! ### Features -/

namespace Features

open Arithmetic Binary64

theorem binary_le {x x' : Option Bool} (h : Improves x x') :
    (binary x : Binary64).le (binary x') = true := by
  cases h with
  | same => exact le_refl (isProportion_binary x).ne_nan
  | met => exact ofRat_le_ofRat (by norm_num)

theorem graded_le {x x' : Option Bool} (h : Improves x x') :
    (graded x : Binary64).le (graded x') = true := by
  cases h with
  | same => exact le_refl (isProportion_graded x).ne_nan
  | met => exact ofRat_le_ofRat (by norm_num)

/-- A better grade average is on no lower level. -/
theorem gwaLevel_le {gwa gwa' : Binary64} (h : gwa.le gwa' = true) :
    (gwaLevel gwa' : Binary64).le (gwaLevel gwa) = true := by
  have hfour : (4 : Nat) ≤ Nat.pow 2 53 := by decide
  have hpos : 0 < (ofNat 4).place := by
    have := unitsPerOne_pos
    rw [place_ofNat hfour]
    omega
  exact clamp_le_clamp
    (div_le_div_right (isFinite_ofNat hfour) hpos (sub_le_sub_left Student.isFinite_worstGwa h))

theorem isProportion_base : (const 0.9 : Binary64).IsProportion :=
  isProportion_const (by norm_num) (by norm_num)

theorem isProportion_tenth : (const 0.1 : Binary64).IsProportion :=
  isProportion_const (by norm_num) (by norm_num)

/-- How a positive income within a cap counts. -/
def withinCap (income cap : Binary64) : Binary64 :=
  const 0.9 + (const 1 - income / cap) * const 0.1

theorem gradedIncome_eq {s : Student} {c : Criteria} {cap : Binary64}
    (hcap : Criteria.bound c.maxIncome = some cap) (hpos : (0 : Binary64).lt s.income = true) :
    (gradedIncome s c : Binary64) =
      if s.income.le cap then withinCap s.income cap else const 0.85 := by
  have hzero : s.income.isZero = false := by
    rw [← Bool.not_eq_true]
    intro h
    have hplace := place_of_isZero h
    rw [lt_iff, place_zero] at hpos
    omega
  unfold gradedIncome
  rw [hcap]
  dsimp only
  rw [hzero]
  rfl

section Capped

variable {income income' cap : Binary64}

/-- Below an infinite cap every income counts fully, an infinite one too. -/
theorem clamp_withinCap_infinite (income : Binary64) :
    (clamp (withinCap income (infinite false)) : Binary64) = const 1 := by
  cases income with
  | nan => decide +kernel
  | infinite s =>
    show (clamp (const 0.9 + (const 1 - nan) * const 0.1) : Binary64) = const 1
    decide +kernel
  | finite s u h =>
    show (clamp (const 0.9 + (const 1 - ofUnits (s != false) 0 1) * const 0.1) : Binary64) = const 1
    cases s <;> decide +kernel

/-- What is weighed by a tenth: how far a finite cap is from being reached. -/
theorem isProportion_distance (hpos : (0 : Binary64).lt income = true)
    (hle : income.le cap = true) (hcap : cap.isFinite = true) :
    (const 1 - income / cap : Binary64).IsProportion := by
  rw [lt_iff, place_zero] at hpos
  rw [le_iff] at hle
  rw [const_one]
  exact isProportion_one_sub (isProportion_div hle.1 (by omega) hcap (by omega) hle.2.2)

theorem withinCap_le (hpos : (0 : Binary64).lt income = true) (h : income.le income' = true)
    (hle : income'.le cap = true) (hcap : cap.isFinite = true) :
    (withinCap income' cap).le (withinCap income cap) = true := by
  have hpos' := lt_of_lt_of_le hpos h
  have hdistance := isProportion_distance hpos (le_trans h hle) hcap
  have hdistance' := isProportion_distance hpos' hle hcap
  have hcap0 : 0 < cap.place := by
    rw [lt_iff, place_zero] at hpos'
    rw [le_iff] at hle
    omega
  have hquotient := div_le_div_right hcap hcap0 h
  exact add_le_add_left isProportion_base.isFinite
    (mul_le_mul_right isProportion_tenth hdistance' hdistance
      (sub_le_sub_left isFinite_one hquotient))

/-- An income within a positive cap, which may be negative itself, counts for more than one above
it. -/
theorem le_withinCap (hpos : (0 : Binary64).lt cap = true) (hle : income.le cap = true)
    (hcap : cap.isFinite = true) : (const 0.85 : Binary64).le (withinCap income cap) = true := by
  rw [lt_iff, place_zero] at hpos
  have hquotient := div_le_div_right hcap hpos.2.2 hle
  rw [div_self hcap hpos.2.2] at hquotient
  have hdistance : (1 - 1 : Binary64).le (1 - income / cap) = true :=
    sub_le_sub_left isFinite_one hquotient
  have hzero : (1 - 1 : Binary64).place = 0 := by decide +kernel
  rw [le_iff, hzero] at hdistance
  obtain ⟨hweighed, hweighed0⟩ := mul_nonneg hdistance.2.1 hdistance.2.2
    isProportion_tenth.isFinite (by decide +kernel)
  have hbase := isProportion_base
  have hsum := add_ne_nan hbase.ne_nan hweighed (.inl hbase.isFinite)
  exact le_trans (ofRat_le_ofRat (by norm_num))
    (le_iff.mpr ⟨hbase.ne_nan, hsum, place_le_add hweighed0 hsum⟩)

end Capped

/-- The lower of two positive incomes counts for no less. -/
theorem gradedIncome_le {s t : Student} {c : Criteria} (hpos : (0 : Binary64).lt s.income = true)
    (h : s.income.le t.income = true) :
    (clamp (gradedIncome t c) : Binary64).le (clamp (gradedIncome s c)) = true := by
  have hpos' := lt_of_lt_of_le hpos h
  cases hcap : Criteria.bound c.maxIncome with
  | none =>
    unfold gradedIncome
    rw [hcap]
    exact le_refl (isProportion_clamp _).ne_nan
  | some cap =>
    rw [gradedIncome_eq hcap hpos, gradedIncome_eq hcap hpos']
    by_cases hs : s.income.le cap = true
    · rw [if_pos hs]
      cases cap with
      | nan => exact absurd (le_iff.mp hs).2.1 (by simp)
      | infinite sign =>
        cases sign with
        | true =>
          rw [lt_iff, place_zero] at hpos
          rw [le_iff, place_infinite, if_pos rfl] at hs
          have := unitLimit_pos
          omega
        | false =>
          rw [clamp_withinCap_infinite, const_one]
          exact (isProportion_clamp _).le_one
      | finite sign units fits =>
        by_cases ht : t.income.le (finite sign units fits) = true
        · rw [if_pos ht]
          exact clamp_le_clamp (withinCap_le hpos h ht rfl)
        · rw [if_neg ht]
          exact clamp_le_clamp (le_withinCap (lt_of_lt_of_le hpos hs) hs rfl)
    · have ht : ¬t.income.le cap = true := fun ht => hs (le_trans h ht)
      rw [if_neg hs, if_neg ht]
      exact le_refl (isProportion_clamp _).ne_nan

end Features

/-! ### Better students -/

section Excelling

variable {c : Criteria} {s t : Student}

theorem Student.Excels.scoredGwa (h : s.Excels c t) :
    Fit.scoredGwa s = Fit.scoredGwa t ∨ (Fit.scoredGwa s).le (Fit.scoredGwa t) = true := by
  have hprovided : s.gwaProvided = t.gwaProvided := by rw [h.rest]
  unfold Fit.scoredGwa
  rw [hprovided]
  rcases h.grade with hgwa | ⟨hgiven, hle⟩
  · exact .inl (by rw [hgwa])
  · rw [hgiven]
    exact .inr hle

/-- What a better student reports is at most what the other one reports. -/
theorem Improves.of_le {x y : Binary64} (bound : Option Binary64) (h : x = y ∨ x.le y = true) :
    Improves (bound.map (y.le ·)) (bound.map (x.le ·)) := by
  refine Improves.of_imp bound fun b _ hy => ?_
  rcases h with rfl | hle
  · exact hy
  · exact Binary64.le_trans hle hy

theorem Student.Excels.income_le (h : s.Excels c t) :
    s.income = t.income ∨ s.income.le t.income = true := by
  rcases h.income with heq | ⟨-, -, hle⟩
  · exact .inl (congrArg Quantity.toBinary64 heq)
  · exact .inr hle

/-- A better student fits no worse. -/
theorem Student.Excels.fit (h : s.Excels c t) : (Fit.of t c).Improves (Fit.of s c) where
  gwa := .of_le _ h.scoredGwa
  income := .of_le _ h.income_le
  yearLevel := by rw [h.rest]; rfl
  college := by rw [h.rest]; rfl
  course := by rw [h.rest]; rfl
  stBracket := by rw [h.rest]; rfl
  citizenship := by
    have hholds : Condition.citizenship.holds s c = Condition.citizenship.holds t c ∨
        Condition.citizenship.holds s c = true ∧ Condition.citizenship.holds t c = false :=
      h.citizenship.imp_left fun heq => by
        show c.acceptedCitizenships.any _ = c.acceptedCitizenships.any _
        rw [heq]
    show Bursary.Improves (Fit.ofCondition .citizenship t c) (Fit.ofCondition .citizenship s c)
    unfold Fit.ofCondition
    split
    · rcases hholds with heq | ⟨hs, ht⟩
      · rw [heq]; exact .same _
      · rw [hs, ht]; exact .met
    · exact .same _

/-- A feature that is the same, or one that can only speak for a student and no lower. -/
def Feature.Favours (f : Feature) (x y : Binary64) : Prop :=
  y = x ∨ f ∈ favourable ∧ x.le y = true

theorem Feature.Favours.refl (f : Feature) (x : Binary64) : f.Favours x x := .inl rfl

theorem Feature.favours_of_le {f : Feature} (hf : f ∈ favourable) {x y : Binary64}
    (h : x.le y = true) : f.Favours x y := .inr ⟨hf, h⟩

namespace Student.Excels

open Features Feature

theorem favours_gwaLevel (h : s.Excels c t) :
    gwaScore.Favours (gwaLevel (Fit.scoredGwa t)) (gwaLevel (Fit.scoredGwa s)) := by
  rcases h.scoredGwa with heq | hle
  · rw [heq]
    exact .refl _ _
  · exact favours_of_le (by decide) (gwaLevel_le hle)

theorem favours_ratio (h : s.Excels c t) :
    eligibilityScore.Favours (Arithmetic.clamp (Fit.of t c).ratio)
      (Arithmetic.clamp (Fit.of s c).ratio) :=
  favours_of_le (by decide) (Binary64.clamp_le_clamp h.fit.ratio_le)

theorem favours_gradedIncome (h : s.Excels c t) :
    incomeMatch.Favours (Arithmetic.clamp (gradedIncome t c))
      (Arithmetic.clamp (gradedIncome s c)) := by
  rcases h.income with heq | ⟨-, hpos, hle⟩
  · have hincome : s.income = t.income := congrArg Quantity.toBinary64 heq
    unfold gradedIncome
    rw [hincome]
    exact .refl _ _
  · exact favours_of_le (by decide) (gradedIncome_le hpos hle)

theorem favours_binary (h : s.Excels c t) (f : Feature) :
    f.Favours (ofBinary t (Fit.of t c) f) (ofBinary s (Fit.of s c) f) := by
  have hcompleted : s.profileCompleted = t.profileCompleted := by rw [h.rest]
  cases f with
  | gwaScore => exact h.favours_gwaLevel
  | incomeMatch => exact favours_of_le (by decide) (binary_le h.fit.income)
  | citizenshipMatch => exact favours_of_le (by decide) (binary_le h.fit.citizenship)
  | eligibilityScore => exact h.favours_ratio
  | yearLevelMatch => exact .inl (congrArg binary h.fit.yearLevel)
  | collegeMatch => exact .inl (congrArg binary h.fit.college)
  | courseMatch => exact .inl (congrArg binary h.fit.course)
  | stBracketMatch => exact .inl (congrArg binary h.fit.stBracket)
  | documentCompleteness =>
    exact .inl (congrArg (fun b : Bool => Arithmetic.const (if b then 1 else 0.7)) hcompleted)
  | applicationTiming => exact .refl _ _

theorem favours_graded (h : s.Excels c t) (f : Feature) :
    f.Favours (ofGraded t c (Fit.of t c) f) (ofGraded s c (Fit.of s c) f) := by
  have hcompleted : s.profileCompleted = t.profileCompleted := by rw [h.rest]
  have hbracket : s.stBracket = t.stBracket := by rw [h.rest]
  cases f with
  | gwaScore => exact h.favours_gwaLevel
  | incomeMatch => exact h.favours_gradedIncome
  | citizenshipMatch => exact favours_of_le (by decide) (graded_le h.fit.citizenship)
  | eligibilityScore => exact h.favours_ratio
  | yearLevelMatch => exact .inl (congrArg graded h.fit.yearLevel)
  | collegeMatch => exact .inl (congrArg graded h.fit.college)
  | courseMatch => exact .inl (congrArg graded h.fit.course)
  | stBracketMatch =>
    refine .inl ?_
    show gradedBracket s (Fit.of s c).stBracket = gradedBracket t (Fit.of t c).stBracket
    rw [h.fit.stBracket]
    unfold gradedBracket
    rw [hbracket]
  | documentCompleteness =>
    exact .inl (congrArg (fun b : Bool => Arithmetic.const (if b then 1 else 0.9)) hcompleted)
  | applicationTiming => exact .refl _ _

/-- Each feature of a better student speaks for them, or is the same. -/
theorem favours (h : s.Excels c t) (convention : Convention) (f : Feature) :
    f.Favours (Features.of convention t c f) (Features.of convention s c f) := by
  cases convention with
  | binary => exact h.favours_binary f
  | graded => exact h.favours_graded f

end Student.Excels

end Excelling

/-! ### Weights -/

/-- Weights that predictions are made with: neutral ones, or those of an accepted model. -/
inductive Weights.Usable : Weights Binary64 → Prop
  | neutral : Usable .neutral
  | trained {stored : Value} {least : Quantity} {model : Record}
      (h : Model.accepted? stored least = some model) : Usable (Model.weights model)

namespace Weights.Usable

variable {w : Weights Binary64}

theorem isFinite (hw : w.Usable) : w.IsFinite := by
  cases hw with
  | neutral => exact isFinite_neutral
  | trained h => exact Model.isFinite_weights _

/-- The weight of a feature that can only speak for a student is not negative. -/
theorem nonneg (hw : w.Usable) {f : Feature} (hf : f ∈ Feature.favourable) :
    0 ≤ (w.of f).place := by
  cases hw with
  | neutral => exact Binary64.isProportion_one.place_nonneg
  | @trained _ _ model h =>
    show 0 ≤ (Model.adjusted f ((Model.storedWeight? model f).getD 1)).place
    have hfinite := Model.isFinite_storedWeight model f
    generalize (Model.storedWeight? model f).getD 1 = x at hfinite ⊢
    unfold Model.adjusted
    split
    · obtain ⟨s, u, fits, rfl⟩ := Binary64.isFinite_iff.mp hfinite
      show 0 ≤ (Binary64.finite false u fits).place
      simp
    · rename_i hneg
      have hlt : x.lt 0 = false := by
        rw [← Bool.not_eq_true]
        exact fun hlt => hneg ⟨hf, hlt⟩
      rw [Binary64.lt_eq_false_iff, Binary64.place_zero] at hlt
      rcases hlt with rfl | h0 | h0
      · cases hfinite
      · exact absurd h0 Binary64.zero_ne_nan
      · exact h0

end Weights.Usable

/-- Scores are in the order of features that are in order where weights are not negative, and the
same elsewhere. -/
theorem Weights.linearScore_le {w : Weights Binary64} (hw : w.IsFinite) {x y : Feature → Binary64}
    (hx : ∀ f, (x f).IsProportion) (hy : ∀ f, (y f).IsProportion)
    (h : ∀ f, y f = x f ∨ 0 ≤ (w.of f).place ∧ (x f).le (y f) = true) :
    (w.linearScore x).le (w.linearScore y) = true := by
  refine Binary64.add_le_add_left hw.intercept ?_
  refine Binary64.foldl_add_le (fun f _ => Binary64.isFinite_mul (hw.of f) (hx f))
    (fun f _ => Binary64.isFinite_mul (hw.of f) (hy f)) (fun f _ => ?_) (Binary64.le_refl Binary64.zero_ne_nan)
  rcases h f with heq | ⟨h0, hle⟩
  · rw [heq]
    exact Binary64.le_refl (Binary64.ne_nan_of_isFinite (Binary64.isFinite_mul (hw.of f) (hx f)))
  · exact Binary64.mul_le_mul_left (hw.of f) h0 (hx f) (hy f) hle

/-- Better students have no lower linear score. -/
theorem Student.Excels.linearScore_le {c : Criteria} {s t : Student} (h : s.Excels c t)
    {w : Weights Binary64} (hw : w.Usable) (convention : Convention) :
    (w.linearScore (Features.of convention t c)).le
      (w.linearScore (Features.of convention s c)) = true := by
  refine w.linearScore_le hw.isFinite (Features.isProportion_of convention t c)
    (Features.isProportion_of convention s c) fun f => ?_
  exact Or.imp_right (fun ⟨hf, hle⟩ => ⟨hw.nonneg hf, hle⟩) (h.favours convention f)

end Bursary
