import Bursary.Proofs.Advantage
import Bursary.Proofs.Agreement
import Bursary.Proofs.Binary64.Error
import Bursary.Proofs.Factor.Decomposition

/-! Where the values of factors lie. A factor explains a prediction by a number of the unit
interval: an outcome, a level, a share, or a score from a table. Financial need alone can leave it.
It falls from one to one half as the income rises to its cap, and is not clamped, so that an income
below zero lies above one, unless it is negligible, and one of more than twice a negative cap below
zero. -/

namespace Bursary

attribute [local irreducible] Binary64.unitsPerOne Binary64.unitLimit

/-! ### One less half a number -/

namespace Binary64

open Arithmetic

variable {q : Binary64}

/-- How far below zero a number can lie so that one less half of it is rounded to one. -/
def negligible : Binary64 := const (-1 / 2 ^ 52)

/-- An antitone map of places that falls below a bound one step above a power of two does not
before. -/
theorem le_of_anti_iff {v : Int → Int} (hv : ∀ {i j : Int}, i ≤ j → v j ≤ v i)
    {e : Nat} {b : Int} (hat : b ≤ v (Nat.pow 2 (52 + e) : Nat))
    (hbeyond : v (Nat.pow 2 (52 + e) + Nat.pow 2 e : Nat) < b) (hq : q.isFinite = true) :
    b ≤ v q.place ↔ q.place ≤ (Nat.pow 2 (52 + e) : Nat) := by
  refine ⟨fun hle => Int.not_lt.mp fun hlt => ?_, fun hle => Int.le_trans hat (hv hle)⟩
  -- the numbers that are representable leave out what is in between
  have hstep : (Nat.pow 2 (52 + e) + Nat.pow 2 e : Nat) ≤ q.place := by
    obtain ⟨s, u, fits, rfl⟩ := isFinite_iff.mp hq
    cases s with
    | false => exact Int.ofNat_le.mpr (fits.step_add_le (Int.ofNat_lt.mp hlt))
    | true =>
      simp only [place_finite, if_true] at hlt
      omega
  exact Int.not_lt.mpr (Int.le_trans hle (hv hstep)) hbeyond

theorem anti_le_iff {v : Int → Int} (hv : ∀ {i j : Int}, i ≤ j → v j ≤ v i)
    {e : Nat} {b : Int} (hat : v (-(Nat.pow 2 (52 + e) : Nat)) ≤ b)
    (hbeyond : b < v (-(Nat.pow 2 (52 + e) + Nat.pow 2 e : Nat))) (hq : q.isFinite = true) :
    v q.place ≤ b ↔ -(Nat.pow 2 (52 + e) : Nat) ≤ q.place := by
  have hmirror := le_of_anti_iff (v := fun i => -v (-i)) (b := -b)
    (fun h => Int.neg_le_neg (hv (Int.neg_le_neg h))) (Int.neg_le_neg hat)
    (Int.neg_lt_neg hbeyond) (isFinite_neg hq)
  rw [place_neg, Int.neg_neg] at hmirror
  omega

/-- Where one less half a number stands. -/
def oneLessHalf (i : Int) : Int :=
  nearestPlace (unitsPerOne - nearestQuotient (i * (const 0.5 : Binary64).place) unitsPerOne)

theorem isProportion_half : (const 0.5 : Binary64).IsProportion :=
  isProportion_const (by norm_num) (by norm_num)

theorem oneLessHalf_anti {i j : Int} (h : i ≤ j) : oneLessHalf j ≤ oneLessHalf i := by
  have hhalf := nearestQuotient_mono unitsPerOne_pos
    (Int.mul_le_mul_of_nonneg_right h isProportion_half.place_nonneg)
  exact nearestPlace_mono (by omega)

theorem place_one_sub_half (hq : q.isFinite = true) :
    (1 - q * const 0.5 : Binary64).place = oneLessHalf q.place := by
  have hneg := isFinite_neg (isFinite_mul hq isProportion_half)
  show (1 + -(q * const 0.5)).place = _
  rw [place_add isFinite_one hneg, place_neg, place_one, place_mul hq isProportion_half.isFinite]
  rfl

theorem one_sub_half_ne_nan (hq : q ≠ nan) : (1 - q * const 0.5 : Binary64) ≠ nan := by
  cases q with
  | nan => exact absurd rfl hq
  | infinite s => cases s <;> decide +kernel
  | finite s u fits =>
    exact sub_ne_nan isFinite_one (ne_nan_of_isFinite (isFinite_mul rfl isProportion_half))

/-- One less half a number is above one exactly if the number is below zero by more than rounding
hides. -/
theorem one_sub_half_le_one_iff (hq : q ≠ nan) :
    (1 - q * const 0.5 : Binary64).le 1 = true ↔ negligible.le q = true := by
  cases q with
  | nan => exact absurd rfl hq
  | infinite s => cases s <;> decide +kernel
  | finite s u fits =>
    have hnan : negligible ≠ nan := by decide +kernel
    have hbound : negligible.place = -(Nat.pow 2 (52 + 970) : Nat) := by decide +kernel
    have hplaces := anti_le_iff (q := finite s u fits) (e := 970) (b := unitsPerOne)
      oneLessHalf_anti (by decide +kernel) (by decide +kernel) rfl
    rw [← hbound, ← place_one_sub_half rfl, ← place_one] at hplaces
    simp only [le_iff, hplaces, hnan, hq, one_ne_nan, one_sub_half_ne_nan hq, ne_eq,
      not_false_eq_true, true_and]

/-- It is below zero exactly if the number is above two. -/
theorem zero_le_one_sub_half_iff (hq : q ≠ nan) :
    (0 : Binary64).le (1 - q * const 0.5) = true ↔ q.le 2 = true := by
  cases q with
  | nan => exact absurd rfl hq
  | infinite s => cases s <;> decide +kernel
  | finite s u fits =>
    have hnan : (2 : Binary64) ≠ nan := by decide +kernel
    have hbound : (2 : Binary64).place = (Nat.pow 2 (52 + 1023) : Nat) := by decide +kernel
    have hplaces := le_of_anti_iff (q := finite s u fits) (e := 1023) (b := 0)
      oneLessHalf_anti (by decide +kernel) (by decide +kernel) rfl
    rw [← hbound, ← place_one_sub_half rfl, ← place_zero] at hplaces
    simp only [le_iff, hplaces, hnan, hq, zero_ne_nan, one_sub_half_ne_nan hq, ne_eq,
      not_false_eq_true, true_and]

end Binary64

/-! ### Values of aspects -/

namespace Aspect

open Arithmetic Binary64

theorem isProportion_outcomeValue (outcome : Option Bool) :
    (outcomeValue outcome : Binary64).IsProportion := by
  rcases outcome with _ | _ | _ <;> exact isProportion_const (by norm_num) (by norm_num)

theorem isProportion_bracketNeed (bracket : Option String) :
    (bracketNeed bracket : Binary64).IsProportion :=
  Features.isProportion_lookup (by norm_num [bracketNeeds]) _ (by norm_num) (by norm_num)

theorem isProportion_gradesValue (s : Student) : (gradesValue s : Binary64).IsProportion := by
  unfold gradesValue
  split
  · exact isProportion_clamp _
  · exact isProportion_half

theorem isProportion_ratio (fit : Fit) : (fit.ratio : Binary64).IsProportion := by
  unfold Fit.ratio
  split
  case isTrue => exact isProportion_half
  case isFalse hne =>
    obtain ⟨hfinite, hpos⟩ := fit.const_total hne
    have hle : (const fit.matched : Binary64).le (const fit.total) = true :=
      ofRat_le_ofRat (Rat.natCast_le_natCast.mpr List.countP_le_length)
    have hzero : (0 : Binary64).le (const fit.matched) = true := by
      rw [← const_zero]
      exact ofRat_le_ofRat (Rat.natCast_nonneg)
    rw [le_iff] at hle hzero
    rw [place_zero] at hzero
    exact isProportion_div hle.1 hzero.2.2 hfinite hpos hle.2.2

/-- Every aspect but financial need has a value of the unit interval. -/
theorem isProportion_value (s : Student) (c : Criteria) (fit : Fit) {a : Aspect} (ha : a ≠ need) :
    (a.value s c fit : Binary64).IsProportion := by
  cases a with
  | eligibility => exact isProportion_ratio fit
  | college => exact isProportion_outcomeValue _
  | need => exact absurd rfl ha
  | citizenship =>
    show IsProportion (const _)
    split
    · exact isProportion_one
    · exact isProportion_const (by norm_num) (by norm_num)
  | grades => exact isProportion_gradesValue s
  | yearLevel => exact isProportion_outcomeValue _
  | course => exact isProportion_outcomeValue _
  | bracket =>
    show IsProportion (if _ then const 1 else bracketNeed _)
    split
    · exact isProportion_one
    · exact isProportion_bracketNeed _
  | profile => exact Features.isProportion_flagged (by norm_num) (by norm_num)

/-- Whether an income has a need of the unit interval: it is not negative, or above the cap, or at
most twice a negative cap, or next to nothing of a positive one. -/
def BoundsNeed (income cap : Binary64) : Prop :=
  (0 : Binary64).le income = true ∨ cap.lt income = true ∨
    negligible.le (income / cap) = true ∧ (income / cap).le 2 = true

instance (income cap : Binary64) : Decidable (BoundsNeed income cap) :=
  inferInstanceAs (Decidable (_ ∨ _ ∨ _ ∧ _))

theorem isProportion_needValue_iff {income cap : Binary64} (hincome : income.isFinite = true)
    (hcap : cap.isFinite = true) (hne : cap.isZero = false) :
    (needValue income (some cap) : Binary64).IsProportion ↔ BoundsNeed income cap := by
  have hbound : Criteria.bound (some cap) = some cap := by
    rw [Criteria.bound, Option.filter_some, hne]
    rfl
  unfold needValue
  rw [hbound]
  dsimp only
  by_cases hzero : income.isZero = true
  · rw [if_pos hzero]
    have hplace := place_of_isZero hzero
    refine iff_of_true isProportion_half (.inl (le_iff.mpr ⟨zero_ne_nan, ?_⟩))
    exact ⟨ne_nan_of_isFinite hincome, by rw [place_zero]; omega⟩
  rw [if_neg hzero]
  by_cases hle : income.le cap = true
  · rw [if_pos hle]
    have hplaces := (le_iff.mp hle).2.2
    have hcap0 : cap.place ≠ 0 := fun h => by
      rw [isZero_of_place hcap h] at hne
      cases hne
    have hquotient := div_ne_nan hincome (ne_nan_of_isFinite hcap) hcap0
    have hvalue : (1 - income / cap * const 0.5 : Binary64).IsProportion ↔
        negligible.le (income / cap) = true ∧ (income / cap).le 2 = true := by
      rw [← one_sub_half_le_one_iff hquotient, ← zero_le_one_sub_half_iff hquotient]
      exact ⟨fun h => ⟨h.le_one, h.nonneg⟩, fun h => ⟨h.2, h.1⟩⟩
    refine hvalue.trans ⟨fun h => .inr (.inr h), ?_⟩
    rintro (hnonneg | habove | h)
    · rw [le_iff, place_zero] at hnonneg
      have hshare : (income / cap).IsProportion :=
        isProportion_div hnonneg.2.1 hnonneg.2.2 hcap (by omega) hplaces
      have hends : negligible.le 0 = true ∧ (1 : Binary64).le 2 = true := by decide +kernel
      exact ⟨le_trans hends.1 hshare.nonneg, le_trans hshare.le_one hends.2⟩
    · rw [lt_eq_false_of_le hle] at habove
      cases habove
    · exact h
  · rw [if_neg hle]
    refine iff_of_true isProportion_zero (.inr (.inl ?_))
    rw [← Bool.not_eq_false]
    exact fun h => hle (le_of_lt_eq_false hcap hincome h)

end Aspect

/-! ### Values of factors -/

namespace Factor

/-- What financial need is measured by. -/
def needCap (c : Criteria) : Binary64 := (Criteria.bound c.maxIncome).getD Aspect.defaultCap

theorem finite_needCap {c : Criteria} (hc : c.IsRead) :
    (needCap c).isFinite = true ∧ (needCap c).isZero = false := by
  unfold needCap
  cases hcap : Criteria.bound c.maxIncome with
  | none => decide +kernel
  | some cap =>
    obtain ⟨hmem, hne⟩ := Option.filter_eq_some_iff.mp hcap
    exact ⟨hc.maxIncome cap hmem, Bool.not_eq_true' _ ▸ hne⟩

/-- All values are numbers of the unit interval but that of financial need, which is one exactly if
the income and the cap bound it. -/
theorem isProportion_value_iff {student criteria : Value} {s : Student} {c : Criteria}
    (hs : Student.ofValue student = .ok s) (hraw : criteria.isRaw = true)
    (hc : Criteria.ofValue criteria = .ok c) (w : Weights Binary64) :
    ∀ f ∈ ranked s c w, f.value.IsProportion ↔
      (f.aspect.title = "Financial Need" → Aspect.BoundsNeed s.income (needCap c)) := by
  intro f hf
  have htitle : f.aspect.title = "Financial Need" ↔ f.aspect = .need := by
    cases f.aspect <;> decide
  have hvalue : f.value = f.aspect.value s c (Fit.of s c) :=
    congrArg Factor.value (eq_of_mem_ranked hf)
  obtain ⟨hcap, hne⟩ := finite_needCap (Criteria.isRead_of_ofValue hraw hc)
  have hincome := (Student.isRead_of_ofValue hs).income
  rw [htitle, hvalue]
  by_cases ha : f.aspect = .need
  · rw [ha]
    refine (Aspect.isProportion_needValue_iff hincome hcap hne).trans ?_
    exact ⟨fun h _ => h, fun h => h rfl⟩
  · exact iff_of_true (Aspect.isProportion_value s c _ ha) (fun h => absurd h ha)

/-- An income below zero, of less than twice a negative cap. -/
theorem isProportion_value_of_negative_cap :
    let student : Value := .record [("annualFamilyIncome", .text "-300"), ("college", .text "CAS")]
    let criteria : Value := .record [("maxAnnualFamilyIncome", .whole (-200)),
      ("maxGWA", .real 2.5)]
    criteria.isRaw = true ∧ ∃ s c, Student.ofValue student = .ok s ∧
      Criteria.ofValue criteria = .ok c ∧
      ∀ f ∈ (ranked s c Weights.neutral : List (Factor Binary64)), f.value.IsProportion := by
  intro student criteria
  have hraw : criteria.isRaw = true := rfl
  let look (s : Student) (c : Criteria) (_ : Verdict) :=
    decide (Aspect.BoundsNeed s.income (needCap c))
  have hseen : (observe student criteria look).toOption = some true := by decide +kernel
  obtain ⟨s, c, v, hs, hc, -, hbounds⟩ := exists_of_observe hseen
  refine ⟨hraw, s, c, hs, hc, fun f hf => ?_⟩
  exact (isProportion_value_iff hs hraw hc Weights.neutral f hf).mpr
    fun _ => of_decide_eq_true hbounds

theorem exists_need_of_observe {student criteria : Value} {x : Binary64}
    (h : (observe student criteria fun s c _ =>
      (Aspect.need.value s c (Fit.of s c) : Binary64)).toOption = some x)
    (hx : ¬x.IsProportion) (w : Weights Binary64) :
    ∃ s c, Student.ofValue student = .ok s ∧ Criteria.ofValue criteria = .ok c ∧
      ∃ f ∈ ranked s c w,
        f.aspect.title = "Financial Need" ∧ f.value = x ∧ ¬f.value.IsProportion := by
  obtain ⟨s, c, v, hs, hc, -, hvalue⟩ := exists_of_observe h
  have hfactor : (of s c w .need).value = x := hvalue
  exact ⟨s, c, hs, hc, of s c w .need, mem_ranked s c w _, rfl, hfactor, hfactor ▸ hx⟩

/-- A fifth of the default cap below zero has a need of more than one, and three times a negative
cap one below zero. -/
theorem need_out_of_range :
    let w : Weights Binary64 := Weights.neutral
    (∃ s c, Student.ofValue (.record [("annualFamilyIncome", .whole (-100000))]) = .ok s ∧
      Criteria.ofValue (.record []) = .ok c ∧ ∃ f ∈ ranked s c w,
        f.aspect.title = "Financial Need" ∧ f.value = 1.1 ∧ ¬f.value.IsProportion) ∧
    ∃ s c, Student.ofValue (.record [("annualFamilyIncome", .whole (-300))]) = .ok s ∧
      Criteria.ofValue (.record [("maxAnnualFamilyIncome", .whole (-100))]) = .ok c ∧
      ∃ f ∈ ranked s c w,
        f.aspect.title = "Financial Need" ∧ f.value = -0.5 ∧ ¬f.value.IsProportion :=
  ⟨exists_need_of_observe (by decide +kernel) (by decide +kernel) _,
    exists_need_of_observe (by decide +kernel) (by decide +kernel) _⟩

end Factor

end Bursary
