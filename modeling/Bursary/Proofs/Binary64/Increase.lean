import Mathlib.Tactic.Ring
import Bursary.Proofs.Binary64.Error
import Bursary.Proofs.Binary64.Logistic
import Bursary.Proofs.Binary64.Monotone

/-! The logistic function as it is computed increases, up to its roundings. For a number that is
not negative it is one divided by `1 + d`, which increases as the decay `d` falls. For a negative
number it is `d / (1 + d)`, where the numerator and the rounded denominator both increase: the
quotient does where `d` is at least one half, and so wherever it is more than a third, and else
up to one part in `2 ^ 50`. -/

namespace Bursary.Binary64

attribute [local irreducible] unitLimit unitsPerOne

/-! ### Decay -/

theorem nestedTerms_mono {t t' : Nat} (h : t ≤ t') (k n : Nat) :
    nestedTerms t k n ≤ nestedTerms t' k n := by
  induction n generalizing k with
  | zero => exact Nat.le_refl _
  | succ n ih =>
    exact Nat.add_le_add_left (Nat.div_le_div_right (Nat.mul_le_mul h (ih (k + 1)))) _

theorem squareTimes_mono {n s s' : Nat} (h : s ≤ s') : squareTimes n s ≤ squareTimes n s' := by
  induction n generalizing s s' with
  | zero => exact h
  | succ n ih => exact ih (Nat.div_le_div_right (Nat.mul_le_mul h h))

theorem growth_mono {units units' : Nat} (h : units ≤ units') : growth units ≤ growth units' :=
  squareTimes_mono (nestedTerms_mono (Nat.div_le_div_right (Nat.mul_le_mul_right _ h)) 1 40)

variable {z z' : Binary64}

theorem place_decay_finite (s : Bool) {u : Nat} (fits : Representable u) :
    (finite s u fits).decay.place =
      (min (roundUnits (seriesScale * unitsPerOne) (growth (min u (decayLimit * unitsPerOne))))
        unitLimit : Int) := by
  rw [decay, ofFraction, place_ofUnits, if_neg Bool.false_ne_true]

/-- The further a number is from zero, the less of it remains. -/
theorem decay_le (hz : z ≠ nan) (hz' : z' ≠ nan) (h : z.place.natAbs ≤ z'.place.natAbs) :
    z'.decay.le z.decay = true := by
  have hd := isProportion_decay hz
  have hd' := isProportion_decay hz'
  refine le_iff.mpr ⟨hd'.ne_nan, hd.ne_nan, ?_⟩
  cases z' with
  | nan => exact absurd rfl hz'
  | infinite s =>
    show (0 : Binary64).place ≤ _
    rw [place_zero]
    exact hd.place_nonneg
  | finite s u fits =>
    cases z with
    | nan => exact absurd rfl hz
    | infinite t =>
      have hlt := fits.1
      cases s <;> cases t <;> simp at h <;> omega
    | finite t v fits' =>
      have hle : v ≤ u := by
        cases s <;> cases t <;> simpa using h
      rw [place_decay_finite, place_decay_finite]
      generalize hg : growth (min u (decayLimit * unitsPerOne)) = g
      generalize hg' : growth (min v (decayLimit * unitsPerOne)) = g'
      have hmono : g' ≤ g := by
        rw [← hg, ← hg']
        exact growth_mono (by omega)
      have hpos : 0 < g' := by
        rw [← hg']
        exact Nat.lt_of_lt_of_le seriesScale_pos (seriesScale_le_growth _)
      have := roundUnits_mono (a := seriesScale * unitsPerOne) (c := seriesScale * unitsPerOne)
        (show 0 < g by omega) hpos (Nat.mul_le_mul_left _ hmono)
      omega

/-! ### One more than a proportion -/

/-- The units of one more than a proportion of `u` units. -/
def oneMore (u : Nat) : Nat := roundUnits (unitsPerOne + u) 1

/-- The units that `u` has in one more than it. -/
def share (u : Nat) : Nat := roundUnits (u * unitsPerOne) (oneMore u)

/-- The units that one has in one more than `u`. -/
def counterpart (u : Nat) : Nat := roundUnits (unitsPerOne * unitsPerOne) (oneMore u)

variable {u v : Nat}

theorem two_mul_unitsPerOne_lt : 2 * unitsPerOne < unitLimit := mul_unitsPerOne_lt (by decide)

theorem oneMore_mono (h : u ≤ v) : oneMore u ≤ oneMore v :=
  roundUnits_mono Nat.one_pos Nat.one_pos (by omega)

theorem unitsPerOne_le_oneMore (u : Nat) : unitsPerOne ≤ oneMore u := by
  calc unitsPerOne = roundUnits (unitsPerOne * 1) 1 :=
        (roundUnits_of_representable representable_unitsPerOne Nat.one_pos).symm
    _ ≤ oneMore u := roundUnits_mono Nat.one_pos Nat.one_pos (by omega)

theorem oneMore_pos (u : Nat) : 0 < oneMore u :=
  Nat.lt_of_lt_of_le unitsPerOne_pos (unitsPerOne_le_oneMore u)

/-- What is at most one, twice, is at most what one more than it is. -/
theorem two_mul_le_oneMore (fits : Representable u) (hu : u ≤ unitsPerOne) :
    2 * u ≤ oneMore u := by
  have hlimit := two_mul_unitsPerOne_lt
  have hself := roundUnits_of_representable (fits.two_mul (by omega)) Nat.one_pos
  calc 2 * u = roundUnits (2 * u * 1) 1 := hself.symm
    _ ≤ oneMore u := roundUnits_mono Nat.one_pos Nat.one_pos (by omega)

theorem oneMore_le (hu : u ≤ unitsPerOne) : oneMore u ≤ 2 * unitsPerOne := by
  have hself := roundUnits_of_representable
    (representable_mul_unitsPerOne (n := 2) (by decide)) Nat.one_pos
  calc oneMore u ≤ roundUnits (2 * unitsPerOne * 1) 1 :=
        roundUnits_mono Nat.one_pos Nat.one_pos (by omega)
    _ = 2 * unitsPerOne := hself

theorem share_le (fits : Representable u) : share u ≤ u := by
  calc share u ≤ roundUnits (u * unitsPerOne) unitsPerOne :=
        roundUnits_mono (oneMore_pos u) unitsPerOne_pos
          (Nat.mul_le_mul_left _ (unitsPerOne_le_oneMore u))
    _ = u := roundUnits_of_representable fits unitsPerOne_pos

theorem counterpart_le (u : Nat) : counterpart u ≤ unitsPerOne := by
  calc counterpart u ≤ roundUnits (unitsPerOne * unitsPerOne) unitsPerOne :=
        roundUnits_mono (oneMore_pos u) unitsPerOne_pos
          (Nat.mul_le_mul_left _ (unitsPerOne_le_oneMore u))
    _ = unitsPerOne := roundUnits_of_representable representable_unitsPerOne unitsPerOne_pos

theorem counterpart_antitone (h : u ≤ v) : counterpart v ≤ counterpart u :=
  roundUnits_mono (oneMore_pos v) (oneMore_pos u) (Nat.mul_le_mul_left _ (oneMore_mono h))

/-- A share is at most one half and a counterpart at least that. -/
theorem share_le_counterpart (fits : Representable u) (hu : u ≤ unitsPerOne)
    (hv : v ≤ unitsPerOne) : share u ≤ counterpart v := by
  refine roundUnits_mono (oneMore_pos u) (oneMore_pos v) ?_
  have hhalf : u * oneMore v ≤ unitsPerOne * oneMore u := by
    calc u * oneMore v ≤ u * (2 * unitsPerOne) := Nat.mul_le_mul_left _ (oneMore_le hv)
      _ = unitsPerOne * (2 * u) := by rw [Nat.mul_left_comm, Nat.mul_comm u, Nat.mul_left_comm]
      _ ≤ unitsPerOne * oneMore u := Nat.mul_le_mul_left _ (two_mul_le_oneMore fits hu)
  calc u * unitsPerOne * oneMore v = unitsPerOne * (u * oneMore v) := by
        rw [Nat.mul_comm u, Nat.mul_assoc]
    _ ≤ unitsPerOne * (unitsPerOne * oneMore u) := Nat.mul_le_mul_left _ hhalf
    _ = unitsPerOne * unitsPerOne * oneMore u := (Nat.mul_assoc _ _ _).symm

/-! ### Shares of one half and more -/

/-- Between one and two the steps are twice as long as between one half and one. -/
theorem oneMore_of_steps {a e : Nat} (he : unitsPerOne = 2 ^ (53 + e)) (ha : a ≤ 2 ^ 53) :
    oneMore (a * 2 ^ e) = roundDiv (2 ^ 53 + a) 2 * 2 ^ (e + 1) := by
  have hsum : unitsPerOne + a * 2 ^ e = (2 ^ 53 + a) * 2 ^ e := by
    rw [he, Nat.pow_add, Nat.add_mul]
  have hlow : 2 ^ (52 + (e + 1)) ≤ (2 ^ 53 + a) * 2 ^ e := by
    calc 2 ^ (52 + (e + 1)) = 2 ^ 53 * 2 ^ e := by
          rw [← Nat.pow_add, show 52 + (e + 1) = 53 + e by omega]
      _ ≤ (2 ^ 53 + a) * 2 ^ e := Nat.mul_le_mul_right _ (Nat.le_add_right _ _)
  have hhigh : (2 ^ 53 + a) * 2 ^ e ≤ 2 ^ (53 + (e + 1)) := by
    calc (2 ^ 53 + a) * 2 ^ e ≤ 2 ^ 54 * 2 ^ e := Nat.mul_le_mul_right _ (by omega)
      _ = 2 ^ (53 + (e + 1)) := by
          rw [← Nat.pow_add, show 54 + e = 53 + (e + 1) by omega]
  rw [oneMore, hsum, roundUnits_binade hlow hhigh, show (2 : Nat) ^ (e + 1) = 2 * 2 ^ e from
    Nat.pow_succ', roundDiv_mul_mul_right _ Nat.two_pos (Nat.two_pow_pos e)]

/-- Halves are rounded by too little to disturb the order of these quotients. -/
theorem mul_roundDiv_le {a b : Nat} (h : a ≤ b) (hb : b ≤ 2 ^ 53) :
    a * roundDiv (2 ^ 53 + b) 2 ≤ b * roundDiv (2 ^ 53 + a) 2 := by
  rcases Nat.eq_or_lt_of_le h with rfl | hlt
  · exact Nat.le_refl _
  have hra := roundDiv_eq (2 ^ 53 + a) 2
  have hrb := roundDiv_eq (2 ^ 53 + b) 2
  generalize roundDiv (2 ^ 53 + a) 2 = ra at hra ⊢
  generalize roundDiv (2 ^ 53 + b) 2 = rb at hrb ⊢
  -- of two neighbours one is even, and its half is exact
  have hdistance : rb ≤ ra + (b - a) := by omega
  have hlarge : a ≤ ra := by omega
  calc a * rb ≤ a * (ra + (b - a)) := Nat.mul_le_mul_left a hdistance
    _ = a * ra + (b - a) * a := by rw [Nat.mul_add, Nat.mul_comm a (b - a)]
    _ ≤ a * ra + (b - a) * ra := Nat.add_le_add_left (Nat.mul_le_mul_left _ hlarge) _
    _ = b * ra := by rw [← Nat.add_mul, Nat.add_sub_cancel' h]

theorem share_mono_of_half (fits : Representable u) (fits' : Representable v)
    (hu : unitsPerOne ≤ 2 * u) (h : u ≤ v) (hv : v ≤ unitsPerOne) : share u ≤ share v := by
  obtain ⟨e, he⟩ : ∃ e, unitsPerOne = 2 ^ (53 + e) := by
    obtain ⟨e, he⟩ := exists_unitsPerOne_eq
    exact ⟨e + 1, by rw [he, Nat.pow_eq, show 54 + e = 53 + (e + 1) by omega]⟩
  have hhalf : unitsPerOne = 2 * 2 ^ (52 + e) := by
    rw [he, ← Nat.pow_succ', show 53 + e = (52 + e).succ by omega]
  have hsteps {w : Nat} (fits : Representable w) (hw : unitsPerOne ≤ 2 * w)
      (hw' : w ≤ unitsPerOne) : ∃ a ≤ 2 ^ 53, w = a * 2 ^ e := by
    obtain ⟨a, rfl⟩ := fits.two_pow_dvd (e := e) (by omega)
    refine ⟨a, ?_, Nat.mul_comm _ _⟩
    rw [he, Nat.pow_add, Nat.mul_comm] at hw'
    exact Nat.le_of_mul_le_mul_right hw' (Nat.two_pow_pos e)
  obtain ⟨a, ha, rfl⟩ := hsteps fits hu (by omega)
  obtain ⟨b, hb, rfl⟩ := hsteps fits' (by omega) hv
  have hab : a ≤ b := Nat.le_of_mul_le_mul_right h (Nat.two_pow_pos e)
  refine roundUnits_mono (oneMore_pos _) (oneMore_pos _) ?_
  rw [oneMore_of_steps he ha, oneMore_of_steps he hb]
  calc a * 2 ^ e * unitsPerOne * (roundDiv (2 ^ 53 + b) 2 * 2 ^ (e + 1))
      = a * roundDiv (2 ^ 53 + b) 2 * (2 ^ e * unitsPerOne * 2 ^ (e + 1)) := by ring
    _ ≤ b * roundDiv (2 ^ 53 + a) 2 * (2 ^ e * unitsPerOne * 2 ^ (e + 1)) :=
        Nat.mul_le_mul_right _ (mul_roundDiv_le hab hb)
    _ = b * 2 ^ e * unitsPerOne * (roundDiv (2 ^ 53 + a) 2 * 2 ^ (e + 1)) := by ring

/-- Below one half a share is at most a third. -/
theorem three_mul_le_oneMore (fits : Representable u) (hu : 2 * u < unitsPerOne) :
    3 * u ≤ oneMore u := by
  obtain ⟨e, he⟩ := exists_unitsPerOne_eq
  rw [Nat.pow_eq] at he
  have htwice : 2 ^ (54 + e) = 2 * 2 ^ (53 + e) := by
    rw [← Nat.pow_succ', show 54 + e = (53 + e).succ by omega]
  have hstep := fits.add_step_le (e := e) (by omega)
  have hlow : 2 ^ (52 + (e + 2)) ≤ unitsPerOne + u := by
    rw [show 52 + (e + 2) = 54 + e by omega]
    omega
  have hhigh : unitsPerOne + u ≤ 2 ^ (53 + (e + 2)) := by
    rw [show 53 + (e + 2) = (54 + e).succ by omega, Nat.pow_succ]
    omega
  have herror := roundDiv_error (unitsPerOne + u) (Nat.two_pow_pos (e + 2))
  rw [oneMore, roundUnits_binade hlow hhigh]
  generalize roundDiv (unitsPerOne + u) (2 ^ (e + 2)) * 2 ^ (e + 2) = sum at herror ⊢
  rw [Nat.pow_add] at herror
  omega

/-! ### Shares in general -/

variable {d : Binary64}

theorem IsProportion.representable (h : d.IsProportion) :
    Representable d.place.natAbs ∧ d.place = d.place.natAbs ∧ d.place.natAbs ≤ unitsPerOne := by
  obtain ⟨-, hlow, hhigh⟩ := isProportion_iff.mp h
  obtain ⟨s, u, fits, rfl, -⟩ := h.exists_finite
  have hu : (finite s u fits).place.natAbs = u := by cases s <;> simp
  rw [hu]
  exact ⟨fits, by omega, by omega⟩

theorem place_one_add (h : d.IsProportion) : (1 + d).place = oneMore d.place.natAbs := by
  obtain ⟨-, hplace, hle⟩ := h.representable
  have hlimit := two_mul_unitsPerOne_lt
  have hsum := oneMore_le hle
  generalize d.place.natAbs = u at hplace hsum ⊢
  rw [place_add isFinite_one h.isFinite, place_one, hplace, nearestPlace, if_neg (by omega),
    show ((unitsPerOne : Int) + u).natAbs = unitsPerOne + u by omega, ← oneMore]
  omega

theorem isFinite_one_add (h : d.IsProportion) : (1 + d).isFinite = true := by
  have hplace := place_one_add h
  have hle := oneMore_le h.representable.2.2
  have hlimit := two_mul_unitsPerOne_lt
  have hnan := one_add_ne_nan h
  generalize 1 + d = y at hplace hnan ⊢
  cases y with
  | nan => exact absurd rfl hnan
  | infinite s => cases s <;> simp at hplace <;> omega
  | finite s u fits => rfl

/-- What is left of a number is one more than it divides. -/
theorem place_logistic (hz : z ≠ nan) :
    z.logistic.place = if 0 ≤ z.place then counterpart z.decay.place.natAbs
      else share z.decay.place.natAbs := by
  have hd := isProportion_decay hz
  obtain ⟨fits, hplace, hle⟩ := hd.representable
  have hsign : (0 : Binary64).le z = true ↔ 0 ≤ z.place := by
    rw [le_iff, place_zero]
    exact ⟨fun h => h.2.2, fun h => ⟨zero_ne_nan, hz, h⟩⟩
  have hquotient {x : Binary64} (hx : x.IsProportion) : (x / (1 + z.decay)).place =
      (min (roundUnits (x.place.natAbs * unitsPerOne) (oneMore z.decay.place.natAbs))
        unitLimit : Int) := by
    rw [place_div hx.isFinite (isFinite_one_add hd) (place_one_add_pos hd), place_one_add hd,
      Int.natAbs_natCast]
    have hx0 := hx.place_nonneg
    rw [nearestQuotient, if_neg (Int.not_lt.mpr (Int.mul_nonneg hx0 (by omega))), Int.natAbs_mul,
      Int.natAbs_natCast]
  have hlimit := unitsPerOne_lt_unitLimit
  unfold logistic
  by_cases h0 : 0 ≤ z.place
  · rw [if_pos (hsign.mpr h0), if_pos h0, hquotient isProportion_one, place_one, Int.natAbs_natCast,
      ← counterpart]
    have := counterpart_le z.decay.place.natAbs
    omega
  · rw [if_neg (mt hsign.mp h0), if_neg h0, hquotient hd, ← share]
    have := share_le fits
    omega

/-- Larger numbers have a larger value, except perhaps where both values are shares. -/
theorem logistic_le_or_share (h : z.le z' = true) :
    z.logistic.place ≤ z'.logistic.place ∨
      ∃ u v, Representable u ∧ Representable v ∧ u ≤ v ∧ v ≤ unitsPerOne ∧
        z.logistic.place = share u ∧ z'.logistic.place = share v := by
  obtain ⟨hz, hz', hle⟩ := le_iff.mp h
  obtain ⟨fits, -, hone⟩ := (isProportion_decay hz).representable
  obtain ⟨fits', -, hone'⟩ := (isProportion_decay hz').representable
  rw [place_logistic hz, place_logistic hz']
  by_cases h0 : 0 ≤ z.place
  · have hdecay := le_iff.mp (decay_le hz hz' (by omega))
    have hpos := (isProportion_decay hz').place_nonneg
    rw [if_pos h0, if_pos (show 0 ≤ z'.place by omega)]
    exact .inl (Int.ofNat_le.mpr (counterpart_antitone (by omega)))
  · rw [if_neg h0]
    by_cases h0' : 0 ≤ z'.place
    · rw [if_pos h0']
      exact .inl (Int.ofNat_le.mpr (share_le_counterpart fits hone hone'))
    · have hdecay := le_iff.mp (decay_le hz' hz (by omega))
      have hpos := (isProportion_decay hz).place_nonneg
      rw [if_neg h0']
      exact .inr ⟨_, _, fits, fits', by omega, hone', rfl, rfl⟩

/-- Above one third the logistic function increases. -/
theorem logistic_le (h : z.le z' = true) (hthird : (ofRat (1 / 3)).lt z.logistic = true) :
    z.logistic.le z'.logistic = true := by
  obtain ⟨hz, hz', -⟩ := le_iff.mp h
  refine le_iff.mpr ⟨logistic_ne_nan hz, logistic_ne_nan hz', ?_⟩
  rcases logistic_le_or_share h with hle | ⟨u, v, fits, fits', huv, hv, hu', hv'⟩
  · exact hle
  · have hplace : (ofRat (1 / 3)).place = roundUnits (1 * unitsPerOne) 3 := by decide +kernel
    have hhalf : unitsPerOne ≤ 2 * u := by
      refine Nat.le_of_not_lt fun hu => ?_
      have hshare : share u ≤ roundUnits (1 * unitsPerOne) 3 := by
        refine roundUnits_mono (oneMore_pos u) (by decide) ?_
        have := Nat.mul_le_mul_right unitsPerOne (three_mul_le_oneMore fits hu)
        calc u * unitsPerOne * 3 = 3 * u * unitsPerOne := by ring
          _ ≤ oneMore u * unitsPerOne := this
          _ = 1 * unitsPerOne * oneMore u := by ring
      rw [lt_iff, hplace, hu'] at hthird
      omega
    rw [hu', hv']
    exact Int.ofNat_le.mpr (share_mono_of_half fits fits' hhalf huv hv)

end Bursary.Binary64
