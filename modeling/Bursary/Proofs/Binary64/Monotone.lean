import Bursary.Proofs.Binary64.Proportion

/-! Arithmetic on binary64 numbers keeps their order. A product or a quotient of finite numbers
stands at the place nearest to the exact one, as a sum does, so each operation is monotone
wherever the exact one is; infinities stand at the ends and do not disturb the order. -/

namespace Bursary.Binary64

attribute [local irreducible] unitLimit unitsPerOne

variable {x x' y y' : Binary64}

/-! ### Places of products and quotients -/

theorem place_mul (hx : x.isFinite = true) (hy : y.isFinite = true) :
    (x * y).place = nearestQuotient (x.place * y.place) unitsPerOne := by
  obtain ⟨s, u, h, rfl⟩ := isFinite_iff.mp hx
  obtain ⟨t, v, h', rfl⟩ := isFinite_iff.mp hy
  rw [finite_mul_finite, place_ofUnits_eq]
  have hsigned : (if (s != t) = true then -((u * v : Nat) : Int) else (u * v : Nat)) =
      (finite s u h).place * (finite t v h').place := by
    rw [place_finite, place_finite, Int.natCast_mul]
    cases s <;> cases t <;>
      simp only [bne_self_eq_false, Bool.false_bne, Bool.bne_false, Bool.false_eq_true,
        ↓reduceIte, Int.neg_mul, Int.mul_neg, Int.neg_neg]
  rw [hsigned]

theorem place_div (hx : x.isFinite = true) (hy : y.isFinite = true) (hpos : 0 < y.place) :
    (x / y).place = nearestQuotient (x.place * unitsPerOne) y.place.natAbs := by
  obtain ⟨s, u, h, rfl⟩ := isFinite_iff.mp hx
  obtain ⟨t, v, h', rfl⟩ := isFinite_iff.mp hy
  have ht : t = false := by
    cases t with
    | false => rfl
    | true =>
      rw [place_finite, if_pos rfl] at hpos
      omega
  subst ht
  have hv : v ≠ 0 := by
    rintro rfl
    simp at hpos
  show (div _ _).place = _
  rw [div, if_neg hv, place_ofUnits_eq]
  have hsigned : (if (s != false) = true then -((u * unitsPerOne : Nat) : Int)
      else (u * unitsPerOne : Nat)) = (finite s u h).place * unitsPerOne := by
    rw [place_finite, Bool.bne_false, Int.natCast_mul]
    cases s with
    | false => rw [if_neg Bool.false_ne_true, if_neg Bool.false_ne_true]
    | true => rw [if_pos rfl, if_pos rfl, Int.neg_mul]
  rw [hsigned, place_finite false v, if_neg Bool.false_ne_true, Int.natAbs_natCast]

/-! ### Rational numbers -/

theorem place_ofRat (q : Rat) : (ofRat q).place = nearestQuotient (q.num * unitsPerOne) q.den := by
  rw [ofRat, ofFraction, place_ofUnits_eq]
  congr 1
  by_cases hq : q.num < 0
  · rw [if_pos (by simpa using hq), Int.natCast_mul, ← Int.neg_mul]
    congr 1
    omega
  · rw [if_neg (by simpa using hq), Int.natCast_mul]
    congr 1
    omega

theorem ofRat_ne_nan (q : Rat) : ofRat q ≠ nan := ofUnits_ne_nan _ _ _

/-- Rounding keeps the order of rational numbers. -/
theorem ofRat_le_ofRat {p q : Rat} (h : p ≤ q) : (ofRat p).le (ofRat q) = true := by
  refine le_iff.mpr ⟨ofRat_ne_nan p, ofRat_ne_nan q, ?_⟩
  rw [place_ofRat, place_ofRat]
  refine nearestQuotient_le p.den_pos q.den_pos ?_
  rw [Int.mul_right_comm, Int.mul_right_comm q.num]
  exact Int.mul_le_mul_of_nonneg_right ((Rat.le_iff p q).mp h) (by omega)

/-- Rational numbers of the unit interval are rounded to proportions. -/
theorem isProportion_const {q : Rat} (h : 0 ≤ q) (h' : q ≤ 1) :
    (Arithmetic.const q : Binary64).IsProportion where
  nonneg := by
    rw [← const_zero]
    exact ofRat_le_ofRat h
  le_one := by
    rw [← const_one]
    exact ofRat_le_ofRat h'

/-! ### Sums -/

theorem add_comm (x y : Binary64) : x + y = y + x := by
  cases x with
  | nan => rw [nan_add, add_nan]
  | infinite s =>
    cases y with
    | nan => rw [nan_add, add_nan]
    | infinite t => cases s <;> cases t <;> rfl
    | finite t v h' => rw [infinite_add rfl, add_infinite rfl]
  | finite s u h =>
    cases y with
    | nan => rw [nan_add, add_nan]
    | infinite t => rw [infinite_add rfl, add_infinite rfl]
    | finite t v h' =>
      rw [finite_add_finite, finite_add_finite, Int.add_comm, Bool.and_comm]

theorem place_le_iff_infinite {s : Bool} (hx : x ≠ nan) :
    x.place ≤ (infinite s).place ↔ s = false ∨ x = infinite true := by
  have hbounds := place_bounds x
  have pos := unitLimit_pos
  cases s with
  | false => simp [hbounds.2]
  | true =>
    cases x with
    | nan => exact absurd rfl hx
    | infinite t => cases t <;> simp; omega
    | finite t u h =>
      have hlt := h.1
      cases t <;> simp <;> omega

/-- The places of sums with a finite number are in the order of those of the numbers it is added
to. -/
theorem place_add_le (hx : x ≠ nan) (hx' : x' ≠ nan) (hle : x.place ≤ x'.place)
    (hy : y.isFinite = true) (hy' : y'.isFinite = true) (hle' : y.place ≤ y'.place) :
    (x + y).place ≤ (x' + y').place := by
  cases x' with
  | nan => exact absurd rfl hx'
  | infinite t =>
    rw [infinite_add hy']
    rcases (place_le_iff_infinite hx).mp hle with rfl | rfl
    · exact (place_bounds _).2
    · rw [infinite_add hy]
      exact hle
  | finite t v h' =>
    cases x with
    | nan => exact absurd rfl hx
    | infinite s =>
      rw [infinite_add hy]
      cases s with
      | true => exact (place_bounds _).1
      | false =>
        have hlt := h'.1
        cases t <;> simp at hle <;> omega
    | finite s u h =>
      rw [place_add rfl hy, place_add rfl hy']
      exact nearestPlace_mono (by omega)

theorem add_le_add (h : x.le x' = true) (hy : y.isFinite = true) (hy' : y'.isFinite = true)
    (h' : y.le y' = true) : (x + y).le (x' + y') = true := by
  rw [le_iff] at h h' ⊢
  exact ⟨add_ne_nan h.1 h'.1 (.inr hy), add_ne_nan h.2.1 h'.2.1 (.inr hy'),
    place_add_le h.1 h.2.1 h.2.2 hy hy' h'.2.2⟩

theorem le_refl (hx : x ≠ nan) : x.le x = true := le_iff.mpr ⟨hx, hx, Int.le_refl _⟩

/-- Adding a finite number keeps the order. -/
theorem add_le_add_left (hx : x.isFinite = true) (h : y.le y' = true) :
    (x + y).le (x + y') = true := by
  rw [add_comm x y, add_comm x y']
  exact add_le_add h hx hx (le_refl (ne_nan_of_isFinite hx))

/-- Sums of finite numbers that are in order one by one are in order. -/
theorem foldl_add_le {α : Type} {f g : α → Binary64} {as : List α}
    (hf : ∀ a ∈ as, (f a).isFinite = true) (hg : ∀ a ∈ as, (g a).isFinite = true)
    (hle : ∀ a ∈ as, (f a).le (g a) = true) (hstart : x.le y = true) :
    ((as.map f).foldl (· + ·) x).le ((as.map g).foldl (· + ·) y) = true := by
  induction as generalizing x y with
  | nil => exact hstart
  | cons a as ih =>
    rw [List.forall_mem_cons] at hf hg hle
    rw [List.map_cons, List.map_cons]
    exact ih hf.2 hg.2 hle.2 (add_le_add hstart hf.1 hg.1 hle.1)

/-! ### Differences -/

theorem place_neg (x : Binary64) : (-x).place = -x.place := by
  show (neg x).place = _
  cases x with
  | nan => rfl
  | infinite s => cases s <;> simp [neg]
  | finite s u h => cases s <;> simp [neg]

theorem neg_ne_nan (h : x ≠ nan) : -x ≠ nan := by
  show neg x ≠ nan
  cases x with
  | nan => exact absurd rfl h
  | infinite s => simp [neg]
  | finite s u h => simp [neg]

theorem isFinite_neg (h : x.isFinite = true) : (-x).isFinite = true := by
  obtain ⟨s, u, fits, rfl⟩ := isFinite_iff.mp h
  rfl

/-- What is taken away more leaves less. -/
theorem sub_le_sub_left (hx : x.isFinite = true) (h : y.le y' = true) :
    (x - y').le (x - y) = true := by
  have hneg : (-y').le (-y) = true := by
    rw [le_iff] at h ⊢
    rw [place_neg, place_neg]
    exact ⟨neg_ne_nan h.2.1, neg_ne_nan h.1, by omega⟩
  exact add_le_add_left hx hneg

theorem sub_ne_nan (hx : x.isFinite = true) (hy : y ≠ nan) : x - y ≠ nan :=
  add_ne_nan (ne_nan_of_isFinite hx) (neg_ne_nan hy) (.inl hx)

/-! ### Products and quotients -/

/-- Weighing by a number that is not negative keeps the order of proportions. -/
theorem mul_le_mul_left (hx : x.isFinite = true) (hx0 : 0 ≤ x.place) (hy : y.IsProportion)
    (hy' : y'.IsProportion) (h : y.le y' = true) : (x * y).le (x * y') = true := by
  rw [le_iff] at h ⊢
  refine ⟨ne_nan_of_isFinite (isFinite_mul hx hy), ne_nan_of_isFinite (isFinite_mul hx hy'), ?_⟩
  rw [place_mul hx hy.isFinite, place_mul hx hy'.isFinite]
  exact nearestQuotient_mono unitsPerOne_pos (Int.mul_le_mul_of_nonneg_left h.2.2 hx0)

theorem mul_le_mul_right (hx : x.IsProportion) (hy : y.IsProportion) (hy' : y'.IsProportion)
    (h : y.le y' = true) : (y * x).le (y' * x) = true := by
  rw [le_iff] at h ⊢
  refine ⟨ne_nan_of_isFinite (isFinite_mul hy.isFinite hx),
    ne_nan_of_isFinite (isFinite_mul hy'.isFinite hx), ?_⟩
  rw [place_mul hy.isFinite hx.isFinite, place_mul hy'.isFinite hx.isFinite]
  exact nearestQuotient_mono unitsPerOne_pos
    (Int.mul_le_mul_of_nonneg_right h.2.2 hx.place_nonneg)

/-- Weighing by a positive number keeps a number at zero or above, an infinite one too. -/
theorem mul_nonneg (hx : x ≠ nan) (hx0 : 0 ≤ x.place) (hy : y.isFinite = true)
    (hpos : 0 < y.place) : x * y ≠ nan ∧ 0 ≤ (x * y).place := by
  have pos := unitLimit_pos
  obtain ⟨t, v, h', rfl⟩ := isFinite_iff.mp hy
  cases x with
  | nan => exact absurd rfl hx
  | infinite s =>
    have hv : v ≠ 0 := by
      rintro rfl
      simp at hpos
    show mul _ _ ≠ nan ∧ 0 ≤ (mul _ _).place
    rw [mul, if_neg hv]
    cases s <;> cases t <;> simp at hx0 hpos ⊢ <;> omega
  | finite s u h =>
    refine ⟨?_, ?_⟩
    · rw [finite_mul_finite]
      exact ofUnits_ne_nan _ _ _
    · rw [place_mul rfl hy]
      exact nearestQuotient_nonneg (Int.mul_nonneg hx0 (Int.le_of_lt hpos))

/-- A number from zero up to a positive one is a proportion of it. -/
theorem isProportion_div (hx : x ≠ nan) (hx0 : 0 ≤ x.place) (hy : y.isFinite = true)
    (hy0 : 0 < y.place) (hle : x.place ≤ y.place) : (x / y).IsProportion := by
  have hx : x.isFinite = true := by
    obtain ⟨t, v, h', rfl⟩ := isFinite_iff.mp hy
    have hlt := h'.1
    cases x with
    | nan => exact absurd rfl hx
    | infinite s => cases s <;> cases t <;> simp at hx0 hle <;> omega
    | finite s u h => rfl
  refine isProportion_iff.mpr ⟨div_ne_nan hx (ne_nan_of_isFinite hy) (by omega), ?_⟩
  rw [place_div hx hy hy0]
  refine ⟨nearestQuotient_nonneg (Int.mul_nonneg (by omega) (by omega)), ?_⟩
  -- one is its own rounding, so no proportion is rounded above it
  have hone : nearestQuotient (y.place * unitsPerOne) y.place.natAbs ≤ unitsPerOne := by
    have hplace : y.place = y.place.natAbs := by omega
    have hround := roundUnits_of_representable representable_unitsPerOne
      (show 0 < y.place.natAbs by omega)
    rw [nearestQuotient, if_neg (Int.not_lt.mpr (Int.mul_nonneg (by omega) (by omega))),
      Int.natAbs_mul, Int.natAbs_natCast, Nat.mul_comm, hround]
    omega
  refine Int.le_trans (nearestQuotient_mono (by omega) ?_) hone
  exact Int.mul_le_mul_of_nonneg_right hle (by omega)

theorem isProportion_one_sub (h : x.IsProportion) : (1 - x).IsProportion := by
  have hone := isFinite_one
  obtain ⟨hnan, hlow, hhigh⟩ := isProportion_iff.mp h
  refine isProportion_iff.mpr ⟨sub_ne_nan hone hnan, ?_⟩
  show 0 ≤ (1 + -x).place ∧ (1 + -x).place ≤ unitsPerOne
  rw [place_add hone (isFinite_neg h.isFinite), place_neg, place_one]
  constructor
  · have hzero := nearestPlace_place isFinite_zero
    rw [place_zero] at hzero
    rw [← hzero]
    exact nearestPlace_mono (by omega)
  · have hself := nearestPlace_place hone
    rw [place_one] at hself
    calc nearestPlace (unitsPerOne + -x.place) ≤ nearestPlace unitsPerOne :=
          nearestPlace_mono (by omega)
      _ = unitsPerOne := hself

theorem infinite_div {s : Bool} (hy : y.isFinite = true) (hpos : 0 < y.place) :
    infinite s / y = infinite s := by
  obtain ⟨t, v, h, rfl⟩ := isFinite_iff.mp hy
  cases t with
  | true =>
    simp at hpos
    omega
  | false => cases s <;> rfl

/-- Dividing by a positive number keeps the order. -/
theorem div_le_div_right (hy : y.isFinite = true) (hpos : 0 < y.place) (h : x.le x' = true) :
    (x / y).le (x' / y) = true := by
  have hne : y.place ≠ 0 := by omega
  rw [le_iff] at h
  obtain ⟨hx, hx', hle⟩ := h
  have hinf (s : Bool) : infinite s ≠ nan := by simp
  cases x' with
  | nan => exact absurd rfl hx'
  | infinite t =>
    rw [infinite_div hy hpos]
    rcases (place_le_iff_infinite hx).mp hle with rfl | rfl
    · refine le_iff.mpr ⟨?_, hinf _, (place_bounds _).2⟩
      cases x with
      | nan => exact absurd rfl hx
      | infinite s => rw [infinite_div hy hpos]; exact hinf s
      | finite s u hu => exact div_ne_nan rfl (ne_nan_of_isFinite hy) hne
    · rw [infinite_div hy hpos]
      exact le_iff.mpr ⟨hinf _, hinf _, hle⟩
  | finite t v h' =>
    have hdiv' := div_ne_nan (x := finite t v h') rfl (ne_nan_of_isFinite hy) hne
    cases x with
    | nan => exact absurd rfl hx
    | infinite s =>
      rw [infinite_div hy hpos]
      cases s with
      | true => exact le_iff.mpr ⟨hinf _, hdiv', (place_bounds _).1⟩
      | false =>
        have hlt := h'.1
        cases t <;> simp at hle <;> omega
    | finite s u hu =>
      refine le_iff.mpr ⟨div_ne_nan rfl (ne_nan_of_isFinite hy) hne, hdiv', ?_⟩
      rw [place_div rfl hy hpos, place_div rfl hy hpos]
      refine nearestQuotient_mono (by omega) (Int.mul_le_mul_of_nonneg_right hle ?_)
      omega

/-! ### Clamping -/

theorem place_clamp (hx : x ≠ nan) :
    (Arithmetic.clamp x).place = max 0 (min x.place unitsPerOne) := by
  have hpos := unitsPerOne_pos
  have hcap : (if lt x 1 then x else 1) ≠ nan := by
    split
    · exact hx
    · exact one_ne_nan
  rw [clamp_eq, place_ite_lt zero_ne_nan hcap, place_ite_lt hx one_ne_nan, place_zero, place_one]
  split <;> split <;> omega

/-- A proportion that a number reaches is reached when the number is clamped. -/
theorem le_clamp (hx : x.IsProportion) (h : x.le y = true) :
    x.le (Arithmetic.clamp y) = true := by
  have hle := (isProportion_iff.mp hx).2
  rw [le_iff] at h ⊢
  refine ⟨h.1, (isProportion_clamp y).ne_nan, ?_⟩
  rw [place_clamp h.2.1]
  omega

theorem clamp_le_clamp (h : x.le y = true) :
    (Arithmetic.clamp x).le (Arithmetic.clamp y) = true := by
  rw [le_iff] at h
  refine le_iff.mpr ⟨(isProportion_clamp x).ne_nan, (isProportion_clamp y).ne_nan, ?_⟩
  rw [place_clamp h.1, place_clamp h.2.1]
  omega

end Bursary.Binary64
