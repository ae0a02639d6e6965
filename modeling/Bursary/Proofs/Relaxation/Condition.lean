import Bursary.Proofs.Binary64.Order
import Bursary.Proofs.Relaxation.Change

/-! What a relaxation does to the standard conditions. A change leaves all of them alone but the one
that it belongs to. That one applies to no more criteria than before, and holds of every student of
whom it held. -/

namespace Bursary

attribute [local irreducible] Binary64.unitsPerOne Binary64.unitLimit

/-! ### Conditions that ask no more -/

namespace Condition

/-- Whom the condition restricted under `c`, it restricts no further under `d`. -/
structure Relaxed (cond : Condition) (c d : Criteria) : Prop where
  applies : cond.applies d = true → cond.applies c = true
  holds : cond.applies d = true → ∀ s, cond.holds s c = true → cond.holds s d = true

variable {cond : Condition} {c d : Criteria}

theorem Relaxed.of_not_applies (h : cond.applies d = false) : cond.Relaxed c d where
  applies hd := nomatch h.symm.trans hd
  holds hd := nomatch h.symm.trans hd

theorem Relaxed.of_eq (happlies : cond.applies d = cond.applies c)
    (hholds : ∀ s, cond.holds s d = cond.holds s c) : cond.Relaxed c d where
  applies h := happlies.symm.trans h
  holds _ s h := (hholds s).trans h

end Condition

/-! ### Thresholds -/

namespace Criteria

theorem bound_some {x : Binary64} (h : x.isZero = false) : bound (some x) = some x := by
  rw [bound, Option.filter_some, h]
  rfl

theorem bound_zero {x : Binary64} (h : x.isZero = true) : bound (some x) = none := by
  rw [bound, Option.filter_some, h]
  rfl

end Criteria

open Criteria (bound bound_some bound_zero)

namespace Threshold.Relaxes

variable {t : Threshold} {old x : Option Binary64} (h : t.Relaxes old x)

include h

/-- A relaxed threshold restricts somebody only if it did before. -/
theorem isSome_bound : (bound x).isSome = true → (bound old).isSome = true := by
  cases h with
  | raise _ hold => rw [bound_some hold]; exact fun _ => rfl
  | lower _ hold => rw [bound_some hold]; exact fun _ => rfl
  | remove => exact (nomatch ·)

theorem reaches (ht : t.isCeiling = false) {y : Binary64}
    (hy : Condition.reaches y old = true) : Condition.reaches y x = true := by
  cases h with
  | raise ht' => cases ht.symm.trans ht'
  | remove => rfl
  | lower _ hold hnew h =>
    rw [Condition.reaches, bound_some hold] at hy
    rw [Condition.reaches, bound_some hnew]
    exact Binary64.le_trans (Binary64.le_of_lt h) hy

end Threshold.Relaxes

namespace Condition

variable {c : Criteria} {old new : Binary64}

theorem place_worstGwa_pos : 0 < Student.worstGwa.place := by decide +kernel

theorem worstGwa_ne_nan : Student.worstGwa ≠ .nan := by decide +kernel

theorem relaxed_maxGwa (hc : c.maxGwa = some old) (hold : old.isZero = false)
    (h : old.lt new = true) : gwa.Relaxed c { c with maxGwa := some new } where
  applies hd := by
    have hopen : Student.worstGwa.le old = true →
        ((bound (some new)).map (Student.worstGwa.le ·)).getD true = true := by
      intro hle
      cases hnew : new.isZero with
      | true => rw [bound_zero hnew]; rfl
      | false =>
        rw [bound_some hnew]
        exact Binary64.le_trans hle (Binary64.le_of_lt h)
    simp only [applies, Criteria.boundsGwa, hc, bound_some hold, Bool.not_eq_true',
      Bool.and_eq_false_iff, Option.map_some, Option.getD_some] at hd ⊢
    rcases hd with hd | hd
    · left
      rw [← Bool.not_eq_true] at hd ⊢
      exact fun hle => hd (hopen hle)
    · exact .inr hd
  holds _ s hs := by
    simp only [holds, hc, bound_some hold, Bool.and_eq_true, Option.getD_some] at hs ⊢
    refine ⟨hs.1, ?_⟩
    cases hnew : new.isZero with
    | true =>
      -- a ceiling of zero is none, but then the old one was negative
      rw [bound_zero hnew]
      have hplace := Binary64.place_of_isZero hnew
      have hworst := place_worstGwa_pos
      have hle := Binary64.le_iff.mp hs.2
      have hlt := Binary64.lt_iff.mp h
      exact Binary64.le_iff.mpr ⟨hle.1, worstGwa_ne_nan, by simp only [Option.getD_none]; omega⟩
    | false =>
      rw [bound_some hnew]
      exact Binary64.le_trans hs.2 (Binary64.le_of_lt h)

theorem relaxed_minGwa (hc : c.minGwa = some old) (hold : old.isZero = false)
    (hnew : new.isZero = false) (h : new.lt old = true) :
    gwa.Relaxed c { c with minGwa := some new } where
  applies hd := by
    simp only [applies, Criteria.boundsGwa, hc, bound_some hold, bound_some hnew,
      Bool.not_eq_true', Bool.and_eq_false_iff, Option.map_some, Option.getD_some] at hd ⊢
    rcases hd with hd | hd
    · exact .inl hd
    · right
      rw [← Bool.not_eq_true] at hd ⊢
      exact fun hle => hd (Binary64.le_trans (Binary64.le_of_lt h) hle)
  holds _ s hs := by
    simp only [holds, hc, bound_some hold, bound_some hnew, Bool.and_eq_true,
      Option.getD_some] at hs ⊢
    exact ⟨Binary64.le_trans (Binary64.le_of_lt h) hs.1, hs.2⟩

theorem relaxed_minUnitsEnrolled {x : Option Binary64}
    (h : Threshold.minUnitsEnrolled.Relaxes c.minUnitsEnrolled x) :
    unitsEnrolled.Relaxed c { c with minUnitsEnrolled := x } :=
  ⟨h.isSome_bound, fun _ _ hs => h.reaches rfl hs⟩

theorem relaxed_minUnitsPassed {x : Option Binary64}
    (h : Threshold.minUnitsPassed.Relaxes c.minUnitsPassed x) :
    unitsPassed.Relaxed c { c with minUnitsPassed := x } := by
  refine ⟨h.isSome_bound, fun _ s hs => ?_⟩
  rw [holds] at hs ⊢
  cases hu : s.unitsPassed with
  | none =>
    rw [hu] at hs
    cases hs
  | some units =>
    rw [hu] at hs
    exact h.reaches rfl hs

theorem relaxed_maxIncome {x : Option Binary64} (h : Threshold.maxIncome.Relaxes c.maxIncome x) :
    income.Relaxed c { c with maxIncome := x } := by
  have hexceeds (amount : Binary64) : ((bound x).map (·.lt amount)).getD false = true →
      ((bound c.maxIncome).map (·.lt amount)).getD false = true := by
    generalize c.maxIncome = old at h
    cases h with
    | lower ht => cases ht
    | remove => exact (nomatch ·)
    | @raise _ new _ hold h =>
      cases hnew : new.isZero with
      | true => rw [bound_zero hnew]; exact (nomatch ·)
      | false =>
        rw [bound_some hnew, bound_some hold]
        exact Binary64.lt_trans h
  constructor
  · intro hd
    rw [applies, Bool.or_eq_true] at hd ⊢
    exact hd.imp_left h.isSome_bound
  · intro _ s hs
    simp only [holds, incomeHolds, Bool.or_eq_true, Bool.and_eq_true, Bool.not_eq_true',
      ← Bool.not_eq_true] at hs ⊢
    exact hs.imp_right fun hs => ⟨fun hd => hs.1 (hexceeds s.income hd), hs.2⟩

theorem relaxed_minIncome {x : Option Binary64} (h : Threshold.minIncome.Relaxes c.minIncome x) :
    income.Relaxed c { c with minIncome := x } := by
  have hmisses (amount : Binary64) : ((bound x).map (amount.lt ·)).getD false = true →
      ((bound c.minIncome).map (amount.lt ·)).getD false = true := by
    generalize c.minIncome = old at h
    cases h with
    | raise ht => cases ht
    | remove => exact (nomatch ·)
    | lower _ hold hnew h =>
      rw [bound_some hnew, bound_some hold]
      exact fun hx => Binary64.lt_trans hx h
  constructor
  · intro hd
    rw [applies, Bool.or_eq_true] at hd ⊢
    exact hd.imp_right h.isSome_bound
  · intro _ s hs
    simp only [holds, incomeHolds, Bool.or_eq_true, Bool.and_eq_true, Bool.not_eq_true',
      ← Bool.not_eq_true] at hs ⊢
    exact hs.imp_right fun hs => ⟨hs.1, fun hd => hs.2 (hmisses s.income hd)⟩

theorem relaxed_maxHouseholdSize {old new : Int} (hc : c.maxHouseholdSize = some old)
    (h : old < new) : householdSize.Relaxed c { c with maxHouseholdSize := some new } where
  applies _ := by
    rw [applies, hc]
    exact Bool.or_true _
  holds _ s hs := by
    rw [holds, householdHolds] at hs ⊢
    split at hs
    · cases hs
    · simp only [hc, Option.map_some, Option.getD_some, Bool.and_eq_true, decide_eq_true_eq,
        Bool.not_eq_true', decide_eq_false_iff_not] at hs ⊢
      exact ⟨hs.1, by omega⟩

theorem relaxed_minHouseholdSize {old new : Int} (hc : c.minHouseholdSize = some old)
    (hold : old ≠ 0) (hnew : new ≠ 0) (h : new < old) :
    householdSize.Relaxed c { c with minHouseholdSize := some new } where
  applies _ := by
    rw [applies, hc]
    exact Bool.true_or _
  holds _ s hs := by
    rw [holds, householdHolds] at hs ⊢
    split at hs
    · cases hs
    · simp only [Criteria.smallestHousehold, hc, Option.filter_some, bne_iff_ne, ne_eq, hold,
        hnew, not_false_eq_true, ↓reduceIte, Option.getD_some, Bool.and_eq_true,
        decide_eq_true_eq] at hs ⊢
      exact ⟨by omega, hs.2⟩

end Condition

/-- A relaxed threshold relaxes its condition and leaves the others alone. -/
theorem Threshold.Relaxes.relaxed {t : Threshold} {c : Criteria} {x : Option Binary64}
    (h : t.Relaxes (t.get c) x) (cond : Condition) : cond.Relaxed c (t.set c x) := by
  by_cases hcond : cond = t.condition
  · subst hcond
    cases t with
    | maxGwa =>
      generalize hc : maxGwa.get c = old at h
      cases h with
      | raise _ hold h => exact Condition.relaxed_maxGwa hc hold h
      | lower ht => cases ht
      | remove ht => cases ht
    | minGwa =>
      generalize hc : minGwa.get c = old at h
      cases h with
      | raise ht => cases ht
      | lower _ hold hnew h => exact Condition.relaxed_minGwa hc hold hnew h
      | remove ht => cases ht
    | minUnitsEnrolled => exact Condition.relaxed_minUnitsEnrolled h
    | minUnitsPassed => exact Condition.relaxed_minUnitsPassed h
    | maxIncome => exact Condition.relaxed_maxIncome h
    | minIncome => exact Condition.relaxed_minIncome h
  · -- no other condition reads the threshold
    cases t <;> cases cond <;> first
      | exact absurd rfl hcond
      | exact .of_eq rfl fun _ => rfl

/-! ### Lists and flags -/

theorem any_of_subset {p : String → Bool} {xs ys : List String} (h : xs ⊆ ys)
    (hx : xs.any p = true) : ys.any p = true := by
  obtain ⟨x, hmem, hp⟩ := List.any_eq_true.mp hx
  exact List.any_eq_true.mpr ⟨x, h hmem, hp⟩

theorem Criteria.acceptedCitizenships_of_ne_nil {c : Criteria} (h : c.citizenships ≠ []) :
    c.acceptedCitizenships = c.citizenships := by
  rw [acceptedCitizenships, if_pos]
  rw [Bool.not_eq_true', List.isEmpty_eq_false_iff]
  exact h

/-- A longer list names everybody whom the shorter one named. -/
theorem Listing.relaxed_extend {l : Listing} {c : Criteria} {names : List String}
    (hne : l.get c ≠ []) (hsub : l.get c ⊆ names) (cond : Condition) :
    cond.Relaxed c (l.set c names) := by
  by_cases hcond : cond = l.condition
  · subst hcond
    have hgiven : (!(l.get c).isEmpty) = true := by
      rw [Bool.not_eq_true', List.isEmpty_eq_false_iff]
      exact hne
    have hnames : names ≠ [] := by
      rintro rfl
      exact hne (List.subset_nil.mp hsub)
    have hboth {b : Bool} {p : String → Bool} (h : (b && (l.get c).any p) = true) :
        (b && names.any p) = true := by
      rw [Bool.and_eq_true] at h ⊢
      exact ⟨h.1, any_of_subset hsub h.2⟩
    cases l with
    | citizenships =>
      have hc := Criteria.acceptedCitizenships_of_ne_nil hne
      have hd := Criteria.acceptedCitizenships_of_ne_nil (c := citizenships.set c names) hnames
      refine ⟨fun _ => ?_, fun _ s hs => ?_⟩
      · show (!c.acceptedCitizenships.isEmpty) = true
        rw [hc]
        exact hgiven
      · have hs' : c.acceptedCitizenships.any _ = true := hs
        rw [hc] at hs'
        show (citizenships.set c names).acceptedCitizenships.any _ = true
        rw [hd]
        exact any_of_subset hsub hs'
    | yearLevels => exact ⟨fun _ => hgiven, fun _ s hs => any_of_subset hsub hs⟩
    | colleges => exact ⟨fun _ => hgiven, fun _ s hs => any_of_subset hsub hs⟩
    | courses => exact ⟨fun _ => hgiven, fun _ s hs => hboth hs⟩
    | majors => exact ⟨fun _ => hgiven, fun _ s hs => hboth hs⟩
    | stBrackets => exact ⟨fun _ => hgiven, fun _ s hs => hboth hs⟩
    | provinces => exact ⟨fun _ => hgiven, fun _ s hs => hboth hs⟩
  · -- no other condition reads the list
    cases l <;> cases cond <;> first
      | exact absurd rfl hcond
      | exact .of_eq rfl fun _ => rfl

/-- An empty list restricts nobody, unless the citizenships must then be Filipino. -/
theorem Listing.relaxed_empty {l : Listing} {c : Criteria}
    (h : l = .citizenships → c.filipinoOnly = false) (cond : Condition) :
    cond.Relaxed c (l.set c []) := by
  by_cases hcond : cond = l.condition
  · subst hcond
    cases l with
    | citizenships =>
      refine .of_not_applies ?_
      simp only [set, condition, Condition.applies, Criteria.acceptedCitizenships, h rfl]
      rfl
    | _ => exact .of_not_applies rfl
  · cases l <;> cases cond <;> first
      | exact absurd rfl hcond
      | exact .of_eq rfl fun _ => rfl

theorem Flag.relaxed_clear (f : Flag) (c : Criteria) (cond : Condition) :
    cond.Relaxed c (f.clear c) := by
  by_cases hcond : cond = f.condition
  · subst hcond
    cases f with
    | filipinoOnly =>
      by_cases hne : c.citizenships = []
      · refine .of_not_applies ?_
        simp only [clear, condition, Condition.applies, Criteria.acceptedCitizenships, hne]
        rfl
      · have hc := Criteria.acceptedCitizenships_of_ne_nil hne
        have hd := Criteria.acceptedCitizenships_of_ne_nil (c := filipinoOnly.clear c) hne
        have hsame : (filipinoOnly.clear c).acceptedCitizenships = c.acceptedCitizenships :=
          hd.trans hc.symm
        refine .of_eq ?_ fun s => ?_
        · show (!(filipinoOnly.clear c).acceptedCitizenships.isEmpty) = _
          rw [hsame]
          rfl
        · show (filipinoOnly.clear c).acceptedCitizenships.any _ = _
          rw [hsame]
          rfl
    | _ => exact .of_not_applies rfl
  · cases f <;> cases cond <;> first
      | exact absurd rfl hcond
      | exact .of_eq rfl fun _ => rfl

/-! ### All changes -/

/-- No relaxation makes a standard condition ask for more. -/
theorem Relaxation.relaxed {c d : Criteria} (h : Relaxation c d) (cond : Condition) :
    cond.Relaxed c d := by
  cases h with
  | threshold t h => exact h.relaxed cond
  | raiseHousehold hold h =>
    cases cond with
    | householdSize => exact Condition.relaxed_maxHouseholdSize hold h
    | _ => exact .of_eq rfl fun _ => rfl
  | lowerHousehold hc hold hnew h =>
    cases cond with
    | householdSize => exact Condition.relaxed_minHouseholdSize hc hold hnew h
    | _ => exact .of_eq rfl fun _ => rfl
  | extend l hne hsub => exact Listing.relaxed_extend hne hsub cond
  | empty l h => exact Listing.relaxed_empty h cond
  | clear f => exact f.relaxed_clear c cond
  | rule h => cases cond <;> exact .of_eq rfl fun _ => rfl
  | unreadableRule h => cases cond <;> exact .of_eq rfl fun _ => rfl

end Bursary
