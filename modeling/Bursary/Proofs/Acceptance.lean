import Bursary.Proofs.Provider.Safety

/-! What is taken from a stored model, and when nothing is. A feature has the last usable number
that is stored for it in either spelling, and one that can only speak for a student has its size.
What has been taken is taken again as it is. That a model is turned down can be told for every least
accuracy but an integer whose hundredfold is beyond all numbers. -/

namespace Bursary

/-- The keys of a feature are its name in either spelling. -/
theorem Feature.ofKey?_eq_some_iff {key : String} {f : Feature} :
    ofKey? key = some f ↔ key = f.name ∨ key = f.camelName := by
  constructor
  · intro h
    have hkey := List.find?_some h
    rw [Bool.or_eq_true, beq_iff_eq, beq_iff_eq] at hkey
    exact hkey.imp Eq.symm Eq.symm
  · rintro (rfl | rfl)
    · cases f <;> rfl
    · cases f <;> rfl

theorem Value.record?_eq_some {v : Value} {r : Record} : v.record? = some r ↔ v = .record r := by
  cases v <;> simp [record?]

namespace Model

attribute [local irreducible] Binary64.unitsPerOne Binary64.unitLimit

/-! ### The last number for a feature -/

/-- Among the entries of a record for a feature, the last one with a usable number has this one. -/
def IsLast (stored : Record) (f : Feature) (x : Binary64) : Prop :=
  ∃ front e back, stored = front ++ e :: back ∧ (e.1 = f.name ∨ e.1 = f.camelName) ∧
    e.2.coefficient? = some x ∧
    ∀ later ∈ back, later.1 = f.name ∨ later.1 = f.camelName → later.2.coefficient? = none

theorem getLast?_filterMap_eq_some_iff {α β : Type} {g : α → Option β} {xs : List α} {b : β} :
    (xs.filterMap g).getLast? = some b ↔
      ∃ front a back, xs = front ++ a :: back ∧ g a = some b ∧ ∀ c ∈ back, g c = none := by
  rw [List.getLast?_filterMap, List.findSome?_eq_some_iff]
  constructor
  · rintro ⟨back, a, front, hxs, ha, hback⟩
    refine ⟨front.reverse, a, back.reverse, ?_, ha, by simpa using hback⟩
    rw [List.reverse_eq_iff] at hxs
    simpa using hxs
  · rintro ⟨front, a, back, rfl, ha, hback⟩
    exact ⟨back.reverse, a, front.reverse, by simp, ha, by simpa using hback⟩

theorem storedWeight?_eq_some_iff {model : Record} {f : Feature} {x : Binary64} :
    storedWeight? model f = some x ↔ IsLast (storedWeights model) f x := by
  rw [storedWeight?, numbersFor, getLast?_filterMap_eq_some_iff, IsLast]
  simp only [Option.ite_none_right_eq_some, ite_eq_right_iff, Feature.ofKey?_eq_some_iff, and_assoc]

theorem storedWeight?_eq_none_iff {model : Record} {f : Feature} :
    storedWeight? model f = none ↔ ∀ x, ¬IsLast (storedWeights model) f x := by
  simp only [← storedWeight?_eq_some_iff, Option.eq_none_iff_forall_ne_some, ne_eq]

theorem isFinite_of_isLast {stored : Record} {f : Feature} {x : Binary64} (h : IsLast stored f x) :
    x.isFinite = true := by
  obtain ⟨_, _, _, -, -, hx, -⟩ := h
  exact Value.isFinite_of_numberBy hx

/-! ### Sizes -/

/-- The adjusted weight of a feature that can only speak for a student is the size of the weight. -/
theorem adjusted_equals_abs {f : Feature} (hf : f ∈ Feature.favourable) {x : Binary64}
    (hx : x.isFinite = true) : (adjusted f x).equals x.abs = true := by
  obtain ⟨s, u, fits, rfl⟩ := Binary64.isFinite_iff.mp hx
  have hnonneg := (Binary64.le_iff.mp (nonneg_adjusted hf hx)).2.2
  rw [Binary64.place_zero] at hnonneg
  refine Binary64.equals_iff.mpr ⟨Binary64.ne_nan_of_isFinite (isFinite_adjusted f hx), nofun, ?_⟩
  unfold adjusted at hnonneg ⊢
  split at hnonneg
  case isTrue h => rw [if_pos h]
  case isFalse h =>
    rw [if_neg h]
    cases s with
    | false => rfl
    | true =>
      simp only [Binary64.abs, Binary64.place_finite, ↓reduceIte] at hnonneg ⊢
      omega

theorem lt_adjusted {f : Feature} (hf : f ∈ Feature.favourable) {x : Binary64}
    (hx : x.isFinite = true) : (adjusted f x).lt 0 = false :=
  Binary64.lt_eq_false_of_le (nonneg_adjusted hf hx)

/-- An adjusted weight needs no adjustment. -/
theorem adjusted_adjusted (f : Feature) {x : Binary64} (hx : x.isFinite = true) :
    adjusted f (adjusted f x) = adjusted f x := by
  refine if_neg ?_
  rintro ⟨hf, hlt⟩
  rw [lt_adjusted hf hx] at hlt
  cases hlt

/-! ### What is taken -/

/-- Weights and adjustments as they are to be taken from a model. -/
structure IsTaken (model : Record) (w : Weights Binary64) (as : List Adjustment) : Prop where
  last {f : Feature} {x : Binary64} (h : IsLast (storedWeights model) f x) :
    w.of f = if f ∈ Feature.favourable ∧ x.lt 0 then x.abs else x
  /-- A negative zero keeps its sign, which does not count. -/
  size {f : Feature} {x : Binary64} (hf : f ∈ Feature.favourable)
    (h : IsLast (storedWeights model) f x) : (w.of f).equals x.abs = true
  missing {f : Feature} (h : ∀ x, ¬IsLast (storedWeights model) f x) : w.of f = 1
  intercept : w.intercept =
    ([Record.get (storedWeights model) "intercept", model.get "bias"].findSome?
      Value.coefficient?).getD 0
  adjustment (a : Adjustment) : a ∈ as ↔
    a.feature ∈ Feature.favourable ∧ IsLast (storedWeights model) a.feature a.weight ∧
      a.weight.lt 0 = true
  once : (as.map (·.feature)).Nodup

theorem mem_adjustments {model : Record} {a : Adjustment} : a ∈ adjustments model ↔
    a.feature ∈ Feature.favourable ∧ IsLast (storedWeights model) a.feature a.weight ∧
      a.weight.lt 0 = true := by
  simp only [adjustments, List.mem_filterMap, Option.map_eq_some_iff, Option.filter_eq_some_iff,
    storedWeight?_eq_some_iff]
  constructor
  · rintro ⟨f, hf, x, ⟨hx, hlt⟩, rfl⟩
    exact ⟨hf, hx, hlt⟩
  · rintro ⟨hf, hx, hlt⟩
    exact ⟨a.feature, hf, a.weight, ⟨hx, hlt⟩, rfl⟩

/-- One adjustment for each feature whose weight is negative, in the order of the features. -/
theorem map_feature_adjustments (model : Record) :
    (adjustments model).map (·.feature) =
      Feature.favourable.filter fun f => (storedWeight? model f).any (·.lt 0) := by
  rw [adjustments, List.map_filterMap, ← List.filterMap_eq_filter]
  congr
  funext f
  cases h : storedWeight? model f with
  | none => simp [Option.guard, h]
  | some x => cases hx : x.lt 0 <;> simp [Option.guard, Option.filter, h, hx]

theorem isTaken_weights (model : Record) :
    IsTaken model (weights model) (adjustments model) where
  last h := by
    show adjusted _ _ = _
    rw [storedWeight?_eq_some_iff.mpr h]
    rfl
  size hf h := by
    show (adjusted _ _).equals _ = true
    rw [storedWeight?_eq_some_iff.mpr h]
    exact adjusted_equals_abs hf (isFinite_of_isLast h)
  missing {f} h := by
    show adjusted _ _ = _
    rw [storedWeight?_eq_none_iff.mpr h]
    refine if_neg ?_
    rintro ⟨-, hlt⟩
    revert hlt
    decide +kernel
  intercept := by
    show (Option.or _ _).getD 0 = _
    rw [List.findSome?_cons, List.findSome?_singleton]
    cases (Record.get (storedWeights model) "intercept").coefficient? <;> rfl
  adjustment _ := mem_adjustments
  once := by
    rw [map_feature_adjustments]
    exact List.Pairwise.filter _ (by decide : Feature.favourable.Nodup)

/-! ### Taking it again -/

theorem numbersFor_toRecord {w : Weights Binary64} (hw : w.IsFinite) (f : Feature) :
    numbersFor w.toRecord f = [w.of f] := by
  have hname (g : Feature) : Feature.ofKey? g.name = some g :=
    Feature.ofKey?_eq_some_iff.mpr (.inl rfl)
  have hnumber (g : Feature) : (Value.real (w.of g)).coefficient? = some (w.of g) :=
    if_pos (hw.of g)
  have hintercept : Feature.ofKey? "intercept" = none := rfl
  simp only [numbersFor, Weights.toRecord, List.filterMap_cons, hintercept, reduceCtorEq,
    ↓reduceIte, List.filterMap_map, Function.comp_def, hname, hnumber, Option.some.injEq]
  cases f <;> rfl

/-- Weights that were taken from a model are taken from one that holds them, without adjustments. -/
theorem weights_of_toRecord {model again : Record}
    (h : again.get "weights" = .record (weights model).toRecord) :
    weights again = weights model ∧ adjustments again = [] := by
  have hfinite := isFinite_weights model
  have hstored : storedWeights again = (weights model).toRecord := by
    rw [storedWeights, h]
    rfl
  have hweight (f : Feature) : storedWeight? again f = some ((weights model).of f) := by
    rw [storedWeight?, hstored, numbersFor_toRecord hfinite]
    rfl
  have hintercept : (Record.get (storedWeights again) "intercept").coefficient? =
      some (weights model).intercept := by
    rw [hstored]
    exact if_pos hfinite.intercept
  constructor
  · have hof : (weights again).of = (weights model).of := by
      funext f
      show adjusted f ((storedWeight? again f).getD 1) = _
      rw [hweight]
      exact adjusted_adjusted f (isFinite_storedWeight model f)
    rw [weights, hintercept]
    exact congrArg (Weights.mk _) hof
  · refine List.filterMap_eq_nil_iff.mpr fun f hf => ?_
    have hlt : ((weights model).of f).lt 0 = false :=
      lt_adjusted hf (isFinite_storedWeight model f)
    rw [hweight, Option.filter_some, hlt]
    rfl

/-! ### When nothing is taken -/

/-- Whether a least accuracy can be told in percent. -/
def Tellable (least : Quantity) : Prop :=
  ∀ i, least = .whole i → (Binary64.ofInt (i * 100)).isFinite = true

theorem tellable_real (x : Binary64) : Tellable (.real x) := fun _ h => nomatch h

/-- A stored model that is turned down for its accuracy. -/
def FallsShort (stored : Value) (least : Quantity) : Prop :=
  ∃ model, stored = .record model ∧ model ≠ [] ∧ fallsShort model least = true

theorem accepted?_eq_some_iff {stored : Value} {least : Quantity} {model : Record} :
    accepted? stored least = some model ↔
      stored = .record model ∧ model ≠ [] ∧ fallsShort model least = false := by
  simp only [accepted?, Option.filter_eq_some_iff, Value.record?_eq_some, Bool.and_eq_true,
    Bool.not_eq_true', List.isEmpty_eq_false_iff]

theorem accepted?_eq_none_iff {stored : Value} {least : Quantity} :
    accepted? stored least = none ↔
      (¬∃ model, stored = .record model ∧ model ≠ []) ∨ FallsShort stored least := by
  rw [Option.eq_none_iff_forall_ne_some]
  simp only [ne_eq, accepted?_eq_some_iff]
  constructor
  · intro h
    refine Classical.or_iff_not_imp_left.mpr fun hmodel => ?_
    obtain ⟨model, hstored, hne⟩ := Classical.not_not.mp hmodel
    refine ⟨model, hstored, hne, ?_⟩
    rw [← Bool.not_eq_false]
    exact fun hshort => h model ⟨hstored, hne, hshort⟩
  · rintro (hno | ⟨model, rfl, hne, hshort⟩) model' ⟨hstored, hne', hshort'⟩
    · exact hno ⟨model', hstored, hne'⟩
    · cases hstored
      cases hshort.symm.trans hshort'

theorem judged_eq_accepted? {stored : Value} {least : Quantity}
    (h : FallsShort stored least → Tellable least) :
    judged stored least = .ok (accepted? stored least) := by
  unfold judged
  split
  case h_2 => rfl
  case h_1 model i hrecord =>
    split
    case isFalse => rfl
    case isTrue hshort =>
      rw [Bool.and_eq_true, Bool.not_eq_true', List.isEmpty_eq_false_iff] at hshort
      have hfalls : FallsShort stored (.whole i) :=
        ⟨model, Value.record?_eq_some.mp hrecord, hshort⟩
      have hmeasure : (Quantity.whole (i * 100)).measure = .ok (.ofInt (i * 100)) :=
        if_pos (h hfalls i rfl)
      rw [hmeasure, accepted?_eq_none_iff.mpr (.inr hfalls)]
      rfl

theorem judged_eq_error {stored : Value} {least : Quantity} (h : FallsShort stored least)
    (hleast : ¬Tellable least) : judged stored least = .error .integerTooLarge := by
  obtain ⟨model, rfl, hne, hshort⟩ := h
  cases least with
  | real x => exact absurd (tellable_real x) hleast
  | whole i =>
    have hlarge : ¬(Binary64.ofInt (i * 100)).isFinite = true := by
      intro hfinite
      refine hleast fun j hj => ?_
      cases hj
      exact hfinite
    have hmeasure : (Quantity.whole (i * 100)).measure = .error .integerTooLarge := if_neg hlarge
    simp only [judged, Value.record?, hshort, hmeasure, Bool.and_true, Bool.not_eq_true',
      List.isEmpty_eq_false_iff, if_pos hne]
    rfl

/-- A stored value is judged for every least accuracy that can be told. Nothing is taken exactly if
it is no model or falls short; and what is taken of a model is the last usable number for each
feature, and is taken again from any model that holds it and reports the same accuracy. -/
theorem weights_of_judged (stored : Value) (least : Quantity) :
    (Returns (judged stored least) ↔ (FallsShort stored least → Tellable least)) ∧
      (judged stored least = .ok none ↔ (¬∃ model, stored = .record model ∧ model ≠ []) ∨
        FallsShort stored least ∧ Tellable least) ∧
      ∀ model, judged stored least = .ok (some model) → stored = .record model ∧
        IsTaken model (weights model) (adjustments model) ∧
        ∀ again : Record, again.get "weights" = .record (weights model).toRecord →
          accuracy again = accuracy model → judged (.record again) least = .ok (some again) ∧
            weights again = weights model ∧ adjustments again = [] := by
  by_cases htold : FallsShort stored least → Tellable least
  case neg =>
    obtain ⟨hshort, hleast⟩ := Classical.not_imp.mp htold
    obtain ⟨model, hmodel, hne, -⟩ := id hshort
    rw [judged_eq_error hshort hleast]
    refine ⟨iff_of_false (fun ⟨_, h, _⟩ => nomatch h) htold, iff_of_false nofun ?_, nofun⟩
    rintro (hno | ⟨-, htell⟩)
    · exact hno ⟨model, hmodel, hne⟩
    · exact hleast htell
  case pos =>
    rw [judged_eq_accepted? htold]
    refine ⟨iff_of_true (.ok trivial) htold, ?_, fun model hmodel => ?_⟩
    · rw [Except.ok.injEq, accepted?_eq_none_iff, and_iff_left_of_imp htold]
    · obtain ⟨rfl, hne, hlong⟩ := accepted?_eq_some_iff.mp (Except.ok.inj hmodel)
      refine ⟨rfl, isTaken_weights model, fun again hweights haccuracy => ?_⟩
      have hlong' : fallsShort again least = false := by rwa [fallsShort, haccuracy]
      have hne' : again ≠ [] := by
        rintro rfl
        cases hweights
      have htold' : FallsShort (.record again) least → Tellable least := by
        rintro ⟨_, heq, -, hshort⟩
        cases heq
        cases hlong'.symm.trans hshort
      refine ⟨?_, weights_of_toRecord hweights⟩
      rw [judged_eq_accepted? htold', accepted?_eq_some_iff.mpr ⟨rfl, hne', hlong'⟩]

/-- A model with both spellings for three features, the later one of them unusable once, and with a
single unusable entry for a fourth. Of two negative weights one loses its sign. -/
theorem weights_of_mixed_entries :
    let model : Record := [("accuracy", .real 0.25),
      ("metrics", .record [("accuracy", .text "0.9")]), ("bias", .whole 2),
      ("weights", .record [("intercept", .text "nan"),
        ("gwa_score", .real 4), ("gwaScore", .real (-0.5)), ("courseMatch", .whole 3),
        ("income_match", .text " 3 "), ("course_match", .real (-2)), ("incomeMatch", .flag true),
        ("citizenshipMatch", .real .nan)])]
    let again : Record :=
      [("accuracy", .real 0.9), ("weights", .record (weights model).toRecord)]
    judged (.record model) (.real 0.55) = .ok (some model) ∧
      IsTaken model (weights model) (adjustments model) ∧
      (weights model).intercept = 2 ∧ (weights model).of .gwaScore = 0.5 ∧
      (weights model).of .courseMatch = -2 ∧ (weights model).of .incomeMatch = 3 ∧
      (weights model).of .citizenshipMatch = 1 ∧ adjustments model = [⟨.gwaScore, -0.5⟩] ∧
      judged (.record again) (.real 0.55) = .ok (some again) ∧
      weights again = weights model ∧ adjustments again = [] := by
  intro model again
  have hmodel : judged (.record model) (.real 0.55) = .ok (some model) := by
    have hlong : fallsShort model (.real 0.55) = false := by decide +kernel
    rw [judged_eq_accepted? fun _ => tellable_real _,
      accepted?_eq_some_iff.mpr ⟨rfl, List.cons_ne_nil _ _, hlong⟩]
  obtain ⟨-, -, htaken⟩ := weights_of_judged (.record model) (.real 0.55)
  obtain ⟨-, hweights, hagain⟩ := htaken model hmodel
  exact ⟨hmodel, hweights, by decide +kernel, by decide +kernel, by decide +kernel,
    by decide +kernel, by decide +kernel, by decide +kernel, hagain again rfl (by decide +kernel)⟩

/-- An integer beyond all numbers as the least accuracy: that a model falls short of it cannot be
told. -/
theorem judged_fails_of_large_integer :
    let stored : Value := .record [("accuracy", .real 0.5)]
    let least : Quantity := .whole (Int.ofNat (Nat.pow 10 400))
    judged stored least = .error .integerTooLarge ∧ ¬Returns (judged stored least) := by
  intro stored least
  have hshort : FallsShort stored least := ⟨_, rfl, List.cons_ne_nil _ _, by decide +kernel⟩
  have hlarge : (Binary64.ofInt (Int.ofNat (Nat.pow 10 400) * 100)).isFinite = false := by
    decide +kernel
  have herror : judged stored least = .error .integerTooLarge :=
    judged_eq_error hshort fun htell => nomatch hlarge.symm.trans (htell _ rfl)
  refine ⟨herror, ?_⟩
  rw [herror]
  exact fun ⟨_, h, _⟩ => nomatch h

end Model

end Bursary
