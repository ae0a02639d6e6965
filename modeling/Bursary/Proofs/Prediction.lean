import Mathlib.Algebra.Order.Field.Rat
import Mathlib.Tactic.NormNum
import Bursary.Model.Provider
import Bursary.Proofs.Binary64.Logistic
import Bursary.Proofs.Binary64.Monotone
import Bursary.Proofs.Outcome

/-! A prediction's probability is a number. Features are proportions and the weights that a
provider gives are finite, so the linear score may overflow but is no NaN, and neither is the
probability that comes of it. Hence predictions can be compared. -/

namespace Bursary

attribute [local irreducible] Binary64.unitsPerOne Binary64.unitLimit

/-! ### Weights -/

theorem Value.isFinite_of_numberBy {clean : String → String} {v : Value} {x : Binary64}
    (h : v.numberBy clean = some x) : x.isFinite = true := by
  have hfinite {y : Binary64} (hy : Value.finite? y = some x) : x.isFinite = true := by
    unfold Value.finite? at hy
    split at hy
    · cases hy
      assumption
    · cases hy
  cases v with
  | whole i => exact hfinite h
  | real y => exact hfinite h
  | text s =>
    obtain ⟨n, -, hn⟩ := Option.bind_eq_some_iff.mp h
    exact hfinite hn
  | null => cases h
  | flag b => cases h
  | list vs => cases h
  | record es => cases h
  | keyed es => cases h
  | form kind es => cases h

namespace Weights

/-- Weights none of which is infinite or a NaN. -/
structure IsFinite (w : Weights Binary64) : Prop where
  intercept : w.intercept.isFinite = true
  of (f : Feature) : (w.of f).isFinite = true

theorem isFinite_neutral : (neutral : Weights Binary64).IsFinite where
  intercept := by decide +kernel
  of _ := Binary64.isFinite_one

end Weights

namespace Model

theorem isFinite_of_mem_numbersFor {stored : Record} {f : Feature} {x : Binary64}
    (h : x ∈ numbersFor stored f) : x.isFinite = true := by
  obtain ⟨⟨key, v⟩, -, hv⟩ := List.mem_filterMap.mp h
  dsimp only at hv
  split at hv
  · exact Value.isFinite_of_numberBy hv
  · cases hv

theorem isFinite_adjusted (f : Feature) {w : Binary64} (h : w.isFinite = true) :
    (adjusted f w).isFinite = true := by
  unfold adjusted
  split
  · obtain ⟨s, u, fits, rfl⟩ := Binary64.isFinite_iff.mp h
    rfl
  · exact h

/-- What is stored for a feature, or the weight that it has without, is finite. -/
theorem isFinite_storedWeight (model : Record) (f : Feature) :
    ((storedWeight? model f).getD 1).isFinite = true := by
  cases h : storedWeight? model f with
  | none => exact Binary64.isFinite_one
  | some x => exact isFinite_of_mem_numbersFor (List.mem_of_getLast? h)

/-- The weights of a model are finite, whatever the model holds. -/
theorem isFinite_weights (model : Record) : (weights model).IsFinite where
  intercept := by
    show (Option.getD _ (0 : Binary64)).isFinite = true
    cases h : ((Record.get (storedWeights model) "intercept").coefficient?.or
      (model.get "bias").coefficient?) with
    | none => exact Binary64.isFinite_zero
    | some x =>
      rcases Option.or_eq_some_iff.mp h with h | ⟨-, h⟩
      · exact Value.isFinite_of_numberBy h
      · exact Value.isFinite_of_numberBy h
  of f := isFinite_adjusted f (isFinite_storedWeight model f)

end Model

theorem ResolvedWeights.isFinite_fallback : fallback.weights.IsFinite := Weights.isFinite_neutral

/-- What comes from the store has finite weights. -/
theorem Provider.isFinite_of_settle {settings : Settings} {fetched : Fetched} {r : ResolvedWeights}
    (h : settle settings fetched = .ok r) : r.weights.IsFinite := by
  unfold settle at h
  split at h
  · split at h
    · simp only [ResolvedWeights.ofModel, bind_eq_ok, pure_eq_ok] at h
      obtain ⟨modelId, -, rfl⟩ := h
      exact Model.isFinite_weights _
    · cases h
      exact ResolvedWeights.isFinite_fallback
  all_goals
    cases h
    exact ResolvedWeights.isFinite_fallback

/-! ### Features -/

theorem Student.isFinite_worstGwa : worstGwa.isFinite = true := by decide +kernel

namespace Features

open Arithmetic Binary64

theorem isProportion_binary (outcome : Option Bool) :
    (binary outcome : Binary64).IsProportion := by
  rcases outcome with _ | _ | _ <;> exact isProportion_const (by norm_num) (by norm_num)

theorem isProportion_graded (outcome : Option Bool) :
    (graded outcome : Binary64).IsProportion := by
  rcases outcome with _ | _ | _ <;> exact isProportion_const (by norm_num) (by norm_num)

/-- What holds of a table's scores, and of the one beside it, holds of what is looked up. -/
theorem of_lookup {P : Rat → Prop} {scores : List (String × Rat)} (hall : ∀ e ∈ scores, P e.2)
    (key : String) {default : Rat} (h : P default) : P ((scores.lookup key).getD default) := by
  cases hfound : scores.lookup key with
  | none => exact h
  | some score =>
    obtain ⟨before, after, hl, -⟩ := List.lookup_eq_some_iff.mp hfound
    exact hall (key, score) (by rw [hl]; simp)

/-- What is looked up in a table of proportions is a proportion. -/
theorem isProportion_lookup {scores : List (String × Rat)} (hall : ∀ e ∈ scores, 0 ≤ e.2 ∧ e.2 ≤ 1)
    (key : String) {default : Rat} (h : 0 ≤ default) (h' : default ≤ 1) :
    (const ((scores.lookup key).getD default) : Binary64).IsProportion := by
  obtain ⟨hlow, hhigh⟩ := of_lookup (P := fun q => 0 ≤ q ∧ q ≤ 1) hall key ⟨h, h'⟩
  exact isProportion_const hlow hhigh

theorem isProportion_gradedBracket (s : Student) (outcome : Option Bool) :
    (gradedBracket s outcome : Binary64).IsProportion := by
  unfold gradedBracket
  split
  · exact isProportion_lookup (by norm_num [bracketScores]) _ (by norm_num) (by norm_num)
  · exact isProportion_graded _

theorem isProportion_flagged {b : Bool} {q : Rat} (h : 0 ≤ q) (h' : q ≤ 1) :
    (const (if b then 1 else q) : Binary64).IsProportion := by
  cases b
  · exact isProportion_const h h'
  · exact isProportion_one

theorem isProportion_of (convention : Convention) (s : Student) (c : Criteria) (f : Feature) :
    (Features.of convention s c f : Binary64).IsProportion := by
  have htiming : (const 0.9 : Binary64).IsProportion := isProportion_const (by norm_num) (by norm_num)
  cases convention with
  | binary =>
    cases f with
    | gwaScore => exact isProportion_clamp _
    | documentCompleteness => exact isProportion_flagged (by norm_num) (by norm_num)
    | applicationTiming => exact htiming
    | eligibilityScore => exact isProportion_clamp _
    | _ => exact isProportion_binary _
  | graded =>
    cases f with
    | gwaScore => exact isProportion_clamp _
    | incomeMatch => exact isProportion_clamp _
    | stBracketMatch => exact isProportion_gradedBracket s _
    | documentCompleteness => exact isProportion_flagged (by norm_num) (by norm_num)
    | applicationTiming => exact htiming
    | eligibilityScore => exact isProportion_clamp _
    | _ => exact isProportion_graded _

end Features

/-! ### Scores -/

theorem Weights.linearScore_ne_nan {w : Weights Binary64} (hw : w.IsFinite)
    {x : Feature → Binary64} (hx : ∀ f, (x f).IsProportion) : w.linearScore x ≠ .nan := by
  refine Binary64.add_ne_nan (Binary64.ne_nan_of_isFinite hw.intercept)
    (Binary64.sum_ne_nan fun y hy => ?_) (.inl hw.intercept)
  obtain ⟨f, -, rfl⟩ := List.mem_map.mp hy
  exact Binary64.isFinite_mul (hw.of f) (hx f)

namespace Prediction

theorem isProportion_margin : margin.IsProportion :=
  Binary64.isProportion_const (q := 1e-9) (by norm_num) (by norm_num)

theorem isProportion_one_sub_margin : (1 - margin).IsProportion :=
  Binary64.isProportion_one_sub isProportion_margin

/-- A number that is kept away from zero and one by the margin. -/
def heldBack (raw : Binary64) : Binary64 :=
  let raised := if raw.lt margin then margin else raw
  if (1 - margin).lt raised then 1 - margin else raised

theorem heldBack_ne_nan {raw : Binary64} (h : raw ≠ .nan) : heldBack raw ≠ .nan := by
  have hraised : (if raw.lt margin then margin else raw) ≠ .nan := by
    split
    · exact isProportion_margin.ne_nan
    · exact h
  unfold heldBack
  dsimp only
  generalize (if raw.lt margin then margin else raw) = raised at hraised ⊢
  split
  · exact isProportion_one_sub_margin.ne_nan
  · exact hraised

theorem probabilityOf_ne_nan {score : Binary64} (h : score ≠ .nan) : probabilityOf score ≠ .nan :=
  heldBack_ne_nan (Binary64.logistic_ne_nan h)

/-- The probability of a prediction by finite weights is no NaN. -/
theorem probability_ne_nan (s : Student) (c : Criteria) {w : Weights Binary64} (hw : w.IsFinite)
    (trained : Bool) (source : Source) (convention : Convention) :
    (Prediction.of s c w trained source convention).probability ≠ .nan :=
  probabilityOf_ne_nan (w.linearScore_ne_nan hw (Features.isProportion_of convention s c))

end Prediction

end Bursary
