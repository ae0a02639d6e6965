import Mathlib.Logic.Relation
import Bursary.Proofs.Rounding
import Bursary.Proofs.Verdict

/-! How checks add up to a verdict. It passes if no required check failed, and its score is the
percentage of checks that passed, rounded once; computed with a rounded quotient the score is the
same for lists of up to `2 ^ 45` checks. Both depend on how many checks there are of each sort, so
the order of the checks does not count. A check that turns from failed to passed can only raise the
score and leave fewer that block; one that is not required never blocks, whatever becomes of it. -/

namespace Bursary

attribute [local irreducible] Binary64.unitsPerOne Binary64.unitLimit

/-! ### Changes to a list of checks -/

namespace Check

/-- One check is replaced by one that passed. -/
inductive Turns : List Check → List Check → Prop
  | pass (front back : List Check) {k k' : Check} (h : k'.passed = true) :
    Turns (front ++ k :: back) (front ++ k' :: back)

/-- One check that is not required is added, taken away or replaced by another. -/
inductive Edits : List Check → List Check → Prop
  | add (front back : List Check) {k : Check} (h : k.importance ≠ .required) :
    Edits (front ++ back) (front ++ k :: back)
  | remove (front back : List Check) {k : Check} (h : k.importance ≠ .required) :
    Edits (front ++ k :: back) (front ++ back)
  | replace (front back : List Check) {k k' : Check} (h : k.importance ≠ .required)
    (h' : k'.importance ≠ .required) : Edits (front ++ k :: back) (front ++ k' :: back)

theorem blocks_of_passed {k : Check} (h : k.passed = true) : k.blocks = false := by
  simp [blocks, h]

theorem blocks_of_not_required {k : Check} (h : k.importance ≠ .required) : k.blocks = false := by
  simp [blocks, h]

variable {ks ks' : List Check}

theorem Turns.length_eq (h : Turns ks ks') : ks'.length = ks.length := by
  cases h
  simp

theorem Turns.passedCount_le (h : Turns ks ks') :
    ks.countP (·.passed) ≤ ks'.countP (·.passed) := by
  obtain ⟨front, back, hk'⟩ := h
  simp only [List.countP_append, List.countP_cons, hk', if_true]
  split <;> omega

theorem Turns.any_blocks (h : Turns ks ks') (hks : ks.any (·.blocks) = false) :
    ks'.any (·.blocks) = false := by
  obtain ⟨front, back, hk'⟩ := h
  simp only [List.any_append, List.any_cons, Bool.or_eq_false_iff] at hks ⊢
  exact ⟨hks.1, blocks_of_passed hk', hks.2.2⟩

theorem Edits.filter_blocks (h : Edits ks ks') : ks'.filter (·.blocks) = ks.filter (·.blocks) := by
  cases h with
  | add front back h => simp [blocks_of_not_required h]
  | remove front back h => simp [blocks_of_not_required h]
  | replace front back h h' => simp [blocks_of_not_required h, blocks_of_not_required h']

end Check

/-! ### Percentages -/

namespace Verdict

variable {part part' total : Nat}

theorem percentage_le (h : part ≤ total) : percentage part total ≤ 100 := by
  unfold percentage
  split
  · exact Nat.le_refl 100
  · have hpos : 0 < total := by omega
    have := roundDiv_mono hpos hpos (Nat.mul_le_mul_right total (Nat.mul_le_mul_left 100 h))
    rwa [roundDiv_mul_right 100 hpos] at this

theorem percentage_mono (h : part ≤ part') : percentage part total ≤ percentage part' total := by
  unfold percentage
  split
  · exact Nat.le_refl 100
  · have hpos : 0 < total := by omega
    exact roundDiv_mono hpos hpos (Nat.mul_le_mul_right total (Nat.mul_le_mul_left 100 h))

theorem isRounding_percentage (part : Nat) (h : 0 < total) :
    IsRounding (100 * part / total) (percentage part total) := by
  rw [percentage, if_neg (by omega)]
  have := isRounding_roundDiv (100 * part) h
  push_cast at this
  exact this

/-- The percentage as it is computed: the quotient is rounded to a binary64 number first. -/
theorem percentage_eq_roundToInt (h : 0 < total) (hfew : total ≤ 2 ^ 45) (hle : part ≤ total) :
    (percentage part total : Int) = (Binary64.ofFraction false (100 * part) total).roundToInt := by
  rw [percentage, if_neg (by omega),
    Binary64.roundToInt_ofFraction h hfew (Nat.mul_le_mul_left 100 hle)]

/-! ### Laws -/

/-- What a verdict says of its checks. -/
structure Summarizes (v : Verdict) (ks : List Check) : Prop where
  checks : v.checks = ks
  passed_iff : v.passed = true ↔ v.failedRequired = []
  /-- In the order of the checks. -/
  failedRequired : v.failedRequired = ks.filter fun k => k.importance = .required ∧ k.passed = false
  total : v.total = ks.length
  passedCount : v.passedCount = ks.countP (·.passed)
  failedCount : v.failedCount = ks.countP (!·.passed)
  split : v.total = v.passedCount + v.failedCount
  empty : ks = [] → v.score = 100
  score : ks ≠ [] → IsRounding (100 * v.passedCount / v.total) v.score
  computed : ks ≠ [] → ks.length ≤ 2 ^ 45 →
    (v.score : Int) = (Binary64.ofFraction false (100 * v.passedCount) v.total).roundToInt
  bounded : v.score ≤ 100

theorem summarizes_ofChecks (ks : List Check) : (ofChecks ks).Summarizes ks where
  checks := rfl
  passed_iff := List.isEmpty_iff
  failedRequired := List.filter_congr fun k _ => by simp [Check.blocks]
  total := rfl
  passedCount := rfl
  failedCount := by
    have hsplit := ks.length_eq_countP_add_countP (·.passed)
    simp only [Bool.not_eq_true, Bool.decide_eq_false] at hsplit
    simp only [ofChecks]
    omega
  split := by
    have : ks.countP (·.passed) ≤ ks.length := List.countP_le_length
    simp only [ofChecks]
    omega
  empty h := by
    subst h
    rfl
  score h := isRounding_percentage _ (List.length_pos_iff.mpr h)
  computed h hfew := percentage_eq_roundToInt (List.length_pos_iff.mpr h) hfew List.countP_le_length
  bounded := percentage_le List.countP_le_length

section Changes

variable {ks ks' : List Check}

theorem ofChecks_of_perm (h : ks.Perm ks') :
    (ofChecks ks').passed = (ofChecks ks).passed ∧ (ofChecks ks').score = (ofChecks ks).score := by
  refine ⟨?_, ?_⟩
  · rw [passed_ofChecks, passed_ofChecks, h.any_eq]
  · simp only [ofChecks]
    rw [h.countP_eq, h.length_eq]

/-- Verdicts that come one after the other do not get worse. -/
def Rises (v v' : Verdict) : Prop := v.score ≤ v'.score ∧ (v.passed = true → v'.passed = true)

theorem rises_of_turns (h : Check.Turns ks ks') : (ofChecks ks).Rises (ofChecks ks') := by
  refine ⟨?_, fun hpassed => ?_⟩
  · simp only [ofChecks]
    rw [h.length_eq]
    exact percentage_mono h.passedCount_le
  · rw [passed_ofChecks, Bool.not_eq_true'] at hpassed ⊢
    exact h.any_blocks hpassed

theorem rises_of_many_turns (h : Relation.ReflTransGen Check.Turns ks ks') :
    (ofChecks ks).Rises (ofChecks ks') := by
  induction h with
  | refl => exact ⟨Nat.le_refl _, id⟩
  | tail _ hstep ih =>
    obtain ⟨hscore, hpassed⟩ := rises_of_turns hstep
    exact ⟨Nat.le_trans ih.1 hscore, fun h => hpassed (ih.2 h)⟩

theorem failedRequired_of_edits (h : Relation.ReflTransGen Check.Edits ks ks') :
    (ofChecks ks').failedRequired = (ofChecks ks).failedRequired := by
  induction h with
  | refl => rfl
  | tail _ hstep ih => exact hstep.filter_blocks.trans ih

/-- Whether a verdict passes is told by the required checks that failed. -/
theorem passed_of_edits (h : Relation.ReflTransGen Check.Edits ks ks') :
    (ofChecks ks').passed = (ofChecks ks).passed :=
  congrArg List.isEmpty (failedRequired_of_edits h)

end Changes

/-- The laws of aggregation, for the verdict over a list of checks. -/
structure Laws (ks : List Check) : Prop where
  summary : (ofChecks ks).Summarizes ks
  perm (ks' : List Check) : ks.Perm ks' →
    (ofChecks ks').passed = (ofChecks ks).passed ∧ (ofChecks ks').score = (ofChecks ks).score
  turns (ks' : List Check) : Relation.ReflTransGen Check.Turns ks ks' →
    (ofChecks ks).Rises (ofChecks ks')
  edits (ks' : List Check) : Relation.ReflTransGen Check.Edits ks ks' →
    (ofChecks ks').passed = (ofChecks ks).passed ∧
      (ofChecks ks').failedRequired = (ofChecks ks).failedRequired

theorem laws_of_aggregation (ks : List Check) : Laws ks where
  summary := summarizes_ofChecks ks
  perm _ := ofChecks_of_perm
  turns _ := rises_of_many_turns
  edits _ h := ⟨passed_of_edits h, failedRequired_of_edits h⟩

end Verdict

end Bursary
