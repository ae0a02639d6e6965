import Bursary.Model.Ranking
import Bursary.Proofs.Factor.Decomposition
import Bursary.Proofs.StableSort

/-! The features of a model by importance. Exactly computed, the importances divide the size of all
weights among the ten features: a feature has its share, the larger share comes first, and features
with equal shares stay as they are declared. The intercept has no share. Since only shares are
compared, the unit in which weights are measured has no say either: weights that are all multiplied
by one positive number are ranked alike. -/

namespace Bursary

/-- The place of a feature in the order of declaration. -/
def Feature.place (f : Feature) : Nat := all.idxOf f

/-- The more important feature comes first, and of two that are equal the one declared first. -/
def RankedFeature.Precedes (f g : RankedFeature Rat) : Prop :=
  g.importance < f.importance ∨ f.importance = g.importance ∧ f.feature.place < g.feature.place

instance (f g : RankedFeature Rat) : Decidable (f.Precedes g) :=
  inferInstanceAs (Decidable (_ ∨ _))

theorem RankedFeature.Precedes.asymm {f g : RankedFeature Rat} (h : f.Precedes g) :
    ¬g.Precedes f := by
  rintro (hlt' | ⟨heq', hplace'⟩)
  · rcases h with hlt | ⟨heq, -⟩
    · exact lt_asymm hlt hlt'
    · exact ne_of_lt hlt' heq
  · rcases h with hlt | ⟨-, hplace⟩
    · exact ne_of_lt hlt heq'
    · exact lt_asymm hplace hplace'

namespace Weights

open Factor (size share)

/-! ### Shares -/

/-- The sizes of the weights of all features. -/
theorem totalSize_eq (w : Weights Rat) : w.totalSize = size (Feature.all.map w.of) := by
  rw [totalSize, Factor.sum_eq, size, List.map_map]
  simp only [Factor.abs_eq]
  rfl

theorem importance_eq (w : Weights Rat) (f : Feature) :
    (w.rankedFeature f).importance = |share (w.of f) (size (Feature.all.map w.of))| := by
  have hshare : (w.rankedFeature f).importance = share (Arithmetic.abs (w.of f)) w.totalSize := rfl
  rw [hshare, Factor.abs_eq, totalSize_eq, Factor.share_eq, Factor.share_eq]
  split
  case isTrue hpos => rw [abs_div, abs_of_pos hpos]
  case isFalse => rw [abs_zero]

theorem abs_of_le_size (w : Weights Rat) (f : Feature) :
    |w.of f| ≤ size (Feature.all.map w.of) :=
  Factor.abs_le_size (List.mem_map_of_mem (Feature.mem_all f))

/-- A feature has its share of all sizes, also if there is nothing to be shared. -/
theorem importance_mul_size (w : Weights Rat) (f : Feature) :
    (w.rankedFeature f).importance * size (Feature.all.map w.of) = |w.of f| := by
  have hle := w.abs_of_le_size f
  rw [importance_eq, Factor.share_eq]
  split
  case isTrue hpos => rw [abs_div, abs_of_pos hpos, div_mul_cancel₀ _ (ne_of_gt hpos)]
  case isFalse hpos =>
    rw [abs_zero, zero_mul]
    exact le_antisymm (abs_nonneg _) (hle.trans (not_lt.mp hpos))

/-- Importances add up to one as soon as one feature has a weight. -/
theorem sum_importance (w : Weights Rat) {f : Feature} (hf : w.of f ≠ 0) :
    (Feature.all.map fun g => (w.rankedFeature g).importance).sum = 1 := by
  have hpos := Factor.size_pos (List.mem_map_of_mem (f := w.of) (Feature.mem_all f)) hf
  simp only [importance_eq]
  rw [← Factor.size_shares hpos, size, List.map_map, List.map_map]
  rfl

theorem importance_le_one (w : Weights Rat) (f : Feature) :
    (w.rankedFeature f).importance ≤ 1 := by
  have hle := w.abs_of_le_size f
  rw [importance_eq, Factor.share_eq]
  split
  case isTrue hpos => rwa [abs_div, abs_of_pos hpos, div_le_one hpos]
  case isFalse => rw [abs_zero]; exact zero_le_one

/-! ### The ranking -/

theorem ranking_perm (w : Weights Rat) : w.ranking.Perm (Feature.all.map w.rankedFeature) :=
  List.mergeSort_perm _ _

theorem eq_of_mem_ranking {w : Weights Rat} {f : RankedFeature Rat} (hf : f ∈ w.ranking) :
    f = w.rankedFeature f.feature := by
  obtain ⟨g, -, rfl⟩ := List.mem_map.mp (w.ranking_perm.mem_iff.mp hf)
  rfl

/-- Features of one importance stay in the order of declaration. -/
theorem pairwise_ranking (w : Weights Rat) : w.ranking.Pairwise RankedFeature.Precedes := by
  have hplaces : (Feature.all.map w.rankedFeature).Pairwise
      fun f g => f.feature.place < g.feature.place := by
    apply List.pairwise_map.mpr
    show Feature.all.Pairwise fun f g => f.place < g.place
    decide
  have htrans (f g h : RankedFeature Rat) (hfg : decide (g.importance ≤ f.importance) = true)
      (hgh : decide (h.importance ≤ g.importance) = true) :
      decide (h.importance ≤ f.importance) = true := by
    rw [decide_eq_true_eq] at hfg hgh ⊢
    exact hgh.trans hfg
  have htotal (f g : RankedFeature Rat) :
      (decide (g.importance ≤ f.importance) || decide (f.importance ≤ g.importance)) = true := by
    rw [Bool.or_eq_true, decide_eq_true_eq, decide_eq_true_eq]
    exact le_total g.importance f.importance
  have hsorted := StableSort.pairwise_mergeSort_ties htrans htotal hplaces
  apply hsorted.imp
  intro f g hfg
  simp only [decide_eq_true_eq] at hfg
  rcases lt_or_eq_of_le hfg.1 with hlt | heq
  · exact .inl hlt
  · exact .inr ⟨heq.symm, hfg.2 heq.symm.le⟩

/-- Only the ranking has all features in their order. -/
theorem ranking_eq_of_pairwise {w : Weights Rat} {fs : List Feature} (hperm : fs.Perm Feature.all)
    (hfs : (fs.map w.rankedFeature).Pairwise RankedFeature.Precedes) :
    w.ranking = fs.map w.rankedFeature :=
  List.Perm.eq_of_pairwise (fun _ _ _ _ h h' => absurd h' h.asymm) w.pairwise_ranking hfs
    (w.ranking_perm.trans (hperm.map _).symm)

/-- A list of features that divides the weight of a model among them, the largest part first. -/
structure IsPartition (w : Weights Rat) (fs : List (RankedFeature Rat)) : Prop where
  length : fs.length = 10
  once : ∀ f : Feature, (fs.map (·.feature)).count f = 1
  weight : ∀ f ∈ fs, f.weight = w.of f.feature
  direction : ∀ f ∈ fs, f.direction = if 0 ≤ f.weight then "positive" else "negative"
  share : ∀ f ∈ fs, f.importance * (fs.map fun g => |g.weight|).sum = |f.weight|
  ordered : fs.Pairwise RankedFeature.Precedes
  heavier : fs.Pairwise fun f g => |g.weight| ≤ |f.weight|
  bounds : ∀ f ∈ fs, 0 ≤ f.importance ∧ f.importance ≤ 1
  whole : (∃ f, w.of f ≠ 0) → (fs.map (·.importance)).sum = 1
  nothing : (∀ f, w.of f = 0) → ∀ f ∈ fs, f.importance = 0

theorem isPartition_ranking (w : Weights Rat) : w.IsPartition w.ranking := by
  have hsize : (w.ranking.map fun f => |f.weight|).sum = size (Feature.all.map w.of) := by
    rw [(w.ranking_perm.map fun f => |f.weight|).sum_eq, size, List.map_map, List.map_map]
    rfl
  have hshare {f : RankedFeature Rat} (hf : f ∈ w.ranking) :
      f.importance * size (Feature.all.map w.of) = |f.weight| := by
    rw [eq_of_mem_ranking hf]
    exact w.importance_mul_size f.feature
  refine {
    length := w.ranking_perm.length_eq
    once := fun f => ?_
    weight := fun f hf => by rw [eq_of_mem_ranking hf]; rfl
    direction := fun f hf => ?_
    share := fun f hf => hsize ▸ hshare hf
    ordered := w.pairwise_ranking
    heavier := ?_
    bounds := fun f hf => ?_
    whole := ?_
    nothing := fun h f hf => ?_ }
  · rw [(w.ranking_perm.map (·.feature)).count_eq, List.map_map]
    show Feature.all.count f = 1
    cases f <;> decide
  · rw [eq_of_mem_ranking hf]
    show (if decide (0 ≤ w.of f.feature) = true then "positive" else "negative") = _
    simp only [decide_eq_true_eq]
    rfl
  · apply w.pairwise_ranking.imp_of_mem
    intro f g hf hg hfg
    have hle : g.importance ≤ f.importance := by
      rcases hfg with hlt | ⟨heq, -⟩
      · exact hlt.le
      · exact heq.symm.le
    have hnonneg : 0 ≤ size (Feature.all.map w.of) :=
      (abs_nonneg _).trans (w.abs_of_le_size f.feature)
    rw [← hshare hf, ← hshare hg]
    exact mul_le_mul_of_nonneg_right hle hnonneg
  · rw [eq_of_mem_ranking hf]
    refine ⟨?_, w.importance_le_one f.feature⟩
    rw [importance_eq]
    exact abs_nonneg _
  · rintro ⟨f, hf⟩
    rw [(w.ranking_perm.map (·.importance)).sum_eq, List.map_map]
    exact w.sum_importance hf
  · rw [eq_of_mem_ranking hf, importance_eq, h, Factor.share_eq, zero_div, ite_self, abs_zero]

end Weights

/-! ### Multiples -/

/-- All weights multiplied by one number. -/
def Weights.scaled (k : Rat) (w : Weights Rat) : Weights Rat :=
  ⟨k * w.intercept, fun f => k * w.of f⟩

/-- The same feature at the same rank, its weight multiplied by a number. -/
def RankedFeature.scaled (k : Rat) (f : RankedFeature Rat) : RankedFeature Rat :=
  { f with weight := k * f.weight }

namespace Weights

open Factor (size share)

variable {k : Rat} (hk : 0 < k)

include hk

theorem size_scaled (qs : List Rat) : size (qs.map (k * ·)) = k * size qs := by
  have habs : (fun q => |k * q|) = fun q => k * |q| := by
    funext q
    rw [abs_mul, abs_of_pos hk]
  calc size (qs.map (k * ·)) = (qs.map fun q => k * |q|).sum := by
        rw [size, List.map_map, ← habs]
        rfl
    _ = k * size qs := List.sum_map_mul_left qs _ _

theorem share_scaled (q total : Rat) : share (k * q) (k * total) = share q total := by
  rw [Factor.share_eq, Factor.share_eq, mul_div_mul_left _ _ (ne_of_gt hk)]
  simp only [mul_pos_iff_of_pos_left hk]

theorem rankedFeature_scaled (w : Weights Rat) (f : Feature) :
    (w.scaled k).rankedFeature f = (w.rankedFeature f).scaled k := by
  have himportance : ((w.scaled k).rankedFeature f).importance =
      (w.rankedFeature f).importance := by
    have hmap : Feature.all.map (w.scaled k).of = (Feature.all.map w.of).map (k * ·) := by
      rw [List.map_map]
      rfl
    rw [importance_eq, importance_eq, hmap, size_scaled hk]
    exact congrArg _ (share_scaled hk _ _)
  have hsign : decide (0 ≤ k * w.of f) = decide (0 ≤ w.of f) := by
    simp only [mul_nonneg_iff_of_pos_left hk]
  unfold RankedFeature.scaled
  rw [← himportance]
  simp only [rankedFeature, scaled, RankedFeature.mk.injEq, true_and]
  exact hsign

theorem ranking_scaled (w : Weights Rat) :
    (w.scaled k).ranking = w.ranking.map (RankedFeature.scaled k) := by
  have hmap : Feature.all.map (w.scaled k).rankedFeature =
      (Feature.all.map w.rankedFeature).map (RankedFeature.scaled k) := by
    rw [List.map_map]
    exact List.map_congr_left fun f _ => rankedFeature_scaled hk w f
  rw [ranking, ranking, hmap]
  exact (List.map_mergeSort (f := RankedFeature.scaled k) fun f _ g _ => rfl).symm

omit hk

/-- The features of any model, exactly computed, divide its weight among them. The ranking does not
look at the intercept, and of weights that are multiplied by a positive number it shows only the
weights themselves multiplied. -/
theorem partition_of_weight (w : Weights Rat) :
    w.IsPartition w.ranking ∧ (∀ b, { w with intercept := b }.ranking = w.ranking) ∧
      ∀ k, 0 < k → (w.scaled k).ranking = w.ranking.map (RankedFeature.scaled k) :=
  ⟨w.isPartition_ranking, fun _ => rfl, fun _ hk => ranking_scaled hk w⟩

/-- Two features that weigh the same in opposite directions, one that weighs three times as much,
and seven without a weight, in other units of a third. -/
theorem partition_of_mixed_weights :
    let w : Weights Rat := ⟨7, fun f => match f with
      | .gwaScore => -1
      | .collegeMatch => 1
      | .applicationTiming => 3
      | _ => 0⟩
    (0 : Rat) < 1 / 3 ∧ w.IsPartition w.ranking ∧
      w.ranking.map (fun f => (f.feature, f.importance, f.direction)) = [
        (.applicationTiming, 3 / 5, "positive"), (.gwaScore, 1 / 5, "negative"),
        (.collegeMatch, 1 / 5, "positive"), (.yearLevelMatch, 0, "positive"),
        (.incomeMatch, 0, "positive"), (.stBracketMatch, 0, "positive"),
        (.courseMatch, 0, "positive"), (.citizenshipMatch, 0, "positive"),
        (.documentCompleteness, 0, "positive"), (.eligibilityScore, 0, "positive")] ∧
      (w.scaled (1 / 3)).ranking = w.ranking.map (RankedFeature.scaled (1 / 3)) := by
  intro w
  have hthird : (0 : Rat) < 1 / 3 := by decide +kernel
  obtain ⟨hpartition, -, hscaled⟩ := partition_of_weight w
  have hranking : w.ranking = List.map w.rankedFeature [.applicationTiming, .gwaScore,
      .collegeMatch, .yearLevelMatch, .incomeMatch, .stBracketMatch, .courseMatch,
      .citizenshipMatch, .documentCompleteness, .eligibilityScore] :=
    ranking_eq_of_pairwise (by decide) (by decide +kernel)
  refine ⟨hthird, hpartition, ?_, hscaled (1 / 3) hthird⟩
  rw [hranking]
  decide +kernel

end Weights

end Bursary
