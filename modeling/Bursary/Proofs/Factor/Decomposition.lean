import Mathlib.Algebra.BigOperators.Ring.List
import Mathlib.Algebra.Order.BigOperators.Group.List
import Mathlib.Algebra.Order.Field.Basic
import Mathlib.Algebra.Order.Field.Rat
import Bursary.Prediction.Factor
import Bursary.Proofs.Descending

/-! The factors take a prediction apart. Every aspect has one factor, which weighs its value by the
weight of its own feature. Exactly computed, the factors that weigh most come first and those that
weigh the same stay as they are declared; each contributes its share of what all of them weigh
together, so that the sizes of the shares make up the whole, unless nothing weighs anything. -/

namespace Bursary

open Arithmetic

/-- What the factors are called in the order of their declaration, each with the feature whose
weight is its own. -/
def Aspect.names : List (String × String) := [
  ("Overall Eligibility", "eligibility_score"),
  ("College", "college_match"),
  ("Financial Need", "income_match"),
  ("Citizenship", "citizenship_match"),
  ("Academic Performance (GWA)", "gwa_score"),
  ("Year Level", "year_level_match"),
  ("Course/Major", "course_match"),
  ("ST Bracket", "st_bracket_match"),
  ("Profile Completeness", "document_completeness")]

/-- The place of an aspect in that order. -/
def Aspect.place (a : Aspect) : Nat := all.idxOf a

namespace Factor

/-! ### One factor for each aspect -/

section Generic

variable {α : Type} [Arithmetic α] {s : Student} {c : Criteria} {w : Weights α}

theorem ranked_perm (s : Student) (c : Criteria) (w : Weights α) :
    (ranked s c w).Perm (Aspect.all.map (of s c w)) :=
  Sorting.descending_perm _ _

theorem mem_ranked (s : Student) (c : Criteria) (w : Weights α) (a : Aspect) :
    of s c w a ∈ ranked s c w :=
  (ranked_perm s c w).mem_iff.mpr (List.mem_map_of_mem (Aspect.mem_all a))

theorem eq_of_mem_ranked {f : Factor α} (hf : f ∈ ranked s c w) : f = of s c w f.aspect := by
  obtain ⟨a, -, rfl⟩ := List.mem_map.mp ((ranked_perm s c w).mem_iff.mp hf)
  rfl

theorem map_names_ranked (s : Student) (c : Criteria) (w : Weights α) :
    ((ranked s c w).map fun f => (f.aspect.title, f.aspect.feature.name)).Perm Aspect.names :=
  (ranked_perm s c w).map _

end Generic

/-! ### Exact shares -/

theorem abs_eq (q : Rat) : Arithmetic.abs q = |q| := by
  show (if q < 0 then -q else q) = |q|
  split
  case isTrue h => exact (abs_of_neg h).symm
  case isFalse h => exact (abs_of_nonneg (not_lt.mp h)).symm

theorem sum_eq (qs : List Rat) : Arithmetic.sum qs = qs.sum := List.sum_eq_foldl.symm

/-- What a list of numbers weighs together, whatever their signs. -/
def size (qs : List Rat) : Rat := (qs.map fun q => |q|).sum

theorem abs_le_size {q : Rat} {qs : List Rat} (h : q ∈ qs) : |q| ≤ size qs := by
  refine List.single_le_sum (fun x hx => ?_) _ (List.mem_map_of_mem h)
  obtain ⟨p, -, rfl⟩ := List.mem_map.mp hx
  exact abs_nonneg p

/-- Numbers that are not all zero weigh something. -/
theorem size_pos {q : Rat} {qs : List Rat} (h : q ∈ qs) (hq : q ≠ 0) : 0 < size qs :=
  lt_of_lt_of_le (abs_pos.mpr hq) (abs_le_size h)

theorem share_eq (q total : Rat) : share q total = if 0 < total then q / total else 0 := by
  show (if decide (0 < total) = true then q / total else 0) = _
  simp only [decide_eq_true_eq]

/-- The shares in what numbers weigh together make up the whole. -/
theorem size_shares {qs : List Rat} (h : 0 < size qs) :
    size (qs.map (share · (size qs))) = 1 := by
  have habs : (fun q => |share q (size qs)|) = fun q => |q| * (size qs)⁻¹ := by
    funext q
    rw [share_eq, if_pos h, abs_div, abs_of_pos h, div_eq_mul_inv]
  calc size (qs.map (share · (size qs))) = (qs.map fun q => |q| * (size qs)⁻¹).sum := by
        rw [size, List.map_map, ← habs]
        rfl
    _ = size qs * (size qs)⁻¹ := List.sum_map_mul_right qs _ _
    _ = 1 := mul_inv_cancel₀ (ne_of_gt h)

/-! ### The decomposition -/

/-- Factors that take a prediction by `w` apart. -/
structure IsDecomposition (w : Weights Rat) (fs : List (Factor Rat)) : Prop where
  names : (fs.map fun f => (f.aspect.title, f.aspect.feature.name)).Perm Aspect.names
  raw : ∀ f ∈ fs, f.weight = w.of f.aspect.feature ∧ f.raw = f.value * f.weight
  ordered : fs.Pairwise fun f g =>
    |g.raw| < |f.raw| ∨ |f.raw| = |g.raw| ∧ f.aspect.place < g.aspect.place
  sign : ∀ f ∈ fs, (0 < f.contribution ↔ 0 < f.raw) ∧ (f.contribution < 0 ↔ f.raw < 0)
  /-- A contribution is the weighted value relative to all of them. -/
  share : ∀ f ∈ fs, f.contribution * (fs.map fun f => |f.raw|).sum = f.raw
  whole : (∃ f ∈ fs, f.raw ≠ 0) → (fs.map fun f => |f.contribution|).sum = 1
  nothing : (∀ f ∈ fs, f.raw = 0) → ∀ f ∈ fs, f.contribution = 0

variable {s : Student} {c : Criteria} {w : Weights Rat}

/-- Factors that weigh the same stay as they are declared. -/
theorem ranked_pairwise (s : Student) (c : Criteria) (w : Weights Rat) :
    (ranked s c w).Pairwise fun f g =>
      |g.raw| < |f.raw| ∨ |f.raw| = |g.raw| ∧ f.aspect.place < g.aspect.place := by
  have hkey (f g : Factor Rat) : weighsLess f g = decide (|f.raw| < |g.raw|) := by
    rw [weighsLess, abs_eq, abs_eq]
    rfl
  have hplaces : Aspect.all.Pairwise fun a b => a.place < b.place := by decide
  exact Sorting.descending_pairwise _ (fun f _ g _ => hkey f g) (List.pairwise_map.mpr hplaces)

theorem totalSize_eq (s : Student) (c : Criteria) (w : Weights Rat) :
    totalSize s c w = size ((ranked s c w).map (·.raw)) := by
  have hperm := ((ranked_perm s c w).map fun f => |f.raw|).sum_eq
  rw [size, List.map_map, totalSize, sum_eq]
  simp only [abs_eq]
  exact hperm.symm

theorem contribution_eq {f : Factor Rat} (hf : f ∈ ranked s c w) :
    f.contribution = Factor.share f.raw (size ((ranked s c w).map (·.raw))) := by
  rw [← totalSize_eq, eq_of_mem_ranked hf]
  rfl

/-- The factors of any prediction, exactly computed, take it apart. -/
theorem isDecomposition_ranked (s : Student) (c : Criteria) (w : Weights Rat) :
    IsDecomposition w (ranked s c w) := by
  have hzero {f : Factor Rat} (hf : f ∈ ranked s c w)
      (h : ¬0 < size ((ranked s c w).map (·.raw))) : f.raw = 0 := by
    by_contra hraw
    exact h (size_pos (List.mem_map_of_mem hf) hraw)
  have hsize : ((ranked s c w).map fun f => |f.raw|).sum = size ((ranked s c w).map (·.raw)) := by
    rw [size, List.map_map]
    rfl
  refine {
    names := map_names_ranked s c w
    raw := fun f hf => ?_
    ordered := ranked_pairwise s c w
    sign := fun f hf => ?_
    share := fun f hf => ?_
    whole := ?_
    nothing := fun h f hf => ?_ }
  · rw [eq_of_mem_ranked hf]
    exact ⟨rfl, rfl⟩
  · rw [contribution_eq hf, share_eq]
    split
    case isTrue h => exact ⟨div_pos_iff_of_pos_right h, by rw [div_lt_iff₀ h, zero_mul]⟩
    case isFalse h => rw [hzero hf h]; exact ⟨Iff.rfl, Iff.rfl⟩
  · rw [hsize, contribution_eq hf, share_eq]
    split
    case isTrue h => exact div_mul_cancel₀ _ (ne_of_gt h)
    case isFalse h => rw [hzero hf h, zero_mul]
  · rintro ⟨f, hf, hraw⟩
    have hpos := size_pos (List.mem_map_of_mem hf) hraw
    rw [← size_shares hpos, size, List.map_map, List.map_map]
    exact congrArg List.sum (List.map_congr_left fun g hg => congrArg _ (contribution_eq hg))
  · rw [contribution_eq hf, h f hf, share_eq, zero_div, ite_self]

end Factor

end Bursary
