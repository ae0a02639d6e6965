import Bursary.Matching
import Bursary.Proofs.Binary64.Order
import Bursary.Proofs.StableSort

/-! The order in which a batch shows its matches. Two stable sorts, of the full matches and of the
partial ones, come to one ranking of all of them: every match exactly once, none before one that
goes before it, and matches of one rank as they stood. A NaN among the ranks would have no place
in that order, so there must be none. -/

namespace Bursary.Matching

open StableSort

/-! ### The order of a batch -/

/-- Whether a match may stand before another: full matches before partial ones, full ones by
prediction and partial ones by score. -/
def precedes (a b : Match) : Bool :=
  if a.isEligible then !b.isEligible || (fullRank b).le (fullRank a)
  else !b.isEligible && decide (b.verdict.score ≤ a.verdict.score)

/-- Whether two matches have one rank. -/
def tied (a b : Match) : Bool := precedes a b && precedes b a

theorem isEligible_eq_of_tied {a b : Match} (h : tied a b = true) :
    b.isEligible = a.isEligible := by
  cases ha : a.isEligible <;> cases hb : b.isEligible <;> simp [tied, precedes, ha, hb] at h ⊢

/-- The matches of a list in the order of a batch: each exactly once, and those of one rank as
they stood. -/
structure IsRanking (ms rs : List Match) : Prop where
  perm : rs.Perm ms
  ordered : rs.Pairwise (precedes · ·)
  stable : ∀ m, rs.filter (tied m) = ms.filter (tied m)

/-- Ranking loses no match and adds none. -/
theorem ranked_perm (ms : List Match) : (ranked ms).Perm ms :=
  ((List.mergeSort_perm _ _).append (List.mergeSort_perm _ _)).trans
    (List.filter_append_perm _ ms)

/-- Whether one full match may precede another, told by places. -/
def byPlace (a b : Match) : Bool := decide ((fullRank b).place ≤ (fullRank a).place)

/-- Whether one partial match may precede another. -/
def byScore (a b : Match) : Bool := decide (b.verdict.score ≤ a.verdict.score)

theorem byPlace_trans (a b c : Match) (h : byPlace a b = true) (h' : byPlace b c = true) :
    byPlace a c = true := by
  simp only [byPlace, decide_eq_true_eq] at h h' ⊢
  omega

theorem byPlace_total (a b : Match) : (byPlace a b || byPlace b a) = true := by
  simp only [byPlace, Bool.or_eq_true, decide_eq_true_eq]
  omega

theorem byScore_trans (a b c : Match) (h : byScore a b = true) (h' : byScore b c = true) :
    byScore a c = true := by
  simp only [byScore, decide_eq_true_eq] at h h' ⊢
  omega

theorem byScore_total (a b : Match) : (byScore a b || byScore b a) = true := by
  simp only [byScore, Bool.or_eq_true, decide_eq_true_eq]
  omega

section Ranked

variable {ms : List Match} (hms : ∀ m ∈ ms, fullRank m ≠ .nan)

include hms

/-- Without a NaN among the ranks, matches are ranked by two stable sorts. -/
theorem ranked_eq :
    ranked ms = (ms.filter (·.isEligible)).mergeSort byPlace ++
      (ms.filter (!·.isEligible)).mergeSort byScore := by
  have hfull : (ms.filter (·.isEligible)).mergeSort (fun a b => (fullRank b).le (fullRank a)) =
      (ms.filter (·.isEligible)).mergeSort byPlace := by
    refine mergeSort_congr fun a ha b hb => ?_
    have hra := hms a (List.mem_filter.mp ha).1
    have hrb := hms b (List.mem_filter.mp hb).1
    rw [byPlace, Bool.eq_iff_iff, Binary64.le_iff, decide_eq_true_eq]
    exact ⟨fun h => h.2.2, fun h => ⟨hrb, hra, h⟩⟩
  rw [ranked, hfull]
  rfl

theorem filter_ranked (p : Match → Bool) : (ranked ms).filter p = ranked (ms.filter p) := by
  have hms' : ∀ m ∈ ms.filter p, fullRank m ≠ .nan := fun m hm => hms m (List.mem_filter.mp hm).1
  have hcomm (q : Match → Bool) : (ms.filter q).filter p = (ms.filter p).filter q := by
    rw [List.filter_filter, List.filter_filter]
    congr
    funext m
    exact Bool.and_comm _ _
  rw [ranked_eq hms, ranked_eq hms', List.filter_append,
    filter_mergeSort byPlace_trans byPlace_total, filter_mergeSort byScore_trans byScore_total,
    hcomm, hcomm]

theorem pairwise_ranked : (ranked ms).Pairwise (precedes · ·) := by
  rw [ranked_eq hms, List.pairwise_append]
  have hfull {m : Match} (hm : m ∈ (ms.filter (·.isEligible)).mergeSort byPlace) :
      m.isEligible = true ∧ fullRank m ≠ .nan := by
    rw [List.mem_mergeSort, List.mem_filter] at hm
    exact ⟨hm.2, hms m hm.1⟩
  have hpartial {m : Match} (hm : m ∈ (ms.filter (!·.isEligible)).mergeSort byScore) :
      m.isEligible = false := by
    rw [List.mem_mergeSort, List.mem_filter] at hm
    simpa using hm.2
  refine ⟨?_, ?_, fun a ha b hb => ?_⟩
  · refine (List.pairwise_mergeSort byPlace_trans byPlace_total _).imp_of_mem ?_
    intro a b ha hb hab
    obtain ⟨hae, hra⟩ := hfull ha
    obtain ⟨-, hrb⟩ := hfull hb
    rw [byPlace, decide_eq_true_eq] at hab
    rw [precedes, if_pos hae, Bool.or_eq_true]
    exact .inr (Binary64.le_iff.mpr ⟨hrb, hra, hab⟩)
  · refine (List.pairwise_mergeSort byScore_trans byScore_total _).imp_of_mem ?_
    intro a b ha hb hab
    rw [precedes, hpartial ha, hpartial hb]
    exact hab
  · rw [precedes, if_pos (hfull ha).1, hpartial hb]
    rfl

/-- Matches of one rank keep their order. -/
theorem filter_tied_ranked (m : Match) : (ranked ms).filter (tied m) = ms.filter (tied m) := by
  have hsame (a : Match) (ha : tied m a = true) : a.isEligible = m.isEligible :=
    isEligible_eq_of_tied ha
  rw [ranked_eq hms, List.filter_append]
  cases hm : m.isEligible with
  | true =>
    have hfull (a : Match) (ha : tied m a = true) : a.isEligible = true := (hsame a ha).trans hm
    have hties (a b : Match) (ha : tied m a = true) (hb : tied m b = true) :
        byPlace a b = true := by
      simp only [tied, precedes, hm, hfull a ha, hfull b hb, Bool.and_eq_true, ↓reduceIte,
        Bool.not_true, Bool.false_or] at ha hb
      exact decide_eq_true (Binary64.le_iff.mp (Binary64.le_trans hb.1 ha.2)).2.2
    have hrest : ((ms.filter (!·.isEligible)).mergeSort byScore).filter (tied m) = [] := by
      rw [List.filter_eq_nil_iff]
      intro a ha hta
      rw [List.mem_mergeSort, List.mem_filter, hfull a hta] at ha
      cases ha.2
    rw [hrest, List.append_nil, filter_mergeSort_of_ties byPlace_trans byPlace_total hties,
      filter_filter_of_imp hfull]
  | false =>
    have hpartial (a : Match) (ha : tied m a = true) : a.isEligible = false :=
      (hsame a ha).trans hm
    have hties (a b : Match) (ha : tied m a = true) (hb : tied m b = true) :
        byScore a b = true := by
      simp only [tied, precedes, hm, hpartial a ha, hpartial b hb, Bool.and_eq_true,
        Bool.false_eq_true, ↓reduceIte, Bool.not_false, Bool.true_and, decide_eq_true_eq] at ha hb
      rw [byScore, decide_eq_true_eq]
      omega
    have hrest : ((ms.filter (·.isEligible)).mergeSort byPlace).filter (tied m) = [] := by
      rw [List.filter_eq_nil_iff]
      intro a ha hta
      rw [List.mem_mergeSort, List.mem_filter, hpartial a hta] at ha
      cases ha.2
    rw [hrest, List.nil_append, filter_mergeSort_of_ties byScore_trans byScore_total hties]
    refine filter_filter_of_imp (fun a ha => ?_) ms
    rw [hpartial a ha]
    rfl

theorem isRanking_ranked : IsRanking ms (ranked ms) where
  perm := ranked_perm ms
  ordered := pairwise_ranked hms
  stable := filter_tied_ranked hms

/-- There is only one ranking of the matches of a list. -/
theorem isRanking_iff {rs : List Match} : IsRanking ms rs ↔ rs = ranked ms := by
  have hranked := isRanking_ranked hms
  constructor
  · intro h
    refine eq_of_pairwise (fun a ha => ?_) (h.perm.trans hranked.perm.symm) h.ordered
      hranked.ordered fun m => (h.stable m).trans (hranked.stable m).symm
    have hrank := hms a (h.perm.mem_iff.mp ha)
    have hle : (fullRank a).le (fullRank a) = true :=
      Binary64.le_iff.mpr ⟨hrank, hrank, Int.le_refl _⟩
    cases ha : a.isEligible <;> simp [precedes, ha, hle]
  · rintro rfl
    exact hranked

end Ranked

end Bursary.Matching
