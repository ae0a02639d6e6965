import Bursary.Proofs.Provision
import Bursary.Proofs.Ranking

/-! A batch is a filter, a ranking and a cut. It visits the scholarships one after the other on one
provider, keeps what its options let it keep, ranks that and cuts it. What is kept and how it
ranks does not depend on the limit, so a smaller limit shows a prefix; and a higher least score
only strikes partial matches out. -/

namespace Bursary.Matching

open Provision (runFrom Ensures)

attribute [local irreducible] Binary64.unitsPerOne Binary64.unitLimit

/-! ### Visits -/

/-- Matches a student with one scholarship of a list, unless that is inactive. -/
def visit (s : Student) (o : MatchOptions) (entry : ScholarshipEntry) :
    Provision (Option Match) := do
  let scholarship ← entry.read
  if scholarship.isActive then some <$> matchOne s scholarship o else return none

/-- It finds nothing exactly where a scholarship is read that is inactive. -/
theorem runFrom_visit_eq_none {s : Student} {o : MatchOptions} {entry : ScholarshipEntry}
    {p : Provider} : (∃ q, runFrom (visit s o entry) p = (.ok none, q)) ↔
      ∃ scholarship, entry.read = .ok scholarship ∧ scholarship.isActive = false := by
  constructor
  · rintro ⟨q, h⟩
    obtain ⟨scholarship, _, hentry, h⟩ := Provision.runFrom_bind_eq_ok.mp h
    obtain ⟨hread, rfl⟩ := Provision.runFrom_lift_eq_ok.mp hentry
    refine ⟨scholarship, hread, ?_⟩
    cases ha : scholarship.isActive with
    | false => rfl
    | true =>
      rw [if_pos ha, map_eq_pure_bind] at h
      obtain ⟨m, _, -, h⟩ := Provision.runFrom_bind_eq_ok.mp h
      cases h
  · rintro ⟨scholarship, hread, ha⟩
    refine ⟨p, Provision.runFrom_bind_eq_ok.mpr
      ⟨scholarship, p, Provision.runFrom_lift_eq_ok.mpr ⟨hread, rfl⟩, ?_⟩⟩
    rw [ha]
    rfl

/-- What a batch keeps of the matches that it found, as it shows them. -/
def kept (o : BatchOptions) (found : List (Option Match)) : List Match :=
  ((found.filterMap id).filter (keeps o)).map inBatch

theorem collect_eq (s : Student) (o : BatchOptions) (entries : List ScholarshipEntry) :
    collect s o entries = kept o <$> entries.mapM (visit s o.toMatchOptions) := by
  induction entries with
  | nil => rw [collect, List.mapM_nil, map_pure]; rfl
  | cons entry rest ih =>
    rw [collect, List.mapM_cons, ih, visit]
    simp only [bind_assoc, map_bind]
    congr
    funext scholarship
    by_cases h : scholarship.isActive = true
    · simp only [h, ↓reduceIte, map_eq_pure_bind, bind_assoc, pure_bind]
      congr
      funext m
      congr
      funext found
      by_cases hk : keeps o m = true <;> simp [kept, hk]
    · simp only [h, ↓reduceIte, pure_bind, Bool.false_eq_true, map_eq_pure_bind]
      rfl

/-- A batch as one visit after the other. -/
theorem batch_eq (student : StudentEntry) (entries : List ScholarshipEntry) (o : BatchOptions) :
    batch student entries o = do
      checkLimit o.limit
      let s ← student.read
      let found ← entries.mapM (visit s o.toMatchOptions)
      return cut o.limit (ranked (kept o found)) := by
  simp only [batch, collect_eq, map_eq_pure_bind, bind_assoc, pure_bind]

/-- When a batch returns, and what. -/
theorem runFrom_batch {student : StudentEntry} {entries : List ScholarshipEntry} {o : BatchOptions}
    {p q : Provider} {ms : List Match} :
    runFrom (batch student entries o) p = (.ok ms, q) ↔
      checkLimit o.limit = .ok () ∧ ∃ s found, student.read = .ok s ∧
        runFrom (entries.mapM (visit s o.toMatchOptions)) p = (.ok found, q) ∧
        ms = cut o.limit (ranked (kept o found)) := by
  simp only [batch_eq, Provision.runFrom_bind_eq_ok, Provision.runFrom_lift_eq_ok,
    Provision.runFrom_pure, Prod.mk.injEq, Except.ok.injEq]
  constructor
  · rintro ⟨_, _, ⟨hlimit, rfl⟩, s, _, ⟨hs, rfl⟩, found, _, hrun, rfl, rfl⟩
    exact ⟨hlimit, s, found, hs, hrun, rfl⟩
  · rintro ⟨hlimit, s, found, hs, hrun, rfl⟩
    exact ⟨(), p, ⟨hlimit, rfl⟩, s, p, ⟨hs, rfl⟩, found, q, hrun, rfl, rfl⟩

/-! ### No rank is a NaN -/

theorem ensures_predict (s : Student) (scholarship : Scholarship) :
    Ensures (predict s scholarship) fun prediction => prediction.probability ≠ .nan :=
  (Ensures.resolve scholarship.id).bind fun _ hr =>
    Ensures.pure (Prediction.probability_ne_nan s scholarship.criteria hr _ _ _)

/-- What a prediction, or none, ranks a match by is no NaN. -/
def IsRank (prediction : Option Prediction) : Prop :=
  (prediction.map (·.probability)).getD 0 ≠ .nan

theorem ensures_matchOne (s : Student) (scholarship : Scholarship) (o : MatchOptions) :
    Ensures (matchOne s scholarship o) fun m => fullRank m ≠ .nan := by
  refine (Ensures.lift fun _ _ => trivial).bind fun v (_ : True) => ?_
  have hmatch (prediction : Option Prediction) (h : IsRank prediction) :
      Ensures (pure {
        scholarshipId := scholarship.id, scholarshipName := scholarship.name, verdict := v
        prediction, kind := if v.passed then some .full else none } : Provision Match)
        fun m => fullRank m ≠ .nan := Ensures.pure h
  have hsome : Ensures (some <$> predict s scholarship) IsRank :=
    (ensures_predict s scholarship).map fun _ h => h
  have hnone : Ensures (pure none : Provision (Option Prediction)) IsRank :=
    Ensures.pure Binary64.zero_ne_nan
  dsimp only
  split
  · exact hsome.bind hmatch
  · exact hnone.bind hmatch

theorem ensures_visit (s : Student) (o : MatchOptions) (entry : ScholarshipEntry) :
    Ensures (visit s o entry) fun found => ∀ m ∈ found, fullRank m ≠ .nan := by
  refine (Ensures.lift fun _ _ => trivial).bind fun scholarship (_ : True) => ?_
  split
  · refine (ensures_matchOne s scholarship o).map fun m hm m' hm' => ?_
    cases hm'
    exact hm
  · exact Ensures.pure fun m hm => nomatch hm

theorem fullRank_ne_nan_of_mem_kept {o : BatchOptions} {found : List (Option Match)}
    (h : ∀ m? ∈ found, ∀ m ∈ m?, fullRank m ≠ .nan) : ∀ m ∈ kept o found, fullRank m ≠ .nan := by
  intro m hm
  obtain ⟨m', hm', rfl⟩ := List.mem_map.mp hm
  obtain ⟨m?, hfound, hsome⟩ := List.mem_filterMap.mp (List.mem_filter.mp hm').1
  exact h m? hfound m' hsome

/-- What a batch keeps after visits from finite weights has ranks to be compared by. -/
theorem fullRank_ne_nan_of_visits {s : Student} {o : BatchOptions} {p : Provider}
    (hp : p.CachesFinite) {entries : List ScholarshipEntry} {found : List (Option Match)}
    {q : Provider} (h : runFrom (entries.mapM (visit s o.toMatchOptions)) p = (.ok found, q))
    (o' : BatchOptions) : ∀ m ∈ kept o' found, fullRank m ≠ .nan := by
  have hvisits := (Ensures.mapM (ensures_visit s o.toMatchOptions) entries p hp).2 found
  rw [h] at hvisits
  exact fullRank_ne_nan_of_mem_kept (hvisits rfl)

/-! ### What is kept -/

theorem keeps_iff (o : BatchOptions) (m : Match) :
    keeps o m = true ↔ m.isEligible = true ∨ o.includePartial = true ∧
      (o.minScore = .nan ∨ o.minScore.le (.ofNat m.verdict.score) = true) := by
  have hscore : Binary64.ofNat m.verdict.score ≠ .nan := Binary64.ofNat_ne_nan _
  rw [keeps, Bool.or_eq_true, Bool.and_eq_true, Bool.not_eq_true', Binary64.lt_eq_false_iff,
    Binary64.le_iff]
  by_cases hmin : o.minScore = .nan <;> simp [hmin, hscore]

/-- What a higher least score keeps, a lower one keeps too. -/
theorem keeps_of_le (o : BatchOptions) {low high : Binary64} (h : low.le high = true) {m : Match}
    (hm : keeps { o with minScore := high } m = true) :
    keeps { o with minScore := low } m = true := by
  rw [keeps_iff] at hm ⊢
  rcases hm with hm | ⟨hpartial, hm | hm⟩
  · exact .inl hm
  · exact absurd hm (Binary64.le_iff.mp h).2.1
  · exact .inr ⟨hpartial, .inr (Binary64.le_trans h hm)⟩

theorem kept_of_le (o : BatchOptions) {low high : Binary64} (h : low.le high = true)
    (found : List (Option Match)) :
    kept { o with minScore := high } found =
      (kept { o with minScore := low } found).filter (keeps { o with minScore := high }) := by
  rw [kept, kept, List.filter_map]
  congr 1
  exact (StableSort.filter_filter_of_imp (fun m hm => keeps_of_le o h hm) _).symm

/-! ### Limits and least scores -/

theorem checkLimit_eq_ok {limit : Option Int} :
    checkLimit limit = .ok () ↔ ∀ k, limit = some k → 0 ≤ k := by
  cases limit with
  | none => simp [checkLimit]
  | some n =>
    by_cases hn : n < 0
    · simp [checkLimit, hn]
    · simp [checkLimit, hn]
      omega

theorem cut_of_le {k : Int} {larger : Option Int} (h : ∀ n, larger = some n → k ≤ n)
    (ms : List Match) : cut (some k) ms = (cut larger ms).take k.toNat := by
  cases larger with
  | none => rfl
  | some n =>
    have hn := h n rfl
    rw [cut, cut, List.take_take, Nat.min_eq_left (by omega)]

/-- A limit shows the first matches of what a larger limit shows, or none. -/
theorem batch_limit (student : StudentEntry) (entries : List ScholarshipEntry) (o : BatchOptions)
    {k : Int} (hk : 0 ≤ k) {larger : Option Int} (h : ∀ n, larger = some n → k ≤ n) :
    batch student entries { o with limit := some k } =
      List.take k.toNat <$> batch student entries { o with limit := larger } := by
  have hlimit : checkLimit (some k) = .ok () := checkLimit_eq_ok.mpr fun n hn => by
    cases hn
    exact hk
  have hlarger : checkLimit larger = .ok () :=
    checkLimit_eq_ok.mpr fun n hn => Int.le_trans hk (h n hn)
  rw [batch_eq, batch_eq]
  simp only [hlimit, hlarger, cut_of_le h, map_bind, map_pure]
  rfl

/-- A higher least score strikes matches out of a batch and leaves the others as they stand. -/
theorem batch_minScore {p : Provider} (hp : p.CachesFinite) (student : StudentEntry)
    (entries : List ScholarshipEntry) (o : BatchOptions) {low high : Binary64}
    (h : low.le high = true) :
    runFrom (batch student entries { o with limit := none, minScore := high }) p =
      runFrom (List.filter (keeps { o with minScore := high }) <$>
        batch student entries { o with limit := none, minScore := low }) p := by
  rw [batch_eq, batch_eq]
  simp only [Provision.runFrom_map, Provision.runFrom_bind, Provision.runFrom_lift, checkLimit]
  cases student.read with
  | error f => rfl
  | ok s =>
    dsimp only
    cases hrun : runFrom (entries.mapM (visit s o.toMatchOptions)) p with
    | mk result q =>
      cases result with
      | error f => rfl
      | ok found =>
        have hrank := fullRank_ne_nan_of_visits hp hrun { o with minScore := low }
        show (Except.ok (ranked (kept { o with minScore := high } found)), q) =
          (Except.ok ((ranked (kept { o with minScore := low } found)).filter _), q)
        rw [filter_ranked hrank, kept_of_le o h]

/-! ### Batches -/

/-- What a batch returns is the one ranking of what is kept of the matches found, cut. -/
theorem runFrom_batch_eq_ok {p : Provider} (hp : p.CachesFinite) {student : StudentEntry}
    {entries : List ScholarshipEntry} {o : BatchOptions} {ms : List Match} {q : Provider} :
    runFrom (batch student entries o) p = (.ok ms, q) ↔
      (∀ k, o.limit = some k → 0 ≤ k) ∧ ∃ s found rs, student.read = .ok s ∧
        runFrom (entries.mapM (visit s o.toMatchOptions)) p = (.ok found, q) ∧
        IsRanking (kept o found) rs ∧ ms = cut o.limit rs := by
  rw [runFrom_batch, checkLimit_eq_ok]
  constructor
  · rintro ⟨hlimit, s, found, hs, hrun, hms⟩
    have hrank := fullRank_ne_nan_of_visits hp hrun o
    exact ⟨hlimit, s, found, _, hs, hrun, isRanking_ranked hrank, hms⟩
  · rintro ⟨hlimit, s, found, rs, hs, hrun, hrs, hms⟩
    have hrank := fullRank_ne_nan_of_visits hp hrun o
    rw [isRanking_iff hrank] at hrs
    exact ⟨hlimit, s, found, hs, hrun, hrs ▸ hms⟩

/-- A batch filters, ranks and cuts. Its visits are those of the active scholarships in their
order, each on the provider that the one before left; it keeps the full matches, and the partial
ones whose score is not below the least one; what it shows is the one ranking of these, each
exactly once, cut at the limit, and it shows nothing only if a visit fails, the student cannot be
read or the limit is negative. So a limit shows a prefix of what a larger one shows, and a higher
least score only strikes partial matches out. That cached weights are finite holds of every
provider that began with an empty cache, by `Provider.cachesFinite_run`. -/
theorem batch_filter_rank_cut (student : StudentEntry) (entries : List ScholarshipEntry)
    (o : BatchOptions) (p : Provider) (hp : p.CachesFinite) :
    (∀ ms q, runFrom (batch student entries o) p = (.ok ms, q) ↔
      (∀ k, o.limit = some k → 0 ≤ k) ∧ ∃ s found rs, student.read = .ok s ∧
        runFrom (entries.mapM (visit s o.toMatchOptions)) p = (.ok found, q) ∧
        IsRanking (kept o found) rs ∧ ms = cut o.limit rs) ∧
    (∀ m, keeps o m = true ↔ m.isEligible = true ∨ o.includePartial = true ∧
      (o.minScore = .nan ∨ o.minScore.le (.ofNat m.verdict.score) = true)) ∧
    (∀ (k : Int) (larger : Option Int), 0 ≤ k → (∀ n, larger = some n → k ≤ n) →
      batch student entries { o with limit := some k } =
        List.take k.toNat <$> batch student entries { o with limit := larger }) ∧
    (∀ low high : Binary64, low.le high = true →
      runFrom (batch student entries { o with limit := none, minScore := high }) p =
        runFrom (List.filter (keeps { o with minScore := high }) <$>
          batch student entries { o with limit := none, minScore := low }) p) :=
  ⟨fun _ _ => runFrom_batch_eq_ok hp, keeps_iff o,
    fun _ _ hk h => batch_limit student entries o hk h,
    fun _ _ h => batch_minScore hp student entries o h⟩

/-- Of two full matches, an inactive scholarship, a partial match that scores 50 and one that
scores nothing, a least score of 40 keeps three, and one of 60 strikes the last of them out. -/
theorem batch_of_mixed_matches :
    let student : StudentEntry := .ready { gwa := 2.5, gwaProvided := true }
    let entries : List ScholarshipEntry := [
      .ready { name := "Strict", criteria := { maxGwa := some 1.5 } },
      .ready { name := "Open" },
      .ready { name := "Half", criteria := { maxGwa := some 1.5, filipinoOnly := true } },
      .ready { name := "Closed", isActive := false },
      .ready { id := some "t", name := "Trained", criteria := { maxGwa := some 3 } }]
    let store : ModelStore := {
      models := [("t", .record [("accuracy", .real 0.8), ("bias", .real 2)])] }
    let p := Provider.fresh {} (some store.toRegistry)
    let o : BatchOptions := { minScore := 40 }
    p.CachesFinite ∧ ∃ ms q, runFrom (batch student entries o) p = (.ok ms, q) ∧
      ms.length = 3 ∧ (ms.filter (keeps { o with minScore := 60 })).length = 2 ∧
      runFrom (batch student entries { o with minScore := 60 }) p =
        (.ok (ms.filter (keeps { o with minScore := 60 })), q) := by
  intro student entries store p o
  have hp : p.CachesFinite := Provider.Holds.of_empty rfl
  have hspec := batch_filter_rank_cut student entries o p hp
  let visits := entries.mapM (visit { gwa := 2.5, gwaProvided := true } o.toMatchOptions)
  have hvisits : (runFrom visits p).1.toOption.map (fun found => ((kept o found).length,
      ((kept o found).filter (keeps { o with minScore := 60 })).length)) = some (3, 2) := by
    decide +kernel
  simp only [Option.map_eq_some_iff, toOption_eq_some, Prod.mk.injEq] at hvisits
  obtain ⟨found, hfound, hlength, hlength'⟩ := hvisits
  have hrun : runFrom visits p = (.ok found, (runFrom visits p).2) := Prod.ext hfound rfl
  have hranking := isRanking_ranked (fullRank_ne_nan_of_visits hp hrun o)
  have hbatch := (hspec.1 (ranked (kept o found)) (runFrom visits p).2).mpr
    ⟨(fun k hk => nomatch hk), _, found, _, rfl, hrun, hranking, rfl⟩
  have hraise := hspec.2.2.2 40 60 (by decide +kernel)
  rw [Provision.runFrom_map, hbatch] at hraise
  refine ⟨hp, _, _, hbatch, ?_, ?_, hraise⟩
  · exact hranking.perm.length_eq.trans hlength
  · exact ((hranking.perm.filter _).length_eq).trans hlength'

/-- A NaN as the least score keeps a partial match that does not reach it, as nothing does; and a
negative limit shows nothing at all. -/
theorem batch_keeps_unreached_score :
    let student : StudentEntry := .ready { gwa := 2.5, gwaProvided := true }
    let entries : List ScholarshipEntry := [
      .ready { name := "Strict", criteria := { maxGwa := some 1.5 } }]
    let p := Provider.fresh {} none
    let o : BatchOptions := { minScore := .nan }
    (∃ m q, runFrom (batch student entries o) p = (.ok [m], q) ∧ m.isEligible = false ∧
      o.minScore.le (.ofNat m.verdict.score) = false) ∧
      runFrom (batch student entries { o with limit := some (-1) }) p =
        (.error (.negativeLimit (-1)), p) := by
  intro student entries p o
  have hp : p.CachesFinite := Provider.Holds.of_empty rfl
  let visits := entries.mapM (visit { gwa := 2.5, gwaProvided := true } o.toMatchOptions)
  have hvisits : (runFrom visits p).1.toOption.map (fun found => (kept o found).map fun m =>
      (m.isEligible, o.minScore.le (.ofNat m.verdict.score))) = some [(false, false)] := by
    decide +kernel
  simp only [Option.map_eq_some_iff, toOption_eq_some, List.map_eq_singleton_iff, Prod.mk.injEq]
    at hvisits
  obtain ⟨found, hfound, m, hkept, heligible, hscore⟩ := hvisits
  have hrun : runFrom visits p = (.ok found, (runFrom visits p).2) := Prod.ext hfound rfl
  have hranking := isRanking_ranked (fullRank_ne_nan_of_visits hp hrun o)
  have hranked : [m] = ranked (kept o found) := by
    have hperm := hranking.perm
    rw [hkept] at hperm ⊢
    exact (List.perm_singleton.mp hperm).symm
  have hbatch : runFrom (batch student entries o) p = (.ok [m], (runFrom visits p).2) :=
    (runFrom_batch_eq_ok hp).mpr
      ⟨(fun k hk => nomatch hk), _, found, _, rfl, hrun, hranking, hranked⟩
  exact ⟨⟨m, _, hbatch, heligible, hscore⟩, rfl⟩

end Bursary.Matching
