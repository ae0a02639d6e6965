import Bursary.Proofs.Batch

/-! Predictions have no say in who is eligible. What a match says of eligibility comes of the
student and the scholarship alone, so all that the providers and the wishes for predictions of two
batches can change is the predictions themselves and, by them, the order of the full matches. -/

namespace Bursary

/-- What a match says of eligibility: all but the prediction. -/
def Match.withoutPrediction (m : Match) : Match := { m with prediction := none }

namespace Matching

open Match (withoutPrediction)
open Provision (runFrom)

attribute [local irreducible] Binary64.unitsPerOne Binary64.unitLimit

/-! ### Matches without predictions -/

/-- The match of a student with a scholarship, no provider being asked. -/
def appraise (s : Student) (scholarship : Scholarship) : Except Failure Match := do
  let verdict ← evaluate s scholarship.criteria
  return {
    scholarshipId := scholarship.id, scholarshipName := scholarship.name, verdict
    prediction := none, kind := if verdict.passed then some .full else none }

/-- The same for an entry of a list, unless that is inactive. -/
def appraiseEntry (s : Student) (entry : ScholarshipEntry) : Except Failure (Option Match) := do
  let scholarship ← entry.read
  if scholarship.isActive then (appraise s scholarship).map some else return none

theorem appraise_of_matchOne {s : Student} {scholarship : Scholarship} {o : MatchOptions}
    {p q : Provider} {m : Match} (h : runFrom (matchOne s scholarship o) p = (.ok m, q)) :
    appraise s scholarship = .ok m.withoutPrediction := by
  obtain ⟨verdict, _, hverdict, h⟩ := Provision.runFrom_bind_eq_ok.mp h
  obtain ⟨hv, rfl⟩ := Provision.runFrom_lift_eq_ok.mp hverdict
  rw [appraise, hv]
  -- with a prediction or without, the rest of the match is the same
  dsimp only at h
  split at h
  · obtain ⟨prediction, _, -, h⟩ := Provision.runFrom_bind_eq_ok.mp h
    cases h
    rfl
  · obtain ⟨prediction, _, -, h⟩ := Provision.runFrom_bind_eq_ok.mp h
    cases h
    rfl

theorem appraiseEntry_of_visit {s : Student} {o : MatchOptions} {entry : ScholarshipEntry}
    {p q : Provider} {m? : Option Match} (h : runFrom (visit s o entry) p = (.ok m?, q)) :
    appraiseEntry s entry = .ok (m?.map withoutPrediction) := by
  obtain ⟨scholarship, _, hentry, h⟩ := Provision.runFrom_bind_eq_ok.mp h
  obtain ⟨hread, rfl⟩ := Provision.runFrom_lift_eq_ok.mp hentry
  rw [appraiseEntry, hread, ok_bind]
  split at h
  case isTrue ha =>
    rw [map_eq_pure_bind] at h
    obtain ⟨m, _, hm, h⟩ := Provision.runFrom_bind_eq_ok.mp h
    cases h
    rw [if_pos ha, appraise_of_matchOne hm]
    rfl
  case isFalse ha =>
    cases h
    rw [if_neg ha]
    rfl

/-- Whatever provider the visits of a list are made on, they find the same but for predictions. -/
theorem mapM_appraiseEntry_of_visits {s : Student} {o : MatchOptions}
    {entries : List ScholarshipEntry} {p q : Provider} {found : List (Option Match)}
    (h : runFrom (entries.mapM (visit s o)) p = (.ok found, q)) :
    entries.mapM (appraiseEntry s) = .ok (found.map (·.map withoutPrediction)) := by
  induction entries generalizing p found with
  | nil =>
    rw [List.mapM_nil] at h ⊢
    cases h
    rfl
  | cons entry entries ih =>
    rw [List.mapM_cons] at h ⊢
    obtain ⟨m?, p', hm, h⟩ := Provision.runFrom_bind_eq_ok.mp h
    obtain ⟨rest, _, hrest, h⟩ := Provision.runFrom_bind_eq_ok.mp h
    cases h
    rw [appraiseEntry_of_visit hm, ok_bind, ih hrest]
    rfl

/-! ### What a batch shows of them -/

theorem kept_map_withoutPrediction (o o' : BatchOptions)
    (hpartial : o'.includePartial = o.includePartial) (hmin : o'.minScore = o.minScore)
    (found : List (Option Match)) :
    (kept o found).map withoutPrediction = kept o' (found.map (·.map withoutPrediction)) := by
  have hkeeps (m : Match) : keeps o' m.withoutPrediction = keeps o m := by
    rw [keeps, keeps, hpartial, hmin]
    rfl
  induction found with
  | nil => rfl
  | cons m? found ih =>
    cases m? with
    | none => exact ih
    | some m =>
      by_cases hk : keeps o m = true
      · have hk' := (hkeeps m).trans hk
        simp only [kept, List.filterMap_cons, List.map_cons, id, Option.map_some,
          List.filter_cons_of_pos hk, List.filter_cons_of_pos hk'] at ih ⊢
        rw [ih]
        rfl
      · have hk' : ¬keeps o' m.withoutPrediction = true := by rwa [hkeeps]
        simp only [kept, List.filterMap_cons, List.map_cons, id, Option.map_some,
          List.filter_cons_of_neg hk, List.filter_cons_of_neg hk'] at ih ⊢
        exact ih

/-- The partial matches of a ranking stand by their scores, which no prediction changes. -/
theorem partial_ranked (ms : List Match) :
    ((ranked ms).filter (!·.isEligible)).map withoutPrediction =
      ((ms.map withoutPrediction).filter (!·.isEligible)).mergeSort byScore := by
  have hfull : ((ms.filter (·.isEligible)).mergeSort
      fun a b => (fullRank b).le (fullRank a)).filter (!·.isEligible) = [] := by
    rw [List.filter_eq_nil_iff]
    intro m hm
    rw [List.mem_mergeSort, List.mem_filter] at hm
    simp [hm.2]
  have hpartial : ((ms.filter (!·.isEligible)).mergeSort byScore).filter (!·.isEligible) =
      (ms.filter (!·.isEligible)).mergeSort byScore := by
    rw [List.filter_eq_self]
    intro m hm
    rw [List.mem_mergeSort, List.mem_filter] at hm
    exact hm.2
  rw [ranked, List.filter_append, hfull, List.nil_append]
  refine (congrArg (List.map _) hpartial).trans ?_
  rw [List.map_mergeSort (f := withoutPrediction) (r := byScore) (s := byScore) fun _ _ _ _ => rfl, List.filter_map]
  rfl

/-- Two batches over one list that keep by the same rule and cut nothing, on any two providers and
with any wishes for predictions, show the same matches but for the predictions, and the partial
ones in the same order. -/
theorem batch_eligibility_unpredicted {student : StudentEntry} {entries : List ScholarshipEntry}
    {o o' : BatchOptions} {p p' q q' : Provider} {ms ms' : List Match}
    (h : runFrom (batch student entries o) p = (.ok ms, q))
    (h' : runFrom (batch student entries o') p' = (.ok ms', q'))
    (hlimit : o.limit = none) (hlimit' : o'.limit = none)
    (hpartial : o'.includePartial = o.includePartial) (hmin : o'.minScore = o.minScore) :
    (ms.map withoutPrediction).Perm (ms'.map withoutPrediction) ∧
      (ms.filter (!·.isEligible)).map withoutPrediction =
        (ms'.filter (!·.isEligible)).map withoutPrediction := by
  obtain ⟨-, s, found, hs, hrun, rfl⟩ := runFrom_batch.mp h
  obtain ⟨-, s', found', hs', hrun', rfl⟩ := runFrom_batch.mp h'
  obtain rfl : s = s' := Except.ok.inj (hs.symm.trans hs')
  have hfound : found.map (·.map withoutPrediction) = found'.map (·.map withoutPrediction) :=
    Except.ok.inj
      ((mapM_appraiseEntry_of_visits hrun).symm.trans (mapM_appraiseEntry_of_visits hrun'))
  have hkept : (kept o found).map withoutPrediction = (kept o' found').map withoutPrediction := by
    rw [kept_map_withoutPrediction o o rfl rfl, hfound,
      kept_map_withoutPrediction o' o hpartial.symm hmin.symm]
  rw [hlimit, hlimit', cut, cut]
  constructor
  · refine ((ranked_perm (kept o found)).map withoutPrediction).trans ?_
    rw [hkept]
    exact ((ranked_perm (kept o' found')).map withoutPrediction).symm
  · rw [partial_ranked, partial_ranked, hkept]

/-- A batch without predictions and without a store shows the matches of one that asks a trained
model for all three, of which one is partial. -/
theorem batch_unpredicted_as_by_trained_model :
    let student : StudentEntry := .ready { gwa := 2.5, gwaProvided := true }
    let entries : List ScholarshipEntry := [
      .ready { name := "Half", criteria := { maxGwa := some 1.5, filipinoOnly := true } },
      .ready { name := "Open" },
      .ready { name := "Closed", isActive := false },
      .ready { id := some "t", name := "Trained", criteria := { maxGwa := some 3 } }]
    let store : ModelStore := {
      models := [("t", .record [("accuracy", .real 0.8), ("bias", .real 2)])] }
    let p := Provider.fresh {} none
    let p' := Provider.fresh {} (some store.toRegistry)
    let o : BatchOptions := { includePrediction := false }
    let o' : BatchOptions := { predictIneligible := true }
    ∃ ms q ms' q', runFrom (batch student entries o) p = (.ok ms, q) ∧
      runFrom (batch student entries o') p' = (.ok ms', q') ∧
      ms.countP (·.prediction.isSome) = 0 ∧ ms'.countP (·.prediction.isSome) = 3 ∧
      (ms.map withoutPrediction).Perm (ms'.map withoutPrediction) ∧
      (ms.filter (!·.isEligible)).map withoutPrediction =
        (ms'.filter (!·.isEligible)).map withoutPrediction := by
  intro student entries store p p' o o'
  have hbatch (o : BatchOptions) (p : Provider) (n : Nat) (hlimit : o.limit = none)
      (h : (runFrom (entries.mapM (visit { gwa := 2.5, gwaProvided := true } o.toMatchOptions))
        p).1.toOption.map (fun found => (kept o found).countP (·.prediction.isSome)) = some n) :
      ∃ ms q, runFrom (batch student entries o) p = (.ok ms, q) ∧
        ms.countP (·.prediction.isSome) = n := by
    obtain ⟨found, hfound, rfl⟩ := Option.map_eq_some_iff.mp h
    refine ⟨_, _, runFrom_batch.mpr ⟨?_, _, found, rfl, Prod.ext (toOption_eq_some.mp hfound) rfl,
      rfl⟩, ?_⟩
    · rw [hlimit]
      rfl
    · rw [hlimit]
      exact (ranked_perm _).countP_eq _
  obtain ⟨ms, q, h, hcount⟩ := hbatch o p 0 rfl (by decide +kernel)
  obtain ⟨ms', q', h', hcount'⟩ := hbatch o' p' 3 rfl (by decide +kernel)
  exact ⟨ms, q, ms', q', h, h', hcount, hcount',
    batch_eligibility_unpredicted h h' rfl rfl rfl rfl⟩

end Matching

end Bursary
