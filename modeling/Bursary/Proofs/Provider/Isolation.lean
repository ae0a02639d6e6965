import Bursary.Proofs.Binary64.Sum
import Bursary.Proofs.Provider.Run

/-! Which requests the cache keeps apart. Over a store that stays as it is and always answers in
time, every entry holds what some request with its key is answered. Keys tell all requests apart but two: the request without
a scholarship and the one for a scholarship whose id is the global key. Hence earlier requests
change nothing for any other scholarship, and for these two they change nothing exactly if the
store gives both the same trained answer, or neither of them one. -/

namespace Bursary

/-! ### Stores that answer in time -/

/-- A store that answers every question in time, be it with a failure. -/
structure Registry.IsPrompt (registry : Registry) : Prop where
  scholarshipModel (id : String) : registry.scholarshipModel id ≠ .silence
  globalModel : registry.globalModel ≠ .silence

theorem Registry.IsPrompt.fetch {registry : Registry} (h : registry.IsPrompt)
    (id : Option String) : (registry.fetch id).1.isLate = false := by
  have hglobal : registry.fetchGlobal.isLate = false := by
    unfold fetchGlobal
    split
    · split <;> rfl
    · rfl
    case h_3 hr => exact absurd hr h.globalModel
  unfold Registry.fetch
  cases id with
  | none => exact hglobal
  | some id =>
    dsimp only
    split
    · split
      · rfl
      · exact hglobal
    · rfl
    case h_3 hr => exact absurd hr (h.scholarshipModel id)

theorem ModelStore.isPrompt_of_working {store : ModelStore} (h : store.state = .working) :
    store.toRegistry.IsPrompt := by
  rw [toRegistry, h]
  exact ⟨fun _ => nofun, nofun⟩

namespace Provider

/-! ### Keys -/

theorem asked_eq_of_cacheKey_eq {id id' : Option String} (h : cacheKey id = cacheKey id')
    (hid : cacheKey id ≠ globalKey) : asked id = asked id' := by
  unfold cacheKey at h hid
  cases ha : asked id with
  | none =>
    rw [ha] at hid
    exact absurd rfl hid
  | some a =>
    cases hb : asked id' with
    | none =>
      rw [ha, hb] at h
      rw [ha] at hid
      exact absurd h hid
    | some b =>
      rw [ha, hb] at h
      exact congrArg some h

theorem consult_congr (p : Provider) {id id' : Option String} (h : asked id = asked id') :
    p.consult id = p.consult id' := by
  rw [consult, consult, h]

/-- Only two requests have the global key. -/
theorem consult_of_globalKey (p : Provider) {id : Option String} (h : cacheKey id = globalKey) :
    p.consult id = p.consult none ∨ p.consult id = p.consult (some globalKey) := by
  unfold cacheKey at h
  cases ha : asked id with
  | none => exact .inl (p.consult_congr ha)
  | some a =>
    rw [ha] at h
    refine .inr (p.consult_congr (ha.trans ?_))
    exact congrArg some h

/-! ### Entries hold answers of the store -/

/-- A provider over the store of another one, whose workers are all free and whose entries are
trained answers of that store. -/
structure FaithfulTo (origin p : Provider) : Prop where
  settings : p.settings = origin.settings
  registry : p.registry = origin.registry
  waiting : p.waiting = 0
  entries : p.Holds fun key r => ∃ id, cacheKey id = key ∧ trained? (origin.consult id) = some r

/-- Workers never wait for a store that answers in time. -/
theorem waiting_after {p : Provider} (h : ∀ registry ∈ p.registry, registry.IsPrompt)
    (hp : p.waiting = 0) (s : Step) : (p.after s).waiting = 0 := by
  cases s with
  | request id =>
    cases hl : p.live? id with
    | some r =>
      rw [after, resolve_of_live hl]
      exact hp
    | none =>
      rw [after, resolve_of_not_live hl]
      show p.waitingAfter id = 0
      unfold waitingAfter
      cases hr : p.reachable? with
      | none => exact hp
      | some registry =>
        dsimp only
        rw [(h registry (reachable?_eq_some.mp hr).1).fetch]
        exact hp
  | isCached id =>
    rw [after_isCached]
    exact hp
  | clear => exact hp
  | advance seconds => exact hp
  | change registry => exact hp
  | release questions =>
    rw [after, release, if_pos hp]
    exact hp

namespace FaithfulTo

variable {origin p : Provider}

theorem consult (h : origin.FaithfulTo p) (horigin : origin.waiting = 0) (id : Option String) :
    p.consult id = origin.consult id := by
  simp only [Provider.consult, reachable?, h.registry, h.settings, h.waiting, horigin]

theorem after (hprompt : ∀ registry ∈ origin.registry, registry.IsPrompt)
    (horigin : origin.waiting = 0) (p : Provider) (s : Step) (hs : s.KeepsStore)
    (h : origin.FaithfulTo p) : origin.FaithfulTo (p.after s) where
  settings := (p.settings_after s).trans h.settings
  registry := (p.registry_after hs).trans h.registry
  waiting := waiting_after (by rwa [h.registry]) h.waiting s
  entries := by
    refine h.entries.after (fun id r hr => ?_) s
    rw [h.consult horigin] at hr
    exact ⟨id, rfl, hr⟩

theorem run (hprompt : ∀ registry ∈ origin.registry, registry.IsPrompt)
    (horigin : origin.waiting = 0) (hempty : origin.cache.entries = []) {steps : List Step}
    (hs : ∀ s ∈ steps, s.KeepsStore) : origin.FaithfulTo (origin.run steps) :=
  run_induction (after hprompt horigin) hs ⟨rfl, rfl, horigin, .of_empty hempty⟩

end FaithfulTo

/-! ### Isolation -/

/-- Whatever a provider is used for first, while the store stays as it is, a request is answered
as if it were the first one. -/
def Isolates (p : Provider) (id : Option String) : Prop :=
  ∀ steps : List Step, (∀ s ∈ steps, s.KeepsStore) →
    ((p.run steps).resolve id).1 = (p.resolve id).1

section Fresh

variable (settings : Settings) (registry : Option Registry)

theorem live?_fresh (id : Option String) : (fresh settings registry).live? id = none := rfl

theorem resolve_fresh (id : Option String) :
    ((fresh settings registry).resolve id).1 = (fresh settings registry).consult id := by
  rw [resolve_of_not_live (live?_fresh settings registry id)]

/-- A history can only change an answer through a live entry of another request. -/
theorem isolates_of_forall_live (hprompt : ∀ r ∈ registry, r.IsPrompt) {id : Option String}
    (h : ∀ id' r, cacheKey id' = cacheKey id →
      trained? ((fresh settings registry).consult id') = some r →
      (fresh settings registry).consult id = .ok r) :
    (fresh settings registry).Isolates id := by
  intro steps hs
  have hempty : (fresh settings registry).cache.entries = [] := rfl
  have hf := FaithfulTo.run hprompt rfl hempty hs
  rw [resolve_fresh]
  cases hl : ((fresh settings registry).run steps).live? id with
  | none => rw [resolve_of_not_live hl, hf.consult rfl]
  | some r =>
    obtain ⟨id', hkey, hr⟩ := hf.entries.of_live hl
    rw [resolve_of_live hl, h id' r hkey hr]

theorem isolates_of_key_ne (hprompt : ∀ r ∈ registry, r.IsPrompt) {id : Option String}
    (h : cacheKey id ≠ globalKey) : (fresh settings registry).Isolates id := by
  refine isolates_of_forall_live settings registry hprompt fun id' r hkey hr => ?_
  rw [consult_congr _ (asked_eq_of_cacheKey_eq hkey.symm h)]
  exact (trained?_eq_some.mp hr).1

/-- A trained answer is live for every request with its key at once. -/
theorem live?_run_request (hlife : (0 : Binary64).lt settings.cacheLifetime = true)
    {id id' : Option String} {r : ResolvedWeights}
    (hr : trained? ((fresh settings registry).consult id) = some r)
    (hkey : cacheKey id' = cacheKey id) :
    ((fresh settings registry).run [.request id]).live? id' = some r := by
  rw [run_cons, run_nil, after, resolve_of_not_live (live?_fresh settings registry id)]
  refine Cache.live?_eq_some.mpr ⟨_, ?_, Binary64.lt_zero_add hlife⟩
  show ((fresh settings registry).afterMiss id).find? (cacheKey id') = _
  rw [find?_afterMiss, if_pos hkey, hr]
  rfl

/-- If a trained answer is to leave a later request with its key alone, that one is answered the
same. -/
theorem consult_eq_of_isolates (hlife : (0 : Binary64).lt settings.cacheLifetime = true)
    {id id' : Option String} {r : ResolvedWeights}
    (hr : trained? ((fresh settings registry).consult id) = some r)
    (hkey : cacheKey id' = cacheKey id) (h : (fresh settings registry).Isolates id') :
    (fresh settings registry).consult id' = .ok r := by
  have hsteps : ∀ s ∈ [Step.request id], s.KeepsStore := by simp [Step.KeepsStore]
  have hfirst := h [.request id] hsteps
  rw [resolve_of_live (live?_run_request settings registry hlife hr hkey), resolve_fresh] at hfirst
  exact hfirst.symm

end Fresh

/-- Over a store that always answers in time, earlier requests never change the answer to a request
for a scholarship whose id is not the global key. They change no answer at all exactly if the store
gives the scholarship with that id the same trained answer as no scholarship, or neither of them
one. -/
theorem isolates_iff (settings : Settings) (registry : Option Registry)
    (hlife : (0 : Binary64).lt settings.cacheLifetime = true)
    (hprompt : ∀ r ∈ registry, r.IsPrompt) :
    let p := fresh settings registry
    (∀ id, cacheKey id ≠ globalKey → p.Isolates id) ∧
      ((∀ id, p.Isolates id) ↔ ∀ r : ResolvedWeights, r.trained = true →
        ((p.resolve none).1 = .ok r ↔ (p.resolve (some globalKey)).1 = .ok r)) := by
  intro p
  refine ⟨fun id => isolates_of_key_ne settings registry hprompt, fun h r hr => ?_, fun h id => ?_⟩
  · rw [resolve_fresh, resolve_fresh]
    constructor
    · intro hg
      exact consult_eq_of_isolates settings registry hlife
        (trained?_eq_some.mpr ⟨hg, hr⟩) rfl (h (some globalKey))
    · intro hs
      exact consult_eq_of_isolates settings registry hlife
        (trained?_eq_some.mpr ⟨hs, hr⟩) rfl (h none)
  · by_cases hid : cacheKey id = globalKey
    · simp only [p, resolve_fresh] at h
      refine isolates_of_forall_live settings registry hprompt fun id' r hkey hr => ?_
      obtain ⟨hr, ht⟩ := trained?_eq_some.mp hr
      have hnone : (fresh settings registry).consult none = .ok r := by
        rcases consult_of_globalKey (fresh settings registry) (hkey.trans hid) with h' | h'
        · rwa [h'] at hr
        · rw [h'] at hr
          exact (h r ht).mpr hr
      rcases consult_of_globalKey (fresh settings registry) hid with h' | h'
      · rwa [h']
      · rw [h']
        exact (h r ht).mp hnone
    · exact isolates_of_key_ne settings registry hprompt hid

/-- A store without a model for the scholarship "global" isolates all requests. -/
theorem isolates_without_global_id :
    let store : ModelStore :=
      { models := [("s-1", .record [("accuracy", .real 0.8)])]
        global := .record [("accuracy", .real 0.75)] }
    let p := fresh {} (some store.toRegistry)
    (0 : Binary64).lt p.settings.cacheLifetime = true ∧ (∀ r ∈ p.registry, r.IsPrompt) ∧
      ∀ id, p.Isolates id := by
  intro store p
  have hlife : (0 : Binary64).lt p.settings.cacheLifetime = true := by decide +kernel
  have hprompt : ∀ r ∈ p.registry, r.IsPrompt := by
    intro r hr
    obtain rfl := Option.some.inj hr
    exact ModelStore.isPrompt_of_working rfl
  refine ⟨hlife, hprompt, ?_⟩
  refine (isolates_iff {} (some store.toRegistry) hlife hprompt).2.mpr fun r _ => ?_
  rw [resolve_fresh, resolve_fresh]
  exact Iff.rfl

/-- With a model for the scholarship "global" as well, a request without a scholarship makes that
scholarship get the model for all. -/
theorem not_isolates_global_id :
    let store : ModelStore :=
      { models := [("global", .record [("accuracy", .real 0.8)])]
        global := .record [("accuracy", .real 0.75)] }
    let p := fresh {} (some store.toRegistry)
    ((p.run [.request none]).resolve (some "global")).1.toOption.map (·.source) = some .global ∧
      (p.resolve (some "global")).1.toOption.map (·.source) = some .scholarship ∧
      ¬ p.Isolates (some "global") := by
  intro store p
  have hlater : ((p.run [.request none]).resolve (some "global")).1.toOption.map (·.source) =
      some .global := by decide +kernel
  have hfirst : (p.resolve (some "global")).1.toOption.map (·.source) = some .scholarship := by
    decide +kernel
  refine ⟨hlater, hfirst, fun h => ?_⟩
  have hsteps : ∀ s ∈ [Step.request none], s.KeepsStore := by simp [Step.KeepsStore]
  rw [h [.request none] hsteps, hfirst] at hlater
  cases hlater

end Provider

end Bursary
