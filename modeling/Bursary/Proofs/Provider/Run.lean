import Bursary.Model.Provider

/-! Runs of a provider. A request is answered from the cache, which it leaves alone, or by having a
worker ask the store, and then what comes back is kept exactly if it is trained. Every other fact
on runs is drawn from this account of one request. What the store answers after a request was out
of time changes nothing but the workers and what they ask. -/

namespace Bursary

/-! ### Entries that answer -/

namespace Cache

variable {τ α : Type} [Clock τ]

/-- The value that a key answers with at a time. -/
def live? (c : Cache τ α) (now : τ) (key : String) : Option α :=
  ((c.find? key).filter fun e => Clock.before now e.expiry).map (·.value)

theorem live?_eq_some {c : Cache τ α} {now : τ} {key : String} {v : α} :
    c.live? now key = some v ↔
      ∃ expiry, c.find? key = some ⟨v, expiry⟩ ∧ Clock.before now expiry = true := by
  simp only [live?, Option.map_eq_some_iff, Option.filter_eq_some_iff]
  constructor
  · rintro ⟨e, ⟨hf, hb⟩, rfl⟩
    exact ⟨e.expiry, hf, hb⟩
  · rintro ⟨expiry, hf, hb⟩
    exact ⟨⟨v, expiry⟩, ⟨hf, hb⟩, rfl⟩

omit [Clock τ] in
theorem erase_of_find?_eq_none {c : Cache τ α} {key : String} (h : c.find? key = none) :
    c.erase key = c := by
  unfold erase
  congr
  rw [List.filter_eq_self]
  intro e he
  rw [find?, List.lookup_eq_none_iff] at h
  simpa [bne, Bool.beq_comm] using h e he

theorem get_of_live {c : Cache τ α} {now : τ} {key : String} {v : α}
    (h : c.live? now key = some v) : c.get now key = (some v, c) := by
  obtain ⟨expiry, hf, hb⟩ := live?_eq_some.mp h
  simp only [get, hf, hb, ↓reduceIte]

theorem get_of_not_live {c : Cache τ α} {now : τ} {key : String} (h : c.live? now key = none) :
    c.get now key = (none, c.erase key) := by
  unfold get
  unfold live? at h
  split
  case h_1 hf => rw [erase_of_find?_eq_none hf]
  case h_2 e hf =>
    rw [hf] at h
    rw [if_neg]
    intro hb
    simp [hb] at h

end Cache

/-- An answer that is given by a trained model. -/
def trained? : Except Failure ResolvedWeights → Option ResolvedWeights
  | .ok r => if r.trained then some r else none
  | .error _ => none

theorem trained?_eq_some {answer : Except Failure ResolvedWeights} {r : ResolvedWeights} :
    trained? answer = some r ↔ answer = .ok r ∧ r.trained = true := by
  cases answer with
  | error f => simp [trained?]
  | ok s =>
    by_cases h : s.trained = true <;> simp only [trained?, h] <;> grind

theorem Registry.fetch_asks (registry : Registry) (id : Option String) :
    0 < (registry.fetch id).2 := by
  unfold fetch
  split
  · exact Nat.one_pos
  · split
    · split <;> exact Nat.succ_pos _
    · exact Nat.one_pos
    · exact Nat.one_pos

namespace Provider

/-! ### One request -/

/-- What is live in the cache for a request. -/
def live? (p : Provider) (id : Option String) : Option ResolvedWeights :=
  p.cache.live? p.now (cacheKey id)

/-- The store, if there is one and a worker to ask it. -/
def reachable? (p : Provider) : Option Registry := p.registry.filter fun _ => p.waiting < workers

theorem reachable?_eq_some {p : Provider} {registry : Registry} :
    p.reachable? = some registry ↔ p.registry = some registry ∧ p.waiting < workers := by
  rw [reachable?, Option.filter_eq_some_iff, decide_eq_true_iff]

theorem reachable?_eq_none {p : Provider} (h : workers ≤ p.waiting) : p.reachable? = none := by
  rw [reachable?, Option.filter_eq_none_iff]
  exact fun _ _ => by simpa using h

/-- The answer of the store to a request, the neutral one if it cannot be asked. -/
def consult (p : Provider) (id : Option String) : Except Failure ResolvedWeights :=
  match p.reachable? with
  | none => .ok .fallback
  | some registry => settle p.settings (registry.fetch (asked id)).1

/-- How often the store is asked for it. -/
def questions (p : Provider) (id : Option String) : Nat :=
  (p.reachable?.map fun registry => (registry.fetch (asked id)).2).getD 0

/-- How many workers wait for the store once a request has gone past the cache. -/
def waitingAfter (p : Provider) (id : Option String) : Nat :=
  match p.reachable? with
  | none => p.waiting
  | some registry =>
    if (registry.fetch (asked id)).1.isLate then p.waiting + 1 else p.waiting

/-- The queue by then. It takes up the request if there is a store and no worker to ask it. -/
def queueAfter (p : Provider) (id : Option String) : List (Option String) :=
  if p.registry.isSome ∧ workers ≤ p.waiting then p.queue ++ [asked id] else p.queue

theorem questions_of_reachable {p : Provider} {registry : Registry}
    (h : p.reachable? = some registry) (id : Option String) :
    p.questions id = (registry.fetch (asked id)).2 := by
  rw [questions, h]
  rfl

/-- There is no trained answer of a store that is not asked. -/
theorem questions_pos_of_trained {p : Provider} {id : Option String} {r : ResolvedWeights}
    (h : trained? (p.consult id) = some r) : 0 < p.questions id := by
  cases hr : p.reachable? with
  | none =>
    rw [consult, hr] at h
    cases h
  | some registry =>
    rw [questions_of_reachable hr]
    exact registry.fetch_asks _

theorem resolve_of_live {p : Provider} {id : Option String} {r : ResolvedWeights}
    (h : p.live? id = some r) : p.resolve id = (.ok r, p) := by
  simp only [resolve, Cache.get_of_live h]

/-- The cache once a request has gone past it. -/
def afterMiss (p : Provider) (id : Option String) : Cache Binary64 ResolvedWeights :=
  match trained? (p.consult id) with
  | some r => (p.cache.erase (cacheKey id)).set p.now (cacheKey id) r
  | none => p.cache.erase (cacheKey id)

theorem resolve_of_not_live {p : Provider} {id : Option String} (h : p.live? id = none) :
    p.resolve id = (p.consult id, { p with
      cache := p.afterMiss id
      calls := p.calls + p.questions id
      waiting := p.waitingAfter id
      queue := p.queueAfter id }) := by
  obtain ⟨settings, registry, cache, now, calls, waiting, queue⟩ := p
  simp only [resolve, Cache.get_of_not_live h, consult, questions, afterMiss, waitingAfter,
    queueAfter]
  cases registry with
  | none => rfl
  | some registry =>
    by_cases hworker : waiting < workers
    · have hreach : reachable? ⟨settings, some registry, cache, now, calls, waiting, queue⟩ =
          some registry := reachable?_eq_some.mpr ⟨rfl, hworker⟩
      have hqueue : ¬((some registry).isSome = true ∧ workers ≤ waiting) := by omega
      simp only [hreach, if_neg hqueue, ask, if_pos hworker, fetch, Option.map_some,
        Option.getD_some]
      cases settle settings (registry.fetch (asked id)).1 with
      | error f => rfl
      | ok r => by_cases hr : r.trained = true <;> simp [keep, trained?, hr]
    · have hreach : reachable? ⟨settings, some registry, cache, now, calls, waiting, queue⟩ =
          none := reachable?_eq_none (Nat.le_of_not_lt hworker)
      have hqueue : (some registry).isSome = true ∧ workers ≤ waiting :=
        ⟨rfl, Nat.le_of_not_lt hworker⟩
      simp only [hreach, if_pos hqueue, ask, if_neg hworker]
      rfl

/-- While all workers wait for the store, it cannot be asked, and the request has to queue. -/
theorem resolve_without_worker {p : Provider} {id : Option String} (h : p.live? id = none)
    (hregistry : p.registry.isSome = true) (hworkers : workers ≤ p.waiting) :
    p.resolve id = (.ok .fallback, { p with
      cache := p.cache.erase (cacheKey id)
      queue := p.queue ++ [asked id] }) := by
  have hreach : p.reachable? = none := reachable?_eq_none hworkers
  rw [resolve_of_not_live h, queueAfter, if_pos ⟨hregistry, hworkers⟩]
  simp only [consult, questions, waitingAfter, afterMiss, hreach]
  rfl

theorem find?_afterMiss (p : Provider) (id : Option String) (key : String) :
    (p.afterMiss id).find? key =
      if key = cacheKey id then
        (trained? (p.consult id)).map (⟨·, p.now + p.cache.lifetime⟩)
      else p.cache.find? key := by
  unfold afterMiss
  cases trained? (p.consult id) with
  | none => rw [Cache.find?_erase]; rfl
  | some r =>
    show ((p.cache.erase _).put _ _ _).find? key = _
    rw [Cache.find?_put, Cache.find?_erase]
    by_cases h : key = cacheKey id
    · rw [if_pos h, if_pos h]
      rfl
    · rw [if_neg h, if_neg h, if_neg h]

@[simp] theorem lifetime_afterMiss (p : Provider) (id : Option String) :
    (p.afterMiss id).lifetime = p.cache.lifetime := by
  unfold afterMiss
  split <;> rfl

/-! ### Steps -/

/-- What can happen to a provider. -/
inductive Step where
  | request (id : Option String)
  | isCached (id : Option String)
  | clear
  | advance (seconds : Binary64)
  /-- The store changes: its models, or whether and how it answers. -/
  | change (registry : Registry)
  /-- The store is done with a request that was out of time. -/
  | release (questions : Nat)

namespace Step

/-- Time does not run backwards in a step. -/
def IsForward : Step → Prop
  | advance seconds => seconds.lt 0 = false
  | _ => True

/-- The store stays as it is in a step. -/
def KeepsStore : Step → Prop
  | change _ => False
  | _ => True

end Step

def after (p : Provider) : Step → Provider
  | .request id => (p.resolve id).2
  | .isCached id => (p.isCached id).2
  | .clear => p.clear
  | .advance seconds => p.advance seconds
  | .change registry => { p with registry := p.registry.map fun _ => registry }
  | .release questions => p.release questions

def run (p : Provider) (steps : List Step) : Provider := steps.foldl after p

@[simp] theorem run_nil (p : Provider) : p.run [] = p := rfl

@[simp] theorem run_cons (p : Provider) (s : Step) (ss : List Step) :
    p.run (s :: ss) = (p.after s).run ss := rfl

/-- An invariant of steps of a kind is one of runs of such steps. -/
theorem run_induction {Inv : Provider → Prop} {Kind : Step → Prop}
    (step : ∀ p s, Kind s → Inv p → Inv (p.after s)) {p : Provider} {steps : List Step}
    (hs : ∀ s ∈ steps, Kind s) (hp : Inv p) : Inv (p.run steps) := by
  induction steps generalizing p with
  | nil => exact hp
  | cons s ss ih =>
    rw [List.forall_mem_cons] at hs
    exact ih hs.2 (step p s hs.1 hp)

/-- Looking whether something is cached drops the entry if it has expired, and does nothing
else. -/
theorem after_isCached (p : Provider) (id : Option String) :
    p.after (.isCached id) =
      { p with cache := if (p.live? id).isSome then p.cache else p.cache.erase (cacheKey id) } := by
  simp only [after, isCached, Cache.isCached]
  cases h : p.live? id with
  | none => rw [Cache.get_of_not_live h]; rfl
  | some r => rw [Cache.get_of_live h]; rfl

theorem serve_frame (p : Provider) (registry : Registry) (queue : List (Option String)) :
    ∃ calls waiting left, p.serve registry queue = { p with calls, waiting, queue := left } := by
  induction queue generalizing p with
  | nil => exact ⟨_, _, _, rfl⟩
  | cons id rest ih =>
    rw [serve]
    dsimp only
    split
    · exact ⟨_, _, _, rfl⟩
    · obtain ⟨calls, waiting, left, h⟩ := ih (p.fetch registry id).2
      exact ⟨calls, waiting, left, h⟩

/-- What comes from the store out of time is not kept and answers nobody. -/
theorem release_frame (p : Provider) (questions : Nat) :
    ∃ calls waiting queue, p.release questions = { p with calls, waiting, queue } := by
  unfold release
  split
  · exact ⟨_, _, _, rfl⟩
  · dsimp only
    split
    · exact ⟨_, _, _, rfl⟩
    · obtain ⟨calls, waiting, queue, h⟩ :=
        serve_frame { p with waiting := p.waiting - 1, calls := p.calls + questions } ‹_› p.queue
      exact ⟨calls, waiting, queue, h⟩

/-! ### What a step leaves alone -/

theorem settings_after (p : Provider) (s : Step) : (p.after s).settings = p.settings := by
  cases s with
  | request id =>
    cases h : p.live? id with
    | some r => rw [after, resolve_of_live h]
    | none => rw [after, resolve_of_not_live h]
  | isCached id => rw [after_isCached]
  | clear => rfl
  | advance seconds => rfl
  | change registry => rfl
  | release questions =>
    obtain ⟨calls, waiting, queue, h⟩ := p.release_frame questions
    rw [after, h]

theorem registry_after (p : Provider) {s : Step} (hs : s.KeepsStore) :
    (p.after s).registry = p.registry := by
  cases s with
  | request id =>
    cases h : p.live? id with
    | some r => rw [after, resolve_of_live h]
    | none => rw [after, resolve_of_not_live h]
  | isCached id => rw [after_isCached]
  | clear => rfl
  | advance seconds => rfl
  | change registry => exact hs.elim
  | release questions =>
    obtain ⟨calls, waiting, queue, h⟩ := p.release_frame questions
    rw [after, h]

theorem lifetime_after (p : Provider) (s : Step) :
    (p.after s).cache.lifetime = p.cache.lifetime := by
  cases s with
  | request id =>
    cases h : p.live? id with
    | some r => rw [after, resolve_of_live h]
    | none => rw [after, resolve_of_not_live h, lifetime_afterMiss]
  | isCached id =>
    rw [after_isCached]
    split <;> rfl
  | clear => rfl
  | advance seconds => rfl
  | change registry => rfl
  | release questions =>
    obtain ⟨calls, waiting, queue, h⟩ := p.release_frame questions
    rw [after, h]

theorem lifetime_run (p : Provider) (steps : List Step) :
    (p.run steps).cache.lifetime = p.cache.lifetime := by
  induction steps generalizing p with
  | nil => rfl
  | cons s ss ih => rw [run_cons, ih, lifetime_after]

theorem settings_run (p : Provider) (steps : List Step) :
    (p.run steps).settings = p.settings := by
  induction steps generalizing p with
  | nil => rfl
  | cons s ss ih => rw [run_cons, ih, settings_after]

/-! ### Workers -/

/-- No more workers wait than there are, and requests queue only while all of them wait. -/
structure Staffed (p : Provider) : Prop where
  waiting : p.waiting ≤ workers
  queue : p.queue ≠ [] → p.registry.isSome = true ∧ p.waiting = workers

namespace Staffed

variable {p : Provider}

theorem queue_eq_nil (h : p.Staffed) (hworker : p.waiting < workers) : p.queue = [] :=
  Classical.byContradiction fun hqueue => Nat.ne_of_lt hworker (h.queue hqueue).2

/-- A worker that alone is free takes requests from the queue until one of them makes it wait again,
or none is left. -/
theorem serve (registry : Registry) (queue : List (Option String))
    (hregistry : p.registry.isSome = true) (hwaiting : p.waiting + 1 = workers) :
    (p.serve registry queue).Staffed := by
  induction queue generalizing p with
  | nil => exact ⟨hwaiting ▸ Nat.le_succ _, fun h => absurd rfl h⟩
  | cons id rest ih =>
    rw [Provider.serve]
    dsimp only
    split
    case isTrue hlate =>
      have hfull : (p.fetch registry id).2.waiting = workers := (if_pos hlate).trans hwaiting
      exact ⟨Nat.le_of_eq hfull, fun _ => ⟨hregistry, hfull⟩⟩
    case isFalse hlate =>
      have hfree : (p.fetch registry id).2.waiting + 1 = workers := by
        rw [← hwaiting]
        exact congrArg (· + 1) (if_neg hlate)
      exact ih hregistry hfree

theorem release (h : p.Staffed) (questions : Nat) : (p.release questions).Staffed := by
  unfold Provider.release
  split
  · exact h
  case isFalse hpos =>
    have hwaiting := h.waiting
    dsimp only
    cases hr : p.registry with
    | none =>
      refine ⟨Nat.le_trans (Nat.sub_le _ _) hwaiting, fun hqueue => ?_⟩
      have hregistry := (h.queue hqueue).1
      rw [hr] at hregistry
      cases hregistry
    | some registry =>
      by_cases hfull : p.waiting = workers
      · exact serve registry p.queue rfl (by dsimp only; omega)
      · rw [h.queue_eq_nil (by omega)]
        exact ⟨Nat.le_trans (Nat.sub_le _ _) hwaiting, fun hqueue => absurd rfl hqueue⟩

theorem resolve (h : p.Staffed) (id : Option String) : (p.resolve id).2.Staffed := by
  cases hl : p.live? id with
  | some r =>
    rw [resolve_of_live hl]
    exact h
  | none =>
    rw [resolve_of_not_live hl]
    by_cases hworker : p.waiting < workers
    · have hqueue : p.queueAfter id = [] := by
        rw [queueAfter, if_neg (by omega), h.queue_eq_nil hworker]
      refine ⟨?_, fun hne => absurd hqueue hne⟩
      show p.waitingAfter id ≤ workers
      unfold waitingAfter
      split
      · exact h.waiting
      · split <;> omega
    · have hwaiting : p.waitingAfter id = workers := by
        rw [waitingAfter, reachable?_eq_none (Nat.le_of_not_lt hworker)]
        exact Nat.le_antisymm h.waiting (Nat.le_of_not_lt hworker)
      refine ⟨Nat.le_of_eq hwaiting, fun hne => ⟨?_, hwaiting⟩⟩
      by_cases hregistry : p.registry.isSome = true
      · exact hregistry
      · rw [queueAfter, if_neg fun h => hregistry h.1] at hne
        exact (h.queue hne).1

theorem after (h : p.Staffed) (s : Step) : (p.after s).Staffed := by
  cases s with
  | request id => exact h.resolve id
  | isCached id =>
    rw [after_isCached]
    exact ⟨h.waiting, h.queue⟩
  | clear => exact ⟨h.waiting, h.queue⟩
  | advance seconds => exact ⟨h.waiting, h.queue⟩
  | change registry =>
    refine ⟨h.waiting, fun hqueue => ?_⟩
    rw [Provider.after, Option.isSome_map]
    exact h.queue hqueue
  | release questions => exact h.release questions

end Staffed

/-- However a provider is used, it never leaves a request in the queue while a worker is free. -/
theorem staffed_run (settings : Settings) (registry : Option Registry) (steps : List Step) :
    ((fresh settings registry).run steps).Staffed := by
  have hfresh : (fresh settings registry).Staffed :=
    ⟨Nat.zero_le _, fun hqueue => absurd rfl hqueue⟩
  exact run_induction (fun _ s (_ : True) h => h.after s) (fun _ _ => trivial) hfresh

/-! ### What the cache holds -/

/-- Every entry of the cache has a property, which may depend on its key. -/
def Holds (p : Provider) (Good : String → ResolvedWeights → Prop) : Prop :=
  ∀ key e, p.cache.find? key = some e → Good key e.value

namespace Holds

variable {p : Provider} {Good : String → ResolvedWeights → Prop}

theorem of_empty (h : p.cache.entries = []) : p.Holds Good := by
  intro key e he
  rw [Cache.find?, h] at he
  cases he

theorem erase (h : p.Holds Good) (key : String) :
    Holds { p with cache := p.cache.erase key } Good := by
  intro k e he
  rw [Cache.find?_erase] at he
  split at he
  · cases he
  · exact h k e he

/-- What answers a request from the cache has the property of its key. -/
theorem of_live (h : p.Holds Good) {id : Option String} {r : ResolvedWeights}
    (hl : p.live? id = some r) : Good (cacheKey id) r := by
  obtain ⟨expiry, hf, -⟩ := Cache.live?_eq_some.mp hl
  exact h _ _ hf

/-- A request adds an entry only for a trained answer of the store. -/
theorem resolve (h : p.Holds Good)
    (hGood : ∀ id r, trained? (p.consult id) = some r → Good (cacheKey id) r)
    (id : Option String) : (p.resolve id).2.Holds Good := by
  cases hl : p.live? id with
  | some r =>
    rw [resolve_of_live hl]
    exact h
  | none =>
    rw [resolve_of_not_live hl]
    intro key e he
    rw [find?_afterMiss] at he
    split at he
    case isTrue hkey =>
      obtain ⟨r, hr, rfl⟩ := Option.map_eq_some_iff.mp he
      rw [hkey]
      exact hGood id r hr
    case isFalse => exact h key e he

theorem after (h : p.Holds Good)
    (hGood : ∀ id r, trained? (p.consult id) = some r → Good (cacheKey id) r) (s : Step) :
    (p.after s).Holds Good := by
  cases s with
  | request id => exact h.resolve hGood id
  | isCached id =>
    rw [after_isCached]
    split
    · exact h
    · exact h.erase _
  | clear => exact of_empty rfl
  | advance seconds => exact h
  | change registry => exact h
  | release questions =>
    obtain ⟨calls, waiting, queue, hrelease⟩ := p.release_frame questions
    rw [Provider.after, hrelease]
    exact h

end Holds

end Provider

end Bursary
