import Bursary.Proofs.Binary64.Sum
import Bursary.Proofs.Provider.Run

/-! How long the cache answers. An observer who notes when the store was asked and what it gave
can tell without looking into the cache which answer it holds for a key: the last trained one
since the cache was cleared, for as long as an entry lives. What the store gives out of time is
never among them. Whether the store is asked for want of such an answer depends on the workers. -/

namespace Bursary.Provider

/-! ### What an observer notes -/

/-- What is seen of a provider from outside. -/
inductive Event where
  /-- A request with a key was answered at a time after so many questions to the store. -/
  | answered (key : String) (time : Binary64) (questions : Nat)
      (answer : Except Failure ResolvedWeights)
  | cleared

def observe (p : Provider) : Step → Option Event
  | .request id =>
    let (answer, next) := p.resolve id
    some (.answered (cacheKey id) p.now (next.calls - p.calls) answer)
  | .clear => some .cleared
  | .isCached _ | .advance _ | .change _ | .release _ => none

def events (p : Provider) : List Step → List Event
  | [] => []
  | s :: ss => (p.observe s).toList ++ (p.after s).events ss

/-- A trained answer of the store and the time when it was given. -/
structure Stored where
  answer : ResolvedWeights
  time : Binary64

/-- The last stored answer for a key after one more event. -/
def note (key : String) (last : Option Stored) : Event → Option Stored
  | .answered key' time questions answer =>
    if key' = key ∧ 0 < questions then ((trained? answer).map (⟨·, time⟩)).or last else last
  | .cleared => none

/-- The last trained answer that the store gave to a request with a key, unless the cache was
cleared since. -/
def lastStored (key : String) (es : List Event) : Option Stored := es.foldl (note key) none

/-- Whether an answer is still good at a time. -/
def Stored.IsLive (s : Stored) (lifetime now : Binary64) : Prop :=
  now.lt (s.time + lifetime) = true

/-! ### The cache agrees with the notes -/

/-- The cache of a provider agrees with the last stored answer for a key. -/
structure Remembers (p : Provider) (key : String) (last : Option Stored) : Prop where
  entry : ∀ e, p.cache.find? key = some e →
    ∃ s, last = some s ∧ e = ⟨s.answer, s.time + p.cache.lifetime⟩
  missing : ∀ s, last = some s → p.cache.find? key = none → ¬ s.IsLive p.cache.lifetime p.now

namespace Remembers

variable {p : Provider} {key : String} {last : Option Stored}

theorem of_empty (h : p.cache.entries = []) : p.Remembers key none where
  entry e he := by
    rw [Cache.find?, h] at he
    cases he
  missing s hs := nomatch hs

/-- The last stored answer is what the cache answers with, for as long as it is good. -/
theorem live_iff (h : p.Remembers key last) {r : ResolvedWeights} :
    p.cache.live? p.now key = some r ↔
      ∃ s, last = some s ∧ s.IsLive p.cache.lifetime p.now ∧ s.answer = r := by
  rw [Cache.live?_eq_some]
  constructor
  · rintro ⟨expiry, hf, hb⟩
    obtain ⟨s, hs, he⟩ := h.entry _ hf
    cases he
    exact ⟨s, hs, hb, rfl⟩
  · rintro ⟨s, hs, hlive, rfl⟩
    cases hf : p.cache.find? key with
    | none => exact absurd hlive (h.missing s hs hf)
    | some e =>
      obtain ⟨s', hs', rfl⟩ := h.entry e hf
      cases hs.symm.trans hs'
      exact ⟨_, rfl, hlive⟩

theorem not_isLive (h : p.Remembers key last) (hl : p.cache.live? p.now key = none) {s : Stored}
    (hs : last = some s) : ¬ s.IsLive p.cache.lifetime p.now := by
  intro hlive
  rw [h.live_iff.mpr ⟨s, hs, hlive, rfl⟩] at hl
  cases hl

/-- Another provider with the same entry under the key, and no earlier clock. -/
theorem of_find?_eq (h : p.Remembers key last) {q : Provider}
    (hfind : q.cache.find? key = p.cache.find? key)
    (hlife : q.cache.lifetime = p.cache.lifetime)
    (hnow : ∀ t, p.now.lt t = false → q.now.lt t = false) : q.Remembers key last where
  entry e he := by
    rw [hlife]
    exact h.entry e (hfind ▸ he)
  missing s hs hf hlive := by
    rw [hlife] at hlive
    have hp := h.missing s hs (hfind ▸ hf)
    rw [Stored.IsLive, Bool.not_eq_true] at hp
    rw [Stored.IsLive, hnow _ hp] at hlive
    cases hlive

/-- Dropping an entry that is not live does no harm. -/
theorem of_not_live (h : p.Remembers key last) (hl : p.cache.live? p.now key = none)
    {q : Provider} (hfind : q.cache.find? key = none) (hlife : q.cache.lifetime = p.cache.lifetime)
    (hnow : q.now = p.now) : q.Remembers key last where
  entry e he := by
    rw [hfind] at he
    cases he
  missing s hs _ := by
    rw [hlife, hnow]
    exact h.not_isLive hl hs

/-- A hit asks nothing and changes nothing, so there is nothing to note. -/
theorem hit (h : p.Remembers key last) {id : Option String} {r : ResolvedWeights}
    (hl : p.live? id = some r) :
    (p.after (.request id)).Remembers key
      ((p.observe (.request id)).toList.foldl (note key) last) := by
  simp only [after, observe, resolve_of_live hl, Nat.sub_self, Option.toList_some,
    List.foldl_cons, List.foldl_nil, note, Nat.lt_irrefl, and_false, ↓reduceIte]
  exact h

/-- A miss leaves an entry under its key exactly if there is a trained answer to note. -/
theorem miss (h : p.Remembers key last) {id : Option String} (hl : p.live? id = none) :
    (p.after (.request id)).Remembers key
      ((p.observe (.request id)).toList.foldl (note key) last) := by
  have hfind := p.find?_afterMiss id key
  simp only [after, observe, resolve_of_not_live hl, Nat.add_sub_cancel_left, Option.toList_some,
    List.foldl_cons, List.foldl_nil, note]
  by_cases hkey : key = cacheKey id
  · subst hkey
    rw [if_pos rfl] at hfind
    cases hr : trained? (p.consult id) with
    | none =>
      rw [hr] at hfind
      simp only [Option.map_none, Option.none_or, ite_self]
      exact h.of_not_live hl hfind (p.lifetime_afterMiss id) rfl
    | some r =>
      rw [hr] at hfind
      rw [if_pos ⟨rfl, questions_pos_of_trained hr⟩, Option.map_some, Option.some_or]
      refine ⟨fun e he => ?_, fun s _ hnone => ?_⟩
      · cases hfind.symm.trans he
        exact ⟨_, rfl, by rw [lifetime_afterMiss]⟩
      · cases hfind.symm.trans hnone
  · rw [if_neg hkey] at hfind
    rw [if_neg fun h => hkey h.1.symm]
    exact h.of_find?_eq hfind (p.lifetime_afterMiss id) fun _ ht => ht

theorem after (h : p.Remembers key last) {s : Step} (hs : s.IsForward) :
    (p.after s).Remembers key ((p.observe s).toList.foldl (note key) last) := by
  cases s with
  | request id =>
    cases hl : p.live? id with
    | some r => exact h.hit hl
    | none => exact h.miss hl
  | isCached id =>
    rw [after_isCached]
    cases hl : p.live? id with
    | some r => exact h
    | none =>
      have hfind := p.cache.find?_erase (cacheKey id) key
      by_cases hkey : key = cacheKey id
      · subst hkey
        rw [if_pos rfl] at hfind
        exact h.of_not_live hl hfind rfl rfl
      · rw [if_neg hkey] at hfind
        exact h.of_find?_eq hfind rfl fun _ ht => ht
  | clear => exact of_empty rfl
  | advance seconds => exact h.of_find?_eq rfl rfl fun _ ht => Binary64.add_lt_eq_false ht hs
  | change registry => exact h.of_find?_eq rfl rfl fun _ ht => ht
  | release questions =>
    obtain ⟨calls, waiting, queue, hrelease⟩ := p.release_frame questions
    rw [Provider.after, hrelease]
    exact h.of_find?_eq rfl rfl fun _ ht => ht

theorem run {steps : List Step} (hs : ∀ s ∈ steps, s.IsForward) (h : p.Remembers key last) :
    (p.run steps).Remembers key ((p.events steps).foldl (note key) last) := by
  induction steps generalizing p last with
  | nil => exact h
  | cons s ss ih =>
    rw [List.forall_mem_cons] at hs
    rw [run_cons, events, List.foldl_append]
    exact ih hs.2 (h.after hs.1)

end Remembers

/-- After any run of a provider whose cache was empty, a request is answered by the last trained
answer that was stored for its key, if that is still good, and nothing changes. Otherwise the store
is asked, if a worker is free, and in any case what the request is answered is kept exactly if it is
trained. -/
theorem resolve_after_run (p : Provider) (hp : p.cache.entries = []) (steps : List Step)
    (hs : ∀ s ∈ steps, s.IsForward) (id : Option String) :
    let q := p.run steps
    let last := lastStored (cacheKey id) (p.events steps)
    let answer := (q.resolve id).1
    let next := (q.resolve id).2
    (∀ s, last = some s → s.IsLive p.cache.lifetime q.now → answer = .ok s.answer ∧ next = q) ∧
      ((∀ s, last = some s → ¬ s.IsLive p.cache.lifetime q.now) →
        (∀ registry, q.registry = some registry → q.waiting < workers →
          answer = settle p.settings (registry.fetch (asked id)).1 ∧
            next.calls = q.calls + (registry.fetch (asked id)).2 ∧ q.calls < next.calls) ∧
        (q.registry = none → answer = .ok .fallback ∧ next.calls = q.calls) ∧
        ∀ key, next.cache.find? key =
          if key = cacheKey id then (trained? answer).map (⟨·, q.now + p.cache.lifetime⟩)
          else q.cache.find? key) := by
  intro q last answer next
  have hR : q.Remembers (cacheKey id) last := (Remembers.of_empty hp).run hs
  have hlife : q.cache.lifetime = p.cache.lifetime := p.lifetime_run steps
  have hsettings : q.settings = p.settings := p.settings_run steps
  rw [← hlife]
  cases hl : q.live? id with
  | some r =>
    obtain ⟨s, hlast, hlive, rfl⟩ := hR.live_iff.mp hl
    have hhit : q.resolve id = (.ok s.answer, q) := resolve_of_live hl
    refine ⟨fun s' hs' _ => ?_, fun h => absurd hlive (h s hlast)⟩
    cases hlast.symm.trans hs'
    exact ⟨congrArg Prod.fst hhit, congrArg Prod.snd hhit⟩
  | none =>
    simp only [answer, next, resolve_of_not_live hl]
    refine ⟨fun s hlast hlive => absurd hlive (hR.not_isLive hl hlast), fun _ => ⟨?_, ?_, ?_⟩⟩
    · intro registry hr hworker
      have hreach : q.reachable? = some registry := reachable?_eq_some.mpr ⟨hr, hworker⟩
      rw [questions_of_reachable hreach, consult, hreach, ← hsettings]
      exact ⟨rfl, rfl, Nat.lt_add_of_pos_right (registry.fetch_asks _)⟩
    · intro hr
      have hreach : q.reachable? = none := by rw [reachable?, hr, Option.filter_none]
      rw [questions, consult, hreach]
      exact ⟨rfl, rfl⟩
    · exact q.find?_afterMiss id

/-- Within the lifetime the model that was fetched still answers when the store has failed since,
although another scholarship's request in between met the failure. -/
theorem resolve_of_failing_store :
    let store : ModelStore := { models := [("s-1", .record [("accuracy", .real 0.8)])] }
    let failing : ModelStore := { state := .failing }
    let p := fresh {} (some store.toRegistry)
    let steps : List Step := [.request (some "s-1"), .change failing.toRegistry, .advance 299,
      .request (some "s-2")]
    let answer := ((p.run steps).resolve (some "s-1")).1
    let next := ((p.run steps).resolve (some "s-1")).2
    p.cache.entries = [] ∧ (∀ s ∈ steps, s.IsForward) ∧
      ∃ r, answer = .ok r ∧ r.source = .scholarship ∧ next.calls = 2 := by
  intro store failing p steps answer next
  have hs : ∀ s ∈ steps, s.IsForward := by
    simp only [steps, List.mem_cons, List.not_mem_nil, or_false, forall_eq_or_imp, forall_eq,
      Step.IsForward, true_and, and_true]
    decide +kernel
  have hlast : (lastStored "s-1" (p.events steps)).map (fun s => (s.time, s.answer.source)) =
      some (0, .scholarship) := by decide +kernel
  simp only [Option.map_eq_some_iff, Prod.mk.injEq] at hlast
  obtain ⟨s, hlast, htime, hsource⟩ := hlast
  have hlive : s.IsLive p.cache.lifetime (p.run steps).now := by
    rw [Stored.IsLive, htime]
    decide +kernel
  have hcalls : (p.run steps).calls = 2 := by decide +kernel
  obtain ⟨hanswer, hnext⟩ := (resolve_after_run p rfl steps hs (some "s-1")).1 s hlast hlive
  exact ⟨rfl, hs, s.answer, hanswer, hsource, (congrArg Provider.calls hnext).trans hcalls⟩

/-- A request that no live answer meets may not reach the store, and if it does it may get no answer.
Four requests wait for a store that does not answer, so that nobody asks for the fifth, although the
store answers by now and has a trained model for it. And the id of a model that was found has too
many digits for a text. -/
theorem resolve_unanswered_by_store :
    let stalled : ModelStore := { state := .stalled }
    let store : ModelStore := { models := [("s-1", .record [("accuracy", .real 0.8)])] }
    let p := fresh {} (some stalled.toRegistry)
    let steps : List Step := [.request none, .request none, .request none, .request none,
      .change store.toRegistry]
    let q := p.run steps
    let long : ModelStore := { models := [("s-1", .record [("accuracy", .real 0.9),
      ("weights", .record []), ("id", .whole (Int.ofNat (Nat.pow 10 5000)))])] }
    let r := fresh {} (some long.toRegistry)
    (lastStored "s-1" (p.events steps) = none ∧
        ((settle q.settings (store.toRegistry.fetch (some "s-1")).1).toOption.map (·.trained) =
          some true) ∧
        (q.resolve (some "s-1")).1 = .ok .fallback ∧
        (q.resolve (some "s-1")).2.calls = q.calls) ∧
      lastStored "s-1" (r.events []) = none ∧
        (r.resolve (some "s-1")).1.toOption = none ∧ (r.resolve (some "s-1")).2.calls = 1 := by
  intro stalled store p steps q long r
  have hlast : lastStored "s-1" (p.events steps) = none :=
    Option.isNone_iff_eq_none.mp (by decide +kernel)
  have hlive : q.live? (some "s-1") = none := Option.isNone_iff_eq_none.mp (by decide +kernel)
  have hqueued := resolve_without_worker hlive (by decide +kernel) (by decide +kernel)
  have hunanswered : (r.resolve (some "s-1")).1.toOption = none :=
    Option.isNone_iff_eq_none.mp (by decide +kernel)
  refine ⟨⟨hlast, by decide +kernel, congrArg Prod.fst hqueued, ?_⟩, rfl, hunanswered,
    by decide +kernel⟩
  rw [hqueued]

end Bursary.Provider
