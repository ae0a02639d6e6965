import Mathlib.Data.Set.Card
import Mathlib.Data.Set.Finite.Lattice
import Bursary.Proofs.Outcome
import Bursary.Proofs.Provider.Run

/-! The cache and its history. Whatever is done with a cache, and however its clock moves, its
answers are told by what was done: a key is answered with the value that was last stored under it
since the cache was cleared, if the clock is before the expiry now and was so at every lookup of the
key since. A lookup that finds it expired drops the entry for good, also if the clock is then set
back. So the size of the cache is the number of keys that were stored less those that a lookup has
found expired since. -/

namespace Bursary

/-- A scale of time on which some time after a moment can be told, if sums do not fail. -/
class Deadline (τ : Type) where
  deadline : τ → τ → Except Failure τ

instance : Deadline Binary64 := ⟨fun now lifetime => .ok (now + lifetime)⟩

instance : Deadline Quantity := ⟨Quantity.plus⟩

namespace Cache

/-! ### Operations -/

inductive Operation (α : Type) where
  | set (key : String) (value : α)
  | get (key : String)
  | isCached (key : String)
  | clear

/-- An operation, and the time that the clock then shows. -/
structure Event (τ α : Type) where
  time : τ
  operation : Operation α

variable {τ α : Type}

/-- An empty cache. -/
def fresh (lifetime : τ) : Cache τ α := { lifetime }

/-- Stores a value by any scale of time. -/
def store [Deadline τ] (c : Cache τ α) (now : τ) (key : String) (value : α) :
    Except Failure (Cache τ α) := do
  return c.put key value (← Deadline.deadline now c.lifetime)

theorem store_eq_set (c : Cache Binary64 α) (now : Binary64) (key : String) (value : α) :
    c.store now key value = .ok (c.set now key value) := rfl

theorem store_eq_setExact (c : Cache Quantity α) (now : Quantity) (key : String) (value : α) :
    c.store now key value = c.setExact now key value := rfl

/-- The cache after an operation. One that fails leaves it as it was. -/
def after [Clock τ] [Deadline τ] (c : Cache τ α) (e : Event τ α) : Cache τ α :=
  match e.operation with
  | .set key value => (c.store e.time key value).toOption.getD c
  | .get key => (c.get e.time key).2
  | .isCached key => (c.isCached e.time key).2
  | .clear => c.clear

def run [Clock τ] [Deadline τ] (c : Cache τ α) (h : List (Event τ α)) : Cache τ α :=
  h.foldl after c

/-! ### What the history says -/

namespace Event

/-- The entry that an event leaves under a key. -/
def stored? [Deadline τ] (lifetime : τ) (key : String) (e : Event τ α) :
    Option (CacheEntry τ α) :=
  match e.operation with
  | .set k value =>
    if k = key then (Deadline.deadline e.time lifetime).toOption.map (⟨value, ·⟩) else none
  | _ => none

/-- Whether an event is a lookup of a key. -/
def looksUp (key : String) (e : Event τ α) : Bool :=
  match e.operation with
  | .get k | .isCached k => k = key
  | _ => false

def isClear (e : Event τ α) : Bool :=
  match e.operation with
  | .clear => true
  | _ => false

theorem stored?_eq_some [Deadline τ] {lifetime : τ} {key : String} {e : Event τ α}
    {entry : CacheEntry τ α} :
    e.stored? lifetime key = some entry ↔ e.operation = .set key entry.value ∧
      Deadline.deadline e.time lifetime = .ok entry.expiry := by
  obtain ⟨time, operation⟩ := e
  obtain ⟨value, expiry⟩ := entry
  cases operation with
  | set k value' =>
    by_cases hkey : k = key
    · subst hkey
      simp only [stored?, if_true, Option.map_eq_some_iff, toOption_eq_some]
      constructor
      · rintro ⟨_, hdue, ⟨⟩⟩
        exact ⟨rfl, hdue⟩
      · rintro ⟨⟨⟩, hdue⟩
        exact ⟨expiry, hdue, rfl⟩
    · simp [stored?, hkey]
  | _ => simp [stored?]

/-- What stores an entry does not clear the cache. -/
theorem isClear_of_stored? [Deadline τ] {lifetime : τ} {key : String} {e : Event τ α}
    {entry : CacheEntry τ α} (h : e.stored? lifetime key = some entry) : e.isClear = false := by
  rw [isClear, (stored?_eq_some.mp h).1]

end Event

/-- An entry is the last that was stored under a key, and what was done since does not clear the
cache. -/
structure IsLastSet [Deadline τ] (lifetime : τ) (h : List (Event τ α)) (key : String)
    (entry : CacheEntry τ α) (since : List (Event τ α)) : Prop where
  stored : ∃ before e, h = before ++ e :: since ∧ e.stored? lifetime key = some entry
  notAgain : ∀ e ∈ since, e.stored? lifetime key = none
  notCleared : ∀ e ∈ since, e.isClear = false

/-- Every lookup of a key finds the clock before the expiry of an entry. -/
def Survives [Clock τ] (key : String) (entry : CacheEntry τ α) (since : List (Event τ α)) : Prop :=
  ∀ e ∈ since, e.looksUp key = true → Clock.before e.time entry.expiry = true

/-- The keys that were stored since the cache was last cleared. -/
def storedKeys [Deadline τ] (lifetime : τ) (h : List (Event τ α)) : Set String :=
  {key | ∃ entry since, IsLastSet lifetime h key entry since}

/-- The keys among them that a lookup has found expired and that were not stored again. -/
def expiredKeys [Clock τ] [Deadline τ] (lifetime : τ) (h : List (Event τ α)) : Set String :=
  {key | ∃ entry since, IsLastSet lifetime h key entry since ∧ ¬Survives key entry since}

section LastSet

variable [Deadline τ] {lifetime : τ} {h : List (Event τ α)} {e : Event τ α} {key : String}
  {entry entry' : CacheEntry τ α} {since since' : List (Event τ α)}

/-- One more event either stores the last entry, or comes after it. -/
theorem isLastSet_append_singleton :
    IsLastSet lifetime (h ++ [e]) key entry since ↔
      (e.stored? lifetime key = some entry ∧ since = []) ∨
        (e.stored? lifetime key = none ∧ e.isClear = false ∧
          ∃ earlier, since = earlier ++ [e] ∧ IsLastSet lifetime h key entry earlier) := by
  constructor
  · rintro ⟨⟨before, e', hsplit, hentry⟩, hagain, hcleared⟩
    rcases List.eq_nil_or_concat' since with rfl | ⟨earlier, x, rfl⟩
    · obtain ⟨-, hlast⟩ := List.append_inj' hsplit rfl
      cases hlast
      exact .inl ⟨hentry, rfl⟩
    · rw [← List.cons_append, ← List.append_assoc] at hsplit
      obtain ⟨rfl, hlast⟩ := List.append_inj' hsplit rfl
      cases hlast
      rw [List.forall_mem_append, List.forall_mem_singleton] at hagain hcleared
      exact .inr ⟨hagain.2, hcleared.2, earlier, rfl,
        ⟨⟨before, e', rfl, hentry⟩, hagain.1, hcleared.1⟩⟩
  · rintro (⟨hentry, rfl⟩ | ⟨hnone, hclear, earlier, rfl, hlast⟩)
    · exact ⟨⟨h, e, rfl, hentry⟩, (fun _ hx => nomatch hx), fun _ hx => nomatch hx⟩
    · obtain ⟨⟨before, e', rfl, hentry⟩, hagain, hcleared⟩ := hlast
      refine ⟨⟨before, e', by simp, hentry⟩, ?_, ?_⟩
      · rw [List.forall_mem_append, List.forall_mem_singleton]
        exact ⟨hagain, hnone⟩
      · rw [List.forall_mem_append, List.forall_mem_singleton]
        exact ⟨hcleared, hclear⟩

theorem not_isLastSet_nil : ¬IsLastSet lifetime [] key entry since := by
  rintro ⟨⟨before, e, hsplit, -⟩, -, -⟩
  simp at hsplit

theorem IsLastSet.unique (hlast : IsLastSet lifetime h key entry since)
    (hlast' : IsLastSet lifetime h key entry' since') : entry = entry' ∧ since = since' := by
  induction h using List.reverseRecOn generalizing since since' with
  | nil => exact absurd hlast not_isLastSet_nil
  | append_singleton h e ih =>
    rw [isLastSet_append_singleton] at hlast hlast'
    rcases hlast with ⟨hentry, rfl⟩ | ⟨hnone, -, earlier, rfl, hlast⟩
    · rcases hlast' with ⟨hentry', rfl⟩ | ⟨hnone, -⟩
      · exact ⟨Option.some.inj (hentry.symm.trans hentry'), rfl⟩
      · exact absurd (hnone.symm.trans hentry) (by simp)
    · rcases hlast' with ⟨hentry', rfl⟩ | ⟨-, -, earlier', rfl, hlast'⟩
      · exact absurd (hnone.symm.trans hentry') (by simp)
      · obtain ⟨hsame, rfl⟩ := ih hlast hlast'
        exact ⟨hsame, rfl⟩

end LastSet

/-! ### One operation -/

section Step

variable [Clock τ] (c : Cache τ α) (e : Event τ α) (key : String)

theorem ite_filter_eq_some {β : Type} {b : Bool} {p : β → Bool} {o : Option β} {x : β} :
    (if b then o.filter p else o) = some x ↔ o = some x ∧ (b = true → p x = true) := by
  cases b <;> simp [Option.filter_eq_some_iff]

theorem fst_get (now : τ) : (c.get now key).1 = c.live? now key := by
  cases hlive : c.live? now key with
  | none => rw [get_of_not_live hlive]
  | some value => rw [get_of_live hlive]

theorem find?_get (now : τ) (looked : String) :
    (c.get now looked).2.find? key =
      if looked = key then (c.find? key).filter (fun x => Clock.before now x.expiry)
      else c.find? key := by
  unfold get
  by_cases hkey : looked = key
  · subst hkey
    rw [if_pos rfl]
    cases hfound : c.find? looked with
    | none => exact hfound
    | some x =>
      by_cases halive : Clock.before now x.expiry = true <;> simp [halive, hfound, Option.filter]
  · rw [if_neg hkey]
    split
    · rfl
    · split
      · rfl
      · rw [find?_erase, if_neg (Ne.symm hkey)]

variable [Deadline τ]

/-- What is found under a key after an operation. -/
theorem find?_after :
    (c.after e).find? key =
      if e.isClear then none
      else (e.stored? c.lifetime key).or <|
        if e.looksUp key then (c.find? key).filter (fun x => Clock.before e.time x.expiry)
        else c.find? key := by
  obtain ⟨time, operation⟩ := e
  cases operation with
  | set k value =>
    simp only [after, store, Event.isClear, Event.stored?, Event.looksUp]
    cases Deadline.deadline time c.lifetime with
    | error f => by_cases hkey : k = key <;> simp [hkey] <;> rfl
    | ok expiry =>
      show (c.put k value expiry).find? key = _
      by_cases hkey : k = key
      · subst hkey
        simp [Except.toOption]
      · simp [hkey, Ne.symm hkey]
  | get k => simpa [after, Event.isClear, Event.stored?, Event.looksUp] using c.find?_get key time k
  | isCached k =>
    simpa [after, isCached, Event.isClear, Event.stored?, Event.looksUp]
      using c.find?_get key time k
  | clear => rfl

theorem lifetime_after : (c.after e).lifetime = c.lifetime := by
  obtain ⟨time, operation⟩ := e
  cases operation with
  | set k value =>
    simp only [after, store]
    cases Deadline.deadline time c.lifetime with
    | error f => rfl
    | ok expiry => rfl
  | get k => exact c.lifetime_get time k
  | isCached k => exact c.lifetime_get time k
  | clear => rfl

/-- Every key has one entry. -/
def keys (c : Cache τ α) : List String := c.entries.map (·.1)

omit [Clock τ] [Deadline τ] in
theorem mem_keys : key ∈ c.keys ↔ ∃ entry, c.find? key = some entry := by
  rw [keys, find?, List.mem_map]
  constructor
  · rintro ⟨x, hx, rfl⟩
    cases hfound : c.entries.lookup x.1 with
    | some entry => exact ⟨entry, rfl⟩
    | none => simpa using List.lookup_eq_none_iff.mp hfound x hx
  · rintro ⟨entry, hfound⟩
    obtain ⟨front, back, hsplit, -⟩ := List.lookup_eq_some_iff.mp hfound
    exact ⟨(key, entry), by simp [hsplit], rfl⟩

variable {c}

omit [Clock τ] [Deadline τ] in
theorem nodup_keys_erase (h : c.keys.Nodup) : (c.erase key).keys.Nodup :=
  h.sublist (List.filter_sublist.map _)

omit [Clock τ] [Deadline τ] in
theorem nodup_keys_put (h : c.keys.Nodup) (value : α) (expiry : τ) :
    (c.put key value expiry).keys.Nodup := by
  refine List.nodup_cons.mpr ⟨fun hmem => ?_, nodup_keys_erase key h⟩
  obtain ⟨entry, hfound⟩ := ((c.erase key).mem_keys key).mp hmem
  simp at hfound

omit [Deadline τ] in
theorem nodup_keys_get (h : c.keys.Nodup) (now : τ) : (c.get now key).2.keys.Nodup := by
  unfold get
  split
  · exact h
  · split
    · exact h
    · exact nodup_keys_erase key h

theorem nodup_keys_after (h : c.keys.Nodup) : (c.after e).keys.Nodup := by
  obtain ⟨time, operation⟩ := e
  cases operation with
  | set k value =>
    simp only [after, store]
    cases Deadline.deadline time c.lifetime with
    | error f => exact h
    | ok expiry => exact nodup_keys_put k h value expiry
  | get k => exact nodup_keys_get k h time
  | isCached k => exact nodup_keys_get k h time
  | clear => exact List.nodup_nil

end Step

/-! ### Runs -/

section Run

variable [Clock τ] [Deadline τ] {lifetime : τ} {h : List (Event τ α)} {key : String}

theorem run_append_singleton (c : Cache τ α) (h : List (Event τ α)) (e : Event τ α) :
    c.run (h ++ [e]) = (c.run h).after e := by
  simp [run]

theorem lifetime_run (c : Cache τ α) (h : List (Event τ α)) : (c.run h).lifetime = c.lifetime := by
  induction h using List.reverseRecOn with
  | nil => rfl
  | append_singleton h e ih => rw [run_append_singleton, lifetime_after, ih]

theorem nodup_keys_run (lifetime : τ) (h : List (Event τ α)) :
    ((fresh lifetime).run h).keys.Nodup := by
  induction h using List.reverseRecOn with
  | nil => exact List.nodup_nil
  | append_singleton h e ih =>
    rw [run_append_singleton]
    exact nodup_keys_after e ih

omit [Deadline τ] in
theorem survives_append_singleton {entry : CacheEntry τ α} {e : Event τ α} :
    Survives key entry (h ++ [e]) ↔ Survives key entry h ∧
      (e.looksUp key = true → Clock.before e.time entry.expiry = true) := by
  rw [Survives, List.forall_mem_append, List.forall_mem_singleton]
  rfl

/-- A cache holds the entry that was last stored under a key, if all lookups since have found it
alive, and no other. -/
theorem find?_run {entry : CacheEntry τ α} :
    ((fresh lifetime).run h).find? key = some entry ↔
      ∃ since, IsLastSet lifetime h key entry since ∧ Survives key entry since := by
  induction h using List.reverseRecOn with
  | nil =>
    refine iff_of_false (fun hfound => nomatch hfound) ?_
    rintro ⟨since, hlast, -⟩
    exact not_isLastSet_nil hlast
  | append_singleton h e ih =>
    have hempty : (fresh lifetime : Cache τ α).lifetime = lifetime := rfl
    simp only [run_append_singleton, find?_after, lifetime_run, hempty, isLastSet_append_singleton]
    cases hentry : e.stored? lifetime key with
    | some x =>
      rw [Event.isClear_of_stored? hentry]
      constructor
      · rintro ⟨⟩
        exact ⟨[], .inl ⟨rfl, rfl⟩, fun _ hx => nomatch hx⟩
      · rintro ⟨since, ⟨hx, -⟩ | ⟨hnone, -⟩, -⟩
        · exact hx
        · cases hnone
    | none =>
      cases hclear : e.isClear with
      | true => simp
      | false =>
        simp only [Bool.false_eq_true, if_false, Option.none_or, ite_filter_eq_some, ih]
        constructor
        · rintro ⟨⟨since, hlast, hsurvives⟩, halive⟩
          exact ⟨since ++ [e], .inr ⟨trivial, trivial, since, rfl, hlast⟩,
            survives_append_singleton.mpr ⟨hsurvives, halive⟩⟩
        · rintro ⟨since, ⟨hentry, -⟩ | ⟨-, -, earlier, rfl, hlast⟩, hsurvives⟩
          · cases hentry
          · rw [survives_append_singleton] at hsurvives
            exact ⟨⟨earlier, hlast, hsurvives.1⟩, hsurvives.2⟩

/-- What was stored is still there, unless a lookup has found it expired. -/
theorem storedKeys_diff_expiredKeys (lifetime : τ) (h : List (Event τ α)) :
    storedKeys lifetime h \ expiredKeys lifetime h =
      {key | key ∈ ((fresh lifetime).run h).keys} := by
  ext key
  simp only [Set.mem_sdiff, Set.mem_ofPred_eq, mem_keys, find?_run, storedKeys, expiredKeys]
  constructor
  · rintro ⟨⟨entry, since, hlast⟩, hexpired⟩
    refine ⟨entry, since, hlast, ?_⟩
    by_contra hsurvives
    exact hexpired ⟨entry, since, hlast, hsurvives⟩
  · rintro ⟨entry, since, hlast, hsurvives⟩
    refine ⟨⟨entry, since, hlast⟩, ?_⟩
    rintro ⟨entry', since', hlast', hexpired⟩
    obtain ⟨rfl, rfl⟩ := hlast.unique hlast'
    exact hexpired hsurvives

omit [Clock τ] in
theorem finite_storedKeys (lifetime : τ) (h : List (Event τ α)) :
    (storedKeys lifetime h).Finite := by
  have hone (e : Event τ α) : {key | ∃ value, e.operation = .set key value}.Finite := by
    refine Set.Subsingleton.finite ?_
    rintro k ⟨v, hk⟩ l ⟨w, hl⟩
    cases hk.symm.trans hl
    rfl
  refine (Set.Finite.biUnion h.finite_toSet fun e _ => hone e).subset ?_
  rintro key ⟨entry, since, ⟨before, e, rfl, hentry⟩, -, -⟩
  exact Set.mem_biUnion (List.mem_append_right before List.mem_cons_self)
    ⟨entry.value, (Event.stored?_eq_some.mp hentry).1⟩

theorem size_run (lifetime : τ) (h : List (Event τ α)) :
    ((fresh lifetime).run h).size + (expiredKeys lifetime h).ncard =
      (storedKeys lifetime h).ncard := by
  have hsize : ((fresh lifetime).run h).size =
      {key | key ∈ ((fresh lifetime).run h).keys}.ncard := by
    rw [size, ← List.length_map (·.1), ← keys,
      ← List.toFinset_card_of_nodup (nodup_keys_run lifetime h), ← Set.ncard_coe_finset,
      List.coe_toFinset]
  have hsubset : expiredKeys lifetime h ⊆ storedKeys lifetime h := by
    rintro key ⟨entry, since, hlast, -⟩
    exact ⟨entry, since, hlast⟩
  rw [hsize, ← storedKeys_diff_expiredKeys]
  exact Set.ncard_sdiff_add_ncard_of_subset hsubset (finite_storedKeys lifetime h)

/-- What a cache answers, and how large it is, after any operations at any times. A key is answered
with the value that was last stored under it since the cache was cleared, if this lookup and all
lookups of the key since find the clock before the expiry; otherwise there is no answer. -/
theorem refines_history (lifetime : τ) (h : List (Event τ α)) :
    (∀ now key value, (((fresh lifetime).run h).get now key).1 = some value ↔
        ∃ entry since, IsLastSet lifetime h key entry since ∧ Survives key entry since ∧
          Clock.before now entry.expiry = true ∧ entry.value = value) ∧
      ((fresh lifetime).run h).size + (expiredKeys lifetime h).ncard =
        (storedKeys lifetime h).ncard := by
  refine ⟨fun now key value => ?_, size_run lifetime h⟩
  rw [fst_get, live?_eq_some]
  constructor
  · rintro ⟨expiry, hfound, halive⟩
    obtain ⟨since, hlast, hsurvives⟩ := find?_run.mp hfound
    exact ⟨⟨value, expiry⟩, since, hlast, hsurvives, halive, rfl⟩
  · rintro ⟨entry, since, hlast, hsurvives, halive, rfl⟩
    exact ⟨entry.expiry, find?_run.mpr ⟨since, hlast, hsurvives⟩, halive⟩

/-- A lookup finds an entry expired; when the clock is set back the entry is gone, and the other one
is still there. -/
example :
    let h : List (Event Quantity Nat) := [⟨.whole 0, .set "a" 1⟩, ⟨.whole 5, .set "b" 2⟩,
      ⟨.whole 10, .isCached "a"⟩, ⟨.whole 9, .get "b"⟩]
    let c := (fresh (.whole 10)).run h
    (c.get (.whole 3) "a").1 = none ∧ (c.get (.whole 3) "b").1 = some 2 ∧ c.size = 1 := by
  decide

end Run

end Cache

end Bursary
