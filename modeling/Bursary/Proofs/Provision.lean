import Bursary.Proofs.Prediction
import Bursary.Proofs.Provider.Run

/-! Steps that use a provider, one after the other. Every provider that began with an empty cache
holds finite weights only, whatever its store answered, and no step loses that; so each step of a
chain may count on it. -/

namespace Bursary

/-! ### Finite weights in the cache -/

namespace Provider

/-- All weights in the cache are finite, as a provider never keeps others. -/
def CachesFinite (p : Provider) : Prop := p.Holds fun _ r => r.weights.IsFinite

theorem isFinite_of_consult {p : Provider} {id : Option String} {r : ResolvedWeights}
    (h : p.consult id = .ok r) : r.weights.IsFinite := by
  unfold consult at h
  split at h
  · rw [← Except.ok.inj h]
    exact ResolvedWeights.isFinite_fallback
  · exact isFinite_of_settle h

theorem isFinite_of_trained {p : Provider} (id : Option String) (r : ResolvedWeights)
    (h : trained? (p.consult id) = some r) : r.weights.IsFinite :=
  isFinite_of_consult (trained?_eq_some.mp h).1

/-- Every provider that is reached from an empty cache holds finite weights only. -/
theorem cachesFinite_run {p : Provider} (h : p.cache.entries = []) (steps : List Step) :
    (p.run steps).CachesFinite :=
  run_induction (fun _ s (_ : True) h => h.after isFinite_of_trained s) (fun _ _ => trivial)
    (Holds.of_empty h)

/-- A request is answered with finite weights and leaves finite weights. -/
theorem CachesFinite.resolve {p : Provider} (h : p.CachesFinite) (id : Option String) :
    (p.resolve id).2.CachesFinite ∧ ∀ r, (p.resolve id).1 = .ok r → r.weights.IsFinite := by
  refine ⟨Holds.resolve h isFinite_of_trained id, fun r hr => ?_⟩
  cases hl : p.live? id with
  | some r' =>
    rw [resolve_of_live hl] at hr
    cases hr
    exact Holds.of_live h hl
  | none =>
    rw [resolve_of_not_live hl] at hr
    exact isFinite_of_consult hr

end Provider

/-! ### Chains of steps -/

namespace Provision

variable {α β : Type}

/-- What a step comes to from a provider, and what it leaves of that. -/
def runFrom (x : Provision α) (p : Provider) : Except Failure α × Provider := x p

@[simp] theorem runFrom_pure (a : α) (p : Provider) : runFrom (pure a) p = (.ok a, p) := rfl

@[simp] theorem runFrom_lift (x : Except Failure α) (p : Provider) :
    runFrom (liftM x : Provision α) p = (x, p) := rfl

theorem runFrom_bind (x : Provision α) (f : α → Provision β) (p : Provider) :
    runFrom (x >>= f) p =
      match runFrom x p with
      | (.ok a, q) => runFrom (f a) q
      | (.error e, q) => (.error e, q) := by
  unfold runFrom
  show ExceptT.bindCont f (x p).1 (x p).2 = _
  rcases x p with ⟨e | a, q⟩ <;> rfl

theorem runFrom_bind_eq_ok {x : Provision α} {f : α → Provision β} {p q : Provider} {b : β} :
    runFrom (x >>= f) p = (.ok b, q) ↔
      ∃ a p', runFrom x p = (.ok a, p') ∧ runFrom (f a) p' = (.ok b, q) := by
  rw [runFrom_bind]
  rcases runFrom x p with ⟨e | a, r⟩
  · constructor
    · intro h
      cases h
    · rintro ⟨a, p', h, -⟩
      cases h
  · constructor
    · exact fun h => ⟨a, r, rfl, h⟩
    · rintro ⟨a', p', h, h'⟩
      cases h
      exact h'

theorem runFrom_lift_eq_ok {x : Except Failure α} {p q : Provider} {a : α} :
    runFrom (liftM x : Provision α) p = (.ok a, q) ↔ x = .ok a ∧ p = q := by
  rw [runFrom_lift, Prod.mk.injEq]

theorem runFrom_map (f : α → β) (x : Provision α) (p : Provider) :
    runFrom (f <$> x) p = ((runFrom x p).1.map f, (runFrom x p).2) := by
  rw [map_eq_pure_bind, runFrom_bind]
  rcases runFrom x p with ⟨e | a, q⟩ <;> rfl

/-- From finite weights a step leads to finite weights, and its result has a property. -/
def Ensures (x : Provision α) (post : α → Prop) : Prop :=
  ∀ p : Provider, p.CachesFinite →
    (runFrom x p).2.CachesFinite ∧ ∀ a, (runFrom x p).1 = .ok a → post a

namespace Ensures

variable {x : Provision α} {post : α → Prop}

theorem pure {a : α} (h : post a) : Ensures (Pure.pure a : Provision α) post := by
  intro p hp
  refine ⟨hp, fun b hb => ?_⟩
  cases hb
  exact h

theorem lift {e : Except Failure α} (h : ∀ a, e = .ok a → post a) :
    Ensures (liftM e : Provision α) post := fun _ hp => ⟨hp, h⟩

theorem bind (hx : Ensures x post) {f : α → Provision β} {post' : β → Prop}
    (hf : ∀ a, post a → Ensures (f a) post') : Ensures (x >>= f) post' := by
  intro p hp
  obtain ⟨hq, hpost⟩ := hx p hp
  rw [runFrom_bind]
  cases hrun : runFrom x p with
  | mk result q =>
    rw [hrun] at hq hpost
    cases result with
    | error e => exact ⟨hq, fun b hb => nomatch hb⟩
    | ok a => exact hf a (hpost a rfl) q hq

theorem map (hx : Ensures x post) {f : α → β} {post' : β → Prop}
    (hf : ∀ a, post a → post' (f a)) : Ensures (f <$> x) post' := by
  rw [map_eq_pure_bind]
  exact hx.bind fun a ha => Ensures.pure (hf a ha)

/-- A loop ensures of every result what its body ensures of each. -/
theorem mapM {f : β → Provision α} (hf : ∀ b, Ensures (f b) post) (bs : List β) :
    Ensures (bs.mapM f) fun as => ∀ a ∈ as, post a := by
  induction bs with
  | nil =>
    rw [List.mapM_nil]
    exact Ensures.pure fun a ha => nomatch ha
  | cons b bs ih =>
    rw [List.mapM_cons]
    refine (hf b).bind fun a ha => ih.bind fun as has => Ensures.pure ?_
    exact List.forall_mem_cons.mpr ⟨ha, has⟩

theorem resolve (id : Option String) :
    Ensures (Provision.resolve id) fun r => r.weights.IsFinite := fun _ hp => hp.resolve id

end Ensures

end Provision

end Bursary
