import Bursary.Proofs.Prediction
import Bursary.Proofs.Provider.Run
import Bursary.Proofs.Settings
import Bursary.Proofs.Value.Writable

/-! A provider is safe whatever its store does. Each request is answered, by weights that are fit
for use or by the neutral ones; only the former are kept. The store may answer with any garbage,
fail or stay silent at each question, and answer out of time. The only limits on garbage are those
for texts: its integers are not too long, and the id of a model is not nested too deeply. -/

namespace Bursary

attribute [local irreducible] Binary64.unitsPerOne Binary64.unitLimit Value.digitBound

/-- Weights that may be called those of a trained model. -/
structure ResolvedWeights.Sound (least : Binary64) (r : ResolvedWeights) : Prop where
  trained : r.trained = true
  source : r.source = .scholarship ∨ r.source = .global
  accuracy : ∃ a, r.accuracy = some a ∧ least.le a = true
  finite : r.weights.IsFinite
  nonneg : ∀ f ∈ Feature.favourable, (0 : Binary64).le (r.weights.of f) = true

/-! ### Models -/

namespace Model

theorem nonneg_adjusted {f : Feature} (hf : f ∈ Feature.favourable) {w : Binary64}
    (hw : w.isFinite = true) : (0 : Binary64).le (adjusted f w) = true := by
  have hzero := Binary64.place_zero
  unfold adjusted
  split
  case isTrue h =>
    obtain ⟨s, u, fits, rfl⟩ := Binary64.isFinite_iff.mp hw
    refine Binary64.le_iff.mpr ⟨Binary64.zero_ne_nan, (nomatch ·), ?_⟩
    rw [hzero]
    exact Int.natCast_nonneg u
  case isFalse h =>
    have hlt : w.lt 0 = false := by
      rw [← Bool.not_eq_true]
      exact fun hneg => h ⟨hf, hneg⟩
    rcases Binary64.lt_eq_false_iff.mp hlt with rfl | h | h
    · cases hw
    · exact absurd h Binary64.zero_ne_nan
    · exact Binary64.le_iff.mpr ⟨Binary64.zero_ne_nan, Binary64.ne_nan_of_isFinite hw, h⟩

theorem accuracy_ne_nan (model : Record) : accuracy model ≠ .nan := by
  unfold accuracy
  dsimp only
  cases h : Option.or _ _ with
  | none => exact Binary64.zero_ne_nan
  | some x =>
    refine Binary64.ne_nan_of_isFinite ?_
    rcases Option.or_eq_some_iff.mp h with h | ⟨-, h⟩
    · exact Value.isFinite_of_numberBy (Option.filter_eq_some_iff.mp h).1
    · exact Value.isFinite_of_numberBy (Option.filter_eq_some_iff.mp h).1

/-- An accepted model is a stored record that is accurate enough. -/
theorem of_accepted? {stored : Value} {least : Binary64} (hleast : least ≠ .nan) {model : Record}
    (h : accepted? stored (.real least) = some model) :
    stored = .record model ∧ least.le (accuracy model) = true := by
  obtain ⟨hrecord, hkept⟩ := Option.filter_eq_some_iff.mp h
  rw [Bool.and_eq_true, Bool.not_eq_true', Bool.not_eq_true'] at hkept
  constructor
  · cases stored with
    | record es => exact congrArg _ (Option.some.inj hrecord)
    | _ => cases hrecord
  · rcases Binary64.lt_eq_false_iff.mp hkept.2 with hnan | hnan | hplace
    · exact absurd hnan (accuracy_ne_nan model)
    · exact absurd hnan hleast
    · exact Binary64.le_iff.mpr ⟨hleast, accuracy_ne_nan model, hplace⟩

end Model

/-! ### Stores -/

/-- What a stored model is called by, before it is made a text. -/
def Model.idValue (stored : Value) : Value := stored.toRecord.firstTruthy ["id", "_id"]

/-- A reply in which no integer is beyond the digit limit and the model's id is not nested beyond
the depth limit. All else in it may be nested in any way. -/
def Reply.WithinLimits : Reply → Prop
  | .answer v =>
    v.everywhere Value.withinDigits = true ∧ (Model.idValue v).depth ≤ Failure.depthLimit
  | .refusal | .silence => True

/-- A store that gives only such replies. -/
structure Registry.WithinLimits (registry : Registry) : Prop where
  scholarshipModel (id : String) : (registry.scholarshipModel id).WithinLimits
  globalModel : registry.globalModel.WithinLimits

theorem Model.writable_idValue {v : Value} (h : (Reply.answer v).WithinLimits) :
    (idValue v).Writable :=
  (Value.writable_iff _).mpr ⟨(Value.everywhere_toRecord h.1).firstTruthy rfl _, h.2⟩

/-- What a fetch that finds a model ends in. -/
def Fetched.WithinLimits : Fetched → Prop
  | .model stored source =>
    (Model.idValue stored).Writable ∧ (source = .scholarship ∨ source = .global)
  | .nothing | .failed | .late => True

theorem Registry.WithinLimits.fetch {registry : Registry} (h : registry.WithinLimits)
    (id : Option String) : (registry.fetch id).1.WithinLimits := by
  have hglobal : registry.fetchGlobal.WithinLimits := by
    unfold fetchGlobal
    have hreply := h.globalModel
    cases hr : registry.globalModel with
    | answer v =>
      rw [hr] at hreply
      dsimp only
      split
      · exact ⟨Model.writable_idValue hreply, .inr rfl⟩
      · trivial
    | refusal => trivial
    | silence => trivial
  unfold Registry.fetch
  cases id with
  | none => exact hglobal
  | some id =>
    have hreply := h.scholarshipModel id
    dsimp only
    cases hr : registry.scholarshipModel id with
    | answer v =>
      rw [hr] at hreply
      dsimp only
      split
      · exact ⟨Model.writable_idValue hreply, .inl rfl⟩
      · exact hglobal
    | refusal => trivial
    | silence => trivial

namespace Provider

/-! ### Answers -/

/-- What is fetched settles to sound weights or the neutral ones. -/
theorem settle_yields {settings : Settings} (hleast : settings.minAccuracy ≠ .nan)
    {fetched : Fetched} (h : fetched.WithinLimits) :
    Yields (settle settings fetched) fun r => r = .fallback ∨ r.Sound settings.minAccuracy := by
  cases fetched with
  | nothing => exact .ok (.inl rfl)
  | failed => exact .ok (.inl rfl)
  | late => exact .ok (.inl rfl)
  | model stored source =>
    unfold settle
    dsimp only
    split
    case h_2 => exact .ok (.inl rfl)
    case h_1 model hmodel =>
      obtain ⟨rfl, haccuracy⟩ := Model.of_accepted? hleast hmodel
      refine h.1.textIfGiven.bind fun modelId _ => .ok (.inr ?_)
      exact {
        trained := rfl
        source := h.2
        accuracy := ⟨_, rfl, haccuracy⟩
        finite := Model.isFinite_weights model
        nonneg := fun f hf => Model.nonneg_adjusted hf (Model.isFinite_storedWeight model f) }

/-- What a safe provider has: a least accuracy to compare with, a store within the limits, and
sound weights in the cache. -/
structure Safe (p : Provider) : Prop where
  minAccuracy : p.settings.minAccuracy ≠ .nan
  registry : ∀ registry, p.registry = some registry → registry.WithinLimits
  cache : p.Holds fun _ r => r.Sound p.settings.minAccuracy

namespace Safe

variable {p : Provider} (h : p.Safe)

include h

theorem consult_yields (id : Option String) :
    Yields (p.consult id) fun r => r = .fallback ∨ r.Sound p.settings.minAccuracy := by
  unfold consult
  cases hr : p.reachable? with
  | none => exact .ok (.inl rfl)
  | some registry =>
    have hregistry := h.registry registry (reachable?_eq_some.mp hr).1
    exact settle_yields h.minAccuracy (hregistry.fetch _)

theorem sound_of_trained (id : Option String) (r : ResolvedWeights)
    (hr : trained? (p.consult id) = some r) : r.Sound p.settings.minAccuracy := by
  obtain ⟨hr, htrained⟩ := trained?_eq_some.mp hr
  obtain ⟨r', hr', hsound⟩ := h.consult_yields id
  obtain rfl := Except.ok.inj (hr.symm.trans hr')
  rcases hsound with rfl | hsound
  · cases htrained
  · exact hsound

/-- A request is answered with sound weights, or with the neutral ones and nothing kept of it. -/
theorem resolve (id : Option String) : ∃ r, (p.resolve id).1 = .ok r ∧
    (r.trained = true → r.Sound p.settings.minAccuracy) ∧
    (r.trained = false → r = .fallback ∧ ((p.resolve id).2.cache = p.cache ∨
      ∃ e, p.cache.find? (cacheKey id) = some e ∧ p.now.lt e.expiry = false ∧
        (p.resolve id).2.cache = p.cache.erase (cacheKey id))) := by
  cases hl : p.live? id with
  | some r =>
    have hsound := Holds.of_live h.cache hl
    rw [resolve_of_live hl]
    exact ⟨r, rfl, fun _ => hsound, fun hr => nomatch hr.symm.trans hsound.trained⟩
  | none =>
    obtain ⟨r, hr, hsound⟩ := h.consult_yields id
    rw [resolve_of_not_live hl]
    refine ⟨r, hr, fun htrained => ?_, fun huntrained => ?_⟩
    · exact h.sound_of_trained id r (trained?_eq_some.mpr ⟨hr, htrained⟩)
    · have hfallback : r = .fallback := by
        rcases hsound with rfl | hsound
        · rfl
        · exact nomatch huntrained.symm.trans hsound.trained
      have hcache : p.afterMiss id = p.cache.erase (cacheKey id) := by
        rw [afterMiss, hr, hfallback]
        rfl
      refine ⟨hfallback, ?_⟩
      cases he : p.cache.find? (cacheKey id) with
      | none => exact .inl (hcache.trans (Cache.erase_of_find?_eq_none he))
      | some e =>
        refine .inr ⟨e, rfl, ?_, hcache⟩
        rw [← Bool.not_eq_true]
        intro hlive
        have := Cache.live?_eq_some.mpr ⟨e.expiry, he, hlive⟩
        cases hl.symm.trans this

end Safe

/-! ### Runs -/

/-- The replies of the store stay within the limits after a step. -/
def Step.KeepsLimits : Step → Prop
  | change registry => registry.WithinLimits
  | _ => True

theorem Safe.after {p : Provider} {s : Step} (hs : s.KeepsLimits) (h : p.Safe) :
    (p.after s).Safe where
  minAccuracy := by
    rw [settings_after]
    exact h.minAccuracy
  registry registry hr := by
    have hkept (hs : s.KeepsStore) : registry.WithinLimits :=
      h.registry registry ((registry_after p hs).symm.trans hr)
    cases s with
    | change registry' =>
      obtain ⟨_, -, rfl⟩ := Option.map_eq_some_iff.mp hr
      exact hs
    | _ => exact hkept trivial
  cache := by
    rw [settings_after]
    exact Holds.after h.cache h.sound_of_trained s

theorem Safe.run {p : Provider} {steps : List Step} (hsteps : ∀ s ∈ steps, s.KeepsLimits)
    (h : p.Safe) : (p.run steps).Safe :=
  run_induction (fun _ _ hs h => h.after hs) hsteps h

end Provider

end Bursary
