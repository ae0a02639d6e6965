import Bursary.Proofs.Binary64.Order
import Bursary.Settings

/-! Settings are within their bounds, whatever they were read from: durations are positive, and
the least accuracy is a proportion, so that none of them is a NaN. -/

namespace Bursary

/-! ### Forms that could be read -/

namespace Checked

variable {α β : Type} {b : β}

theorem map_eq_ok {f : α → β} {c : Checked α} : f <$> c = ok b ↔ ∃ a, c = ok a ∧ f a = b := by
  cases c <;> simp [Functor.map, Checked.map]

theorem seq_eq_ok {f : Checked (α → β)} {c : Checked α} :
    f <*> c = ok b ↔ ∃ g a, f = ok g ∧ c = ok a ∧ g a = b := by
  cases f <;> cases c <;> simp [Seq.seq, Checked.apply]

theorem bind_eq_ok {c : Checked α} {f : α → Checked β} :
    c.bind f = ok b ↔ ∃ a, c = ok a ∧ f a = ok b := by
  cases c <;> simp [Checked.bind]

theorem within_eq_ok {name : String} {c : Checked β} : c.within name = ok b ↔ c = ok b := by
  cases c <;> simp [within]

end Checked

namespace Form

variable {α : Type} {a : α}

/-- What is read from a field has every property that the default has and that all readings
have. -/
theorem of_field (Good : α → Prop) {r : Record} {name : String} {default : α}
    {read : Value → Checked α} (hdefault : Good default) (hread : ∀ v a, read v = .ok a → Good a)
    (h : field r name default read = .ok a) : Good a := by
  unfold field at h
  split at h
  case h_1 v hv => exact hread v a (Checked.within_eq_ok.mp h)
  case h_2 =>
    cases h
    exact hdefault

variable {low high x y : Binary64}

theorem atLeast_eq_ok : atLeast low x = .ok y ↔ low.le x = true ∧ x = y := by
  by_cases h : low.le x = true <;> simp [atLeast, h, Checked.fault]

theorem atMost_eq_ok : atMost high x = .ok y ↔ x.le high = true ∧ x = y := by
  by_cases h : x.le high = true <;> simp [atMost, h, Checked.fault]

theorem above_eq_ok : above low x = .ok y ↔ low.lt x = true ∧ x = y := by
  by_cases h : low.lt x = true <;> simp [above, h, Checked.fault]

end Form

/-! ### Bounds -/

namespace Settings

attribute [local irreducible] Binary64.unitsPerOne Binary64.unitLimit

structure WithinBounds (s : Settings) : Prop where
  cacheLifetime : (0 : Binary64).lt s.cacheLifetime = true
  minAccuracy_nonneg : (0 : Binary64).le s.minAccuracy = true
  minAccuracy_le_one : s.minAccuracy.le 1 = true
  fetchTimeout : (0 : Binary64).lt s.fetchTimeout = true

theorem withinBounds_of_ofRecord {r : Record} {s : Settings} (h : ofRecord r = .ok s) :
    s.WithinBounds := by
  simp only [ofRecord, Checked.seq_eq_ok, Checked.map_eq_ok] at h
  obtain ⟨_, logLevel, ⟨_, timeout, ⟨_, accuracy, ⟨lifetime, hlifetime, rfl⟩, haccuracy, rfl⟩,
    htimeout, rfl⟩, -, rfl⟩ := h
  have hpositive (v : Value) (x : Binary64)
      (hx : (Form.number v).bind (Form.above 0) = .ok x) : (0 : Binary64).lt x = true := by
    obtain ⟨y, -, hy⟩ := Checked.bind_eq_ok.mp hx
    obtain ⟨hlt, rfl⟩ := Form.above_eq_ok.mp hy
    exact hlt
  have hproportion (v : Value) (x : Binary64)
      (hx : ((Form.number v).bind (Form.atMost 1)).bind (Form.atLeast 0) = .ok x) :
      (0 : Binary64).le x = true ∧ x.le 1 = true := by
    obtain ⟨y, hy, hx⟩ := Checked.bind_eq_ok.mp hx
    obtain ⟨z, -, hz⟩ := Checked.bind_eq_ok.mp hy
    obtain ⟨hhigh, rfl⟩ := Form.atMost_eq_ok.mp hz
    obtain ⟨hlow, rfl⟩ := Form.atLeast_eq_ok.mp hx
    exact ⟨hlow, hhigh⟩
  have haccuracy : (0 : Binary64).le accuracy = true ∧ accuracy.le 1 = true :=
    Form.of_field (fun x => Binary64.le 0 x = true ∧ x.le 1 = true) (by decide +kernel)
      hproportion haccuracy
  exact {
    cacheLifetime := Form.of_field (Binary64.lt 0 · = true) (by decide +kernel)
      hpositive hlifetime
    minAccuracy_nonneg := haccuracy.1
    minAccuracy_le_one := haccuracy.2
    fetchTimeout := Form.of_field (Binary64.lt 0 · = true) (by decide +kernel)
      hpositive htimeout }

theorem WithinBounds.minAccuracy_ne_nan {s : Settings} (h : s.WithinBounds) :
    s.minAccuracy ≠ .nan :=
  (Binary64.le_iff.mp h.minAccuracy_nonneg).2.1

end Settings

end Bursary
