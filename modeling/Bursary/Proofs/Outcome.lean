/-! Chains of steps that may fail. A chain succeeds exactly if every step of it does; that it does
succeed, and with what, is told step by step with `Yields`. -/

namespace Bursary

variable {ε α β : Type}

theorem bind_eq_ok {x : Except ε α} {f : α → Except ε β} {b : β} :
    (x >>= f) = .ok b ↔ ∃ a, x = .ok a ∧ f a = .ok b := by
  cases x <;> simp [bind, Except.bind]

@[simp] theorem ok_bind {a : α} {f : α → Except ε β} : (Except.ok a >>= f) = f a := rfl

theorem pure_eq_ok {a b : α} : (pure a : Except ε α) = .ok b ↔ a = b := by
  simp [pure, Except.pure]

theorem map_eq_ok {x : Except ε α} {f : α → β} {b : β} :
    x.map f = .ok b ↔ ∃ a, x = .ok a ∧ f a = b := by
  cases x <;> simp [Except.map]

theorem toOption_eq_some {x : Except ε α} {a : α} : x.toOption = some a ↔ x = .ok a := by
  cases x <;> simp [Except.toOption]

/-! ### Steps that succeed -/

/-- A step that comes to a result, and the result has a property. -/
def Yields (x : Except ε α) (post : α → Prop) : Prop := ∃ a, x = .ok a ∧ post a

/-- A step that comes to a result. -/
abbrev Returns (x : Except ε α) : Prop := Yields x fun _ => True

theorem returns_iff {x : Except ε α} : Returns x ↔ ∃ a, x = .ok a := by simp [Yields]

namespace Yields

variable {x : Except ε α} {post : α → Prop} {postβ : β → Prop}

theorem ok {a : α} (h : post a) : Yields (.ok a : Except ε α) post := ⟨a, rfl, h⟩

theorem bind (h : Yields x post) {f : α → Except ε β} (hf : ∀ a, post a → Yields (f a) postβ) :
    Yields (x >>= f) postβ := by
  obtain ⟨a, rfl, hp⟩ := h
  exact hf a hp

theorem map (h : Yields x post) {f : α → β} (hf : ∀ a, post a → postβ (f a)) :
    Yields (x.map f) postβ := by
  obtain ⟨a, rfl, hp⟩ := h
  exact ⟨f a, rfl, hf a hp⟩

end Yields

theorem returns_of_eq_ok {x : Except ε α} {a : α} (h : x = .ok a) : Returns x := ⟨a, h, trivial⟩

theorem returns_bind {x : Except ε α} {f : α → Except ε β} :
    Returns (x >>= f) ↔ ∃ a, x = .ok a ∧ Returns (f a) := by
  simp only [returns_iff, bind_eq_ok]
  constructor
  · rintro ⟨b, a, ha, hb⟩
    exact ⟨a, ha, b, hb⟩
  · rintro ⟨a, ha, b, hb⟩
    exact ⟨b, a, ha, hb⟩

theorem returns_map {x : Except ε α} {f : α → β} : Returns (x.map f) ↔ Returns x := by
  simp only [returns_iff, map_eq_ok]
  constructor
  · rintro ⟨b, a, ha, -⟩
    exact ⟨a, ha⟩
  · rintro ⟨a, ha⟩
    exact ⟨f a, a, ha, rfl⟩

/-- Two steps that do not look at each other's results. -/
theorem returns_both {x : Except ε α} {y : Except ε β} {γ : Type} {f : α → β → γ} :
    Returns (x >>= fun a => y >>= fun b => pure (f a b)) ↔ Returns x ∧ Returns y := by
  simp only [returns_bind]
  constructor
  · rintro ⟨a, ha, b, hb, -⟩
    exact ⟨returns_of_eq_ok ha, returns_of_eq_ok hb⟩
  · rintro ⟨⟨a, ha, -⟩, b, hb, -⟩
    exact ⟨a, ha, b, hb, Yields.ok trivial⟩

/-! ### Steps that come to the same -/

/-- Two steps that fail alike, or come to results in a relation. -/
inductive Alike (R : α → β → Prop) : Except ε α → Except ε β → Prop
  | ok {a : α} {b : β} (h : R a b) : Alike R (.ok a) (.ok b)
  | error (e : ε) : Alike R (.error e) (.error e)

namespace Alike

variable {α' β' : Type} {R : α → β → Prop} {S : α' → β' → Prop} {x : Except ε α} {y : Except ε β}

theorem bind (h : Alike R x y) {f : α → Except ε α'} {g : β → Except ε β'}
    (hfg : ∀ a b, R a b → Alike S (f a) (g b)) : Alike S (x >>= f) (y >>= g) := by
  cases h with
  | ok h => exact hfg _ _ h
  | error e => exact .error e

theorem map (h : Alike R x y) {f : α → α'} {g : β → β'} (hfg : ∀ a b, R a b → S (f a) (g b)) :
    Alike S (x.map f) (y.map g) := by
  cases h with
  | ok h => exact .ok (hfg _ _ h)
  | error e => exact .error e

theorem mono (h : Alike R x y) {R' : α → β → Prop} (hR : ∀ a b, R a b → R' a b) : Alike R' x y := by
  cases h with
  | ok h => exact .ok (hR _ _ h)
  | error e => exact .error e

theorem yields_iff (h : Alike R x y) {p : α → Prop} {q : β → Prop}
    (hpq : ∀ a b, R a b → (p a ↔ q b)) : Yields x p ↔ Yields y q := by
  cases h with
  | ok h => simp only [Yields, Except.ok.injEq, exists_eq_left', hpq _ _ h]
  | error e => simp [Yields]

/-- Both begin with the same step. -/
theorem bind_same {x : Except ε α} {f : α → Except ε α'} {g : α → Except ε β'}
    (hfg : ∀ a, Alike S (f a) (g a)) : Alike S (x >>= f) (x >>= g) := by
  cases x with
  | ok a => exact hfg a
  | error e => exact .error e

theorem of_eq {x y : Except ε α} (h : x = y) : Alike Eq x y := by
  subst h
  cases x with
  | ok a => exact .ok rfl
  | error e => exact .error e

theorem eq {x y : Except ε α} (h : Alike Eq x y) : x = y := by
  cases h with
  | ok h => exact congrArg Except.ok h
  | error e => rfl

end Alike

/-- Steps whose results come to the same under two views fail alike, and the other way round. -/
theorem alike_iff_map_eq {γ : Type} {x : Except ε α} {y : Except ε β} {f : α → γ} {g : β → γ} :
    Alike (fun a b => f a = g b) x y ↔ x.map f = y.map g := by
  constructor
  · rintro (h | e)
    · exact congrArg Except.ok h
    · rfl
  · intro h
    cases x with
    | ok a =>
      cases y with
      | ok b => exact .ok (Except.ok.inj h)
      | error e => cases h
    | error e =>
      cases y with
      | ok b => cases h
      | error e' =>
        cases h
        exact .error e

end Bursary
