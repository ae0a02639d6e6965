import Bursary.Proofs.Binary64.Order
import Bursary.Proofs.Outcome
import Bursary.Rule.Check

/-! Values that can be written out. A property of all the values inside a value is kept by
everything that is read out of it: the entries of its records, the first of several keys, the
field at a path. Where it says that values are within the limits, of digits and of depth, every
text of the value can be made, and no text of any other value can. -/

namespace Bursary

attribute [local irreducible] Value.digitBound

namespace Value

mutual

/-- Whether a value and all values inside it satisfy `p`. -/
def everywhere (p : Value → Bool) : Value → Bool
  | list xs => p (list xs) && everywhereItems p xs
  | record es => p (record es) && everywhereEntries p es
  | keyed es => p (keyed es) && everywhereEntries p es
  | form kind es => p (form kind es) && everywhereEntries p es
  | v => p v

def everywhereItems (p : Value → Bool) : List Value → Bool
  | [] => true
  | x :: xs => everywhere p x && everywhereItems p xs

def everywhereEntries (p : Value → Bool) : List (String × Value) → Bool
  | [] => true
  | (_, v) :: es => everywhere p v && everywhereEntries p es

end

end Value

/-- Whether all values inside the entries of a record satisfy `p`. -/
def Record.Everywhere (p : Value → Bool) (r : Record) : Prop :=
  ∀ e ∈ r, e.2.everywhere p = true

namespace Value

variable {p q : Value → Bool}

theorem everywhereItems_iff {xs : List Value} :
    everywhereItems p xs = true ↔ ∀ x ∈ xs, x.everywhere p = true := by
  induction xs with
  | nil => simp [everywhereItems]
  | cons x xs ih => simp [everywhereItems, ih]

theorem everywhereEntries_iff {es : Record} :
    everywhereEntries p es = true ↔ es.Everywhere p := by
  unfold Record.Everywhere
  induction es with
  | nil => simp [everywhereEntries]
  | cons e es ih =>
    obtain ⟨k, v⟩ := e
    simp [everywhereEntries, ih]

theorem everywhere_list {xs : List Value} :
    (list xs).everywhere p = true ↔ p (list xs) = true ∧ ∀ x ∈ xs, x.everywhere p = true := by
  rw [everywhere, Bool.and_eq_true, everywhereItems_iff]

theorem everywhere_record {es : Record} :
    (record es).everywhere p = true ↔ p (record es) = true ∧ es.Everywhere p := by
  rw [everywhere, Bool.and_eq_true, everywhereEntries_iff]

theorem everywhere_keyed {es : Record} :
    (keyed es).everywhere p = true ↔ p (keyed es) = true ∧ es.Everywhere p := by
  rw [everywhere, Bool.and_eq_true, everywhereEntries_iff]

theorem everywhere_form {kind : String} {es : Record} :
    (form kind es).everywhere p = true ↔ p (form kind es) = true ∧ es.Everywhere p := by
  rw [everywhere, Bool.and_eq_true, everywhereEntries_iff]

end Value

/-! ### What is read out of a value -/

namespace Record.Everywhere

variable {p : Value → Bool} {r : Record} (h : r.Everywhere p)

include h

theorem get? {key : String} {v : Value} (hv : r.get? key = some v) : v.everywhere p = true := by
  obtain ⟨e, he, rfl⟩ := Option.map_eq_some_iff.mp hv
  exact h e (List.mem_of_find?_eq_some he)

variable (hnull : p .null = true)

include hnull

theorem get (key : String) : (r.get key).everywhere p = true := by
  unfold Record.get
  cases hv : r.get? key with
  | none => exact hnull
  | some v => exact h.get? hv

/-- The value under the first of several keys that is told by `wanted`. -/
theorem getD_find? (keys : List String) (wanted : Value → Bool) :
    (((keys.map r.get).find? wanted).getD .null).everywhere p = true := by
  cases hv : (keys.map r.get).find? wanted with
  | none => exact hnull
  | some v =>
    obtain ⟨key, -, rfl⟩ := List.mem_map.mp (List.mem_of_find?_eq_some hv)
    exact h.get hnull key

theorem first (keys : List String) : (r.first keys).everywhere p = true :=
  h.getD_find? hnull keys _

theorem firstTruthy (keys : List String) : (r.firstTruthy keys).everywhere p = true :=
  h.getD_find? hnull keys _

theorem fieldNamed (name : String) : (r.fieldNamed name).everywhere p = true := by
  unfold Record.fieldNamed
  split
  case h_1 v hv => exact h.get? hv
  case h_2 => exact h.get hnull _

end Record.Everywhere

namespace Value

variable {p : Value → Bool} {v : Value} (h : v.everywhere p = true)

include h

theorem everywhere_toRecord : v.toRecord.Everywhere p := by
  have hnil : Record.Everywhere p [] := fun e he => nomatch he
  cases v with
  | record es => exact (everywhere_record.mp h).2
  | keyed es => exact (everywhere_keyed.mp h).2
  | _ => exact hnil

theorem everywhere_entry (hnull : p .null = true) (key : String) :
    (v.entry key).everywhere p = true := by
  cases v with
  | form kind fields => exact (everywhere_form.mp h).2.fieldNamed hnull key
  | record es => exact (everywhere_record.mp h).2.get hnull key
  | keyed es =>
    unfold entry
    dsimp only
    split
    · exact hnull
    · exact (everywhere_keyed.mp h).2.get hnull key
  | _ => exact hnull

end Value

/-- A path leads to a value inside the student's fields. -/
theorem Student.everywhere_resolve {p : Value → Bool} {s : Student}
    (h : s.toRecord.Everywhere p) (hnull : p .null = true) (path : String) :
    (s.resolve path).everywhere p = true := by
  have hcustom : s.customFields.Everywhere p :=
    (Value.everywhere_record.mp (h ("custom_fields", .record s.customFields) (by simp [toRecord]))).2
  have hstart (name : String) : (s.start name).everywhere p = true := by
    unfold start
    dsimp only
    split
    · exact hcustom.get hnull name
    · exact h.fieldNamed hnull name
  have hentries (names : List String) (v : Value) (hv : v.everywhere p = true) :
      (names.foldl Value.entry v).everywhere p = true := by
    induction names generalizing v with
    | nil => exact hv
    | cons name names ih => exact ih _ (Value.everywhere_entry hv hnull name)
  unfold resolve
  split
  · exact hnull
  · exact hnull
  · exact hentries _ _ (hstart _)

/-! ### Limits -/

namespace Value

mutual

/-- How deep lists and records are nested in a value. -/
def depth : Value → Nat
  | list xs => depthItems xs + 1
  | record es => depthEntries es + 1
  | keyed es => depthEntries es + 1
  | form _ es => depthEntries es + 1
  | _ => 0

def depthItems : List Value → Nat
  | [] => 0
  | x :: xs => max (depth x) (depthItems xs)

def depthEntries : List (String × Value) → Nat
  | [] => 0
  | (_, v) :: es => max (depth v) (depthEntries es)

end

/-- Whether a value is no integer beyond the digit limit. -/
def withinDigits : Value → Bool
  | whole i => i.natAbs < digitBound
  | _ => true

/-- Whether a value is neither an integer beyond the digit limit nor nested beyond the depth
limit. -/
def withinLimits : Value → Bool
  | whole i => i.natAbs < digitBound
  | v => v.depth ≤ Failure.depthLimit

/-- A value within the limits, like all values inside it. -/
def Writable (v : Value) : Prop := v.everywhere withinLimits = true

instance : DecidablePred Writable := fun _ => inferInstanceAs (Decidable (_ = true))

end Value

/-- A record all of whose values are within the limits. -/
def Record.Writable (r : Record) : Prop := r.Everywhere Value.withinLimits

instance : DecidablePred Record.Writable := fun _ =>
  decidable_of_iff _ Value.everywhereEntries_iff

namespace Record.Writable

variable {r : Record} (h : r.Writable)

include h

theorem get (key : String) : (r.get key).Writable := Everywhere.get h rfl key

theorem first (keys : List String) : (r.first keys).Writable := Everywhere.first h rfl keys

theorem firstTruthy (keys : List String) : (r.firstTruthy keys).Writable :=
  Everywhere.firstTruthy h rfl keys

end Record.Writable

/-- A student all of whose fields can be shown. -/
def Student.Writable (s : Student) : Prop := s.toRecord.Writable

theorem Student.Writable.resolve {s : Student} (h : s.Writable) (path : String) :
    (s.resolve path).Writable := everywhere_resolve h rfl path

namespace Value

theorem Writable.toRecord {v : Value} (h : v.Writable) : v.toRecord.Writable :=
  everywhere_toRecord h

/-! ### Depth -/

/-- What is inside a value is less deep, so that only the depth of the whole needs a limit. -/
theorem withinLimits_and_iff {parts : Bool} {P : Prop} {n limit : Nat}
    (h : parts = true ↔ P ∧ n ≤ limit) :
    (decide (n + 1 ≤ limit) && parts) = true ↔ P ∧ n + 1 ≤ limit := by
  rw [Bool.and_eq_true, decide_eq_true_iff, h]
  constructor
  · rintro ⟨hdepth, hP, -⟩
    exact ⟨hP, hdepth⟩
  · rintro ⟨hP, hdepth⟩
    exact ⟨hdepth, hP, Nat.le_of_succ_le hdepth⟩

mutual

/-- A value is writable exactly if no integer in it is beyond the digit limit and it is not nested
beyond the depth limit. -/
theorem writable_iff : ∀ v : Value,
    v.Writable ↔ v.everywhere withinDigits = true ∧ v.depth ≤ Failure.depthLimit
  | null | flag _ | real _ | text _ => iff_of_true rfl ⟨rfl, Nat.zero_le _⟩
  | whole _ => (and_iff_left (Nat.zero_le _)).symm
  | list xs => withinLimits_and_iff (everywhereItems_withinLimits xs)
  | record es | keyed es | form _ es => withinLimits_and_iff (everywhereEntries_withinLimits es)

theorem everywhereItems_withinLimits : ∀ xs : List Value,
    everywhereItems withinLimits xs = true ↔
      everywhereItems withinDigits xs = true ∧ depthItems xs ≤ Failure.depthLimit
  | [] => iff_of_true rfl ⟨rfl, Nat.zero_le _⟩
  | x :: xs => by
    have hx := writable_iff x
    rw [Writable] at hx
    rw [everywhereItems, everywhereItems, depthItems, Bool.and_eq_true, Bool.and_eq_true,
      Nat.max_le, hx, everywhereItems_withinLimits xs]
    exact and_and_and_comm

theorem everywhereEntries_withinLimits : ∀ es : List (String × Value),
    everywhereEntries withinLimits es = true ↔
      everywhereEntries withinDigits es = true ∧ depthEntries es ≤ Failure.depthLimit
  | [] => iff_of_true rfl ⟨rfl, Nat.zero_le _⟩
  | (_, v) :: es => by
    have hv := writable_iff v
    rw [Writable] at hv
    rw [everywhereEntries, everywhereEntries, depthEntries, Bool.and_eq_true, Bool.and_eq_true,
      Nat.max_le, hv, everywhereEntries_withinLimits es]
    exact and_and_and_comm

end

/-! ### Texts -/

theorem wholeText_returns_iff {i : Int} : Returns (wholeText i) ↔ i.natAbs < digitBound := by
  unfold wholeText
  split
  case isTrue h => exact iff_of_true (.ok trivial) h
  case isFalse h => exact iff_of_false nofun h

/-- If what is inside needs room for `n` levels, the whole needs room for one more. -/
theorem inside_returns_iff {α : Type} {write : Nat → Except Failure α} {P : Prop} {n : Nat}
    (h : ∀ room, Returns (write room) ↔ P ∧ n ≤ room) (room : Nat) :
    Returns (inside room write) ↔ P ∧ n + 1 ≤ room := by
  cases room with
  | zero => exact iff_of_false nofun fun h => nomatch h.2
  | succ room =>
    rw [Nat.add_le_add_iff_right]
    exact h room

mutual

theorem displayWithin_returns_iff : ∀ (room : Nat) (v : Value),
    Returns (displayWithin room v) ↔ v.everywhere withinDigits = true ∧ v.depth ≤ room
  | _, null | _, flag _ | _, real _ | _, text _ =>
    iff_of_true (.ok trivial) ⟨rfl, Nat.zero_le _⟩
  | _, whole _ =>
    (wholeText_returns_iff.trans decide_eq_true_iff.symm).trans
      (and_iff_left (Nat.zero_le _)).symm
  | room, list xs =>
    returns_map.trans (inside_returns_iff (fun room => displayItems_returns_iff room xs) room)
  | room, record es | room, keyed es =>
    returns_map.trans (inside_returns_iff (fun room => displayEntries_returns_iff room es) room)
  | room, form _ es =>
    returns_map.trans (inside_returns_iff (fun room => displayFields_returns_iff room es) room)

theorem displayItems_returns_iff : ∀ (room : Nat) (xs : List Value),
    Returns (displayItems room xs) ↔
      everywhereItems withinDigits xs = true ∧ depthItems xs ≤ room
  | _, [] => iff_of_true (.ok trivial) ⟨rfl, Nat.zero_le _⟩
  | room, x :: xs => by
    rw [displayItems, returns_both, displayWithin_returns_iff room x,
      displayItems_returns_iff room xs, everywhereItems, Bool.and_eq_true, depthItems, Nat.max_le]
    exact and_and_and_comm

theorem displayEntries_returns_iff : ∀ (room : Nat) (es : List (String × Value)),
    Returns (displayEntries room es) ↔
      everywhereEntries withinDigits es = true ∧ depthEntries es ≤ room
  | _, [] => iff_of_true (.ok trivial) ⟨rfl, Nat.zero_le _⟩
  | room, (_, v) :: es => by
    rw [displayEntries, returns_both, displayWithin_returns_iff room v,
      displayEntries_returns_iff room es, everywhereEntries, Bool.and_eq_true, depthEntries,
      Nat.max_le]
    exact and_and_and_comm

theorem displayFields_returns_iff : ∀ (room : Nat) (es : List (String × Value)),
    Returns (displayFields room es) ↔
      everywhereEntries withinDigits es = true ∧ depthEntries es ≤ room
  | _, [] => iff_of_true (.ok trivial) ⟨rfl, Nat.zero_le _⟩
  | room, (_, v) :: es => by
    rw [displayFields, returns_both, displayWithin_returns_iff room v,
      displayFields_returns_iff room es, everywhereEntries, Bool.and_eq_true, depthEntries,
      Nat.max_le]
    exact and_and_and_comm

end

/-- A value has a text exactly if it is writable. -/
theorem asText_returns_iff {v : Value} : Returns v.asText ↔ v.Writable := by
  rw [writable_iff]
  cases v with
  | text s => exact iff_of_true (.ok trivial) ⟨rfl, Nat.zero_le _⟩
  | form kind es =>
    exact returns_map.trans
      (inside_returns_iff (fun room => displayFields_returns_iff room es) Failure.depthLimit)
  | _ => exact displayWithin_returns_iff _ _

theorem toText_returns_iff {v : Value} : Returns v.toText ↔ v.Writable := by
  cases v with
  | null | flag b | real x | text s => exact iff_of_true (.ok trivial) rfl
  | _ => exact returns_map.trans asText_returns_iff

namespace Writable

theorem asText {v : Value} (h : v.Writable) : Returns v.asText := asText_returns_iff.mpr h

theorem toText {v : Value} (h : v.Writable) : Returns v.toText := toText_returns_iff.mpr h

theorem textIfGiven {v : Value} (h : v.Writable) : Returns v.textIfGiven := by
  unfold Value.textIfGiven
  split
  · exact h.asText.map fun _ _ => trivial
  · exact .ok trivial

end Writable

theorem textsOf_returns {vs : List Value} (h : ∀ v ∈ vs, v.Writable) : Returns (textsOf vs) := by
  induction vs with
  | nil => exact .ok trivial
  | cons v vs ih =>
    rw [List.forall_mem_cons] at h
    exact h.1.toText.bind fun _ _ => (ih h.2).bind fun _ _ => .ok trivial

theorem pairTexts_returns {fields : Record}
    (hdigits : everywhereEntries withinDigits fields = true)
    (hdepth : depthEntries fields + 1 ≤ Failure.depthLimit) : Returns (pairTexts fields) := by
  induction fields with
  | nil => exact .ok trivial
  | cons e fields ih =>
    rw [everywhereEntries, Bool.and_eq_true] at hdigits
    rw [depthEntries] at hdepth
    have hshown : Returns (inside Failure.depthLimit fun room => displayWithin room e.2) :=
      (inside_returns_iff (fun room => displayWithin_returns_iff room e.2) _).mpr
        ⟨hdigits.1, by omega⟩
    exact hshown.bind fun _ _ => (ih hdigits.2 (by omega)).bind fun _ _ => .ok trivial

theorem Writable.toTexts {v : Value} (h : v.Writable) : Returns v.toTexts := by
  cases v with
  | list vs => exact textsOf_returns (everywhere_list.mp h).2
  | form kind fields =>
    obtain ⟨hdigits, hdepth⟩ := (writable_iff _).mp h
    exact pairTexts_returns hdigits hdepth
  | _ => exact .ok trivial

end Value

theorem joinedText_returns {vs : List Value} (h : ∀ v ∈ vs, v.Writable) :
    Returns (joinedText vs) := by
  have hitems : Returns (itemTexts vs) := by
    induction vs with
    | nil => exact .ok trivial
    | cons v vs ih =>
      rw [List.forall_mem_cons] at h
      exact h.1.asText.bind fun _ _ => (ih h.2).bind fun _ _ => .ok trivial
  exact hitems.map fun _ _ => trivial

end Bursary
