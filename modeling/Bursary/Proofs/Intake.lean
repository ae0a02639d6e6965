import Bursary.Intake.Entry
import Bursary.Proofs.Evaluation
import Bursary.Proofs.Prediction
import Bursary.Proofs.Verdict

/-! Everything that is handed in loosely shaped can be read and evaluated. Readings fail only
where a text cannot be made, and data within the limits of digits and depth have all their texts.
What they come to is fit for an evaluation: its integers can be shown, its lower bound on grades is
a number, and rules that cannot be read have numbers for their places. -/

namespace Bursary

attribute [local irreducible] Value.digitBound Binary64.unitLimit Binary64.unitsPerOne

/-! ### Numbers -/

theorem Binary64.unitLimit_le_digitBound : unitLimit ≤ Value.digitBound := by decide +kernel

theorem Binary64.natAbs_truncate_lt (x : Binary64) : x.truncate.natAbs < Value.digitBound := by
  have hunits : x.signedUnits.natAbs < unitLimit := by
    cases x with
    | nan => exact unitLimit_pos
    | infinite s => exact unitLimit_pos
    | finite s u h => cases s <;> simpa [signedUnits] using h.1
  calc x.truncate.natAbs = x.signedUnits.natAbs / unitsPerOne :=
        Int.natAbs_tdiv _ _
    _ ≤ x.signedUnits.natAbs := Nat.div_le_self _ _
    _ < unitLimit := hunits
    _ ≤ Value.digitBound := unitLimit_le_digitBound

namespace Value

theorem natAbs_lt_of_mem_count? {v : Value} {n : Int} (h : n ∈ v.count?) :
    n.natAbs < digitBound := by
  obtain ⟨x, -, rfl⟩ := Option.map_eq_some_iff.mp h
  exact x.natAbs_truncate_lt

theorem amount?_ne_nan (v : Value) : v.amount? ≠ some .nan :=
  fun h => Binary64.ne_nan_of_isFinite (isFinite_of_numberBy h) rfl

end Value

/-! ### Students -/

namespace Student

theorem Writable.householdSize {s : Student} (h : s.Writable) :
    ∀ n ∈ s.householdSize, n.natAbs < Value.digitBound := by
  intro n hn
  have hsize : ((s.householdSize.map Value.whole).getD .null).Writable := h.get "household_size"
  rw [Option.mem_def.mp hn] at hsize
  exact of_decide_eq_true hsize

theorem writable_of_fields {s : Student} (hunits : s.unitsEnrolled.toValue.Writable)
    (hincome : s.annualFamilyIncome.toValue.Writable)
    (hsize : ∀ n ∈ s.householdSize, n.natAbs < Value.digitBound)
    (hcustom : (Value.record s.customFields).Writable) : s.Writable := by
  have htext (t : Option String) : (Value.ofText? t).Writable := by cases t <;> rfl
  have hpassed : ((s.unitsPassed.map Value.real).getD .null).Writable := by
    cases s.unitsPassed <;> rfl
  have hhousehold : ((s.householdSize.map Value.whole).getD .null).Writable := by
    cases h : s.householdSize with
    | none => rfl
    | some n => exact decide_eq_true (hsize n h)
  unfold Writable toRecord Record.Writable Record.Everywhere
  simp only [List.forall_mem_cons, List.not_mem_nil, false_implies, implies_true, and_true]
  exact ⟨rfl, rfl, rfl, rfl, rfl, htext _, hunits, hpassed, hincome, rfl, htext _, hhousehold, rfl,
    rfl, rfl, rfl, rfl, rfl, rfl, rfl, rfl, rfl, rfl, hcustom⟩

/-- The entries of a value are a record that is no deeper. -/
theorem writable_record_toRecord {v : Value} (h : v.Writable) :
    (Value.record v.toRecord).Writable := by
  cases v with
  | record es => exact h
  | keyed es => exact Value.everywhere_record.mpr (Value.everywhere_keyed.mp h)
  | _ => rfl

theorem writable_profile {raw : Value} (h : raw.Writable) : (profile raw).Writable := by
  unfold profile
  dsimp only
  have hprofile := h.toRecord.get "studentProfile"
  generalize raw.toRecord.get "studentProfile" = v at hprofile
  cases v with
  | record es => exact hprofile.toRecord
  | _ => exact h.toRecord

theorem writable_provinceOf {data : Record} (h : data.Writable) : (provinceOf data).Writable := by
  unfold provinceOf
  dsimp only
  split
  · exact h.firstTruthy _
  · exact (h.get "homeAddress").toRecord.get "province"

theorem nameOf?_returns {table : Canonical.Table} {v : Value} (h : v.Writable) :
    Returns (Canonical.nameOf? table v) :=
  h.textIfGiven.map fun _ _ => trivial

theorem nameOr_returns {table : Canonical.Table} {fallback : String} {v : Value}
    (h : v.Writable) : Returns (nameOr table fallback v) :=
  (nameOf?_returns h).bind fun _ _ => .ok trivial

theorem textOr_returns {fallback : String} {v : Value} (h : v.Writable) :
    Returns (textOr fallback v) :=
  h.toText.bind fun _ _ => .ok trivial

theorem ofValue_yields {raw : Value} (h : raw.Writable) : Yields (ofValue raw) Writable := by
  have hdata := writable_profile h
  unfold ofValue
  generalize profile raw = data at hdata
  refine (nameOr_returns (hdata.firstTruthy _)).bind fun yearLevel _ => ?_
  refine (nameOr_returns (hdata.get _)).bind fun college _ => ?_
  refine (hdata.get _).toText.bind fun course _ => ?_
  refine (hdata.get _).toText.bind fun major _ => ?_
  refine (nameOf?_returns (hdata.get _)).bind fun stBracket _ => ?_
  refine (writable_provinceOf hdata).toText.bind fun province _ => ?_
  refine (textOr_returns (hdata.get _)).bind fun citizenship _ => ?_
  exact .ok <| writable_of_fields rfl rfl (fun n hn => Value.natAbs_lt_of_mem_count? hn)
    (writable_record_toRecord (hdata.get _))

end Student

/-! ### Rules -/

namespace RuleTest

theorem writable_value_of_make? {kind : Kind} {operator : String} {value : Option Value}
    {t : RuleTest} (h : make? kind operator value = some t) (hv : ∀ v ∈ value, v.Writable) :
    t.value.Writable := by
  have hor {default : Value} (hd : default.Writable) : (value.getD default).Writable := by
    cases value with
    | none => exact hd
    | some v => exact hv v rfl
  cases kind with
  | range =>
    obtain ⟨op, -, rfl⟩ := Option.map_eq_some_iff.mp h
    exact hor rfl
  | boolean =>
    obtain ⟨op, -, rfl⟩ := Option.map_eq_some_iff.mp h
    exact hor rfl
  | list =>
    obtain ⟨op, -, rfl⟩ := Option.map_eq_some_iff.mp h
    exact hor rfl

end RuleTest

namespace RuleDraft

/-- A draft whose value can be shown, if it has one. -/
def Writable (d : RuleDraft) : Prop := ∀ v ∈ d.value, v.Writable

theorem ofValue_yields (position : Nat) {raw : Value} (h : raw.Writable) :
    Yields (ofValue position raw) Writable := by
  have hitem := h.toRecord
  unfold ofValue
  generalize raw.toRecord = item at hitem
  refine (hitem.first _).toText.bind fun id _ => ?_
  refine (hitem.first _).toText.bind fun name _ => ?_
  refine (hitem.get _).toText.bind fun description _ => ?_
  refine (hitem.first _).toText.bind fun kind _ => ?_
  refine (hitem.first _).toText.bind fun field _ => ?_
  refine (hitem.get _).toText.bind fun operator _ => ?_
  refine (hitem.get _).toText.bind fun category _ => ?_
  refine (hitem.get _).toText.bind fun importance _ => ?_
  exact .ok fun v hv => Record.Everywhere.get? hitem hv

theorem ofValues_yields {position : Nat} {vs : List Value} (h : ∀ v ∈ vs, v.Writable) :
    Yields (ofValues position vs) fun ds => ∀ d ∈ ds, d.Writable := by
  induction vs generalizing position with
  | nil => exact .ok fun d hd => nomatch hd
  | cons v vs ih =>
    rw [List.forall_mem_cons] at h
    refine (ofValue_yields position h.1).bind fun d hd => ?_
    exact (ih h.2).bind fun ds hds => .ok (List.forall_mem_cons.mpr ⟨hd, hds⟩)

theorem ofList_yields {v : Value} (h : v.Writable) :
    Yields (ofList v) fun ds => ∀ d ∈ ds, d.Writable := by
  cases v with
  | list vs => exact ofValues_yields (Value.everywhere_list.mp h).2
  | form kind fields =>
    refine ofValues_yields fun v hv => ?_
    obtain ⟨e, -, rfl⟩ := List.mem_map.mp hv
    rfl
  | _ => exact .ok fun d hd => nomatch hd

theorem writable_of_toRule? {d : RuleDraft} {r : Rule} (h : d.toRule? = some r)
    (hd : d.Writable) : r.test.value.Writable := by
  simp only [toRule?, Option.bind_eq_bind, Option.bind_eq_some_iff, Option.pure_def] at h
  obtain ⟨kind, -, test, ht, importance, -, hr⟩ := h
  cases hr
  exact RuleTest.writable_value_of_make? ht hd

/-- A draft that is no rule says in texts what a check of it shows, and its place is a number. -/
theorem check_toRecord_returns (d : RuleDraft) : Returns (Unreadable.check d.toRecord) := .ok trivial

theorem placeKind_toRecord (d : RuleDraft) : Unreadable.placeKind d.toRecord = some .number := rfl

end RuleDraft

/-! ### Criteria -/

namespace Criteria

/-- Criteria that can be evaluated for every student that can be shown. -/
structure Checkable (c : Criteria) : Prop where
  minGwa : c.minGwa ≠ some .nan
  minHouseholdSize : ∀ n ∈ c.minHouseholdSize, n.natAbs < Value.digitBound
  maxHouseholdSize : ∀ n ∈ c.maxHouseholdSize, n.natAbs < Value.digitBound
  rules : ∀ r ∈ c.rules, r.test.value.Writable
  unreadableRules : ∀ raw ∈ c.unreadableRules,
    Returns (Unreadable.check raw) ∧ Unreadable.placeKind raw = some .number

theorem Checkable.mem_placeKinds {c : Criteria} (h : c.Checkable) {kind : Option Value.OrderKind}
    (hk : kind ∈ c.placeKinds) : kind = some .number := by
  rcases List.mem_append.mp hk with hk | hk
  · obtain ⟨r, -, rfl⟩ := List.mem_map.mp hk
    rfl
  · obtain ⟨raw, hraw, rfl⟩ := List.mem_map.mp hk
    exact (h.unreadableRules raw (List.mem_filter.mp hraw |>.1)).2

theorem ofRecord_yields {data : Record} (h : data.Writable) : Yields (ofRecord data) Checkable := by
  unfold ofRecord
  refine (RuleDraft.ofList_yields (h.get "customConditions")).bind fun drafts hdrafts => ?_
  refine (h.firstTruthy _).toTexts.bind fun yearLevels _ => ?_
  refine (h.get _).toTexts.bind fun colleges _ => ?_
  refine (h.get _).toTexts.bind fun courses _ => ?_
  refine (h.get _).toTexts.bind fun majors _ => ?_
  refine (h.firstTruthy _).toTexts.bind fun stBrackets _ => ?_
  refine (h.get _).toTexts.bind fun provinces _ => ?_
  refine (h.get _).toTexts.bind fun citizenships _ => ?_
  refine .ok {
    minGwa := Value.amount?_ne_nan _
    minHouseholdSize := fun n hn => Value.natAbs_lt_of_mem_count? hn
    maxHouseholdSize := fun n hn => Value.natAbs_lt_of_mem_count? hn
    rules := fun r hr => ?_
    unreadableRules := fun raw hraw => ?_ }
  · obtain ⟨d, hd, hr⟩ := List.mem_filterMap.mp hr
    exact RuleDraft.writable_of_toRule? hr (hdrafts d hd)
  · obtain ⟨d, -, rfl⟩ := List.mem_map.mp hraw
    exact ⟨d.check_toRecord_returns, d.placeKind_toRecord⟩

end Criteria

/-! ### What comes from outside -/

/-- Whether a value is no form, that is, no reading of other data. -/
def Value.isRaw : Value → Bool
  | .form .. => false
  | _ => true

/-- A value as it comes from outside: any shape of data, its integers within the digit limit, its
lists and records nested within the depth limit. -/
structure Value.IsLoose (v : Value) : Prop where
  writable : v.Writable
  raw : v.everywhere isRaw = true

theorem Criteria.ofValue_yields {raw : Value} (h : raw.IsLoose) :
    Yields (ofValue raw) Checkable := by
  cases raw with
  | form kind fields => cases (Value.everywhere_form.mp h.raw).1
  | _ => exact ofRecord_yields h.writable.toRecord

theorem Scholarship.openness_returns {data : Record} (h : data.Writable) :
    Returns (openness data) := by
  unfold openness
  dsimp only
  split
  · exact .ok trivial
  split
  · exact .ok trivial
  · exact (h.get "status").asText.map fun _ _ => trivial

theorem Scholarship.ofValue_yields {raw : Value} (h : raw.IsLoose) :
    Yields (ofValue raw) fun x => x.criteria.Checkable := by
  have hdata := h.writable.toRecord
  have hraw := Value.everywhere_toRecord h.raw
  unfold ofValue
  refine (openness_returns hdata).bind fun isActive _ => ?_
  refine (hdata.first _).toText.bind fun id _ => ?_
  refine (hdata.first _).toText.bind fun name _ => ?_
  exact (Criteria.ofValue_yields ⟨hdata.first _, hraw.first rfl _⟩).bind fun c hc => .ok hc

/-! ### Evaluations -/

theorem evaluate_returns {s : Student} {c : Criteria} (hs : s.Writable) (hc : c.Checkable) :
    Returns (evaluate s c) := by
  have hplain : some .list ∉ c.placeKinds := fun h => nomatch hc.mem_placeKinds h
  rw [evaluate_returns_iff hplain]
  refine ⟨fun cond ha => ⟨?_, ?_⟩, fun r hr _ => ?_, fun raw hraw _ => ?_, .inr ⟨.number, ?_⟩⟩
  · exact cond.studentText_returns hs.householdSize
  · exact Condition.requiredText_returns ha hc.minGwa hc.minHouseholdSize hc.maxHouseholdSize
  · exact r.check_returns hs (hc.rules r hr)
  · exact (hc.unreadableRules raw hraw).1
  · exact fun kind hk => hc.mem_placeKinds hk

theorem quickVerdict_returns {s : Student} {c : Criteria} (hs : s.Writable) (hc : c.Checkable) :
    Returns (quickVerdict s c) := by
  obtain ⟨v, hv, -⟩ := evaluate_returns hs hc
  exact returns_of_eq_ok (quickVerdict_of_evaluate hv)

end Bursary
