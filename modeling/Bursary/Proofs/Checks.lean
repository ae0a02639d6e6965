import Mathlib.Data.List.Perm.Basic
import Bursary.Proofs.Intake

/-! Every declared condition is checked once and in order. The checks of a verdict are those of
the standard conditions that apply, in the order of the catalogue, and behind them those of the
active elements of the scholarship's own list. Elements that are rules and elements that are none
are checked apart and put together by their places. The places are positions in the list, so no two
of them are equal and the sort restores the order of the list. -/

namespace Bursary

section Lists

variable {α β γ : Type} {R : α → β → Prop}

theorem exists_mem_of_forall₂ {as : List α} {bs : List β} (h : List.Forall₂ R as bs) {a : α}
    (ha : a ∈ as) : ∃ b ∈ bs, R a b := by
  induction h with
  | nil => cases ha
  | cons hab _ ih =>
    rcases List.mem_cons.mp ha with rfl | ha
    · exact ⟨_, List.mem_cons_self, hab⟩
    · obtain ⟨b, hb, hr⟩ := ih ha
      exact ⟨b, List.mem_cons_of_mem _ hb, hr⟩

theorem forall₂_trans {S : β → γ → Prop} {as : List α} {bs : List β} {cs : List γ}
    (h : List.Forall₂ R as bs) (h' : List.Forall₂ S bs cs) :
    List.Forall₂ (fun a c => ∃ b, R a b ∧ S b c) as cs := by
  induction h generalizing cs with
  | nil =>
    cases h'
    exact .nil
  | cons hab _ ih =>
    cases h' with
    | cons hbc h' => exact .cons ⟨_, hab, hbc⟩ (ih h')

end Lists

/-! ### Standard conditions -/

namespace Condition

variable {cond : Condition} {s : Student} {c : Criteria} {k : Check}

theorem id_of_check (h : cond.check s c = .ok k) : k.id = cond.id := by
  simp only [check, bind_eq_ok, pure_eq_ok] at h
  obtain ⟨-, -, -, -, rfl⟩ := h
  rfl

theorem passed_of_check (h : cond.check s c = .ok k) : k.passed = cond.holds s c := by
  simp only [check, bind_eq_ok, pure_eq_ok] at h
  obtain ⟨-, -, -, -, rfl⟩ := h
  rfl

/-- One check for every condition that applies, in their order. -/
theorem forall₂_checks {conds : List Condition} {ks : List Check}
    (h : checks s c conds = .ok ks) :
    List.Forall₂ (fun cond k => cond.check s c = .ok k) (conds.filter (·.applies c)) ks := by
  induction conds generalizing ks with
  | nil =>
    cases h
    exact .nil
  | cons cond conds ih =>
    rw [checks] at h
    split at h
    case isTrue ha =>
      simp only [bind_eq_ok, pure_eq_ok] at h
      obtain ⟨k, hk, ks, hks, rfl⟩ := h
      rw [List.filter_cons_of_pos (p := (applies · c)) ha]
      exact .cons hk (ih hks)
    case isFalse ha =>
      rw [List.filter_cons_of_neg (p := (applies · c)) ha]
      exact ih h

end Condition

/-! ### Drafts of rules -/

namespace RuleDraft

variable {d : RuleDraft} {s : Student} {k : Check}

/-- The check of what a draft came to: of its rule, or of a rule that cannot be read. -/
def check (d : RuleDraft) (s : Student) : Except Failure Check :=
  match d.toRule? with
  | some r => r.check s
  | none => Unreadable.check d.toRecord

/-- Whether an element of the list is active: unless its flag is the one that is off. -/
def isActiveElement (element : Value) : Bool :=
  !isOff (element.toRecord.first ["isActive", "is_active"])

/-- The position, the activity and the id of a draft are those of its element. -/
theorem of_ofValue {position : Nat} {raw : Value} (h : ofValue position raw = .ok d) :
    d.position = position ∧ d.isActive = isActiveElement raw ∧
      ∃ id, (raw.toRecord.first ["id", "_id"]).toText = .ok id ∧
        d.id = orElse id ("custom_" ++ Decimal.natText position) := by
  simp only [ofValue, bind_eq_ok, pure_eq_ok] at h
  obtain ⟨id, hid, -, -, -, -, -, -, -, -, -, -, -, -, -, -, rfl⟩ := h
  exact ⟨rfl, rfl, id, hid, rfl⟩

theorem of_toRule? {r : Rule} (h : d.toRule? = some r) :
    r.id = d.id ∧ r.isActive = d.isActive ∧ r.position = some (d.position : Int) := by
  simp only [toRule?, Option.bind_eq_bind, Option.bind_eq_some_iff, Option.pure_def] at h
  obtain ⟨kind, -, test, -, importance, -, hr⟩ := h
  cases hr
  exact ⟨rfl, rfl, rfl⟩

theorem isActive_toRecord (d : RuleDraft) : Unreadable.isActive d.toRecord = d.isActive := rfl

theorem position_toRecord (d : RuleDraft) (index : Nat) :
    Unreadable.position d.toRecord index = .whole d.position := rfl

/-- The check of a draft has its id, whatever the draft came to. -/
theorem id_of_check (h : d.check s = .ok k) : k.id = d.id := by
  unfold check at h
  split at h
  case h_1 r hr =>
    simp only [Rule.check, bind_eq_ok, pure_eq_ok] at h
    obtain ⟨-, -, -, -, rfl⟩ := h
    exact (of_toRule? hr).1
  case h_2 =>
    simp only [Unreadable.check, bind_eq_ok, pure_eq_ok] at h
    obtain ⟨id, hid, -, -, -, -, rfl⟩ := h
    cases hid
    rfl

theorem forall₂_ofValues {position : Nat} {vs : List Value} {ds : List RuleDraft}
    (h : ofValues position vs = .ok ds) :
    List.Forall₂ (fun x d => ofValue x.2 x.1 = .ok d) (vs.zipIdx position) ds := by
  induction vs generalizing position ds with
  | nil =>
    cases h
    exact .nil
  | cons v vs ih =>
    simp only [ofValues, bind_eq_ok, pure_eq_ok] at h
    obtain ⟨d, hd, ds, hds, rfl⟩ := h
    exact .cons hd (ih hds)

/-- Positions count upwards. -/
theorem pairwise_position {position : Nat} {vs : List Value} {ds : List RuleDraft}
    (h : ofValues position vs = .ok ds) :
    (∀ d ∈ ds, position ≤ d.position) ∧ ds.Pairwise fun d e => d.position < e.position := by
  induction vs generalizing position ds with
  | nil =>
    cases h
    exact ⟨(fun d hd => nomatch hd), .nil⟩
  | cons v vs ih =>
    simp only [ofValues, bind_eq_ok, pure_eq_ok] at h
    obtain ⟨d, hd, ds, hds, rfl⟩ := h
    obtain ⟨hle, hpairwise⟩ := ih hds
    obtain ⟨rfl, -⟩ := of_ofValue hd
    refine ⟨List.forall_mem_cons.mpr ⟨Nat.le_refl _, fun e he => ?_⟩,
      List.pairwise_cons.mpr ⟨fun e he => hle e he, hpairwise⟩⟩
    have := hle e he
    omega

/-! ### Checks at their places -/

/-- The check of a draft at the draft's position. -/
structure Places (s : Student) (d : RuleDraft) (p : PlacedCheck) : Prop where
  place : p.1 = .whole d.position
  check : d.check s = .ok p.2

theorem forall₂_placedChecks {ds : List RuleDraft} {index : Nat} {placed : List PlacedCheck}
    (h : placedChecks s index (ds.filterMap toRule?) = .ok placed) :
    List.Forall₂ (Places s) (ds.filter fun d => d.toRule?.isSome && d.isActive) placed := by
  induction ds generalizing index placed with
  | nil =>
    cases h
    exact .nil
  | cons d ds ih =>
    cases hd : d.toRule? with
    | none =>
      rw [List.filterMap_cons_none hd] at h
      rw [List.filter_cons_of_neg (by simp [hd])]
      exact ih h
    | some r =>
      obtain ⟨-, hactive, hposition⟩ := of_toRule? hd
      rw [List.filterMap_cons_some hd, placedChecks] at h
      split at h
      case isTrue ha =>
        simp only [bind_eq_ok, pure_eq_ok] at h
        obtain ⟨k, hk, ks, hks, rfl⟩ := h
        rw [List.filter_cons_of_pos (by simp [hd, ← hactive, ha])]
        refine .cons ⟨?_, ?_⟩ (ih hks)
        · rw [hposition]
          rfl
        · rw [RuleDraft.check, hd]
          exact hk
      case isFalse ha =>
        rw [List.filter_cons_of_neg (by simp [hd, ← hactive, ha])]
        exact ih h

theorem forall₂_placedFailures {ds : List RuleDraft} {index : Nat} {placed : List PlacedCheck}
    (h : placedFailures index ((ds.filter (·.toRule?.isNone)).map toRecord) = .ok placed) :
    List.Forall₂ (Places s) (ds.filter fun d => d.toRule?.isNone && d.isActive) placed := by
  induction ds generalizing index placed with
  | nil =>
    cases h
    exact .nil
  | cons d ds ih =>
    cases hd : d.toRule? with
    | some r =>
      rw [List.filter_cons_of_neg (by simp [hd])] at h
      rw [List.filter_cons_of_neg (by simp [hd])]
      exact ih h
    | none =>
      rw [List.filter_cons_of_pos (by simp [hd]), List.map_cons, placedFailures,
        isActive_toRecord] at h
      split at h
      case isTrue ha =>
        simp only [bind_eq_ok, pure_eq_ok] at h
        obtain ⟨k, hk, ks, hks, rfl⟩ := h
        rw [List.filter_cons_of_pos (by simp [hd, ha])]
        refine .cons ⟨d.position_toRecord index, ?_⟩ (ih hks)
        rw [RuleDraft.check, hd]
        exact hk
      case isFalse ha =>
        rw [List.filter_cons_of_neg (by simp [hd, ha])]
        exact ih h

/-- The integer that a place is. -/
def placeKey (p : PlacedCheck) : Int :=
  match p.1 with
  | .whole i => i
  | _ => 0

theorem placeKey_of_places {p : PlacedCheck} (h : Places s d p) : placeKey p = d.position := by
  rw [placeKey, h.place]

theorem map_placeKey {ds : List RuleDraft} {ps : List PlacedCheck}
    (h : List.Forall₂ (Places s) ds ps) : ps.map placeKey = ds.map fun d => (d.position : Int) := by
  induction h with
  | nil => rfl
  | cons hp _ ih => rw [List.map_cons, List.map_cons, placeKey_of_places hp, ih]

/-- Positions are compared as the integers that they are. -/
theorem comesBefore_of_places {ds : List RuleDraft} {ps : List PlacedCheck}
    (h : List.Forall₂ (Places s) ds ps) (p : PlacedCheck) (hp : p ∈ ps) (q : PlacedCheck)
    (hq : q ∈ ps) : p.1.comesBefore q.1 = .ok (decide (placeKey p < placeKey q)) := by
  obtain ⟨d, -, hd⟩ := exists_mem_of_forall₂ h.flip hp
  obtain ⟨e, -, he⟩ := exists_mem_of_forall₂ h.flip hq
  rw [placeKey, placeKey, hd.place, he.place]
  rfl

/-- Drafts that are rules and drafts that are none are all drafts. -/
theorem filter_toRule?_perm (ds : List RuleDraft) :
    (ds.filter (·.isActive)).Perm ((ds.filter fun d => d.toRule?.isSome && d.isActive) ++
      ds.filter fun d => d.toRule?.isNone && d.isActive) := by
  have hsplit := (List.filter_append_perm (fun d : RuleDraft => d.toRule?.isSome)
    (ds.filter (·.isActive))).symm
  rw [List.filter_filter, List.filter_filter] at hsplit
  refine hsplit.trans (List.Perm.of_eq ?_)
  congr 2
  funext d
  cases d.toRule? <;> rfl

/-- The checks of drafts that stand in order, rules or not, are those of the active ones in that
order. -/
theorem forall₂_ruleChecks {ds : List RuleDraft} {own : List Check}
    (hds : ds.Pairwise fun d e => d.position < e.position)
    (h : ruleChecks s (ds.filterMap toRule?)
      ((ds.filter (·.toRule?.isNone)).map toRecord) = .ok own) :
    List.Forall₂ (fun d k => d.check s = .ok k) (ds.filter (·.isActive)) own := by
  simp only [ruleChecks, bind_eq_ok, pure_eq_ok] at h
  obtain ⟨placed, hp, failures, hf, sorted, hsort, rfl⟩ := h
  have hboth := List.rel_append (forall₂_placedChecks hp) (forall₂_placedFailures (s := s) hf)
  obtain ⟨target, htarget, hperm⟩ := List.perm_comp_forall₂ (filter_toRule?_perm ds) hboth
  have hkeys : target.Pairwise fun p q => placeKey p < placeKey q := by
    rw [← List.pairwise_map (R := (· < ·)), map_placeKey htarget, List.pairwise_map]
    exact (hds.filter _).imp Int.ofNat_lt.mpr
  obtain rfl : sorted = target :=
    Sorting.sort_eq_of_perm (comesBefore_of_places hboth) hsort hperm hkeys
  exact List.forall₂_map_right_iff.mpr (htarget.imp fun d p hp => hp.check)

end RuleDraft

/-! ### The whole list -/

/-- The elements of the scholarship's own list as the data have them. A form in its place lists its
fields, of which nothing is read. -/
def Criteria.elements (criteria : Value) : List Value :=
  match criteria.toRecord.get "customConditions" with
  | .list vs => vs
  | .form _ fields => fields.map fun _ => .null
  | _ => []

/-- The active elements with their positions. -/
def Criteria.activeElements (criteria : Value) : List (Value × Nat) :=
  (elements criteria).zipIdx.filter fun x => RuleDraft.isActiveElement x.1

/-- The check of an element at its position: that of the draft which the element is read as, under
the id that the element gives or else one made of its position. -/
structure IsElementCheck (s : Student) (element : Value × Nat) (k : Check) : Prop where
  checked : ∃ d, RuleDraft.ofValue element.2 element.1 = .ok d ∧ d.check s = .ok k
  id : ∃ id, (element.1.toRecord.first ["id", "_id"]).toText = .ok id ∧
    k.id = RuleDraft.orElse id ("custom_" ++ Decimal.natText element.2)

theorem RuleDraft.ofList_customConditions (criteria : Value) :
    ofList (criteria.toRecord.get "customConditions") =
      ofValues 0 (Criteria.elements criteria) := by
  unfold Criteria.elements
  cases criteria.toRecord.get "customConditions" <;> rfl

/-- Raw criteria are read as a record, whatever they are. -/
theorem Criteria.ofValue_eq_ofRecord {raw : Value} (hraw : raw.isRaw = true) :
    ofValue raw = ofRecord raw.toRecord := by
  cases raw with
  | form kind fields => cases hraw
  | _ => rfl

theorem Criteria.ofRecord_of_ofValue {raw : Value} (hraw : raw.isRaw = true) {c : Criteria}
    (h : ofValue raw = .ok c) : ofRecord raw.toRecord = .ok c := by
  rwa [ofValue_eq_ofRecord hraw] at h

/-- Criteria keep the drafts of their list in two parts. -/
theorem Criteria.rules_of_ofValue {criteria : Value} (hraw : criteria.isRaw = true) {c : Criteria}
    (h : ofValue criteria = .ok c) :
    ∃ ds, RuleDraft.ofValues 0 (elements criteria) = .ok ds ∧
      c.rules = ds.filterMap RuleDraft.toRule? ∧
      c.unreadableRules = (ds.filter (·.toRule?.isNone)).map RuleDraft.toRecord := by
  have hrecord := ofRecord_of_ofValue hraw h
  simp only [ofRecord, bind_eq_ok, pure_eq_ok] at hrecord
  obtain ⟨ds, hds, -, -, -, -, -, -, -, -, -, -, -, -, -, -, rfl⟩ := hrecord
  exact ⟨ds, by rw [← RuleDraft.ofList_customConditions, hds], rfl, rfl⟩

/-- The checks of the scholarship's own rules are those of the active elements of its list, one for
each and in the order of the list. -/
theorem forall₂_activeElements {criteria : Value} (hraw : criteria.isRaw = true) {c : Criteria}
    (hc : Criteria.ofValue criteria = .ok c) {s : Student} {own : List Check}
    (h : ruleChecks s c.rules c.unreadableRules = .ok own) :
    List.Forall₂ (IsElementCheck s) (Criteria.activeElements criteria) own := by
  obtain ⟨ds, hds, hrules, hunreadable⟩ := Criteria.rules_of_ofValue hraw hc
  rw [hrules, hunreadable] at h
  have hdrafts : List.Forall₂ (fun x d => RuleDraft.ofValue x.2 x.1 = .ok d)
      (Criteria.activeElements criteria) (ds.filter (·.isActive)) := by
    refine List.rel_filter (fun x d hd => ?_) (RuleDraft.forall₂_ofValues hds)
    show RuleDraft.isActiveElement x.1 = true ↔ d.isActive = true
    rw [(RuleDraft.of_ofValue hd).2.1]
  have hchecks := RuleDraft.forall₂_ruleChecks (RuleDraft.pairwise_position hds).2 h
  refine (forall₂_trans hdrafts hchecks).imp fun x k ⟨d, hd, hk⟩ => ⟨⟨d, hd, hk⟩, ?_⟩
  obtain ⟨-, -, id, hid, hdid⟩ := RuleDraft.of_ofValue hd
  exact ⟨id, hid, by rw [RuleDraft.id_of_check hk, hdid]⟩

/-- A verdict lists one check for every standard condition that applies, in the order of the
catalogue, then one for every active element of the scholarship's own list, in the order of that
list, and nothing else. -/
theorem checks_of_evaluate {criteria : Value} (hraw : criteria.isRaw = true) {c : Criteria}
    (hc : Criteria.ofValue criteria = .ok c) {s : Student} {v : Verdict}
    (hv : evaluate s c = .ok v) :
    ∃ standard own, v.checks = standard ++ own ∧
      List.Forall₂ (fun cond k => k.id = cond.id ∧ cond.check s c = .ok k)
        (Condition.all.filter (·.applies c)) standard ∧
      List.Forall₂ (IsElementCheck s) (Criteria.activeElements criteria) own ∧
      v.total = (Condition.all.filter (·.applies c)).length +
        (Criteria.activeElements criteria).length := by
  obtain ⟨ks, hks, rfl⟩ := map_eq_ok.mp hv
  simp only [allChecks, bind_eq_ok, pure_eq_ok] at hks
  obtain ⟨standard, hstandard, own, hown, rfl⟩ := hks
  have hconditions := Condition.forall₂_checks hstandard
  have helements := forall₂_activeElements hraw hc hown
  refine ⟨standard, own, rfl, hconditions.imp fun cond k hk => ⟨Condition.id_of_check hk, hk⟩,
    helements, ?_⟩
  show (standard ++ own).length = _
  rw [List.length_append, hconditions.length_eq, helements.length_eq]

/-- Elements of every sort: a rule whose flag is a text and so not off, one that is no record, one
that is off in the older spelling, one of an unknown kind, and a rule under an older key. -/
theorem checks_of_mixed_elements :
    let student : Value := .record [
      ("gwa", .real 1.75), ("customFields", .record [("siblings", .whole 3)])]
    let criteria : Value := .record [
      ("isFilipinoOnly", .flag true), ("maxGWA", .whole 2),
      ("customConditions", .list [
        .record [("id", .text "siblings"), ("conditionType", .text "range"),
          ("studentField", .text "siblings"), ("operator", .text "gte"), ("value", .whole 2),
          ("isActive", .text "false")],
        .null,
        .record [("id", .text "off"), ("is_active", .flag false)],
        .record [("id", .text "pets"), ("type", .text "animal"), ("importance", .text "optional")],
        .record [("_id", .text " clubs "), ("type", .text "boolean"),
          ("student_field", .text "clubs"), ("operator", .text "not_exists")]])]
    criteria.isRaw = true ∧ ∃ s c v, Student.ofValue student = .ok s ∧
      Criteria.ofValue criteria = .ok c ∧ evaluate s c = .ok v ∧
      v.checks.map (fun k => (k.id, k.passed)) = [("gwa", true), ("citizenship", true),
        ("siblings", true), ("custom_1", false), ("pets", false), ("clubs", true)] ∧
      ∃ standard own, v.checks = standard ++ own ∧
        List.Forall₂ (fun cond k => k.id = cond.id ∧ cond.check s c = .ok k)
          (Condition.all.filter (·.applies c)) standard ∧
        List.Forall₂ (IsElementCheck s) (Criteria.activeElements criteria) own ∧
        v.total = (Condition.all.filter (·.applies c)).length +
          (Criteria.activeElements criteria).length := by
  intro student criteria
  have hids : (assess (.raw student) (.raw criteria)).toOption.map
      (fun v => v.checks.map fun k => (k.id, k.passed)) =
      some [("gwa", true), ("citizenship", true), ("siblings", true), ("custom_1", false),
        ("pets", false), ("clubs", true)] := by
    decide +kernel
  obtain ⟨v, hv, hids⟩ := Option.map_eq_some_iff.mp hids
  simp only [toOption_eq_some, assess, bind_eq_ok, StudentEntry.read, CriteriaEntry.read] at hv
  obtain ⟨s, hs, c, hc, hv⟩ := hv
  exact ⟨rfl, s, c, v, hs, hc, hv, hids, checks_of_evaluate rfl hc hv⟩

end Bursary
