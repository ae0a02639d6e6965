import Bursary.Matching
import Bursary.Proofs.Outcome
import Bursary.Report

/-! Requests that are turned away. Two failures blame the request itself: a part of it that should
be a record is none, or a limit is negative. Nothing that reads, checks or scores what is handed in
ever ends in one of them, however else it fails. So a request is turned away only before any of that
begins. -/

namespace Bursary

variable {ε α β : Type}

/-- A step that fails, if it does, only in ways that have a property. -/
def FailsOnly (P : ε → Prop) (x : Except ε α) : Prop := ∀ e, x = .error e → P e

namespace FailsOnly

variable {P : ε → Prop} {x : Except ε α}

theorem ok (a : α) : FailsOnly P (.ok a : Except ε α) := nofun

theorem error {e : ε} (h : P e) : FailsOnly P (.error e : Except ε α) := by
  rintro _ ⟨⟩
  exact h

theorem bind (hx : FailsOnly P x) {f : α → Except ε β} (hf : ∀ a, FailsOnly P (f a)) :
    FailsOnly P (x >>= f) := by
  cases x with
  | ok a => exact hf a
  | error e => exact .error (hx e rfl)

theorem map (hx : FailsOnly P x) {f : α → β} : FailsOnly P (x.map f) := by
  cases x with
  | ok a => exact .ok _
  | error e => exact .error (hx e rfl)

end FailsOnly

/-- Whether a failure blames the request. -/
def Failure.isRefusal : Failure → Bool
  | .negativeLimit _ | .notAnObject _ => true
  | _ => false

/-- A failure that blames the request is reported as invalid input, and no other one is. -/
theorem Failure.isRefusal_iff {f : Failure} : f.isRefusal = true ↔
    ∃ report, f.report? = some report ∧ report.get "error" = .text "InvalidInputError" := by
  cases f with
  | negativeLimit limit => exact iff_of_true rfl ⟨_, rfl, rfl⟩
  | notAnObject field => exact iff_of_true rfl ⟨_, rfl, rfl⟩
  | lookupFailed filters =>
    refine iff_of_false Bool.false_ne_true ?_
    rintro ⟨_, ⟨⟩, herror⟩
    have hword : "ModelRegistryError" = "InvalidInputError" := Value.text.inj herror
    revert hword
    decide
  | _ => exact iff_of_false Bool.false_ne_true (by rintro ⟨_, ⟨⟩, -⟩)

/-- A step that never blames the request. -/
abbrev Accepts (x : Except Failure α) : Prop := FailsOnly (fun f => f.isRefusal = false) x

/-! ### Texts -/

namespace Value

theorem wholeText_accepts (i : Int) : Accepts (wholeText i) := by
  unfold wholeText
  split
  · exact .ok _
  · exact .error rfl

theorem inside_accepts {write : Nat → Except Failure α} (h : ∀ room, Accepts (write room))
    (room : Nat) : Accepts (inside room write) := by
  cases room with
  | zero => exact .error rfl
  | succ room => exact h room

mutual

theorem displayWithin_accepts : ∀ (room : Nat) (v : Value), Accepts (displayWithin room v)
  | _, null | _, flag _ | _, real _ | _, text _ => .ok _
  | _, whole i => wholeText_accepts i
  | room, list xs => (inside_accepts (fun room => displayItems_accepts room xs) room).map
  | room, record es | room, keyed es =>
    (inside_accepts (fun room => displayEntries_accepts room es) room).map
  | room, form _ es => (inside_accepts (fun room => displayFields_accepts room es) room).map

theorem displayItems_accepts : ∀ (room : Nat) (xs : List Value), Accepts (displayItems room xs)
  | _, [] => .ok _
  | room, x :: xs => (displayWithin_accepts room x).bind fun _ =>
      (displayItems_accepts room xs).bind fun _ => .ok _

theorem displayEntries_accepts : ∀ (room : Nat) (es : List (String × Value)),
    Accepts (displayEntries room es)
  | _, [] => .ok _
  | room, e :: es => (displayWithin_accepts room e.2).bind fun _ =>
      (displayEntries_accepts room es).bind fun _ => .ok _

theorem displayFields_accepts : ∀ (room : Nat) (es : List (String × Value)),
    Accepts (displayFields room es)
  | _, [] => .ok _
  | room, e :: es => (displayWithin_accepts room e.2).bind fun _ =>
      (displayFields_accepts room es).bind fun _ => .ok _

end

theorem asText_accepts (v : Value) : Accepts v.asText := by
  unfold asText
  split
  · exact .ok _
  · exact (inside_accepts (fun room => displayFields_accepts room _) _).map
  · exact displayWithin_accepts _ _

theorem toText_accepts (v : Value) : Accepts v.toText := by
  unfold toText
  split
  · exact .ok _
  · exact (asText_accepts v).map

theorem textIfGiven_accepts (v : Value) : Accepts v.textIfGiven := by
  unfold textIfGiven
  split
  · exact (asText_accepts v).map
  · exact .ok _

theorem textsOf_accepts (vs : List Value) : Accepts (textsOf vs) := by
  induction vs with
  | nil => exact .ok _
  | cons v vs ih => exact (toText_accepts v).bind fun _ => ih.bind fun _ => .ok _

theorem pairTexts_accepts (es : List (String × Value)) : Accepts (pairTexts es) := by
  induction es with
  | nil => exact .ok _
  | cons e es ih =>
    refine (inside_accepts (fun room => displayWithin_accepts room e.2) _).bind fun _ => ?_
    exact ih.bind fun _ => .ok _

theorem toTexts_accepts (v : Value) : Accepts v.toTexts := by
  unfold toTexts
  split
  · exact .ok _
  · exact textsOf_accepts _
  · exact pairTexts_accepts _
  · exact .ok _

end Value

/-! ### Reading -/

theorem Canonical.nameOf?_accepts (table : Table) (v : Value) : Accepts (nameOf? table v) :=
  v.textIfGiven_accepts.map

namespace Student

theorem nameOr_accepts (table : Canonical.Table) (fallback : String) (v : Value) :
    Accepts (nameOr table fallback v) :=
  (Canonical.nameOf?_accepts table v).bind fun _ => .ok _

theorem textOr_accepts (fallback : String) (v : Value) : Accepts (textOr fallback v) :=
  v.toText_accepts.bind fun _ => .ok _

theorem ofValue_accepts (raw : Value) : Accepts (ofValue raw) := by
  unfold ofValue
  refine (nameOr_accepts _ _ _).bind fun yearLevel => ?_
  refine (nameOr_accepts _ _ _).bind fun college => ?_
  refine (Value.toText_accepts _).bind fun course => ?_
  refine (Value.toText_accepts _).bind fun major => ?_
  refine (Canonical.nameOf?_accepts _ _).bind fun stBracket => ?_
  refine (Value.toText_accepts _).bind fun province => ?_
  exact (textOr_accepts _ _).bind fun citizenship => .ok _

end Student

namespace RuleDraft

theorem ofValue_accepts (position : Nat) (raw : Value) : Accepts (ofValue position raw) := by
  unfold ofValue
  refine (Value.toText_accepts _).bind fun id => ?_
  refine (Value.toText_accepts _).bind fun name => ?_
  refine (Value.toText_accepts _).bind fun description => ?_
  refine (Value.toText_accepts _).bind fun kind => ?_
  refine (Value.toText_accepts _).bind fun field => ?_
  refine (Value.toText_accepts _).bind fun operator => ?_
  refine (Value.toText_accepts _).bind fun category => ?_
  exact (Value.toText_accepts _).bind fun importance => .ok _

theorem ofValues_accepts (position : Nat) (vs : List Value) : Accepts (ofValues position vs) := by
  induction vs generalizing position with
  | nil => exact .ok _
  | cons v vs ih => exact (ofValue_accepts position v).bind fun _ => (ih _).bind fun _ => .ok _

theorem ofList_accepts (v : Value) : Accepts (ofList v) := by
  unfold ofList
  split
  · exact ofValues_accepts 0 _
  · exact ofValues_accepts 0 _
  · exact .ok _

end RuleDraft

/-- A form among other data that is filled in wrongly is not the form of the request. -/
theorem Checked.toExcept_accepts (c : Checked α) : Accepts c.toExcept := by
  cases c with
  | ok a => exact .ok a
  | faulty issues => exact .error rfl

namespace Criteria

theorem ofRecord_accepts (data : Record) : Accepts (ofRecord data) := by
  unfold ofRecord
  refine (RuleDraft.ofList_accepts _).bind fun drafts => ?_
  refine (Value.toTexts_accepts _).bind fun yearLevels => ?_
  refine (Value.toTexts_accepts _).bind fun colleges => ?_
  refine (Value.toTexts_accepts _).bind fun courses => ?_
  refine (Value.toTexts_accepts _).bind fun majors => ?_
  refine (Value.toTexts_accepts _).bind fun stBrackets => ?_
  refine (Value.toTexts_accepts _).bind fun provinces => ?_
  exact (Value.toTexts_accepts _).bind fun citizenships => .ok _

theorem ofValue_accepts (raw : Value) : Accepts (ofValue raw) := by
  unfold ofValue
  split
  · split
    · exact Checked.toExcept_accepts _
    · exact ofRecord_accepts _
  · exact ofRecord_accepts _

end Criteria

namespace Scholarship

theorem openness_accepts (data : Record) : Accepts (openness data) := by
  unfold openness
  dsimp only
  split
  · exact .ok _
  · split
    · exact .ok _
    · exact (Value.asText_accepts _).map

theorem ofValue_accepts (raw : Value) : Accepts (ofValue raw) := by
  unfold ofValue
  refine (openness_accepts _).bind fun isActive => ?_
  refine (Value.toText_accepts _).bind fun id => ?_
  refine (Value.toText_accepts _).bind fun name => ?_
  exact (Criteria.ofValue_accepts _).bind fun criteria => .ok _

end Scholarship

/-! ### Checking -/

namespace Condition

theorem studentText_accepts (cond : Condition) (s : Student) : Accepts (cond.studentText s) := by
  cases cond with
  | householdSize =>
    unfold studentText
    dsimp only
    split
    · exact (Value.wholeText_accepts _).map
    · exact .ok _
  | _ => exact .ok _

theorem gwaBoundsText_accepts (c : Criteria) : Accepts (gwaBoundsText c) := by
  unfold gwaBoundsText
  dsimp only
  split
  · exact .ok _
  · exact .ok _
  · exact .ok _
  · exact .error rfl

theorem householdBoundsText_accepts (c : Criteria) : Accepts (householdBoundsText c) := by
  unfold householdBoundsText
  refine (Value.wholeText_accepts _).bind fun low => ?_
  split
  · exact (Value.wholeText_accepts _).bind fun _ => .ok _
  · exact .ok _

theorem requiredText_accepts (cond : Condition) (c : Criteria) : Accepts (cond.requiredText c) := by
  cases cond with
  | gwa => exact gwaBoundsText_accepts c
  | householdSize => exact householdBoundsText_accepts c
  | _ => exact .ok _

theorem check_accepts (cond : Condition) (s : Student) (c : Criteria) :
    Accepts (cond.check s c) :=
  (studentText_accepts cond s).bind fun _ => (requiredText_accepts cond c).bind fun _ => .ok _

theorem checks_accepts (s : Student) (c : Criteria) (conds : List Condition) :
    Accepts (checks s c conds) := by
  induction conds with
  | nil => exact .ok _
  | cons cond rest ih =>
    unfold checks
    split
    · exact (check_accepts cond s c).bind fun _ => ih.bind fun _ => .ok _
    · exact ih

end Condition

theorem joinedText_accepts (vs : List Value) : Accepts (joinedText vs) := by
  refine FailsOnly.map ?_
  induction vs with
  | nil => exact .ok _
  | cons v vs ih => exact v.asText_accepts.bind fun _ => ih.bind fun _ => .ok _

theorem shownNumber_accepts (v : Value) : Accepts (shownNumber v) := by
  unfold shownNumber
  split
  · exact .error rfl
  · exact .ok _

theorem RangeOperator.boundText_accepts (v : Value) : Accepts (boundText v) := by
  unfold boundText
  split
  · exact .ok _
  · exact shownNumber_accepts v

theorem RangeOperator.thresholdText_accepts (op : RangeOperator) (threshold : Value) :
    Accepts (op.thresholdText threshold) := by
  unfold thresholdText
  split
  · exact (boundText_accepts _).bind fun _ => (boundText_accepts _).bind fun _ => .ok _
  · exact (shownNumber_accepts threshold).bind fun _ => .ok _

theorem RuleTest.studentText_accepts (t : RuleTest) (v : Value) : Accepts (t.studentText v) := by
  unfold studentText
  split
  · split
    · exact .ok _
    · exact shownNumber_accepts v
  · exact .ok _
  · split
    · exact joinedText_accepts _
    · split
      · exact v.asText_accepts
      · exact .ok _

theorem RuleTest.requiredText_accepts (t : RuleTest) : Accepts t.requiredText := by
  unfold requiredText
  split
  · exact RangeOperator.thresholdText_accepts _ _
  · exact .ok _
  · split
    · exact joinedText_accepts _
    · exact Value.asText_accepts _

theorem Rule.check_accepts (r : Rule) (s : Student) : Accepts (r.check s) :=
  (r.test.studentText_accepts _).bind fun _ => r.test.requiredText_accepts.bind fun _ => .ok _

theorem Category.ofValue_accepts (v : Value) : Accepts (ofValue v) := by
  unfold ofValue
  split
  · exact .ok _
  · split
    · exact .error rfl
    · exact .ok _

theorem Unreadable.check_accepts (raw : Record) : Accepts (check raw) :=
  (Value.asText_accepts _).bind fun _ => (Value.asText_accepts _).bind fun _ =>
    (Category.ofValue_accepts _).bind fun _ => .ok _

theorem placedChecks_accepts (s : Student) (index : Nat) (rs : List Rule) :
    Accepts (placedChecks s index rs) := by
  induction rs generalizing index with
  | nil => exact .ok _
  | cons r rs ih =>
    unfold placedChecks
    split
    · exact (r.check_accepts s).bind fun _ => (ih _).bind fun _ => .ok _
    · exact ih _

theorem placedFailures_accepts (index : Nat) (raws : List Record) :
    Accepts (placedFailures index raws) := by
  induction raws generalizing index with
  | nil => exact .ok _
  | cons raw raws ih =>
    unfold placedFailures
    split
    · exact (Unreadable.check_accepts raw).bind fun _ => (ih _).bind fun _ => .ok _
    · exact ih _

namespace Value

theorem plainlyBefore_accepts (v w : Value) : Accepts (plainlyBefore v w) := by
  unfold plainlyBefore
  split
  · exact .ok _
  · exact .ok _
  · exact .error rfl

mutual

theorem comesBefore_accepts (v w : Value) : Accepts (v.comesBefore w) := by
  rw [comesBefore.eq_def]
  split
  · exact listBefore_accepts _ _
  · exact plainlyBefore_accepts _ _

theorem listBefore_accepts (xs ys : List Value) : Accepts (listBefore xs ys) := by
  rw [listBefore.eq_def]
  split
  · exact .ok _
  · exact .ok _
  · split
    · exact listBefore_accepts _ _
    · exact comesBefore_accepts _ _

end

end Value

namespace Sorting

variable {P : ε → Prop} {below : α → α → Except ε Bool}

theorem insert_failsOnly (h : ∀ a b, FailsOnly P (below a b)) (x : α) (xs : List α) :
    FailsOnly P (insert below x xs) := by
  fun_induction insert below x xs
  case case1 => exact .ok _
  case case2 xs y back hd front ihFront ihBack =>
    refine (h x y).bind fun b => ?_
    split
    · exact ihFront.bind fun _ => .ok _
    · exact ihBack.bind fun _ => .ok _

theorem runFrom_failsOnly (h : ∀ a b, FailsOnly P (below a b)) (descends : Bool) (previous : α)
    (xs : List α) : FailsOnly P (runFrom below descends previous xs) := by
  induction xs generalizing previous with
  | nil => exact .ok _
  | cons x xs ih =>
    refine (h x previous).bind fun b => ?_
    split
    · exact (ih x).bind fun _ => .ok _
    · exact .ok _

/-- A sort fails only as its comparisons do. -/
theorem sort_failsOnly (h : ∀ a b, FailsOnly P (below a b)) (xs : List α) :
    FailsOnly P (sort below xs) := by
  have hfirst : FailsOnly P (firstRun below xs) := by
    match xs with
    | [] | [_] => exact .ok _
    | x :: y :: xs =>
      refine (h y x).bind fun descends => ?_
      exact (runFrom_failsOnly h descends y xs).bind fun _ => .ok _
  refine hfirst.bind fun ⟨run, others⟩ => ?_
  induction others generalizing run with
  | nil => exact .ok _
  | cons x xs ih => exact (insert_failsOnly h x run).bind fun sorted => ih sorted

end Sorting

theorem ruleChecks_accepts (s : Student) (rules : List Rule) (unreadable : List Record) :
    Accepts (ruleChecks s rules unreadable) := by
  refine (placedChecks_accepts s 0 rules).bind fun placed => ?_
  refine (placedFailures_accepts _ unreadable).bind fun failures => ?_
  exact (Sorting.sort_failsOnly (fun a b => a.1.comesBefore_accepts b.1) _).bind fun _ => .ok _

/-- No student and no criteria make an evaluation blame the request. -/
theorem evaluate_accepts (s : Student) (c : Criteria) : Accepts (evaluate s c) :=
  FailsOnly.map <| (Condition.checks_accepts s c _).bind fun _ =>
    (ruleChecks_accepts s _ _).bind fun _ => .ok _

end Bursary
