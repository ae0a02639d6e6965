import Bursary.Proofs.Batch
import Bursary.Proofs.Checks
import Bursary.Proofs.Value.Related

/-! Flags in words. The word for a flag counts as the flag wherever it is read as one, so a student
reads the same and a scholarship is as open as before. Two places look at a value before it is read
as a flag. A rule is switched off by the flag itself and by no word; and where a restriction has
several keys, the word for no, which is a text that is not empty, hides the keys behind it. Apart
from these two, criteria read the same. -/

namespace Bursary

namespace Value

/-- The word for a flag. -/
def word (b : Bool) : Value := text (if b then "true" else "false")

/-- A value, or the word in the place of a flag. -/
def Respells (v w : Value) : Prop := w = v ∨ ∃ b, v = flag b ∧ w = word b

theorem isTruthy_flag (b : Bool) : (flag b).isTruthy = b := rfl

theorem toFlag_flag (b : Bool) : (flag b).toFlag = b := rfl

theorem isTruthy_word (b : Bool) : (word b).isTruthy = true := by cases b <;> rfl

theorem toFlag_word (b : Bool) : (word b).toFlag = b := by cases b <;> decide +kernel

namespace Respells

variable {v w : Value} (h : v.Respells w)

include h

theorem toFlag : v.toFlag = w.toFlag := by
  obtain rfl | ⟨b, rfl, rfl⟩ := h
  · rfl
  · rw [toFlag_word, toFlag_flag]

theorem isNull : v.isNull = w.isNull := by
  obtain rfl | ⟨b, rfl, rfl⟩ := h
  · rfl
  · rfl

end Respells

end Value

theorem RuleDraft.isOff_of_isTruthy {v : Value} (h : v.isTruthy = true) : isOff v = false := by
  cases v with
  | flag b =>
    cases b with
    | true => rfl
    | false => cases h
  | _ => rfl

namespace Record

open Value (Respells)

variable {r r' : Record} {keys : List String}

/-- Under the first of some keys that is not null stands the flag or its word. -/
theorem first_respells (h : ∀ key ∈ keys, (r.get key).Respells (r'.get key)) :
    (r.first keys).Respells (r'.first keys) :=
  first_related (fun _ _ => Respells.isNull) (.inl rfl) h

/-- Whether the first value that is given now under some keys is the word for a flag that was off,
while the first one that was given says yes. -/
def Hides (keys : List String) (r r' : Record) : Prop :=
  (keys.find? fun key => (r'.get key).isTruthy).any (fun key => RuleDraft.isOff (r.get key)) =
      true ∧ (r.firstTruthy keys).toFlag = true

instance (keys : List String) (r r' : Record) : Decidable (Hides keys r r') :=
  inferInstanceAs (Decidable (_ ∧ _))

/-- What the first given value says stays the same exactly if no word hides it. -/
theorem toFlag_firstTruthy_iff (h : ∀ key ∈ keys, (r.get key).Respells (r'.get key)) :
    (r'.firstTruthy keys).toFlag = (r.firstTruthy keys).toFlag ↔ ¬Hides keys r r' := by
  induction keys with
  | nil => simp [Hides, firstTruthy]
  | cons key keys ih =>
    obtain ⟨hkey, hrest⟩ := List.forall_mem_cons.mp h
    specialize ih hrest
    simp only [Hides, firstTruthy_cons, List.find?_cons] at ih ⊢
    obtain hsame | ⟨b, hflag, hword⟩ := hkey
    · rw [hsame]
      cases hgiven : (r.get key).isTruthy with
      | false => exact ih
      | true => simp [RuleDraft.isOff_of_isTruthy hgiven]
    · rw [hword, Value.isTruthy_word]
      cases b with
      | true =>
        simp [hflag, Value.toFlag_word, Value.isTruthy_flag, Value.toFlag_flag, RuleDraft.isOff]
      | false => simp [hflag, Value.toFlag_word, Value.isTruthy_flag, RuleDraft.isOff]

end Record

/-! ### Students -/

namespace Student

/-- The keys under which a profile has flags. -/
def flagKeys : List String := ["hasExistingScholarship", "hasOtherScholarship",
  "isScholarshipRecipient", "hasDisciplinaryAction", "hasThesisGrant", "hasApprovedThesisOutline",
  "hasApprovedThesis", "hasFailingGrade", "hasGradeOf5", "hasGradeOf4", "hasConditionalGrade",
  "hasIncompleteGrade", "hasINC", "isGraduating", "graduatingThisSemester", "profileCompleted"]

/-- Profiles that differ at most in flags that are words in the second one. -/
structure Respells (d e : Record) : Prop where
  flag : ∀ key ∈ flagKeys, (d.get key).Respells (e.get key)
  rest : Record.AgreeBut flagKeys d e

theorem ofValue_respells {v w : Value} (h : Respells (profile v) (profile w)) :
    ofValue v = ofValue w := by
  unfold ofValue
  generalize profile v = d at h
  generalize profile w = e at h
  have hflag (keys : List String) (hkeys : ∀ key ∈ keys, key ∈ flagKeys) :
      (d.first keys).toFlag = (e.first keys).toFlag :=
    (Record.first_respells fun key hkey => h.flag key (hkeys key hkey)).toFlag
  have hprovince : provinceOf d = provinceOf e := by
    simp (disch := decide) only [provinceOf, h.rest.get, h.rest.firstTruthy]
  simp (disch := decide) only [hprovince, hflag, h.rest.get, h.rest.first, h.rest.firstTruthy]

end Student

/-! ### Rules -/

namespace RuleDraft

/-- The keys of the flag that switches a rule off. -/
def switchKeys : List String := ["isActive", "is_active"]

/-- Elements that differ at most in flags that are words in the second one. -/
structure Respells (v w : Value) : Prop where
  flag : ∀ key ∈ switchKeys, (v.toRecord.get key).Respells (w.toRecord.get key)
  rest : Record.AgreeBut switchKeys v.toRecord w.toRecord

/-- Whether the rule of an element was switched off and is no longer. -/
def Wakes (v w : Value) : Prop := isActiveElement v = false ∧ isActiveElement w = true

instance (v w : Value) : Decidable (Wakes v w) := inferInstanceAs (Decidable (_ ∧ _))

/-- Drafts that differ at most in whether they are switched off. -/
def SameButSwitch (d e : RuleDraft) : Prop := e = { d with isActive := e.isActive }

theorem isActiveElement_iff {v w : Value} (h : Respells v w) :
    isActiveElement w = isActiveElement v ↔ ¬Wakes v w := by
  have hflag : (v.toRecord.first switchKeys).Respells (w.toRecord.first switchKeys) :=
    Record.first_respells h.flag
  unfold Wakes isActiveElement
  rw [← switchKeys]
  obtain hsame | ⟨b, hflag, hword⟩ := hflag
  · rw [hsame]
    cases isOff (v.toRecord.first switchKeys) <;> simp
  · rw [hflag, hword]
    cases b <;> simp [isOff, Value.word]

theorem ofValue_respells (position : Nat) {v w : Value} (h : Respells v w) :
    Alike (fun d e => SameButSwitch d e ∧ (e.isActive = d.isActive ↔ ¬Wakes v w))
      (ofValue position v) (ofValue position w) := by
  have hactive := isActiveElement_iff h
  unfold ofValue
  dsimp only
  simp (disch := decide) only [h.rest.first, h.rest.get, h.rest.get?]
  iterate 8 refine .bind_same fun _ => ?_
  exact .ok ⟨rfl, hactive⟩

theorem ofValues_respells (position : Nat) {vs ws : List Value} (h : List.Forall₂ Respells vs ws) :
    Alike (fun ds es => List.Forall₂ SameButSwitch ds es ∧
        (es.map (·.isActive) = ds.map (·.isActive) ↔ List.Forall₂ (fun v w => ¬Wakes v w) vs ws))
      (ofValues position vs) (ofValues position ws) := by
  induction h generalizing position with
  | nil => exact .ok ⟨.nil, by simp⟩
  | @cons v w vs ws hvw _ ih =>
    refine (ofValue_respells position hvw).bind fun d e hde => ?_
    refine (ih (position + 1)).bind fun ds es hds => .ok ⟨.cons hde.1 hds.1, ?_⟩
    rw [List.map_cons, List.map_cons, List.cons.injEq, hde.2, hds.2, List.forall₂_cons]

/-- The rule of a draft that is switched otherwise is the same rule, switched likewise. -/
theorem toRule?_of_sameButSwitch {d e : RuleDraft} (h : SameButSwitch d e) :
    e.toRule? = d.toRule?.map fun r => { r with isActive := e.isActive } := by
  rw [h, toRule?, toRule?]
  cases Kind.ofWord? d.kind with
  | none => rfl
  | some kind =>
    cases hread : RuleTest.make? kind d.operator d.value with
    | none => simp [hread]
    | some test => cases Importance.ofWord? d.importance <;> simp [hread]

/-- Drafts are switched alike exactly if the rules that they spell are the same, and so are those
that cannot be read. -/
theorem same_rules_iff {ds es : List RuleDraft} (h : List.Forall₂ SameButSwitch ds es) :
    (es.filterMap toRule? = ds.filterMap toRule? ∧
        (es.filter (·.toRule?.isNone)).map toRecord = (ds.filter (·.toRule?.isNone)).map toRecord) ↔
      es.map (·.isActive) = ds.map (·.isActive) := by
  induction h with
  | nil => simp
  | @cons d e ds es hde _ ih =>
    have hrule := toRule?_of_sameButSwitch hde
    rw [List.map_cons, List.map_cons, List.cons.injEq, ← ih]
    cases hd : d.toRule? with
    | none =>
      rw [hd] at hrule
      have hrecord : e.toRecord = d.toRecord ↔ e.isActive = d.isActive := by
        constructor
        · intro h
          exact Value.flag.inj (congrArg (Record.get · "is_active") h)
        · intro h
          rw [hde, h]
      simp [hd, hrule, hrecord, and_left_comm]
    | some r =>
      rw [hd] at hrule
      have hsame : ({ r with isActive := e.isActive } : Rule) = r ↔ e.isActive = d.isActive := by
        rw [← (of_toRule? hd).2.1]
        exact ⟨fun h => congrArg Rule.isActive h, fun h => by rw [h]⟩
      simp [hd, hrule, hsame, and_assoc]

end RuleDraft

/-! ### Criteria -/

namespace Criteria

/-- The keys of each restriction, the current one first. -/
def restrictionKeys : List (List String) := [
  ["mustNotHaveOtherScholarship", "noExistingScholarship"],
  ["mustNotHaveDisciplinaryAction", "noDisciplinaryRecord"],
  ["mustNotHaveThesisGrant", "noExistingThesisGrant"],
  ["requiresApprovedThesisOutline", "requiresApprovedThesis", "requireThesisApproval"],
  ["mustNotHaveFailingGrade"],
  ["mustNotHaveGradeOf4"],
  ["mustNotHaveIncompleteGrade"],
  ["mustBeGraduating"],
  ["isFilipinoOnly", "filipinoOnly"]]

/-- Raw criteria that differ at most in flags that are words in the second ones, be they
restrictions or those of the rules. -/
structure Respells (v w : Value) : Prop where
  raw : v.isRaw = true
  raw' : w.isRaw = true
  flag : ∀ keys ∈ restrictionKeys, ∀ key ∈ keys,
    (v.toRecord.get key).Respells (w.toRecord.get key)
  element : List.Forall₂ RuleDraft.Respells (elements v) (elements w)
  rest : Record.AgreeBut ("customConditions" :: restrictionKeys.flatten) v.toRecord w.toRecord

/-- Records whose entries differ at most in such flags and in the elements of their lists. -/
theorem respells_of_entries {es fs : Record}
    (h : List.Forall₂
      (fun e f => e.1 = f.1 ∧ (e.1 ∈ ["customConditions"] ∨ e.2.Respells f.2)) es fs)
    (hrest : Record.AgreeBut ("customConditions" :: restrictionKeys.flatten) es fs)
    (helement : List.Forall₂ RuleDraft.Respells (elements (.record es)) (elements (.record fs))) :
    Respells (.record es) (.record fs) := by
  have hother : ∀ keys ∈ restrictionKeys, ∀ key ∈ keys, key ∉ ["customConditions"] := by decide
  exact {
    raw := rfl
    raw' := rfl
    flag := fun keys hkeys key hkey => Record.get_related (.inl rfl) h (hother keys hkeys key hkey)
    element := helement
    rest := hrest }

/-- Whether no word for a flag that is off hides what another key of a restriction says. -/
def KeepsRestrictions (v w : Value) : Prop :=
  ∀ keys ∈ restrictionKeys, ¬Record.Hides keys v.toRecord w.toRecord

instance (v w : Value) : Decidable (KeepsRestrictions v w) :=
  inferInstanceAs (Decidable (∀ _ ∈ _, _))

/-- Whether no rule that was switched off is switched on. -/
def KeepsRules (v w : Value) : Prop :=
  List.Forall₂ (fun x y => ¬RuleDraft.Wakes x y) (elements v) (elements w)

/-- Criteria with the rules of others. -/
def withRulesOf (c d : Criteria) : Criteria :=
  { c with rules := d.rules, unreadableRules := d.unreadableRules }

/-- Criteria read the same but for their rules exactly if no restriction is hidden, and their rules
are the same exactly if none is switched on. -/
theorem ofValue_respells {v w : Value} (h : Respells v w) :
    Alike (fun c d => (d = c.withRulesOf d ↔ KeepsRestrictions v w) ∧
      (d.rules = c.rules ∧ d.unreadableRules = c.unreadableRules ↔ KeepsRules v w))
      (ofValue v) (ofValue w) := by
  have hflag (keys : List String) (hkeys : keys ∈ restrictionKeys) :
      (w.toRecord.firstTruthy keys).toFlag = (v.toRecord.firstTruthy keys).toFlag ↔
        ¬Record.Hides keys v.toRecord w.toRecord :=
    Record.toFlag_firstTruthy_iff (h.flag keys hkeys)
  have hyears : v.toRecord.firstTruthy
        ["eligibleClassifications", "requiredYearLevels", "eligibleYearLevels"] =
      w.toRecord.firstTruthy
        ["eligibleClassifications", "requiredYearLevels", "eligibleYearLevels"] :=
    h.rest.firstTruthy (by decide)
  have hbrackets : v.toRecord.firstTruthy ["eligibleSTBrackets", "requiredSTBrackets"] =
      w.toRecord.firstTruthy ["eligibleSTBrackets", "requiredSTBrackets"] :=
    h.rest.firstTruthy (by decide)
  rw [ofValue_eq_ofRecord h.raw, ofValue_eq_ofRecord h.raw', ofRecord, ofRecord]
  dsimp only
  rw [RuleDraft.ofList_customConditions, RuleDraft.ofList_customConditions]
  refine (RuleDraft.ofValues_respells 0 h.element).bind fun ds es hds => ?_
  simp (disch := decide) only [h.rest.get, hyears, hbrackets]
  iterate 7 refine .bind_same fun _ => ?_
  refine .ok ⟨?_, (RuleDraft.same_rules_iff hds.1).trans hds.2⟩
  -- but for the rules, only the flags may differ
  simp (disch := decide) only [withRulesOf, Criteria.mk.injEq, hflag, true_and, and_true]
  simp only [KeepsRestrictions, restrictionKeys, List.forall_mem_cons, List.not_mem_nil,
    false_implies, implies_true, and_true]

end Criteria

/-! ### Scholarships -/

namespace Scholarship

/-- The keys under which a scholarship has criteria. -/
def criteriaKeys : List String := ["eligibilityCriteria", "criteria"]

/-- Scholarships that differ at most in flags that are words in the second one, be it their own
flag or flags of their criteria. -/
structure Respells (v w : Value) : Prop where
  flag : (v.toRecord.get "isActive").Respells (w.toRecord.get "isActive")
  criteria : ∀ key ∈ criteriaKeys, v.toRecord.get key = w.toRecord.get key ∨
    (v.toRecord.get key).isNull = (w.toRecord.get key).isNull ∧
      Criteria.Respells (v.toRecord.get key) (w.toRecord.get key)
  rest : Record.AgreeBut ("isActive" :: criteriaKeys) v.toRecord w.toRecord

theorem openness_respells {v w : Value} (h : Respells v w) :
    openness v.toRecord = openness w.toRecord := by
  rw [openness, openness, h.flag.isNull, h.flag.toFlag, h.rest.get (by decide)]

/-- Whatever becomes of the criteria, a scholarship is as open as before. -/
theorem ofValue_respells {v w : Value} (h : Respells v w) :
    Alike (fun x y => x.isActive = y.isActive) (ofValue v) (ofValue w) := by
  have hcriteria : Alike (fun _ _ => True)
      (Criteria.ofValue (v.toRecord.first criteriaKeys))
      (Criteria.ofValue (w.toRecord.first criteriaKeys)) := by
    have hfirst : v.toRecord.first criteriaKeys = w.toRecord.first criteriaKeys ∨
        (v.toRecord.first criteriaKeys).isNull = (w.toRecord.first criteriaKeys).isNull ∧
          Criteria.Respells (v.toRecord.first criteriaKeys) (w.toRecord.first criteriaKeys) :=
      Record.first_related (R := fun a b => a = b ∨ a.isNull = b.isNull ∧ Criteria.Respells a b)
        (fun a b hab => hab.elim (congrArg Value.isNull) And.left) (.inl rfl) h.criteria
    obtain hsame | ⟨-, hrespells⟩ := hfirst
    · exact (Alike.of_eq (congrArg Criteria.ofValue hsame)).mono fun _ _ _ => trivial
    · exact (Criteria.ofValue_respells hrespells).mono fun _ _ _ => trivial
  unfold ofValue
  dsimp only
  rw [openness_respells h]
  simp (disch := decide) only [h.rest.first]
  iterate 3 refine .bind_same fun _ => ?_
  exact hcriteria.bind fun _ _ _ => .ok rfl

end Scholarship

/-! ### What comes of them -/

open Matching (visit)
open Provision (runFrom)

/-- The words for flags may stand in their place. A student reads the same, and a batch passes over
the same scholarships. Criteria that hide no restriction read the same but for their rules; if no
rule is switched on either, they read the same, and so verdicts are the same. -/
theorem readings_of_respells {student student' criteria criteria' scholarship scholarship' : Value}
    (hs : Student.Respells (Student.profile student) (Student.profile student'))
    (hc : Criteria.Respells criteria criteria')
    (hrestrictions : Criteria.KeepsRestrictions criteria criteria')
    (hx : Scholarship.Respells scholarship scholarship') :
    Student.ofValue student = Student.ofValue student' ∧
      Alike (fun c d => d = c.withRulesOf d ∧ (d = c ↔ Criteria.KeepsRules criteria criteria'))
        (Criteria.ofValue criteria) (Criteria.ofValue criteria') ∧
      (Criteria.KeepsRules criteria criteria' →
        assess (.raw student) (.raw criteria) = assess (.raw student') (.raw criteria') ∧
          quickAssess (.raw student) (.raw criteria) =
            quickAssess (.raw student') (.raw criteria')) ∧
      ∀ s o p, (∃ q, runFrom (visit s o (.raw scholarship)) p = (.ok none, q)) ↔
        ∃ q, runFrom (visit s o (.raw scholarship')) p = (.ok none, q) := by
  have hstudent := Student.ofValue_respells hs
  have hcriteria : Alike
      (fun c d => d = c.withRulesOf d ∧ (d = c ↔ Criteria.KeepsRules criteria criteria'))
      (Criteria.ofValue criteria) (Criteria.ofValue criteria') := by
    refine (Criteria.ofValue_respells hc).mono fun c d ⟨hflags, hrules⟩ => ?_
    have hd := hflags.mpr hrestrictions
    refine ⟨hd, ?_⟩
    rw [← hrules]
    constructor
    · rintro rfl
      exact ⟨rfl, rfl⟩
    · rintro ⟨hsame, hsame'⟩
      rw [hd, Criteria.withRulesOf, hsame, hsame']
  refine ⟨hstudent, hcriteria, fun hrules => ?_, fun s o p => ?_⟩
  · have hsame := (hcriteria.mono fun c d hcd => (hcd.2.mpr hrules).symm).eq
    constructor
    · simp only [assess, StudentEntry.read, CriteriaEntry.read, hstudent, hsame]
    · simp only [quickAssess, StudentEntry.read, CriteriaEntry.read, hstudent, hsame]
  · rw [Matching.runFrom_visit_eq_none, Matching.runFrom_visit_eq_none]
    exact (Scholarship.ofValue_respells hx).yields_iff fun x y hxy => by rw [hxy]

/-- Five flags in words: two of a student, a restriction that is on and one that is off, and a rule
that is switched on. The other rule stays switched off by its flag. -/
theorem readings_of_five_words :
    let profile (other graduating : Value) : Record :=
      [("hasOtherScholarship", other), ("isGraduating", graduating)]
    let rule (active : Value) : Value := .record [("id", .text "pet"), ("type", .text "boolean"),
      ("operator", .text "is_false"), ("studentField", .text "hasPet"), ("isActive", active)]
    let rules (active : Value) : Value := .list [rule active, rule (.flag false)]
    let entries (graduating filipino active : Value) : Record :=
      [("mustBeGraduating", graduating), ("isFilipinoOnly", filipino),
        ("customConditions", rules active)]
    let student : Value := .record (profile (.flag false) (.flag true))
    let student' : Value := .record (profile (.text "false") (.text "true"))
    let criteria : Value := .record (entries (.flag true) (.flag false) (.flag true))
    let criteria' : Value := .record (entries (.text "true") (.text "false") (.text "true"))
    let scholarship : Value := .record [("isActive", .flag false), ("criteria", criteria)]
    let scholarship' : Value := .record [("isActive", .text "false"), ("criteria", criteria')]
    Student.Respells (Student.profile student) (Student.profile student') ∧
      Criteria.Respells criteria criteria' ∧ Criteria.KeepsRestrictions criteria criteria' ∧
      Scholarship.Respells scholarship scholarship' ∧ Criteria.KeepsRules criteria criteria' ∧
      (assess (.raw student) (.raw criteria)).toOption.map (fun v => v.checks.map (·.id)) =
        some ["mustBeGraduating", "pet"] ∧
      assess (.raw student) (.raw criteria) = assess (.raw student') (.raw criteria') ∧
      ∀ s o p, (∃ q, runFrom (visit s o (.raw scholarship)) p = (.ok none, q)) ↔
        ∃ q, runFrom (visit s o (.raw scholarship')) p = (.ok none, q) := by
  intro profile rule rules entries student student' criteria criteria' scholarship scholarship'
  have hon : (Value.flag true).Respells (.text "true") := .inr ⟨true, rfl, rfl⟩
  have hoff : (Value.flag false).Respells (.text "false") := .inr ⟨false, rfl, rfl⟩
  have hnull : Value.null.Respells .null := .inl rfl
  have hv : Student.profile student = profile (.flag false) (.flag true) := rfl
  have hw : Student.profile student' = profile (.text "false") (.text "true") := rfl
  have hs : Student.Respells (Student.profile student) (Student.profile student') := by
    rw [hv, hw]
    refine ⟨fun key _ => ?_, Record.agreeBut_of_forall₂ (by simp [Student.flagKeys, profile])⟩
    have hentries : List.Forall₂ (fun e f => e.1 = f.1 ∧ (e.1 ∈ [] ∨ e.2.Respells f.2))
        (profile (.flag false) (.flag true)) (profile (.text "false") (.text "true")) := by
      simp [profile, hon, hoff]
    exact Record.get_related hnull hentries List.not_mem_nil
  have hrule {active active' : Value} (h : active.Respells active') :
      RuleDraft.Respells (rule active) (rule active') := by
    refine ⟨?_, Record.agreeBut_of_forall₂ (by simp [RuleDraft.switchKeys, rule, Value.toRecord])⟩
    simp only [RuleDraft.switchKeys, List.forall_mem_cons]
    exact ⟨h, hnull, nofun⟩
  have hc : Criteria.Respells criteria criteria' := Criteria.respells_of_entries
    (by simp [entries, hon, hoff])
    (Record.agreeBut_of_forall₂ (by simp [Criteria.restrictionKeys, entries]))
    (.cons (hrule hon) (.cons (hrule (.inl rfl)) .nil))
  have hx : Scholarship.Respells scholarship scholarship' := by
    refine ⟨hoff, ?_, Record.agreeBut_of_forall₂ (by
      simp [Scholarship.criteriaKeys, scholarship, scholarship', Value.toRecord])⟩
    simp only [Scholarship.criteriaKeys, List.forall_mem_cons]
    exact ⟨.inl rfl, .inr ⟨rfl, hc⟩, nofun⟩
  have hrestrictions : Criteria.KeepsRestrictions criteria criteria' := by decide +kernel
  have hrules : Criteria.KeepsRules criteria criteria' :=
    .cons (by decide +kernel) (.cons (by decide +kernel) .nil)
  obtain ⟨-, -, hsame, hskip⟩ := readings_of_respells hs hc hrestrictions hx
  exact ⟨hs, hc, hrestrictions, hx, hrules, by decide +kernel, (hsame hrules).1, hskip⟩

/-- In words, a rule that was switched off is checked, and a restriction to citizens under the
older key is hidden by the current one. -/
theorem words_change_readings :
    let rules (active : Value) : Record := [("customConditions", .list [.record [
      ("id", .text "pet"), ("type", .text "boolean"), ("operator", .text "is_true"),
      ("studentField", .text "hasPet"), ("isActive", active)]])]
    let citizens (current : Value) : Record :=
      [("isFilipinoOnly", current), ("filipinoOnly", .flag true)]
    let student : Value := .record []
    let outcome (criteria : Value) : Option (Bool × List String) :=
      (assess (.raw student) (.raw criteria)).toOption.map fun v =>
        (v.passed, v.checks.map (·.id))
    Criteria.Respells (.record (rules (.flag false))) (.record (rules (.text "false"))) ∧
      outcome (.record (rules (.flag false))) = some (true, []) ∧
      outcome (.record (rules (.text "false"))) = some (false, ["pet"]) ∧
      Criteria.Respells (.record (citizens (.flag false))) (.record (citizens (.text "false"))) ∧
      outcome (.record (citizens (.flag false))) = some (true, ["citizenship"]) ∧
      outcome (.record (citizens (.text "false"))) = some (true, []) := by
  intro rules citizens student outcome
  have hoff : (Value.flag false).Respells (.text "false") := .inr ⟨false, rfl, rfl⟩
  have hnull : Value.null.Respells .null := .inl rfl
  have hsame : (Value.flag true).Respells (.flag true) := .inl rfl
  have hrules : Criteria.Respells (.record (rules (.flag false)))
      (.record (rules (.text "false"))) := by
    refine Criteria.respells_of_entries (by simp [rules])
      (Record.agreeBut_of_forall₂ (by simp [Criteria.restrictionKeys, rules]))
      (.cons ⟨?_, Record.agreeBut_of_forall₂ (by simp [RuleDraft.switchKeys, Value.toRecord])⟩ .nil)
    simp only [RuleDraft.switchKeys, List.forall_mem_cons]
    exact ⟨hoff, hnull, nofun⟩
  have hcitizens : Criteria.Respells (.record (citizens (.flag false)))
      (.record (citizens (.text "false"))) :=
    Criteria.respells_of_entries (by simp [citizens, hoff, hsame])
      (Record.agreeBut_of_forall₂ (by simp [Criteria.restrictionKeys, citizens])) .nil
  exact ⟨hrules, by decide +kernel, by decide +kernel, hcitizens, by decide +kernel,
    by decide +kernel⟩

end Bursary
