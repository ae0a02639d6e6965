import Bursary.Intake.Student
import Bursary.Prediction.Score
import Bursary.Proofs.Factor.Decomposition
import Bursary.Proofs.Value.LetterCase
import Bursary.Proofs.Value.Related
import Bursary.Verdict

/-! Names in any letter case. Two profiles that differ in the case of the ASCII letters of their
names are read as students with the same canonical names, or with names that are none and differ in
case only. No standard condition tells them apart, so verdicts, features and probabilities are the
same, and so is everything that a prediction explains but one value: citizenship counts fully only
if it is spelled exactly as the default. -/

namespace Bursary

attribute [local irreducible] Binary64.unitLimit Binary64.unitsPerOne

/-! ### Canonical names -/

namespace Canonical

/-- Names that are equal, or differ in the case of letters only and are none of a table. -/
def SameName (table : Table) (s t : String) : Prop :=
  s = t ∨ Text.SameLetters s t ∧ table.lookup (Text.upper s) = none

namespace SameName

variable {table : Table} {s t : String}

theorem sameLetters (h : SameName table s t) : Text.SameLetters s t := by
  obtain rfl | ⟨h, -⟩ := h
  · rfl
  · exact h

theorem isEmpty (h : SameName table s t) : s.isEmpty = t.isEmpty := h.sameLetters.isEmpty

/-- What is listed under names of a table only does not depend on the case of letters. -/
theorem lookup_eq {β : Type} {listed : List (String × β)}
    (hlisted : ∀ e ∈ listed, (table.lookup (Text.upper e.1)).isSome = true)
    (h : SameName table s t) : listed.lookup s = listed.lookup t := by
  have hnone {s : String} (hs : table.lookup (Text.upper s) = none) : listed.lookup s = none := by
    cases hfound : listed.lookup s with
    | none => rfl
    | some b =>
      obtain ⟨before, after, hsplit, -⟩ := List.lookup_eq_some_iff.mp hfound
      have := hlisted (s, b) (by rw [hsplit]; simp)
      rw [hs] at this
      cases this
  obtain rfl | ⟨hletters, hs⟩ := h
  · rfl
  · rw [hnone hs, hnone (hletters.upper ▸ hs)]

end SameName

theorem sameName_name (table : Table) {s t : String} (h : Text.SameLetters s t) :
    SameName table (name table s) (name table t) := by
  unfold name
  dsimp only
  rw [← h.trim.upper]
  cases hfound : table.lookup (Text.upper (Text.trim s)) with
  | none => exact .inr ⟨h.trim, hfound⟩
  | some canonical => exact .inl rfl

theorem nameOf?_alike (table : Table) {v w : Value} (h : v.SameLetters w) :
    Alike (fun s t => SameName table (s.getD "") (t.getD "")) (nameOf? table v)
      (nameOf? table w) := by
  refine h.textIfGiven.map fun s t hst => ?_
  cases s with
  | none =>
    cases t with
    | none => exact .inl rfl
    | some t => cases hst
  | some s =>
    cases t with
    | none => cases hst
    | some t => exact sameName_name table (Option.some.inj hst)

end Canonical

/-! ### Students -/

namespace Student

open Canonical (SameName)

/-- The keys under which a profile has names. -/
def nameKeys : List String := ["college", "classification", "yearLevel", "course", "major",
  "stBracket", "provinceOfOrigin", "hometown", "citizenship"]

/-- The province of the home address. -/
def homeProvince (data : Record) : Value := (data.get "homeAddress").toRecord.get "province"

/-- Profiles that differ at most in the case of the ASCII letters of their names. -/
structure Recased (d e : Record) : Prop where
  name : ∀ key ∈ nameKeys, (d.get key).SameLetters (e.get key)
  homeProvince : (homeProvince d).SameLetters (homeProvince e)
  rest : Record.AgreeBut ("homeAddress" :: nameKeys) d e

theorem recased_of_entries {d e : Record}
    (h : List.Forall₂ (fun x y => x.1 = y.1 ∧ (x.1 ∈ ["homeAddress"] ∨ x.2.SameLetters y.2)) d e)
    (hprovince : (homeProvince d).SameLetters (homeProvince e))
    (hrest : Record.AgreeBut ("homeAddress" :: nameKeys) d e) : Recased d e := by
  have hother : ∀ key ∈ nameKeys, key ∉ ["homeAddress"] := by decide
  exact {
    name := fun key hkey => Record.get_related (R := Value.SameLetters) rfl h (hother key hkey)
    homeProvince := hprovince
    rest := hrest }

/-- A student without the names. -/
def withoutNames (s : Student) : Student :=
  { s with
    yearLevel := "", college := "", course := "", major := none, stBracket := none, province := ""
    citizenship := "" }

/-- Students that differ at most in the letter case of names that are not canonical. -/
structure SameNames (s t : Student) : Prop where
  yearLevel : Text.SameLetters s.yearLevel t.yearLevel
  college : Text.SameLetters s.college t.college
  course : Text.SameLetters s.course t.course
  major : Text.SameLetters (s.major.getD "") (t.major.getD "")
  stBracket : SameName Canonical.brackets (s.stBracket.getD "") (t.stBracket.getD "")
  province : Text.SameLetters s.province t.province
  citizenship : Text.SameLetters s.citizenship t.citizenship
  rest : s.withoutNames = t.withoutNames

/-- What does not look at the names is the same. -/
theorem SameNames.eq_of_withoutNames {γ : Type} {s t : Student} (h : s.SameNames t)
    (f : Student → γ) (hf : ∀ s, f s = f s.withoutNames) : f s = f t :=
  (hf s).trans ((congrArg f h.rest).trans (hf t).symm)

theorem sameLetters_orElse {s t : String} (fallback : String) (h : Text.SameLetters s t) :
    Text.SameLetters (if s.isEmpty then fallback else s) (if t.isEmpty then fallback else t) := by
  rw [← h.isEmpty]
  split
  · rfl
  · exact h

/-- A name that is not given is read like a blank one. -/
theorem nameOr_eq (table : Canonical.Table) (fallback : String) (v : Value) :
    nameOr table fallback v = (Canonical.nameOf? table v).map fun name =>
      if (name.getD "").isEmpty then fallback else name.getD "" := by
  unfold nameOr
  cases Canonical.nameOf? table v with
  | error e => rfl
  | ok name => cases name <;> rfl

theorem nameOr_alike (table : Canonical.Table) (fallback : String) {v w : Value}
    (h : v.SameLetters w) :
    Alike Text.SameLetters (nameOr table fallback v) (nameOr table fallback w) := by
  rw [nameOr_eq, nameOr_eq]
  exact (Canonical.nameOf?_alike table h).map fun s t hst =>
    sameLetters_orElse fallback hst.sameLetters

theorem textOr_alike (fallback : String) {v w : Value} (h : v.SameLetters w) :
    Alike Text.SameLetters (textOr fallback v) (textOr fallback w) :=
  h.toText.bind fun _ _ hst => .ok (sameLetters_orElse fallback hst)

namespace Recased

variable {d e : Record} (h : Recased d e)

include h

theorem firstTruthy {tried : List String} (htried : ∀ key ∈ tried, key ∈ nameKeys) :
    (d.firstTruthy tried).SameLetters (e.firstTruthy tried) :=
  Record.firstTruthy_related (fun _ _ => Value.SameLetters.isTruthy) rfl fun key hkey =>
    h.name key (htried key hkey)

theorem provinceOf : (provinceOf d).SameLetters (provinceOf e) := by
  have hstated : (d.firstTruthy ["provinceOfOrigin", "hometown"]).SameLetters
      (e.firstTruthy ["provinceOfOrigin", "hometown"]) := h.firstTruthy (by decide)
  unfold Student.provinceOf
  dsimp only
  rw [← hstated.isTruthy]
  split
  · exact hstated
  · exact h.homeProvince

end Recased

theorem ofValue_recased {v w : Value} (h : Recased (profile v) (profile w)) :
    Alike SameNames (ofValue v) (ofValue w) := by
  unfold ofValue
  generalize profile v = d at h
  generalize profile w = e at h
  refine (nameOr_alike _ _ (h.firstTruthy (by decide))).bind fun yearLevel yearLevel' hyear => ?_
  refine (nameOr_alike _ _ (h.name "college" (by decide))).bind fun college college' hcollege => ?_
  refine (h.name "course" (by decide)).toText.bind fun course course' hcourse => ?_
  refine (h.name "major" (by decide)).toText.bind fun major major' hmajor => ?_
  refine (Canonical.nameOf?_alike _ (h.name "stBracket" (by decide))).bind
    fun bracket bracket' hbracket => ?_
  refine h.provinceOf.toText.bind fun province province' hprovince => ?_
  refine (textOr_alike _ (h.name "citizenship" (by decide))).bind
    fun citizenship citizenship' hcitizenship => .ok ?_
  exact {
    yearLevel := hyear, college := hcollege, course := hcourse
    major := by
      have hgetD (s : String) : (if s.isEmpty then none else some s).getD "" = s := by
        split
        case isTrue hempty => exact (String.isEmpty_iff.mp hempty).symm
        case isFalse => rfl
      dsimp only
      rwa [hgetD, hgetD]
    stBracket := hbracket, province := hprovince, citizenship := hcitizenship
    rest := by
      simp (disch := decide) only [withoutNames, h.rest.get, h.rest.first] }

end Student

/-! ### Conditions and verdicts -/

theorem overlaps_sameLetters {a b : String} (h : Text.SameLetters a b) :
    overlaps a = overlaps b := by
  funext entry
  simp only [overlaps, h.lower]

theorem namedIn_sameLetters (table : Canonical.Table) {a b : String} (h : Text.SameLetters a b) :
    namedIn table a = namedIn table b := by
  funext entries
  simp only [namedIn, h.lower]

/-- A check without the text for the student. -/
def Check.withoutStudentValue (k : Check) : Check := { k with studentValue := "" }

/-- Verdict and score do not look at that text. -/
theorem Verdict.same_of_withoutStudentValue {ks ls : List Check}
    (h : ks.map Check.withoutStudentValue = ls.map Check.withoutStudentValue) :
    (ofChecks ks).passed = (ofChecks ls).passed ∧ (ofChecks ks).score = (ofChecks ls).score := by
  have hpassed (ks : List Check) : (ofChecks ks).passed =
      ((ks.map Check.withoutStudentValue).filter (·.blocks)).isEmpty := by
    rw [List.filter_map, List.isEmpty_map]
    rfl
  have hscore (ks : List Check) : (ofChecks ks).score =
      percentage ((ks.map Check.withoutStudentValue).countP (·.passed))
        (ks.map Check.withoutStudentValue).length := by
    rw [List.countP_map, List.length_map]
    rfl
  rw [hpassed, hpassed, hscore, hscore, h]
  exact ⟨rfl, rfl⟩

theorem allChecks_of_no_rules {s : Student} {c : Criteria} (hrules : c.rules = [])
    (hunreadable : c.unreadableRules = []) :
    allChecks s c = Condition.checks s c Condition.all := by
  have hown : ruleChecks s [] [] = .ok [] := rfl
  rw [allChecks, hrules, hunreadable, hown]
  cases Condition.checks s c Condition.all with
  | ok ks => exact congrArg Except.ok (List.append_nil ks)
  | error e => rfl

section Verdicts

variable {s t : Student} (h : s.SameNames t)

include h

theorem holds_sameNames (cond : Condition) (c : Criteria) : cond.holds s c = cond.holds t c := by
  have hoverlaps {a b : String} (hab : Text.SameLetters a b) (entries : List String) :
      Condition.overlapsAny a entries = Condition.overlapsAny b entries := by
    rw [Condition.overlapsAny, Condition.overlapsAny, hab.isEmpty, overlaps_sameLetters hab]
  cases cond with
  | yearLevel => exact congrFun (namedIn_sameLetters _ h.yearLevel) _
  | college => exact congrFun (namedIn_sameLetters _ h.college) _
  | course => exact hoverlaps h.course _
  | major => exact hoverlaps h.major _
  | stBracket =>
    simp only [Condition.holds, h.stBracket.isEmpty, namedIn_sameLetters _ h.stBracket.sameLetters]
  | province => exact hoverlaps h.province _
  | citizenship => simp only [Condition.holds, h.citizenship.lower]
  | _ => exact h.eq_of_withoutNames (Condition.holds _ · c) fun _ => rfl

/-- Names can be shown in any case. -/
theorem studentText_sameNames (cond : Condition) :
    Alike (fun _ _ => True) (cond.studentText s) (cond.studentText t) := by
  cases cond with
  | yearLevel | college | course | major | stBracket | province | citizenship => exact .ok trivial
  | _ =>
    refine (Alike.of_eq ?_).mono fun _ _ _ => trivial
    exact h.eq_of_withoutNames (Condition.studentText _) fun _ => rfl

theorem check_sameNames (cond : Condition) (c : Criteria) :
    Alike (fun k l => k.withoutStudentValue = l.withoutStudentValue) (cond.check s c)
      (cond.check t c) := by
  refine (studentText_sameNames h cond).bind fun _ _ _ => ?_
  refine .bind_same fun _ => .ok ?_
  simp only [Check.withoutStudentValue, holds_sameNames h]

theorem checks_sameNames (c : Criteria) (conds : List Condition) :
    Alike (fun ks ls => ks.map Check.withoutStudentValue = ls.map Check.withoutStudentValue)
      (Condition.checks s c conds) (Condition.checks t c conds) := by
  induction conds with
  | nil => exact .ok rfl
  | cons cond conds ih =>
    rw [Condition.checks, Condition.checks]
    split
    · refine (check_sameNames h cond c).bind fun k l hkl => ih.bind fun ks ls hks => .ok ?_
      rw [List.map_cons, List.map_cons, hkl, hks]
    · exact ih

/-- Without rules of its own a scholarship judges both alike. -/
theorem evaluate_sameNames {c : Criteria} (hrules : c.rules = [])
    (hunreadable : c.unreadableRules = []) :
    Alike (fun x y => x.passed = y.passed ∧ x.score = y.score) (evaluate s c) (evaluate t c) := by
  rw [evaluate, evaluate, allChecks_of_no_rules hrules hunreadable,
    allChecks_of_no_rules hrules hunreadable]
  exact (checks_sameNames h c _).map fun _ _ => Verdict.same_of_withoutStudentValue

end Verdicts

/-! ### Features and factors -/

section Predictions

variable {s t : Student} (h : s.SameNames t)

include h

theorem fit_sameNames (c : Criteria) : Fit.of s c = Fit.of t c := by
  have hcondition (cond : Condition) : Fit.ofCondition cond s c = Fit.ofCondition cond t c := by
    rw [Fit.ofCondition, Fit.ofCondition, holds_sameNames h]
  have hgwa : (Fit.of s c).gwa = (Fit.of t c).gwa :=
    h.eq_of_withoutNames (fun s => (Fit.of s c).gwa) fun _ => rfl
  have hincome : (Fit.of s c).income = (Fit.of t c).income :=
    h.eq_of_withoutNames (fun s => (Fit.of s c).income) fun _ => rfl
  simp only [Fit.of, hcondition] at hgwa hincome ⊢
  rw [hgwa, hincome]

theorem gradedBracket_sameNames {α : Type} [Arithmetic α] (outcome : Option Bool) :
    Features.gradedBracket (α := α) s outcome = Features.gradedBracket t outcome := by
  have hscore : Features.bracketScores.lookup (s.stBracket.getD "") =
      Features.bracketScores.lookup (t.stBracket.getD "") :=
    h.stBracket.lookup_eq (by decide +kernel)
  unfold Features.gradedBracket
  split
  · rw [hscore]
  · rfl

theorem features_sameNames (convention : Convention) (c : Criteria) :
    Features.of (α := Binary64) convention s c = Features.of convention t c := by
  funext f
  cases convention with
  | binary =>
    rw [Features.of, Features.of, fit_sameNames h]
    exact h.eq_of_withoutNames (Features.ofBinary · (Fit.of t c) f) fun _ => by cases f <;> rfl
  | graded =>
    rw [Features.of, Features.of, fit_sameNames h]
    cases f with
    | stBracketMatch => exact gradedBracket_sameNames h _
    | _ => exact h.eq_of_withoutNames (Features.ofGraded · c (Fit.of t c) _) fun _ => rfl

theorem isMet_sameNames (c : Criteria) (a : Aspect) :
    a.isMet s c (Fit.of s c) = a.isMet t c (Fit.of t c) := by
  rw [fit_sameNames h]
  exact h.eq_of_withoutNames (a.isMet · c (Fit.of t c)) fun _ => by cases a <;> rfl

/-- Only the value of the citizenship may change. -/
theorem value_sameNames (c : Criteria) {a : Aspect} (ha : a ≠ .citizenship) :
    a.value (α := Binary64) s c (Fit.of s c) = a.value t c (Fit.of t c) := by
  rw [fit_sameNames h]
  cases a with
  | citizenship => exact absurd rfl ha
  | bracket =>
    have hneed : Aspect.bracketNeeds.lookup (s.stBracket.getD "") =
        Aspect.bracketNeeds.lookup (t.stBracket.getD "") :=
      h.stBracket.lookup_eq (by decide +kernel)
    simp only [Aspect.value, Aspect.bracketNeed, hneed]
  | _ => exact h.eq_of_withoutNames (fun s => Aspect.value s c (Fit.of t c) _) fun _ => rfl

end Predictions

namespace Factor

/-- A factor without its description. -/
def withoutText (f : Factor Binary64) : Factor Binary64 := { f with description := "" }

/-- Descriptions have no say in the order of factors. -/
theorem map_withoutText_ranked (s : Student) (c : Criteria) (w : Weights Binary64) :
    (ranked s c w).map withoutText =
      Sorting.descending weighsLess (Aspect.all.map fun a => (of s c w a).withoutText) := by
  have hkeeps (f g : Factor Binary64) :
      weighsLess f.withoutText g.withoutText = weighsLess f g := rfl
  rw [ranked, Sorting.map_descending hkeeps, List.map_map]
  rfl

/-- Factors are the same but for their texts exactly if the values of all aspects are and all
aspects are met alike. -/
theorem map_withoutText_ranked_eq_iff {s t : Student} {c : Criteria} {w : Weights Binary64} :
    (ranked s c w).map withoutText = (ranked t c w).map withoutText ↔
      ∀ a : Aspect, a.value (α := Binary64) s c (Fit.of s c) = a.value t c (Fit.of t c) ∧
        a.isMet s c (Fit.of s c) = a.isMet t c (Fit.of t c) := by
  constructor
  · intro h a
    have hmem : (of s c w a).withoutText ∈ (ranked t c w).map withoutText :=
      h ▸ List.mem_map_of_mem (mem_ranked s c w a)
    obtain ⟨f, hf, hsame⟩ := List.mem_map.mp hmem
    have haspect : f.aspect = a := congrArg aspect hsame
    rw [eq_of_mem_ranked hf, haspect] at hsame
    exact ⟨(congrArg value hsame).symm, (congrArg isMet hsame).symm⟩
  · intro h
    have hweighted : weighted s c w = weighted t c w := by
      funext a
      rw [weighted, weighted, (h a).1]
    have hfactor (a : Aspect) : (of s c w a).withoutText = (of t c w a).withoutText := by
      simp only [of, withoutText, totalSize, hweighted, (h a).1, (h a).2]
    simp only [map_withoutText_ranked, hfactor]

end Factor

/-! ### Both spellings -/

theorem Aspect.full_ne_partial : (Arithmetic.const 1 : Binary64) ≠ Arithmetic.const 0.4 := by
  decide +kernel

theorem Aspect.citizenship_value_eq_iff {s t : Student} {c : Criteria} :
    Aspect.citizenship.value (α := Binary64) s c (Fit.of s c) =
        Aspect.citizenship.value t c (Fit.of t c) ↔
      (s.citizenship = Student.defaultCitizenship ↔
        t.citizenship = Student.defaultCitizenship) := by
  have hvalue (s : Student) : Aspect.citizenship.value (α := Binary64) s c (Fit.of s c) =
      if s.citizenship = Student.defaultCitizenship then Arithmetic.const 1
      else Arithmetic.const 0.4 :=
    apply_ite Arithmetic.const _ _ _
  rw [hvalue, hvalue]
  have hne := full_ne_partial
  generalize (Arithmetic.const 1 : Binary64) = full at hne
  generalize (Arithmetic.const 0.4 : Binary64) = part at hne
  by_cases hs : s.citizenship = Student.defaultCitizenship <;>
    by_cases ht : t.citizenship = Student.defaultCitizenship <;> simp [hs, ht, hne, hne.symm]

/-- Students whom criteria do not tell apart: neither by the verdict nor by any probability. Any two
predictions explain themselves by the same factors, but that the value of the citizenship differs if
only one of the students has the default citizenship in its very spelling. -/
structure Student.JudgedAlike (c : Criteria) (s t : Student) : Prop where
  verdict : Alike (fun x y => x.passed = y.passed ∧ x.score = y.score) (evaluate s c) (evaluate t c)
  probability : ∀ w trained source convention,
    (Prediction.of s c w trained source convention).probability =
      (Prediction.of t c w trained source convention).probability
  isMet : ∀ a : Aspect, a.isMet s c (Fit.of s c) = a.isMet t c (Fit.of t c)
  value : ∀ a : Aspect, a ≠ .citizenship →
    a.value (α := Binary64) s c (Fit.of s c) = a.value t c (Fit.of t c)
  factors : ∀ w trained source convention,
    (Prediction.of s c w trained source convention).factors.map Factor.withoutText =
        (Prediction.of t c w trained source convention).factors.map Factor.withoutText ↔
      (s.citizenship = defaultCitizenship ↔ t.citizenship = defaultCitizenship)

theorem judgedAlike_of_sameNames {s t : Student} (h : s.SameNames t) {c : Criteria}
    (hrules : c.rules = []) (hunreadable : c.unreadableRules = []) : s.JudgedAlike c t where
  verdict := evaluate_sameNames h hrules hunreadable
  probability := fun w _ _ convention => by
    show Prediction.probabilityOf _ = Prediction.probabilityOf _
    rw [features_sameNames h]
  isMet := isMet_sameNames h c
  value := fun _ => value_sameNames h c
  factors := fun w _ _ _ => by
    refine Factor.map_withoutText_ranked_eq_iff.trans ?_
    rw [← Aspect.citizenship_value_eq_iff (c := c)]
    refine ⟨fun hall => (hall .citizenship).1, fun hcitizenship a => ⟨?_, isMet_sameNames h c a⟩⟩
    by_cases ha : a = .citizenship
    · obtain rfl := ha
      exact hcitizenship
    · exact value_sameNames h c ha

/-- The letter case of names does not matter to a scholarship without rules of its own, save that
the default citizenship counts in full only in its very spelling. -/
theorem judgedAlike_of_recased {v w : Value}
    (h : Student.Recased (Student.profile v) (Student.profile w)) {c : Criteria}
    (hrules : c.rules = []) (hunreadable : c.unreadableRules = []) :
    Alike (Student.JudgedAlike c) (Student.ofValue v) (Student.ofValue w) :=
  (Student.ofValue_recased h).mono fun _ _ hnames =>
    judgedAlike_of_sameNames hnames hrules hunreadable

/-- A college in short, a bracket in full, a province of the home address and an unknown course,
each in another case; the citizenship is the default one in neither. -/
theorem judgedAlike_of_five_recased :
    let profile (college bracket course province citizenship : String) : Record := [
      ("gwa", .real 1.75), ("college", .text college), ("stBracket", .text bracket),
      ("course", .text course), ("homeAddress", .record [("province", .text province)]),
      ("citizenship", .text citizenship)]
    let v : Value := .record [("studentProfile",
      .record (profile " cas" "Full Discount" "BS Math" "laguna" "american"))]
    let w : Value := .record [("studentProfile",
      .record (profile " CaS" "FULL discount" "bs math" "LAGUNA" "American"))]
    let c : Criteria := {
      colleges := ["College of arts and sciences"], courses := ["MATH"], stBrackets := ["fd"]
      provinces := ["Laguna"], filipinoOnly := true }
    Student.Recased (Student.profile v) (Student.profile w) ∧ c.rules = [] ∧
      c.unreadableRules = [] ∧ ∃ s t, Student.ofValue v = .ok s ∧ Student.ofValue w = .ok t ∧
        (s.college, s.stBracket, s.course) =
          ("College of Arts and Sciences", some "Full Discount", "BS Math") ∧
        (t.college, t.stBracket, t.course) =
          ("College of Arts and Sciences", some "Full Discount", "bs math") ∧
        s.JudgedAlike c t := by
  intro profile v w c
  have hv : Student.profile v = profile " cas" "Full Discount" "BS Math" "laguna" "american" := rfl
  have hw : Student.profile w = profile " CaS" "FULL discount" "bs math" "LAGUNA" "American" := rfl
  have hsame (v : Value) : v.SameLetters v := rfl
  have hcollege : (Value.text " cas").SameLetters (.text " CaS") :=
    Value.sameLetters_text (by decide +kernel)
  have hbracket : (Value.text "Full Discount").SameLetters (.text "FULL discount") :=
    Value.sameLetters_text (by decide +kernel)
  have hcourse : (Value.text "BS Math").SameLetters (.text "bs math") :=
    Value.sameLetters_text (by decide +kernel)
  have hcitizenship : (Value.text "american").SameLetters (.text "American") :=
    Value.sameLetters_text (by decide +kernel)
  have hrecased : Student.Recased (Student.profile v) (Student.profile w) := by
    rw [hv, hw]
    exact Student.recased_of_entries
      (by simp [profile, hsame, hcollege, hbracket, hcourse, hcitizenship])
      (Value.sameLetters_text (by decide +kernel))
      (Record.agreeBut_of_forall₂ (by simp [Student.nameKeys, profile]))
  have hs : (Student.ofValue v).toOption.map (fun s => (s.college, s.stBracket, s.course)) =
      some ("College of Arts and Sciences", some "Full Discount", "BS Math") := by decide +kernel
  have ht : (Student.ofValue w).toOption.map (fun s => (s.college, s.stBracket, s.course)) =
      some ("College of Arts and Sciences", some "Full Discount", "bs math") := by decide +kernel
  obtain ⟨s, hs, hseen⟩ := Option.map_eq_some_iff.mp hs
  obtain ⟨t, ht, hseen'⟩ := Option.map_eq_some_iff.mp ht
  rw [toOption_eq_some] at hs ht
  have hjudged := judgedAlike_of_recased hrecased (c := c) rfl rfl
  rw [hs, ht] at hjudged
  cases hjudged with
  | ok hjudged => exact ⟨hrecased, rfl, rfl, s, t, hs, ht, hseen, hseen', hjudged⟩

/-- In small letters the default citizenship is accepted as well, and yet every prediction is
explained by other factors than for its usual spelling. -/
theorem factors_of_recased_citizenship :
    let v : Value := .record [("citizenship", .text "Filipino")]
    let w : Value := .record [("citizenship", .text "filipino")]
    let c : Criteria := { filipinoOnly := true }
    Student.Recased (Student.profile v) (Student.profile w) ∧ c.rules = [] ∧
      c.unreadableRules = [] ∧ ∃ s t, Student.ofValue v = .ok s ∧ Student.ofValue w = .ok t ∧
        Aspect.citizenship.isMet s c (Fit.of s c) = true ∧
        Aspect.citizenship.isMet t c (Fit.of t c) = true ∧
        ∀ weights trained source convention,
          (Prediction.of s c weights trained source convention).factors.map Factor.withoutText ≠
            (Prediction.of t c weights trained source convention).factors.map
              Factor.withoutText := by
  intro v w c
  have hv : Student.profile v = [("citizenship", .text "Filipino")] := rfl
  have hw : Student.profile w = [("citizenship", .text "filipino")] := rfl
  have hletters : (Value.text "Filipino").SameLetters (.text "filipino") :=
    Value.sameLetters_text (by decide +kernel)
  have hrecased : Student.Recased (Student.profile v) (Student.profile w) := by
    rw [hv, hw]
    exact Student.recased_of_entries (by simp [hletters]) rfl
      (Record.agreeBut_of_forall₂ (by simp [Student.nameKeys]))
  have hs : (Student.ofValue v).toOption.map (fun s =>
      (s.citizenship, Aspect.citizenship.isMet s c (Fit.of s c))) = some ("Filipino", true) := by
    decide +kernel
  have ht : (Student.ofValue w).toOption.map (fun s =>
      (s.citizenship, Aspect.citizenship.isMet s c (Fit.of s c))) = some ("filipino", true) := by
    decide +kernel
  obtain ⟨s, hs, hseen⟩ := Option.map_eq_some_iff.mp hs
  obtain ⟨t, ht, hseen'⟩ := Option.map_eq_some_iff.mp ht
  rw [toOption_eq_some] at hs ht
  obtain ⟨hcitizenship, hmet⟩ := Prod.mk.inj hseen
  obtain ⟨hcitizenship', hmet'⟩ := Prod.mk.inj hseen'
  refine ⟨hrecased, rfl, rfl, s, t, hs, ht, hmet, hmet',
    fun weights trained source convention h => ?_⟩
  have hvalue := (Factor.map_withoutText_ranked_eq_iff.mp h .citizenship).1
  rw [Aspect.citizenship_value_eq_iff, hcitizenship, hcitizenship'] at hvalue
  exact absurd (hvalue.mp rfl) (by decide)

end Bursary
