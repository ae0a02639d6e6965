import Bursary.Intake.Entry
import Bursary.Proofs.Checks
import Bursary.Proofs.Value.Related

/-! Values that are no usable number, such as a NaN, an infinity or an integer beyond all numbers.
In place of a number they count as nothing given: with null instead, criteria are read as the same,
and so is a student, unless the value stood under the first of two keys for one number and the
second key has a usable one. The first key that is not null decides which value is read, so that
such a value hides the second key and null does not. -/

namespace Bursary

attribute [local irreducible] Binary64.unitLimit Binary64.unitsPerOne Value.digitBound

namespace Value

/-- A value, or null in the place of one that is no usable number. -/
def Discards (v w : Value) : Prop := w = v ∨ v.amount? = none ∧ w = null

theorem count?_eq_none {v : Value} (h : v.amount? = none) : v.count? = none := by
  rw [count?, h]
  rfl

namespace Discards

variable {v w : Value} (h : v.Discards w)

include h

theorem amount? : v.amount? = w.amount? := by
  obtain rfl | ⟨hnone, rfl⟩ := h
  · rfl
  · exact hnone

theorem count? : v.count? = w.count? := by rw [Value.count?, Value.count?, h.amount?]

end Discards

end Value

namespace Record

/-- Records with null in the place of some values under the keys of a list that are no usable
numbers. -/
structure Discards (keys : List String) (r r' : Record) : Prop where
  number : ∀ key ∈ keys, (r.get key).Discards (r'.get key)
  rest : AgreeBut keys r r'

theorem discards_of_entries {keys : List String} {r r' : Record}
    (h : List.Forall₂ (fun e f => e.1 = f.1 ∧ (e.1 ∈ [] ∨ e.2.Discards f.2)) r r')
    (hrest : AgreeBut keys r r') : Discards keys r r' :=
  ⟨fun _ _ => get_related (.inl rfl) h List.not_mem_nil, hrest⟩

/-- Whether a value is discarded under the first of two keys and the second key has a reading. -/
def Reveals {α : Type} (read : Value → Option α) (first second : String) (r r' : Record) : Prop :=
  (r.get first).isNull = false ∧ (r'.get first).isNull = true ∧ (read (r.get second)).isSome = true

instance {α : Type} (read : Value → Option α) (first second : String) (r r' : Record) :
    Decidable (Reveals read first second r r') := inferInstanceAs (Decidable (_ ∧ _))

theorem first_pair (r : Record) (first second : String) :
    r.first [first, second] = if (r.get first).isNull then r.get second else r.get first := by
  have hnull {v : Value} (hv : v.isNull = true) : v = .null := by
    cases v with
    | null => rfl
    | _ => cases hv
  cases hfirst : (r.get first).isNull with
  | false => simp [Record.first, hfirst]
  | true =>
    cases hsecond : (r.get second).isNull with
    | false => simp [Record.first, hfirst, hsecond]
    | true =>
      rw [if_pos rfl, hnull hsecond]
      simp [Record.first, hfirst, hsecond]

/-- What is read under the first of two keys stays the same exactly if nothing is revealed. -/
theorem read_first_eq_iff {α : Type} {read : Value → Option α}
    (hread : ∀ v : Value, v.amount? = none → read v = none) {first second : String} {r r' : Record}
    (hfirst : (r.get first).Discards (r'.get first))
    (hsecond : (r.get second).Discards (r'.get second)) :
    read (r'.first [first, second]) = read (r.first [first, second]) ↔
      ¬Reveals read first second r r' := by
  have hsame {v w : Value} (h : v.Discards w) : read w = read v := by
    obtain rfl | ⟨hnone, rfl⟩ := h
    · rfl
    · rw [hread v hnone, hread .null rfl]
  rw [first_pair, first_pair, Reveals]
  obtain heq | ⟨hnone, hnull⟩ := hfirst
  · rw [heq]
    cases (r.get first).isNull <;> simp [hsame hsecond]
  · rw [hnull]
    cases (r.get first).isNull <;> simp [Value.isNull, hsame hsecond, hread _ hnone]

end Record

/-! ### Readings -/

namespace Student

/-- The keys under which a profile has numbers. -/
def numberKeys : List String := ["gwa", "unitsEnrolled", "unitsPassed", "familyAnnualIncome",
  "annualFamilyIncome", "householdSize", "familySize"]

/-- The income of a value as it is read, where zero is none. -/
def positiveAmount? (v : Value) : Option Binary64 := v.amount?.filter (!·.isZero)

/-- Whether discarding numbers reveals an income or a household that was hidden. -/
def Reveals (d e : Record) : Prop :=
  Record.Reveals positiveAmount? "familyAnnualIncome" "annualFamilyIncome" d e ∨
    Record.Reveals Value.count? "householdSize" "familySize" d e

instance (d e : Record) : Decidable (Reveals d e) := inferInstanceAs (Decidable (_ ∨ _))

theorem positiveAmount?_eq_none {v : Value} (h : v.amount? = none) : positiveAmount? v = none := by
  rw [positiveAmount?, h]
  rfl

/-- An income and whether there is one say together what was read. -/
theorem orZero_eq_iff {x y : Option Binary64} :
    (orZero x = orZero y ∧ (x.filter (!·.isZero)).isSome = (y.filter (!·.isZero)).isSome) ↔
      x.filter (!·.isZero) = y.filter (!·.isZero) := by
  unfold orZero
  generalize x.filter (!·.isZero) = x
  generalize y.filter (!·.isZero) = y
  cases x with
  | none => cases y <;> simp
  | some x => cases y <;> simp

/-- A student is read as the same exactly if no hidden number is revealed. -/
theorem ofValue_discards {v w : Value} (h : Record.Discards numberKeys (profile v) (profile w)) :
    Alike (fun s t => t = s ↔ ¬Reveals (profile v) (profile w)) (ofValue v) (ofValue w) := by
  unfold ofValue
  generalize profile v = d at h
  generalize profile w = e at h
  have hincome : positiveAmount? (e.first ["familyAnnualIncome", "annualFamilyIncome"]) =
      positiveAmount? (d.first ["familyAnnualIncome", "annualFamilyIncome"]) ↔ _ :=
    Record.read_first_eq_iff (fun _ => positiveAmount?_eq_none) (h.number _ (by decide))
      (h.number _ (by decide))
  have hhousehold : (e.first ["householdSize", "familySize"]).count? =
      (d.first ["householdSize", "familySize"]).count? ↔ _ :=
    Record.read_first_eq_iff (fun _ => Value.count?_eq_none) (h.number _ (by decide))
      (h.number _ (by decide))
  have hamount (key : String) (hkey : key ∈ numberKeys) :
      (d.get key).amount? = (e.get key).amount? :=
    (h.number key hkey).amount?
  have hprovince : provinceOf d = provinceOf e := by
    simp (disch := decide) only [provinceOf, h.rest.get, h.rest.firstTruthy]
  -- the same texts are read of both
  simp (disch := decide) only [hprovince, h.rest.get, h.rest.first, h.rest.firstTruthy]
  iterate 7 refine .bind_same fun _ => ?_
  -- and of the numbers only two are tried under several keys
  refine .ok ?_
  simp (disch := decide) only [Student.mk.injEq, hamount, true_and, and_true]
  rw [← and_assoc, orZero_eq_iff, Reveals, not_or]
  exact and_congr hincome hhousehold

end Student

namespace Criteria

/-- The keys under which criteria have bounds. -/
def numberKeys : List String := ["maxGWA", "minGWA", "minUnitsEnrolled", "minUnitsPassed",
  "maxAnnualFamilyIncome", "minAnnualFamilyIncome", "minHouseholdSize", "maxHouseholdSize"]

theorem ofRecord_discards {d e : Record} (h : Record.Discards numberKeys d e) :
    ofRecord d = ofRecord e := by
  have hamount (key : String) (hkey : key ∈ numberKeys) :
      (d.get key).amount? = (e.get key).amount? :=
    (h.number key hkey).amount?
  have hcount (key : String) (hkey : key ∈ numberKeys) : (d.get key).count? = (e.get key).count? :=
    (h.number key hkey).count?
  unfold ofRecord
  simp (disch := decide) only [hamount, hcount, h.rest.get, h.rest.firstTruthy]

end Criteria

/-! ### What comes of them -/

/-- With null in the place of unusable numbers, criteria are read as the same. A student is read as
the same exactly if no hidden number is revealed, and then verdicts are the same too. -/
theorem readings_of_discards {student student' criteria criteria' : Value}
    (hs : Record.Discards Student.numberKeys (Student.profile student) (Student.profile student'))
    (hraw : criteria.isRaw = true) (hraw' : criteria'.isRaw = true)
    (hc : Record.Discards Criteria.numberKeys criteria.toRecord criteria'.toRecord) :
    Criteria.ofValue criteria = Criteria.ofValue criteria' ∧
      Alike
        (fun s t => t = s ↔ ¬Student.Reveals (Student.profile student) (Student.profile student'))
        (Student.ofValue student) (Student.ofValue student') ∧
      (¬Student.Reveals (Student.profile student) (Student.profile student') →
        Student.ofValue student = Student.ofValue student' ∧
          assess (.raw student) (.raw criteria) = assess (.raw student') (.raw criteria') ∧
          quickAssess (.raw student) (.raw criteria) =
            quickAssess (.raw student') (.raw criteria')) := by
  have hcriteria : Criteria.ofValue criteria = Criteria.ofValue criteria' := by
    rw [Criteria.ofValue_eq_ofRecord hraw, Criteria.ofValue_eq_ofRecord hraw',
      Criteria.ofRecord_discards hc]
  have hstudent := Student.ofValue_discards hs
  refine ⟨hcriteria, hstudent, fun hhidden => ?_⟩
  have hsame := (hstudent.mono fun s t hst => (hst.mpr hhidden).symm).eq
  refine ⟨hsame, ?_, ?_⟩
  · simp only [assess, StudentEntry.read, CriteriaEntry.read, hsame, hcriteria]
  · simp only [quickAssess, StudentEntry.read, CriteriaEntry.read, hsame, hcriteria]

/-- A NaN, an infinity and two integers beyond all numbers are discarded. The other key for the
income has a zero, which counts as none, and the one for the household was read before. -/
theorem readings_of_four_discards :
    let large : Value := .whole (Int.ofNat (Nat.pow 10 400))
    let profile (gwa units income : Value) : Record := [("gwa", gwa), ("unitsEnrolled", units),
      ("familyAnnualIncome", income), ("annualFamilyIncome", .whole 0), ("familySize", .text "4")]
    let bounds (income household : Value) : Record :=
      [("maxAnnualFamilyIncome", income), ("minHouseholdSize", household)]
    let student : Value := .record (profile (.real .nan) large (.real (.infinite false)))
    let student' : Value := .record (profile .null .null .null)
    let criteria : Value := .record (bounds (.whole 1000) large)
    let criteria' : Value := .record (bounds (.whole 1000) .null)
    Record.Discards Student.numberKeys (Student.profile student) (Student.profile student') ∧
      criteria.isRaw = true ∧ criteria'.isRaw = true ∧
      Record.Discards Criteria.numberKeys criteria.toRecord criteria'.toRecord ∧
      ¬Student.Reveals (Student.profile student) (Student.profile student') ∧
      Criteria.ofValue criteria = Criteria.ofValue criteria' ∧
      Student.ofValue student = Student.ofValue student' ∧
      assess (.raw student) (.raw criteria) = assess (.raw student') (.raw criteria') := by
  intro large profile bounds student student' criteria criteria'
  have hv : Student.profile student = profile (.real .nan) large (.real (.infinite false)) := rfl
  have hw : Student.profile student' = profile .null .null .null := rfl
  have hlarge : large.amount? = none := by decide +kernel
  have hnan : (Value.real .nan).amount? = none := rfl
  have hinfinite : (Value.real (.infinite false)).amount? = none := rfl
  have hsame (v : Value) : v.Discards v := .inl rfl
  have hdiscarded {v : Value} (h : v.amount? = none) : v.Discards .null := .inr ⟨h, rfl⟩
  have hs : Record.Discards Student.numberKeys (Student.profile student)
      (Student.profile student') := by
    rw [hv, hw]
    exact Record.discards_of_entries
      (by simp [profile, hsame, hdiscarded hlarge, hdiscarded hnan, hdiscarded hinfinite])
      (Record.agreeBut_of_forall₂ (by simp [Student.numberKeys, profile]))
  have hc : Record.Discards Criteria.numberKeys criteria.toRecord criteria'.toRecord :=
    Record.discards_of_entries
      (by simp [criteria, criteria', bounds, Value.toRecord, hsame, hdiscarded hlarge])
      (Record.agreeBut_of_forall₂
        (by simp [criteria, criteria', bounds, Value.toRecord, Criteria.numberKeys]))
  have hhidden : ¬Student.Reveals (Student.profile student) (Student.profile student') := by
    decide +kernel
  obtain ⟨hcriteria, -, hsame⟩ := readings_of_discards hs rfl rfl hc
  obtain ⟨hstudent, hassess, -⟩ := hsame hhidden
  exact ⟨hs, rfl, rfl, hc, hhidden, hcriteria, hstudent, hassess⟩

/-- A NaN hides the income under the older key, and null in its place does not: the same student
passes a cap on incomes in one case only. -/
theorem verdict_changes_of_hidden_income :
    let profile (income : Value) : Record :=
      [("familyAnnualIncome", income), ("annualFamilyIncome", .whole 50000)]
    let student : Value := .record (profile (.real .nan))
    let student' : Value := .record (profile .null)
    let criteria : Value := .record [("maxAnnualFamilyIncome", .whole 10000)]
    Record.Discards Student.numberKeys (Student.profile student) (Student.profile student') ∧
      Student.ofValue student ≠ Student.ofValue student' ∧
      (assess (.raw student) (.raw criteria)).toOption.map (·.passed) = some true ∧
      (assess (.raw student') (.raw criteria)).toOption.map (·.passed) = some false := by
  intro profile student student' criteria
  have hv : Student.profile student = profile (.real .nan) := rfl
  have hw : Student.profile student' = profile .null := rfl
  have hsame (v : Value) : v.Discards v := .inl rfl
  have hdiscarded : (Value.real .nan).Discards .null := .inr ⟨rfl, rfl⟩
  have hs : Record.Discards Student.numberKeys (Student.profile student)
      (Student.profile student') := by
    rw [hv, hw]
    exact Record.discards_of_entries (by simp [profile, hsame, hdiscarded])
      (Record.agreeBut_of_forall₂ (by simp [Student.numberKeys, profile]))
  have hpassed : (assess (.raw student) (.raw criteria)).toOption.map (·.passed) = some true := by
    decide +kernel
  have hfailed : (assess (.raw student') (.raw criteria)).toOption.map (·.passed) = some false := by
    decide +kernel
  refine ⟨hs, fun hsame => ?_, hpassed, hfailed⟩
  simp only [assess, StudentEntry.read, hsame] at hpassed hfailed
  cases hpassed.symm.trans hfailed

end Bursary
