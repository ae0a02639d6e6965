import Bursary.Proofs.Agreement
import Bursary.Proofs.Relaxation.Change
import Bursary.Proofs.Text.Trim

/-! The normal form of what was read. Whatever the data were, the numbers of a student and the
thresholds of criteria are finite, what was not given stands at its fixed value, names have no
blanks around them, and every element of a scholarship's own list is in exactly one of two places
under its index. Data that are only handed on are left as they were: the further fields of a student
and the values that own rules compare with may hold any numbers. -/

namespace Bursary

attribute [local irreducible] Binary64.unitLimit Binary64.unitsPerOne Value.digitBound

open Text (IsTrimmed isTrimmed_trim isTrimmed_empty isTrimmed_bracketed)

/-! ### Texts that are read -/

namespace Value

theorem isTrimmed_toText {v : Value} {s : String} (h : v.toText = .ok s) : IsTrimmed s := by
  unfold toText at h
  split at h
  · cases h
    exact isTrimmed_empty
  · obtain ⟨t, -, rfl⟩ := map_eq_ok.mp h
    exact isTrimmed_trim t

/-- An entry of a list as it is kept: not empty and without blanks around it. -/
def IsEntry (s : String) : Prop := s ≠ "" ∧ IsTrimmed s

theorem isEntry_textsOf {vs : List Value} {entries : List String} (h : textsOf vs = .ok entries) :
    ∀ s ∈ entries, IsEntry s := by
  induction vs generalizing entries with
  | nil =>
    cases h
    exact fun s hs => nomatch hs
  | cons v vs ih =>
    simp only [textsOf, bind_eq_ok, pure_eq_ok] at h
    obtain ⟨s, hs, rest, hrest, rfl⟩ := h
    split
    case isTrue => exact ih hrest
    case isFalse hne =>
      refine List.forall_mem_cons.mpr ⟨⟨?_, isTrimmed_toText hs⟩, ih hrest⟩
      rintro rfl
      exact hne rfl

theorem isEntry_pairTexts {fields : Record} {entries : List String}
    (h : pairTexts fields = .ok entries) : ∀ s ∈ entries, IsEntry s := by
  induction fields generalizing entries with
  | nil =>
    cases h
    exact fun s hs => nomatch hs
  | cons e fields ih =>
    simp only [pairTexts, bind_eq_ok, pure_eq_ok] at h
    obtain ⟨shown, -, rest, hrest, rfl⟩ := h
    refine List.forall_mem_cons.mpr ⟨⟨?_, ?_⟩, ih hrest⟩
    · simp [← String.toList_inj]
    · have hinner : "(" ++ Text.quoted e.1 ++ ", " ++ shown =
          "(" ++ (Text.quoted e.1 ++ ", " ++ shown) := by simp only [String.append_assoc]
      rw [hinner]
      exact isTrimmed_bracketed _

theorem isEntry_toTexts {v : Value} {entries : List String} (h : v.toTexts = .ok entries) :
    ∀ s ∈ entries, IsEntry s := by
  have hnone {entries : List String} (h : (.ok [] : Except Failure _) = .ok entries) :
      ∀ s ∈ entries, IsEntry s := by
    cases h
    exact fun s hs => nomatch hs
  cases v with
  | text t =>
    cases h
    intro s hs
    obtain ⟨hs, hne⟩ := List.mem_filter.mp hs
    obtain ⟨part, -, rfl⟩ := List.mem_map.mp hs
    refine ⟨fun h => ?_, isTrimmed_trim part⟩
    rw [h] at hne
    cases hne
  | list vs => exact isEntry_textsOf h
  | form kind fields => exact isEntry_pairTexts h
  | _ => exact hnone h

end Value

/-! ### Students -/

namespace Student

/-- A student in normal form. Each number is finite and each name without blanks around it; what was
not given stands at its fixed value. -/
structure IsNormal (s : Student) : Prop where
  gwa : s.gwa.isFinite = true
  unitsEnrolled : s.unitsEnrolled.toBinary64.isFinite = true
  unitsPassed : ∀ x ∈ s.unitsPassed, x.isFinite = true
  income : s.income.isFinite = true
  missingGwa : s.gwaProvided = false → s.gwa = worstGwa
  incomeProvided : s.incomeProvided = !s.annualFamilyIncome.isZero
  yearLevel : s.yearLevel ≠ "" ∧ IsTrimmed s.yearLevel
  college : IsTrimmed s.college
  course : IsTrimmed s.course
  major : ∀ major ∈ s.major, major ≠ ""
  province : IsTrimmed s.province
  citizenship : s.citizenship ≠ "" ∧ IsTrimmed s.citizenship

theorem isFinite_orZero {amount : Option Binary64} (h : ∀ x ∈ amount, x.isFinite = true) :
    (orZero amount).toBinary64.isFinite = true := by
  show ((amount.filter (!·.isZero)).getD 0).isFinite = true
  cases hx : amount.filter (!·.isZero) with
  | none => exact Binary64.isFinite_zero
  | some x => exact h x (Option.filter_eq_some_iff.mp hx).1

/-- An amount counts as given exactly if it is not kept as zero. -/
theorem isZero_orZero (amount : Option Binary64) :
    (amount.filter (!·.isZero)).isSome = !(orZero amount).isZero := by
  show _ = !((amount.filter (!·.isZero)).getD 0).isZero
  cases hx : amount.filter (!·.isZero) with
  | none => decide +kernel
  | some x => exact (Option.filter_eq_some_iff.mp hx).2.symm

theorem ne_empty_of_orElse {s fallback : String} (h : fallback ≠ "") :
    (if s.isEmpty then fallback else s) ≠ "" := by
  split
  case isTrue => exact h
  case isFalse hne =>
    rintro rfl
    exact hne rfl

theorem isTrimmed_of_nameOf? {table : Canonical.Table} (htable : table.IsNormal) {v : Value}
    {name : Option String} (h : Canonical.nameOf? table v = .ok name) :
    ∀ s ∈ name, IsTrimmed s := by
  obtain ⟨t, -, rfl⟩ := map_eq_ok.mp h
  intro s hs
  obtain ⟨t, -, rfl⟩ := Option.map_eq_some_iff.mp hs
  exact Canonical.isTrimmed_name htable t

theorem isTrimmed_of_nameOr {table : Canonical.Table} (htable : table.IsNormal) {fallback : String}
    (hfallback : IsTrimmed fallback) {v : Value} {s : String}
    (h : nameOr table fallback v = .ok s) : IsTrimmed s := by
  simp only [nameOr, bind_eq_ok, pure_eq_ok] at h
  obtain ⟨name, hname, rfl⟩ := h
  cases name with
  | none => exact hfallback
  | some s =>
    dsimp only
    split
    · exact hfallback
    · exact isTrimmed_of_nameOf? htable hname s rfl

theorem ne_empty_of_nameOr {table : Canonical.Table} {fallback : String} (hfallback : fallback ≠ "")
    {v : Value} {s : String} (h : nameOr table fallback v = .ok s) : s ≠ "" := by
  simp only [nameOr, bind_eq_ok, pure_eq_ok] at h
  obtain ⟨name, -, rfl⟩ := h
  cases name with
  | none => exact hfallback
  | some s => exact ne_empty_of_orElse hfallback

theorem isTrimmed_of_textOr {fallback : String} (hfallback : IsTrimmed fallback) {v : Value}
    {s : String} (h : textOr fallback v = .ok s) : IsTrimmed s := by
  simp only [textOr, bind_eq_ok, pure_eq_ok] at h
  obtain ⟨t, ht, rfl⟩ := h
  split
  · exact hfallback
  · exact Value.isTrimmed_toText ht

theorem ne_empty_of_textOr {fallback : String} (hfallback : fallback ≠ "") {v : Value} {s : String}
    (h : textOr fallback v = .ok s) : s ≠ "" := by
  simp only [textOr, bind_eq_ok, pure_eq_ok] at h
  obtain ⟨t, -, rfl⟩ := h
  exact ne_empty_of_orElse hfallback

theorem isNormal_of_ofValue {raw : Value} {s : Student} (h : ofValue raw = .ok s) : s.IsNormal := by
  have hread := isRead_of_ofValue h
  simp only [ofValue, bind_eq_ok, pure_eq_ok] at h
  obtain ⟨yearLevel, hyear, college, hcollege, course, hcourse, major, -, stBracket, -, province,
    hprovince, citizenship, hcitizenship, rfl⟩ := h
  exact {
    gwa := hread.gwa
    unitsEnrolled := isFinite_orZero fun x hx => Value.isFinite_of_amount? hx
    unitsPassed := fun x hx => Value.isFinite_of_amount? hx
    income := hread.income
    missingGwa := hread.missingGwa
    incomeProvided := isZero_orZero _
    yearLevel := ⟨ne_empty_of_nameOr (by decide) hyear,
      isTrimmed_of_nameOr Canonical.isNormal_yearLevels (by decide) hyear⟩
    college := isTrimmed_of_nameOr Canonical.isNormal_colleges isTrimmed_empty hcollege
    course := Value.isTrimmed_toText hcourse
    major := fun s hs => by
      rintro rfl
      split at hs
      case isTrue => cases hs
      case isFalse hne =>
        cases hs
        exact hne rfl
    province := Value.isTrimmed_toText hprovince
    citizenship := ⟨ne_empty_of_textOr (by decide) hcitizenship,
      isTrimmed_of_textOr (by decide) hcitizenship⟩ }

end Student

/-! ### Criteria -/

namespace Criteria

/-- Criteria in normal form: finite thresholds, and lists of entries that are not empty and have no
blanks around them. -/
structure IsNormal (c : Criteria) : Prop where
  threshold : ∀ t : Threshold, ∀ x ∈ t.get c, x.isFinite = true
  listing : ∀ l : Listing, ∀ s ∈ l.get c, Value.IsEntry s

theorem isNormal_of_ofValue {raw : Value} (hraw : raw.isRaw = true) {c : Criteria}
    (h : ofValue raw = .ok c) : c.IsNormal := by
  have hrecord := ofRecord_of_ofValue hraw h
  simp only [ofRecord, bind_eq_ok, pure_eq_ok] at hrecord
  obtain ⟨-, -, yearLevels, hyears, colleges, hcolleges, courses, hcourses, majors, hmajors,
    stBrackets, hbrackets, provinces, hprovinces, citizenships, hcitizenships, rfl⟩ := hrecord
  constructor
  · intro t x hx
    cases t with
    | _ => exact Value.isFinite_of_amount? hx
  · intro l
    cases l with
    | yearLevels => exact Value.isEntry_toTexts hyears
    | colleges => exact Value.isEntry_toTexts hcolleges
    | courses => exact Value.isEntry_toTexts hcourses
    | majors => exact Value.isEntry_toTexts hmajors
    | stBrackets => exact Value.isEntry_toTexts hbrackets
    | provinces => exact Value.isEntry_toTexts hprovinces
    | citizenships => exact Value.isEntry_toTexts hcitizenships

/-! ### Elements of the own list -/

/-- The rules at a place. -/
def rulesAt (c : Criteria) (i : Nat) : List Rule := c.rules.filter (·.position = some (i : Int))

/-- Whether a rule that could not be read is at a place. -/
def isPlacedAt (i : Nat) (raw : Record) : Bool :=
  match raw.get "position" with
  | .whole place => place = i
  | _ => false

/-- The rules at a place that could not be read. -/
def unreadableAt (c : Criteria) (i : Nat) : List Record := c.unreadableRules.filter (isPlacedAt i)

/-- Elements of a list each of which is in exactly one of the two lists of criteria, once and under
its index: as the rule that it spells, or as it was read if it spells none. Nothing else is in
them. -/
structure Sorts (c : Criteria) (elements : List Value) : Prop where
  placed : ∀ i v, elements[i]? = some v → ∃ d, RuleDraft.ofValue i v = .ok d ∧
    ((∃ r, d.toRule? = some r ∧ c.rulesAt i = [r] ∧ c.unreadableAt i = []) ∨
      (d.toRule? = none ∧ c.rulesAt i = [] ∧ c.unreadableAt i = [d.toRecord]))
  rule : ∀ r ∈ c.rules, ∃ i < elements.length, r ∈ c.rulesAt i
  unreadable : ∀ raw ∈ c.unreadableRules, ∃ i < elements.length, raw ∈ c.unreadableAt i

end Criteria

namespace RuleDraft

variable {start : Nat} {vs : List Value} {ds : List RuleDraft}

theorem ofValues_getElem? (h : ofValues start vs = .ok ds) {i : Nat} {v : Value}
    (hv : vs[i]? = some v) : ∃ d, ds[i]? = some d ∧ ofValue (start + i) v = .ok d := by
  induction vs generalizing start ds i with
  | nil => cases hv
  | cons w vs ih =>
    simp only [ofValues, bind_eq_ok, pure_eq_ok] at h
    obtain ⟨d, hd, rest, hrest, rfl⟩ := h
    cases i with
    | zero =>
      cases hv
      exact ⟨d, rfl, hd⟩
    | succ i =>
      obtain ⟨e, he, hread⟩ := ih hrest hv
      exact ⟨e, he, by rwa [Nat.add_right_comm] at hread⟩

theorem position_of_getElem? (h : ofValues start vs = .ok ds) {i : Nat} {d : RuleDraft}
    (hd : ds[i]? = some d) : d.position = start + i := by
  have hlength : i < vs.length := by
    rw [← List.length_zipIdx (i := start), (forall₂_ofValues h).length_eq]
    exact (List.getElem?_eq_some_iff.mp hd).1
  obtain ⟨e, he, hread⟩ := ofValues_getElem? h (List.getElem?_eq_getElem hlength)
  obtain rfl : d = e := Option.some.inj (hd.symm.trans he)
  exact (of_ofValue hread).1

/-- Only one draft is at a position. -/
theorem filter_position (h : ofValues start vs = .ok ds) (i : Nat) :
    ds.filter (·.position = start + i) = ds[i]?.toList := by
  induction vs generalizing start ds i with
  | nil =>
    cases h
    rfl
  | cons w vs ih =>
    have hbehind := (pairwise_position h).2
    simp only [ofValues, bind_eq_ok, pure_eq_ok] at h
    obtain ⟨d, hd, rest, hrest, rfl⟩ := h
    obtain ⟨rfl, -⟩ := of_ofValue hd
    cases i with
    | zero =>
      rw [List.filter_cons_of_pos (by simp), List.filter_eq_nil_iff.mpr]
      · rfl
      · intro e he
        have := (List.pairwise_cons.mp hbehind).1 e he
        simp only [decide_eq_true_eq]
        omega
    | succ i =>
      rw [List.filter_cons_of_neg (by simp), List.getElem?_cons_succ, ← ih hrest i]
      congr
      funext e
      rw [Nat.add_right_comm]
      rfl

theorem isPlacedAt_toRecord (d : RuleDraft) (i : Nat) :
    Criteria.isPlacedAt i d.toRecord = decide (d.position = i) := by
  show decide ((d.position : Int) = i) = _
  simp

/-- The rules of drafts at a position are those of the drafts there. -/
theorem filter_toRule? (ds : List RuleDraft) (i : Nat) :
    (ds.filterMap toRule?).filter (·.position = some (i : Int)) =
      (ds.filter (·.position = i)).filterMap toRule? := by
  induction ds with
  | nil => rfl
  | cons d ds ih =>
    cases hd : d.toRule? with
    | none => by_cases hp : d.position = i <;> simp [hd, hp, ih]
    | some r =>
      have hplace := (of_toRule? hd).2.2
      by_cases hp : d.position = i <;> simp [hd, hp, hplace, ih]

/-- So are those that are kept as they were read. -/
theorem filter_toRecord (ds : List RuleDraft) (i : Nat) :
    ((ds.filter (·.toRule?.isNone)).map toRecord).filter (Criteria.isPlacedAt i) =
      ((ds.filter (·.position = i)).filter (·.toRule?.isNone)).map toRecord := by
  rw [List.filter_map, List.filter_filter, List.filter_filter]
  congr 2
  funext d
  show (Criteria.isPlacedAt i d.toRecord && _) = _
  rw [isPlacedAt_toRecord, Bool.and_comm]

end RuleDraft

namespace Criteria

theorem sorts_elements {raw : Value} (hraw : raw.isRaw = true) {c : Criteria}
    (h : ofValue raw = .ok c) : c.Sorts (elements raw) := by
  obtain ⟨ds, hds, hrules, hunreadable⟩ := rules_of_ofValue hraw h
  have hrulesAt (i : Nat) : c.rulesAt i = ds[i]?.toList.filterMap RuleDraft.toRule? := by
    rw [rulesAt, hrules, RuleDraft.filter_toRule?, ← RuleDraft.filter_position hds i, Nat.zero_add]
  have hunreadableAt (i : Nat) : c.unreadableAt i =
      (ds[i]?.toList.filter (·.toRule?.isNone)).map RuleDraft.toRecord := by
    rw [unreadableAt, hunreadable, RuleDraft.filter_toRecord, ← RuleDraft.filter_position hds i,
      Nat.zero_add]
  have hlength : ds.length = (elements raw).length := by
    rw [← (RuleDraft.forall₂_ofValues hds).length_eq, List.length_zipIdx]
  have hbound (d : RuleDraft) (hd : d ∈ ds) : d.position < (elements raw).length := by
    obtain ⟨i, hi, rfl⟩ := List.mem_iff_getElem.mp hd
    rw [RuleDraft.position_of_getElem? hds (List.getElem?_eq_getElem hi), Nat.zero_add, ← hlength]
    exact hi
  refine ⟨fun i v hv => ?_, fun r hr => ?_, fun x hx => ?_⟩
  · obtain ⟨d, hd, hread⟩ := RuleDraft.ofValues_getElem? hds hv
    rw [Nat.zero_add] at hread
    refine ⟨d, hread, ?_⟩
    rw [hrulesAt, hunreadableAt, hd]
    cases hr : d.toRule? with
    | none => exact .inr (by simp [hr])
    | some r => exact .inl ⟨r, by simp [hr]⟩
  · have hmem := hr
    rw [hrules] at hmem
    obtain ⟨d, hd, hrule⟩ := List.mem_filterMap.mp hmem
    exact ⟨d.position, hbound d hd,
      List.mem_filter.mpr ⟨hr, decide_eq_true (RuleDraft.of_toRule? hrule).2.2⟩⟩
  · have hmem := hx
    rw [hunreadable] at hmem
    obtain ⟨d, hd, rfl⟩ := List.mem_map.mp hmem
    exact ⟨d.position, hbound d (List.mem_filter.mp hd).1,
      List.mem_filter.mpr ⟨hx, by rw [RuleDraft.isPlacedAt_toRecord, decide_eq_true rfl]⟩⟩

end Criteria

/-! ### Both readings -/

/-- Whatever a student and criteria were read from, they are in normal form, and each element of the
list of own rules is kept exactly once. -/
theorem isNormal_readings {student criteria : Value} {s : Student} {c : Criteria}
    (hs : Student.ofValue student = .ok s) (hraw : criteria.isRaw = true)
    (hc : Criteria.ofValue criteria = .ok c) :
    s.IsNormal ∧ c.IsNormal ∧ c.Sorts (Criteria.elements criteria) :=
  ⟨Student.isNormal_of_ofValue hs, Criteria.isNormal_of_ofValue hraw hc,
    Criteria.sorts_elements hraw hc⟩

/-- A nested profile with blanks, a spelled NaN and an integer beyond all numbers; bounds that are
none; entries that are blank or null; and own rules of which the first and the last can be read. -/
theorem isNormal_untidy_readings :
    let student : Value := .record [("gwa", .whole 1), ("studentProfile", .record [
      ("gwa", .text " NaN "), ("familyAnnualIncome", .whole (Int.ofNat (Nat.pow 10 400))),
      ("classification", .text "\t4th year "), ("course", .list [.text " BS "]),
      ("major", .text "  "), ("hometown", .text " Laguna\n"), ("citizenship", .text " ")])]
    let criteria : Value := .record [("maxGWA", .text "inf"), ("minHouseholdSize", .text "2.9"),
      ("eligibleColleges", .text " CAS,, CEM"), ("eligibleMajors", .list [.null, .text "\n"]),
      ("customConditions", .list [
        .record [("type", .text " Range"), ("operator", .text "LT")], .null,
        .record [("type", .text "list"), ("operator", .text "in"), ("importance", .text "vital")],
        .record [("type", .text "boolean"), ("operator", .text "is"), ("value", .real .nan)]])]
    criteria.isRaw = true ∧ ∃ s c, Student.ofValue student = .ok s ∧
      Criteria.ofValue criteria = .ok c ∧
      (s.gwaProvided, s.incomeProvided, s.yearLevel, s.major, s.province) =
        (false, false, "Senior", none, "Laguna") ∧
      (c.minHouseholdSize, c.colleges, c.majors) = (some 2, ["CAS", "CEM"], []) ∧
      c.rules.map (·.position) = [some 0, some 3] ∧
      s.IsNormal ∧ c.IsNormal ∧ c.Sorts (Criteria.elements criteria) := by
  intro student criteria
  have hstudent : (Student.ofValue student).toOption.map (fun s =>
      (s.gwaProvided, s.incomeProvided, s.yearLevel, s.major, s.province)) =
      some (false, false, "Senior", none, "Laguna") := by
    decide +kernel
  have hcriteria : (Criteria.ofValue criteria).toOption.map (fun c =>
      ((c.minHouseholdSize, c.colleges, c.majors), c.rules.map (·.position))) =
      some ((some 2, ["CAS", "CEM"], []), [some 0, some 3]) := by
    decide +kernel
  obtain ⟨s, hs, hseen⟩ := Option.map_eq_some_iff.mp hstudent
  obtain ⟨c, hc, hread⟩ := Option.map_eq_some_iff.mp hcriteria
  rw [toOption_eq_some] at hs hc
  obtain ⟨hbounds, hplaces⟩ := Prod.mk.inj hread
  exact ⟨rfl, s, c, hs, hc, hseen, hbounds, hplaces, isNormal_readings hs rfl hc⟩

/-- What is only handed on is kept as it is: a NaN among the further fields of a student, and one
that a rule compares with. -/
theorem readings_keep_nan :
    let student : Value := .record [("customFields", .record [("bonus", .real .nan)])]
    let criteria : Value := .record [("customConditions", .list [.record [("type", .text "range"),
      ("operator", .text "gte"), ("studentField", .text "bonus"), ("value", .real .nan)]])]
    (∃ s, Student.ofValue student = .ok s ∧ s.customFields.get "bonus" = .real .nan) ∧
      ∃ c, Criteria.ofValue criteria = .ok c ∧ ∃ r ∈ c.rules, r.test.value = .real .nan := by
  exact ⟨⟨_, rfl, rfl⟩, _, rfl, _, List.mem_cons_self, rfl⟩

end Bursary
