import Bursary.Proofs.Listing

/-! Names that are given by a code, in an old spelling or in full. A canonical name stands for
itself, and so does a name that no table has. So it makes no difference that a student's name is
made canonical as soon as it is read, and the entries of a list only when they are compared with
it: the check passes exactly if an entry has the canonical name that the student's own text has,
letter case aside. -/

namespace Bursary

attribute [local irreducible] Binary64.unitLimit Binary64.unitsPerOne Value.digitBound

/-! ### Canonical names -/

namespace Canonical

/-- A table each of whose names stands for itself. -/
def Table.IsStable (table : Table) : Prop := ∀ e ∈ table, name table e.2 = e.2

instance (table : Table) : Decidable table.IsStable := inferInstanceAs (Decidable (∀ _ ∈ _, _))

variable {table : Table}

@[simp] theorem name_trim (table : Table) (s : String) :
    name table (Text.trim s) = name table s := by
  simp [name]

/-- A name is that of an entry of the table, or else the text itself. -/
theorem exists_name_eq_or (table : Table) (s : String) :
    (∃ e ∈ table, name table s = e.2) ∨ name table s = Text.trim s := by
  cases hfound : table.lookup (Text.upper (Text.trim s)) with
  | none => exact .inr (by rw [name, hfound]; rfl)
  | some canonical =>
    obtain ⟨before, after, htable, -⟩ := List.lookup_eq_some_iff.mp hfound
    refine .inl ⟨(Text.upper (Text.trim s), canonical), by rw [htable]; simp, ?_⟩
    rw [name, hfound]
    rfl

theorem name_name (h : table.IsStable) (s : String) : name table (name table s) = name table s := by
  rcases exists_name_eq_or table s with ⟨e, he, hname⟩ | hname
  · rw [hname, h e he]
  · rw [hname, name_trim, hname]

theorem name_ne_empty (h : table.IsNormal) {s : String} (hs : Text.trim s ≠ "") :
    name table s ≠ "" := by
  rcases exists_name_eq_or table s with ⟨e, he, hname⟩ | hname
  · rw [hname]
    exact (h e he).1
  · rwa [hname]

theorem nameOf?_text (table : Table) {s : String} (hs : s ≠ "") :
    nameOf? table (.text s) = .ok (some (name table s)) := by
  have htruthy : (Value.text s).isTruthy = true := by simpa [Value.isTruthy] using hs
  rw [nameOf?, Value.textIfGiven, if_pos htruthy]
  rfl

/-- The canonical name of a value, if it has one, is the canonical name of itself. -/
theorem nameOf?_fixed (hnormal : table.IsNormal) (hstable : table.IsStable) {v : Value} {s : String}
    (hv : v.asText = .ok s) (hs : Text.trim s ≠ "") :
    ∃ n, nameOf? table v = .ok n ∧ nameOf? table (.ofText? n) = .ok n := by
  rw [nameOf?, Value.textIfGiven]
  split
  case isTrue =>
    refine ⟨some (name table s), by rw [hv]; rfl, ?_⟩
    show nameOf? table (.text (name table s)) = _
    rw [nameOf?_text table (name_ne_empty hnormal hs), name_name hstable]
  case isFalse => exact ⟨none, rfl, rfl⟩

end Canonical

/-! ### Students -/

/-- The three names of a student that are canonical. -/
inductive Naming where
  | bracket | yearLevel | college

namespace Naming

def table : Naming → Canonical.Table
  | bracket => Canonical.brackets
  | yearLevel => Canonical.yearLevels
  | college => Canonical.colleges

/-- The value that a profile has for a name. -/
def stated : Naming → Record → Value
  | bracket, data => data.get "stBracket"
  | yearLevel, data => data.firstTruthy ["classification", "yearLevel"]
  | college, data => data.get "college"

/-- The name of a student, empty if there is none. -/
def shown : Naming → Student → String
  | bracket, s => s.stBracket.getD ""
  | yearLevel, s => s.yearLevel
  | college, s => s.college

/-- The list of criteria that accepts a name. -/
def listing : Naming → Listing
  | bracket => .stBrackets
  | yearLevel => .yearLevels
  | college => .colleges

def condition (a : Naming) : Condition := a.listing.condition

theorem isNormal_table (a : Naming) : a.table.IsNormal := by
  cases a with
  | bracket => decide +kernel
  | yearLevel => exact Canonical.isNormal_yearLevels
  | college => exact Canonical.isNormal_colleges

theorem isStable_table (a : Naming) : a.table.IsStable := by cases a <;> decide +kernel

theorem nameOr_text (a : Naming) (fallback : String) {s : String} (hs : Text.trim s ≠ "") :
    Student.nameOr a.table fallback (.text s) = .ok (Canonical.name a.table s) := by
  have hne : s ≠ "" := by
    rintro rfl
    exact hs rfl
  have hname := Canonical.name_ne_empty a.isNormal_table hs
  rw [Student.nameOr, Canonical.nameOf?_text a.table hne, ok_bind]
  show Except.ok (if (Canonical.name a.table s).isEmpty = true then fallback else _) = _
  rw [if_neg (by simpa using hname)]

/-- A name that is stated is read as its canonical name. -/
theorem shown_of_ofValue (a : Naming) {raw : Value} {who : Student} {s : String}
    (h : Student.ofValue raw = .ok who) (hstated : a.stated (Student.profile raw) = .text s)
    (hs : Text.trim s ≠ "") : a.shown who = Canonical.name a.table s := by
  have hne : s ≠ "" := by
    rintro rfl
    exact hs rfl
  simp only [Student.ofValue, bind_eq_ok, pure_eq_ok] at h
  obtain ⟨yearLevel, hyear, college, hcollege, -, -, -, -, stBracket, hbracket, -, -, -, -, rfl⟩ :=
    h
  cases a with
  | bracket =>
    rw [stated] at hstated
    rw [hstated, Canonical.nameOf?_text _ hne] at hbracket
    show stBracket.getD "" = Canonical.name Canonical.brackets s
    rw [← Except.ok.inj hbracket, Option.getD_some]
  | yearLevel =>
    rw [stated] at hstated
    rw [hstated] at hyear
    exact Except.ok.inj (hyear.symm.trans (nameOr_text .yearLevel _ hs))
  | college =>
    rw [stated] at hstated
    rw [hstated] at hcollege
    exact Except.ok.inj (hcollege.symm.trans (nameOr_text .college _ hs))

/-! ### Checks -/

/-- An empty entry has no name, which comes to the same as the name of the empty text. -/
theorem getD_nameOfText? (a : Naming) (entry : String) :
    (Canonical.nameOfText? a.table entry).getD "" = Canonical.name a.table entry := by
  rw [Canonical.nameOfText?]
  split
  case isTrue hempty =>
    obtain rfl := String.isEmpty_iff.mp hempty
    cases a <;> decide +kernel
  case isFalse => rfl

theorem namedIn_iff (a : Naming) {n : String} {entries : List String} :
    namedIn a.table n entries = true ↔
      ∃ e ∈ entries, Text.lower (Canonical.name a.table e) = Text.lower n := by
  simp only [namedIn, List.any_eq_true, getD_nameOfText?, beq_iff_eq]

/-- A student with a name has the check passed exactly if an entry stands for that name. -/
theorem holds_iff (a : Naming) {who : Student} (c : Criteria) (h : a.shown who ≠ "") :
    a.condition.holds who c = true ↔ ∃ e ∈ a.listing.get c,
      Text.lower (Canonical.name a.table e) = Text.lower (a.shown who) := by
  rw [← namedIn_iff]
  cases a with
  | bracket =>
    have hgiven : (who.stBracket.getD "").isEmpty = false := by simpa [shown] using h
    show (!(who.stBracket.getD "").isEmpty && _) = true ↔ _
    rw [hgiven]
    rfl
  | yearLevel => exact Iff.rfl
  | college => exact Iff.rfl

/-- The check of a name can always be made. -/
theorem check_eq (a : Naming) (who : Student) (c : Criteria) :
    ∃ k, a.condition.check who c = .ok k ∧ k.passed = a.condition.holds who c := by
  cases a <;> exact ⟨_, rfl, rfl⟩

theorem applies_of_mem (a : Naming) {c : Criteria} {e : String} (h : e ∈ a.listing.get c) :
    a.condition.applies c = true := by
  have hne : (a.listing.get c).isEmpty = false := by
    rw [List.isEmpty_eq_false_iff]
    exact List.ne_nil_of_mem h
  cases a <;> exact congrArg (!·) hne

theorem condition_mem_all (a : Naming) : a.condition ∈ Condition.all := by cases a <;> decide

end Naming

/-- The check of a standard condition that applies is in every verdict. -/
theorem Condition.mem_checks {cond : Condition} (hcond : cond ∈ all) {s : Student} {c : Criteria}
    (happlies : cond.applies c = true) {k : Check} (hk : cond.check s c = .ok k) {v : Verdict}
    (hv : evaluate s c = .ok v) : k ∈ v.checks := by
  obtain ⟨ks, hks, rfl⟩ := map_eq_ok.mp hv
  simp only [allChecks, bind_eq_ok, pure_eq_ok] at hks
  obtain ⟨standard, hstandard, own, -, rfl⟩ := hks
  obtain ⟨k', hk', hcheck⟩ := exists_mem_of_forall₂ (forall₂_checks hstandard)
    (List.mem_filter.mpr ⟨hcond, happlies⟩)
  obtain rfl : k = k' := Except.ok.inj (hk.symm.trans hcheck)
  exact List.mem_append_left own hk'

/-! ### Entries -/

namespace Value

/-- Whether a text stands in a list, or in a text between commas. -/
def Lists (v : Value) (s : String) : Prop :=
  match v with
  | list vs => text s ∈ vs
  | text t => s ∈ Text.split ',' t
  | _ => False

theorem mem_textsOf {vs : List Value} {s : String} (h : text s ∈ vs) (hs : Text.trim s ≠ "")
    {entries : List String} (hread : textsOf vs = .ok entries) : Text.trim s ∈ entries := by
  induction vs generalizing entries with
  | nil => cases h
  | cons v vs ih =>
    simp only [textsOf, bind_eq_ok, pure_eq_ok] at hread
    obtain ⟨t, ht, rest, hrest, rfl⟩ := hread
    rcases List.mem_cons.mp h with rfl | h
    · cases ht
      rw [if_neg (by simpa using hs)]
      exact List.mem_cons_self
    · split
      · exact ih h hrest
      · exact List.mem_cons_of_mem t (ih h hrest)

/-- What stands in a list and is not blank is an entry of it. -/
theorem Lists.mem_toTexts {v : Value} {s : String} (h : v.Lists s) (hs : Text.trim s ≠ "")
    {entries : List String} (hread : v.toTexts = .ok entries) : Text.trim s ∈ entries := by
  cases v with
  | list vs => exact mem_textsOf h hs hread
  | text t =>
    cases hread
    exact List.mem_filter.mpr ⟨List.mem_map_of_mem h, by simpa using hs⟩
  | _ => cases h

end Value

/-- Whether a text stands in a list of what criteria are read from, or is an entry of it already. -/
def CriteriaEntry.Lists (l : Listing) (s : String) : CriteriaEntry → Prop
  | ready c => s ∈ l.get c
  | raw v => (l.stated v.toRecord).Lists s

/-- What stands in a list has the canonical name of an entry of it. -/
theorem CriteriaEntry.Lists.exists_mem {l : Listing} {s : String} {criteria : CriteriaEntry}
    (h : criteria.Lists l s) (hs : Text.trim s ≠ "") {c : Criteria} (hc : criteria.read = .ok c)
    (table : Canonical.Table) :
    ∃ e ∈ l.get c, Canonical.name table e = Canonical.name table s := by
  cases criteria with
  | ready c' =>
    cases hc
    exact ⟨s, h, rfl⟩
  | raw v =>
    have hraw : v.isRaw = true := by
      cases v with
      | form kind fields => cases l <;> cases h
      | _ => rfl
    have hread := Listing.toTexts_stated_of_ofRecord (Criteria.ofRecord_of_ofValue hraw hc) l
    exact ⟨Text.trim s, Value.Lists.mem_toTexts h hs hread, Canonical.name_trim table s⟩

/-- A canonical name is its own. Hence the check of a name, made of a student as it was read, passes
exactly if the canonical name of an entry is that of the text the student was read from, letter case
aside, and so it passes as soon as a text that is listed has that name. -/
theorem checks_of_sameName :
    (∀ (a : Naming) (v : Value) (s : String), v.asText = .ok s → Text.trim s ≠ "" →
      ∃ n, Canonical.nameOf? a.table v = .ok n ∧
        Canonical.nameOf? a.table (.ofText? n) = .ok n) ∧
    ∀ (a : Naming) (student : Value) (criteria : CriteriaEntry) (s : String),
      a.stated (Student.profile student) = .text s → Text.trim s ≠ "" →
      ∀ who c, Student.ofValue student = .ok who → criteria.read = .ok c →
        ∃ k, a.condition.check who c = .ok k ∧
          (k.passed = true ↔ ∃ e ∈ a.listing.get c,
            Text.lower (Canonical.name a.table e) = Text.lower (Canonical.name a.table s)) ∧
          ∀ e, criteria.Lists a.listing e → Text.trim e ≠ "" →
            Text.lower (Canonical.name a.table e) = Text.lower (Canonical.name a.table s) →
            k.passed = true ∧ ∀ v, evaluate who c = .ok v → k ∈ v.checks := by
  refine ⟨fun a v s hv hs => Canonical.nameOf?_fixed a.isNormal_table a.isStable_table hv hs, ?_⟩
  intro a student criteria s hstated hs who c hwho hc
  have hshown := a.shown_of_ofValue hwho hstated hs
  have hne : a.shown who ≠ "" := hshown ▸ Canonical.name_ne_empty a.isNormal_table hs
  obtain ⟨k, hk, hpassed⟩ := a.check_eq who c
  have hiff := a.holds_iff c hne
  rw [← hpassed, hshown] at hiff
  refine ⟨k, hk, hiff, fun e he hblank hname => ?_⟩
  obtain ⟨entry, hentry, hsame⟩ := he.exists_mem hblank hc a.table
  refine ⟨hiff.mpr ⟨entry, hentry, (congrArg Text.lower hsame).trans hname⟩, fun v hv => ?_⟩
  exact Condition.mem_checks a.condition_mem_all (a.applies_of_mem hentry) hk hv

/-- An old spelling of a year level, which one text lists by its name between two others, and a
college that is none of the table, in another letter case and with other blanks. -/
theorem checks_of_two_sameNames :
    let student : Value := .record [("studentProfile", .record [
      ("yearLevel", .text " 5TH Year"), ("college", .text "école Normale\t")])]
    let criteria : CriteriaEntry := .raw (.record [
      ("requiredYearLevels", .text "1st year, SENIOR ,Junior"),
      ("eligibleColleges", .list [.null, .text " École NORMALE"])])
    (Value.text " 5TH Year").asText = .ok " 5TH Year" ∧ Text.trim " 5TH Year" ≠ "" ∧
      (∃ n, Canonical.nameOf? Canonical.yearLevels (.text " 5TH Year") = .ok n ∧
        Canonical.nameOf? Canonical.yearLevels (.ofText? n) = .ok n) ∧
      Naming.yearLevel.stated (Student.profile student) = .text " 5TH Year" ∧
      criteria.Lists .yearLevels " SENIOR " ∧ Text.trim " SENIOR " ≠ "" ∧
      Text.lower (Canonical.name Canonical.yearLevels " SENIOR ") =
        Text.lower (Canonical.name Canonical.yearLevels " 5TH Year") ∧
      Naming.college.stated (Student.profile student) = .text "école Normale\t" ∧
      criteria.Lists .colleges " École NORMALE" ∧ Text.trim " École NORMALE" ≠ "" ∧
      Text.lower (Canonical.name Canonical.colleges " École NORMALE") =
        Text.lower (Canonical.name Canonical.colleges "école Normale\t") ∧
      ∃ who c, Student.ofValue student = .ok who ∧ criteria.read = .ok c ∧
        (∃ k, Condition.yearLevel.check who c = .ok k ∧ k.passed = true) ∧
        ∃ k, Condition.college.check who c = .ok k ∧ k.passed = true := by
  intro student criteria
  obtain ⟨hfixed, hchecks⟩ := checks_of_sameName
  have hyear : Text.trim " 5TH Year" ≠ "" := by decide +kernel
  have hsenior : Text.trim " SENIOR " ≠ "" := by decide +kernel
  have hcollege : Text.trim "école Normale\t" ≠ "" := by decide +kernel
  have hnormale : Text.trim " École NORMALE" ≠ "" := by decide +kernel
  have hyears : Text.lower (Canonical.name Canonical.yearLevels " SENIOR ") =
      Text.lower (Canonical.name Canonical.yearLevels " 5TH Year") := by decide +kernel
  have hcolleges : Text.lower (Canonical.name Canonical.colleges " École NORMALE") =
      Text.lower (Canonical.name Canonical.colleges "école Normale\t") := by decide +kernel
  have hlisted : criteria.Lists .yearLevels " SENIOR " := by
    show " SENIOR " ∈ Text.split ',' "1st year, SENIOR ,Junior"
    decide +kernel
  have hlisted' : criteria.Lists .colleges " École NORMALE" :=
    List.mem_cons_of_mem _ List.mem_cons_self
  have hwho : (Student.ofValue student).toOption.isSome = true := by decide +kernel
  have hc : criteria.read.toOption.isSome = true := by decide +kernel
  obtain ⟨who, hwho⟩ := Option.isSome_iff_exists.mp hwho
  obtain ⟨c, hc⟩ := Option.isSome_iff_exists.mp hc
  rw [toOption_eq_some] at hwho hc
  obtain ⟨k, hk, -, hpassed⟩ := hchecks .yearLevel student criteria _ rfl hyear who c hwho hc
  obtain ⟨k', hk', -, hpassed'⟩ := hchecks .college student criteria _ rfl hcollege who c hwho hc
  exact ⟨rfl, hyear, hfixed .yearLevel _ _ rfl hyear, rfl, hlisted, hsenior, hyears, rfl, hlisted',
    hnormale, hcolleges, who, c, hwho, hc, ⟨k, hk, (hpassed _ hlisted hsenior hyears).1⟩,
    k', hk', (hpassed' _ hlisted' hnormale hcolleges).1⟩

end Bursary
