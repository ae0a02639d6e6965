import Bursary.Proofs.NormalForm
import Bursary.Proofs.Text.Split
import Bursary.Proofs.Value.Related

/-! Lists of texts in two forms. A list is read the same from its texts as from one text that has
them with commas between them, as long as there are no commas in them; what was read of a list is
read again as it is. So criteria may have their lists in either form. There is one exception, where
a list has several keys: the list of the empty text alone counts as given and its text form, which
is empty, does not, so that only the list hides what is under the keys behind it. -/

namespace Bursary

/-! ### Both forms -/

namespace Value

theorem textsOf_texts (xs : List String) :
    textsOf (xs.map text) = .ok ((xs.map Text.trim).filter (!·.isEmpty)) := by
  induction xs with
  | nil => rfl
  | cons s xs ih =>
    rw [List.map_cons, textsOf, ih, List.map_cons, List.filter_cons]
    show Except.ok (if (Text.trim s).isEmpty then _ else _) = _
    cases (Text.trim s).isEmpty <;> rfl

/-- Texts without commas are read the same as a list and joined with commas. -/
theorem toTexts_intercalate {xs : List String} (h : ∀ s ∈ xs, ',' ∉ s.toList) :
    (text (",".intercalate xs)).toTexts = (list (xs.map text)).toTexts := by
  cases xs with
  | nil => rfl
  | cons s rest =>
    have hsplit : Text.split ',' (",".intercalate (s :: rest)) = s :: rest :=
      Text.split_intercalate h
    rw [toTexts, toTexts, hsplit, textsOf_texts]

/-- What was read is a list that is read as it is. -/
theorem toTexts_entries (v : Value) :
    (v.toTexts >>= fun entries => (list (entries.map text)).toTexts) = v.toTexts := by
  cases hv : v.toTexts with
  | error e => rfl
  | ok entries =>
    have hentry := isEntry_toTexts hv
    have htrim : entries.map Text.trim = entries :=
      (List.map_congr_left fun s hs => (hentry s hs).2.trim_eq).trans (List.map_id entries)
    have hkept : entries.filter (!·.isEmpty) = entries := by
      apply List.filter_eq_self.mpr
      intro s hs
      simpa using (hentry s hs).1
    rw [ok_bind, toTexts, textsOf_texts, htrim, hkept]

/-- A value, or its texts joined with commas in the place of a list of texts without any. -/
def Joins (v w : Value) : Prop :=
  w = v ∨ ∃ xs : List String, (∀ s ∈ xs, ',' ∉ s.toList) ∧ v = list (xs.map text) ∧
    w = text (",".intercalate xs)

/-- Both forms are read the same and count as given alike, but for the list of the empty text. -/
theorem Joins.same_or {v w : Value} (h : v.Joins w) :
    (w.isTruthy = v.isTruthy ∧ w.toTexts = v.toTexts) ∨ (v = list [text ""] ∧ w = text "") := by
  obtain rfl | ⟨xs, hxs, rfl, rfl⟩ := h
  · exact .inl ⟨rfl, rfl⟩
  cases xs with
  | nil => exact .inl ⟨rfl, toTexts_intercalate hxs⟩
  | cons s rest =>
    by_cases hempty : ",".intercalate (s :: rest) = ""
    · have hsplit : Text.split ',' "" = s :: rest := hempty ▸ Text.split_intercalate hxs
      obtain ⟨rfl, rfl⟩ := List.cons.inj hsplit
      exact .inr ⟨rfl, rfl⟩
    · refine .inl ⟨?_, toTexts_intercalate hxs⟩
      simpa [isTruthy] using hempty

end Value

/-! ### Several keys -/

namespace Record

/-- Whether the list of the empty text alone is the first value that is given under some keys, and
its text form, which is not given, uncovers a value behind it that has entries. -/
def Uncovers (keys : List String) (r r' : Record) : Prop :=
  ∃ key, keys.find? (fun key => (r.get key).isTruthy) = some key ∧
    r.get key = .list [.text ""] ∧ r'.get key = .text "" ∧ (r'.firstTruthy keys).toTexts ≠ .ok []

/-- The first given list is read the same exactly if nothing is uncovered. -/
theorem toTexts_firstTruthy_iff {keys : List String} {r r' : Record}
    (h : ∀ key ∈ keys, (r.get key).Joins (r'.get key)) :
    (r'.firstTruthy keys).toTexts = (r.firstTruthy keys).toTexts ↔ ¬Uncovers keys r r' := by
  induction keys with
  | nil => exact iff_of_true rfl fun ⟨_, hfind, _⟩ => nomatch hfind
  | cons key keys ih =>
    obtain ⟨hkey, hrest⟩ := List.forall_mem_cons.mp h
    specialize ih hrest
    simp only [Uncovers, firstTruthy_cons, List.find?_cons] at ih ⊢
    rcases hkey.same_or with ⟨hgiven, hread⟩ | ⟨hlist, hempty⟩
    · rw [hgiven]
      cases hfirst : (r.get key).isTruthy with
      | false => exact ih
      | true =>
        refine iff_of_true hread ?_
        -- both forms are given, so neither is the empty text
        rintro ⟨found, hfound, -, hempty, -⟩
        obtain rfl := Option.some.inj hfound
        rw [hempty, hfirst] at hgiven
        cases hgiven
    · have hnone : Value.toTexts (.list [.text ""]) = .ok [] := by rw [Value.toTexts]; rfl
      simp [hlist, hempty, Value.isTruthy, hnone]

end Record

namespace Listing

/-- The keys that are tried for a list, in their order. -/
def keys : Listing → List String
  | yearLevels => ["eligibleClassifications", "requiredYearLevels", "eligibleYearLevels"]
  | colleges => ["eligibleColleges"]
  | courses => ["eligibleCourses"]
  | majors => ["eligibleMajors"]
  | stBrackets => ["eligibleSTBrackets", "requiredSTBrackets"]
  | provinces => ["eligibleProvinces"]
  | citizenships => ["eligibleCitizenship"]

/-- The value that a list is read from. -/
def stated (l : Listing) (data : Record) : Value := data.firstTruthy l.keys

/-- What is not given is no list, so that one key alone may as well be read as it is. -/
theorem toTexts_firstTruthy_singleton (data : Record) (key : String) :
    (data.firstTruthy [key]).toTexts = (data.get key).toTexts := by
  rw [Record.firstTruthy_cons]
  split
  case isTrue => rfl
  case isFalse hfalsy =>
    show Value.toTexts .null = _
    generalize data.get key = v at hfalsy
    cases v with
    | text s =>
      obtain rfl : s = "" := by simpa [Value.isTruthy] using hfalsy
      rfl
    | list vs =>
      obtain rfl : vs = [] := by simpa [Value.isTruthy] using hfalsy
      rfl
    | form kind fields => exact absurd rfl hfalsy
    | _ => rfl

theorem toTexts_stated_of_ofRecord {data : Record} {c : Criteria}
    (h : Criteria.ofRecord data = .ok c) (l : Listing) :
    (l.stated data).toTexts = .ok (l.get c) := by
  simp only [Criteria.ofRecord, bind_eq_ok, pure_eq_ok] at h
  obtain ⟨-, -, yearLevels, hyears, colleges, hcolleges, courses, hcourses, majors, hmajors,
    stBrackets, hbrackets, provinces, hprovinces, citizenships, hcitizenships, rfl⟩ := h
  have hsingle {key : String} {entries : List String} (h : (data.get key).toTexts = .ok entries) :
      (data.firstTruthy [key]).toTexts = .ok entries :=
    (toTexts_firstTruthy_singleton data key).trans h
  cases l with
  | yearLevels => exact hyears
  | colleges => exact hsingle hcolleges
  | courses => exact hsingle hcourses
  | majors => exact hsingle hmajors
  | stBrackets => exact hbrackets
  | provinces => exact hsingle hprovinces
  | citizenships => exact hsingle hcitizenships

end Listing

/-! ### Criteria -/

namespace Criteria

/-- The keys under which criteria have lists. -/
def listKeys : List String := ["eligibleClassifications", "requiredYearLevels",
  "eligibleYearLevels", "eligibleColleges", "eligibleCourses", "eligibleMajors",
  "eligibleSTBrackets", "requiredSTBrackets", "eligibleProvinces", "eligibleCitizenship"]

theorem mem_listKeys (l : Listing) : ∀ key ∈ l.keys, key ∈ listKeys := by
  cases l <;> decide

/-- Criteria that differ at most in lists that are joined texts in the second ones. -/
structure Joins (d e : Record) : Prop where
  list : ∀ key ∈ listKeys, (d.get key).Joins (e.get key)
  rest : Record.AgreeBut listKeys d e

/-- Nothing but what is read of the lists is looked at. -/
theorem ofRecord_congr {d e : Record} (hrest : Record.AgreeBut listKeys d e)
    (hlist : ∀ l : Listing, (l.stated d).toTexts = (l.stated e).toTexts) :
    ofRecord d = ofRecord e := by
  have hsingle (l : Listing) {key : String} (hkey : l.keys = [key]) :
      (d.get key).toTexts = (e.get key).toTexts := by
    rw [← Listing.toTexts_firstTruthy_singleton, ← Listing.toTexts_firstTruthy_singleton, ← hkey]
    exact hlist l
  have hyears := hlist .yearLevels
  have hbrackets := hlist .stBrackets
  simp only [Listing.stated, Listing.keys] at hyears hbrackets
  unfold ofRecord
  simp (disch := decide) only [hyears, hbrackets, hsingle .colleges rfl, hsingle .courses rfl,
    hsingle .majors rfl, hsingle .provinces rfl, hsingle .citizenships rfl, hrest.get,
    hrest.firstTruthy]

end Criteria

/-- A list of texts without commas and the text of them with commas between them are read the same,
and entries that were read are read again as they are. Criteria are the same in both forms unless
the text form of the list of the empty text uncovers entries under a later key, and then the list
that was read is another one. -/
theorem readings_of_joins :
    (∀ xs : List String, (∀ s ∈ xs, ',' ∉ s.toList) →
      (Value.text (",".intercalate xs)).toTexts = (Value.list (xs.map .text)).toTexts) ∧
    (∀ v : Value,
      (v.toTexts >>= fun entries => (Value.list (entries.map .text)).toTexts) = v.toTexts) ∧
    ∀ criteria criteria' : Value, criteria.isRaw = true → criteria'.isRaw = true →
      Criteria.Joins criteria.toRecord criteria'.toRecord →
      ((∀ l : Listing, ¬Record.Uncovers l.keys criteria.toRecord criteria'.toRecord) →
        Criteria.ofValue criteria = Criteria.ofValue criteria') ∧
      ∀ c c', Criteria.ofValue criteria = .ok c → Criteria.ofValue criteria' = .ok c' →
        ∀ l : Listing, l.get c' = l.get c ↔
          ¬Record.Uncovers l.keys criteria.toRecord criteria'.toRecord := by
  refine ⟨fun xs => Value.toTexts_intercalate, Value.toTexts_entries, ?_⟩
  intro criteria criteria' hraw hraw' h
  have hread (l : Listing) : (l.stated criteria'.toRecord).toTexts =
      (l.stated criteria.toRecord).toTexts ↔
        ¬Record.Uncovers l.keys criteria.toRecord criteria'.toRecord :=
    Record.toTexts_firstTruthy_iff fun key hkey => h.list key (Criteria.mem_listKeys l key hkey)
  constructor
  · intro hcovered
    rw [Criteria.ofValue_eq_ofRecord hraw, Criteria.ofValue_eq_ofRecord hraw']
    exact Criteria.ofRecord_congr h.rest fun l => ((hread l).mpr (hcovered l)).symm
  · intro c c' hc hc' l
    rw [← hread l,
      Listing.toTexts_stated_of_ofRecord (Criteria.ofRecord_of_ofValue hraw hc) l,
      Listing.toTexts_stated_of_ofRecord (Criteria.ofRecord_of_ofValue hraw' hc') l]
    exact (Except.ok.injEq _ _).to_iff.symm

/-- A list of names with blanks, two lists of the empty text with no entries behind them, and a list
that is left as it is for the sake of a comma. -/
theorem readings_of_four_joined_lists :
    let lists (years colleges brackets : Value) : Record := [("maxGWA", .real 2.25),
      ("requiredYearLevels", years), ("eligibleColleges", colleges),
      ("requiredSTBrackets", brackets), ("eligibleProvinces", .list [.text "Laguna, PH"])]
    let years := [" Junior ", "", "Senior"]
    let criteria : Value := .record
      (lists (.list (years.map .text)) (.list [.text ""]) (.list [.text ""]))
    let criteria' : Value := .record
      (lists (.text " Junior ,,Senior") (.text "") (.text ""))
    (∀ s ∈ years, ',' ∉ s.toList) ∧ ",".intercalate years = " Junior ,,Senior" ∧
      criteria.isRaw = true ∧ criteria'.isRaw = true ∧
      Criteria.Joins criteria.toRecord criteria'.toRecord ∧
      (∀ l : Listing, ¬Record.Uncovers l.keys criteria.toRecord criteria'.toRecord) ∧
      (Value.text " Junior ,,Senior").toTexts = (Value.list (years.map .text)).toTexts ∧
      Criteria.ofValue criteria = Criteria.ofValue criteria' ∧
      (Criteria.ofValue criteria).toOption.map (fun c => (c.yearLevels, c.colleges, c.provinces)) =
        some (["Junior", "Senior"], [], ["Laguna, PH"]) := by
  intro lists years criteria criteria'
  obtain ⟨hforms, -, hreadings⟩ := readings_of_joins
  have hplain : ∀ s ∈ years, ',' ∉ s.toList := by decide
  have hjoined : ",".intercalate years = " Junior ,,Senior" := by decide
  have hyears : (Value.list (years.map .text)).Joins (.text " Junior ,,Senior") :=
    .inr ⟨years, hplain, rfl, hjoined ▸ rfl⟩
  have hempty : (Value.list [.text ""]).Joins (.text "") := .inr ⟨[""], by decide, rfl, rfl⟩
  have hsame (v : Value) : v.Joins v := .inl rfl
  have hjoins : Criteria.Joins criteria.toRecord criteria'.toRecord := {
    list := by simp [Criteria.listKeys, criteria, criteria', lists, Value.toRecord, Record.get,
      Record.get?, hyears, hempty, hsame]
    rest := Record.agreeBut_of_forall₂
      (by simp [Criteria.listKeys, criteria, criteria', lists, Value.toRecord]) }
  have hcovered (l : Listing) : ¬Record.Uncovers l.keys criteria.toRecord criteria'.toRecord := by
    apply (Record.toTexts_firstTruthy_iff fun key hkey =>
      hjoins.list key (Criteria.mem_listKeys l key hkey)).mp
    cases l <;> decide +kernel
  obtain ⟨hcriteria, -⟩ := hreadings criteria criteria' rfl rfl hjoins
  exact ⟨hplain, hjoined, rfl, rfl, hjoins, hcovered, hjoined ▸ hforms years hplain,
    hcriteria hcovered, by decide +kernel⟩

/-- The list of the empty text restricts nobody and hides the later key behind it. As a text it is
empty, and what stands under the later key counts. -/
theorem readings_differ_of_joined_empty_text :
    let criteria (years : Value) : Value := .record
      [("eligibleClassifications", years), ("requiredYearLevels", .list [.text "Senior"])]
    ',' ∉ "".toList ∧ ",".intercalate [""] = "" ∧
      Criteria.Joins (criteria (.list [.text ""])).toRecord (criteria (.text "")).toRecord ∧
      (Value.text "").toTexts = (Value.list [.text ""]).toTexts ∧
      (Criteria.ofValue (criteria (.list [.text ""]))).toOption.map (·.yearLevels) = some [] ∧
      (Criteria.ofValue (criteria (.text ""))).toOption.map (·.yearLevels) = some ["Senior"] := by
  intro criteria
  have hplain : ',' ∉ "".toList := by decide
  have hempty : (Value.list [.text ""]).Joins (.text "") := .inr ⟨[""], by simp, rfl, rfl⟩
  have hsame (v : Value) : v.Joins v := .inl rfl
  have hjoins : Criteria.Joins (criteria (.list [.text ""])).toRecord
      (criteria (.text "")).toRecord := {
    list := by simp [Criteria.listKeys, criteria, Value.toRecord, Record.get, Record.get?, hempty,
      hsame]
    rest := Record.agreeBut_of_forall₂ (by simp [Criteria.listKeys, criteria, Value.toRecord]) }
  exact ⟨hplain, rfl, hjoins, rfl, by decide +kernel, by decide +kernel⟩

end Bursary
