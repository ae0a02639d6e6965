import Bursary.Proofs.NormalForm
import Bursary.Proofs.Value.Spelling

/-! The grammar of own rules. An element of the list is a rule exactly if three of its values spell
words: the kind, an operator of that kind, and the importance, which may be left blank. Nothing else
counts, whatever the other keys hold. An element that is none is kept as it was read, and its check
fails: under the importance that the element spells, or else as a required one, so that nobody is
eligible. The list is read exactly if every text in it can be made, which an integer beyond the
digit limit or a value nested beyond the depth limit prevents under a key that is read as text. -/

namespace Bursary

attribute [local irreducible] Binary64.unitLimit Binary64.unitsPerOne Value.digitBound

/-! ### Words -/

section Words

variable {α : Type} {all : List α} {word : α → String}

/-- A catalogue in which every word is spelled once finds each of its members by its word. -/
theorem find?_word_eq_some_iff (hall : ∀ a, a ∈ all) (hwords : (all.map word).Nodup) {s : String}
    {a : α} : (all.find? fun a => word a == s) = some a ↔ s = word a := by
  constructor
  · intro h
    have hword : word a = s := by simpa using List.find?_some h
    exact hword.symm
  · rintro rfl
    obtain ⟨b, hb⟩ : ∃ b, (all.find? fun b => word b == word a) = some b :=
      Option.isSome_iff_exists.mp (List.find?_isSome.mpr ⟨a, hall a, beq_self_eq_true _⟩)
    have hword : word b = word a := by simpa using List.find?_some hb
    rw [hb, List.inj_on_of_nodup_map hwords (hall b) (hall a) hword]

theorem isSome_find?_word_iff {s : String} :
    (all.find? fun a => word a == s).isSome = true ↔ s ∈ all.map word := by
  rw [List.find?_isSome, List.mem_map]
  simp only [beq_iff_eq]

end Words

theorem Kind.ofWord?_eq_some_iff {s : String} {kind : Kind} :
    ofWord? s = some kind ↔ s = kind.word :=
  find?_word_eq_some_iff (fun kind => by cases kind <;> decide) (by decide)

theorem Importance.ofWord?_eq_some_iff {s : String} {importance : Importance} :
    ofWord? s = some importance ↔ s = importance.word :=
  find?_word_eq_some_iff (fun importance => by cases importance <;> decide) (by decide)

/-- The words of the operators of a kind. -/
def Kind.operatorWords : Kind → List String
  | range => RangeOperator.all.map RangeOperator.word
  | boolean => BooleanOperator.all.map BooleanOperator.word
  | list => ListOperator.all.map ListOperator.word

theorem Kind.isWord_word (kind : Kind) : Text.IsWord kind.word := by
  cases kind <;> decide

theorem Kind.isWord_operator {kind : Kind} {operator : String}
    (h : operator ∈ kind.operatorWords) : Text.IsWord operator := by
  have hall : ∀ operator ∈ kind.operatorWords, Text.IsWord operator := by cases kind <;> decide
  exact hall operator h

theorem Importance.isWord_word (importance : Importance) : Text.IsWord importance.word := by
  cases importance <;> decide

namespace RuleTest

variable {kind : Kind} {operator : String} {value : Option Value}

theorem make?_isSome_iff : (make? kind operator value).isSome = true ↔
    operator ∈ kind.operatorWords := by
  cases kind <;> exact Option.isSome_map.symm ▸ isSome_find?_word_iff

theorem of_make? {t : RuleTest} (h : make? kind operator value = some t) :
    t.kind = kind ∧ t.operatorWord = operator := by
  cases kind with
  | _ =>
    obtain ⟨op, hop, rfl⟩ := Option.map_eq_some_iff.mp h
    have hword : op.word = operator := by simpa using List.find?_some hop
    exact ⟨rfl, hword⟩

end RuleTest

namespace RuleDraft

variable {element : Value} {position : Nat} {d : RuleDraft}

/-! ### The grammar -/

def kindValue (element : Value) : Value :=
  element.toRecord.first ["conditionType", "condition_type", "type"]

def operatorValue (element : Value) : Value := element.toRecord.get "operator"

def importanceValue (element : Value) : Value := element.toRecord.get "importance"

/-- An element that spells a rule: a kind, an operator of that kind, and an importance; one that is
left blank is that of a required rule. -/
structure Spells (element : Value) (kind : Kind) (operator : String) (importance : Importance) :
    Prop where
  kindWord : (kindValue element).spelling = some kind.word
  operatorWord : (operatorValue element).spelling = some operator
  belongs : operator ∈ kind.operatorWords
  importanceWord : (importanceValue element).spelling = some importance.word ∨
    (importanceValue element).isBlank = true ∧ importance = .required

/-- The importance that an element spells, and that of a required rule if it spells none. -/
def declaredImportance (element : Value) : Importance :=
  ((importanceValue element).spelling.bind Importance.ofWord?).getD .required

/-- The values of an element that are read as texts. -/
def textValues (element : Value) : List Value :=
  let item := element.toRecord
  [item.first ["id", "_id"], item.first ["name", "label"], item.get "description",
    kindValue element, item.first ["studentField", "student_field"], operatorValue element,
    item.get "category", importanceValue element]

/-- An element all of whose texts can be made: no integer in them is beyond the digit limit, and
none of them is nested beyond the depth limit. -/
def IsLegible (element : Value) : Prop := ∀ v ∈ textValues element, v.Writable

/-! ### Drafts -/

theorem ofValue_returns_iff : Returns (ofValue position element) ↔ IsLegible element := by
  simp only [IsLegible, textValues, List.forall_mem_cons, List.not_mem_nil, false_implies,
    implies_true, and_true, ← Value.toText_returns_iff]
  constructor
  · rintro ⟨d, hd, -⟩
    simp only [ofValue, bind_eq_ok, pure_eq_ok] at hd
    obtain ⟨id, hid, name, hname, description, hdescription, kind, hkind, field, hfield, operator,
      hoperator, category, hcategory, importance, himportance, -⟩ := hd
    exact ⟨returns_of_eq_ok hid, returns_of_eq_ok hname, returns_of_eq_ok hdescription,
      returns_of_eq_ok hkind, returns_of_eq_ok hfield, returns_of_eq_ok hoperator,
      returns_of_eq_ok hcategory, returns_of_eq_ok himportance⟩
  · rintro ⟨hid, hname, hdescription, hkind, hfield, hoperator, hcategory, himportance⟩
    exact hid.bind fun _ _ => hname.bind fun _ _ => hdescription.bind fun _ _ =>
      hkind.bind fun _ _ => hfield.bind fun _ _ => hoperator.bind fun _ _ =>
      hcategory.bind fun _ _ => himportance.bind fun _ _ => .ok trivial

theorem ofValues_returns_iff {vs : List Value} :
    Returns (ofValues position vs) ↔ ∀ element ∈ vs, IsLegible element := by
  induction vs generalizing position with
  | nil => exact iff_of_true (.ok trivial) fun element h => nomatch h
  | cons v vs ih =>
    rw [ofValues, returns_both, ofValue_returns_iff, ih, List.forall_mem_cons]

/-- The words of a draft are the texts of its element in lower case. -/
theorem words_of_ofValue (h : ofValue position element = .ok d) :
    ∃ kind operator importance, (kindValue element).toText = .ok kind ∧
      (operatorValue element).toText = .ok operator ∧
      (importanceValue element).toText = .ok importance ∧ d.kind = Text.lower kind ∧
      d.operator = Text.lower operator ∧
      d.importance = orElse (Text.lower importance) "required" := by
  simp only [ofValue, bind_eq_ok, pure_eq_ok] at h
  obtain ⟨-, -, -, -, -, -, kind, hkind, -, -, operator, hoperator, -, -, importance, himportance,
    rfl⟩ := h
  exact ⟨kind, operator, importance, hkind, hoperator, himportance, rfl, rfl, rfl⟩

theorem orElse_eq_word_iff {v : Value} {s : String} (h : v.toText = .ok s)
    (importance : Importance) : orElse (Text.lower s) "required" = importance.word ↔
      v.spelling = some importance.word ∨ v.isBlank = true ∧ importance = .required := by
  rw [← Value.lower_toText_eq_iff h importance.isWord_word, ← Value.toText_eq_empty_iff h]
  by_cases hs : s = ""
  · have hrequired : "required" = importance.word ↔ importance = .required := by
      cases importance <;> decide
    rw [orElse, Text.lower_eq_empty_iff.mpr hs, if_pos (by decide), hrequired,
      or_iff_right importance.isWord_word.ne_empty.symm, and_iff_right hs]
  · have hempty : (Text.lower s).isEmpty = false := by
      rw [← Bool.not_eq_true, String.isEmpty_iff, Text.lower_eq_empty_iff]
      exact hs
    rw [orElse, hempty, if_neg Bool.false_ne_true]
    simp [hs]

theorem words_of_toRule? {r : Rule} (h : d.toRule? = some r) :
    d.kind = r.test.kind.word ∧ d.operator = r.test.operatorWord ∧
      d.operator ∈ r.test.kind.operatorWords ∧ d.importance = r.importance.word := by
  simp only [toRule?, Option.bind_eq_bind, Option.bind_eq_some_iff, Option.pure_def] at h
  obtain ⟨kind, hkind, test, htest, importance, himportance, hr⟩ := h
  cases hr
  obtain ⟨rfl, hoperator⟩ := RuleTest.of_make? htest
  exact ⟨Kind.ofWord?_eq_some_iff.mp hkind, hoperator.symm,
    RuleTest.make?_isSome_iff.mp (Option.isSome_iff_exists.mpr ⟨test, htest⟩),
    Importance.ofWord?_eq_some_iff.mp himportance⟩

theorem exists_toRule? {kind : Kind} {importance : Importance} (hkind : d.kind = kind.word)
    (hoperator : d.operator ∈ kind.operatorWords) (himportance : d.importance = importance.word) :
    ∃ r, d.toRule? = some r ∧ r.test.kind = kind ∧ r.importance = importance := by
  have hmake : (RuleTest.make? kind d.operator d.value).isSome = true :=
    RuleTest.make?_isSome_iff.mpr hoperator
  obtain ⟨test, htest⟩ := Option.isSome_iff_exists.mp hmake
  obtain ⟨rfl, -⟩ := RuleTest.of_make? htest
  rw [toRule?, Kind.ofWord?_eq_some_iff.mpr hkind, Importance.ofWord?_eq_some_iff.mpr himportance]
  simp [htest]

section Spelled

variable (h : ofValue position element = .ok d) {kind : Kind} {operator : String}
  {importance : Importance}

include h

/-- An element spells a rule exactly if the words of its draft are those of the rule. -/
theorem spells_iff_words : Spells element kind operator importance ↔
    d.kind = kind.word ∧ d.operator = operator ∧ operator ∈ kind.operatorWords ∧
      d.importance = importance.word := by
  obtain ⟨kindText, operatorText, importanceText, hkind, hoperator, himportance, hdkind,
    hdoperator, hdimportance⟩ := words_of_ofValue h
  rw [hdkind, hdoperator, hdimportance, orElse_eq_word_iff himportance,
    Value.lower_toText_eq_iff hkind kind.isWord_word]
  have hspelled (hbelongs : operator ∈ kind.operatorWords) :
      Text.lower operatorText = operator ↔ (operatorValue element).spelling = some operator :=
    Value.lower_toText_eq_iff hoperator (Kind.isWord_operator hbelongs)
  constructor
  · rintro ⟨hkind, hoperator, hbelongs, himportance⟩
    exact ⟨hkind, (hspelled hbelongs).mpr hoperator, hbelongs, himportance⟩
  · rintro ⟨hkind, hoperator, hbelongs, himportance⟩
    exact ⟨hkind, (hspelled hbelongs).mp hoperator, hbelongs, himportance⟩

/-- What is read from an element is a rule exactly if the element spells that rule. -/
theorem spells_iff : Spells element kind operator importance ↔
    ∃ r, d.toRule? = some r ∧ r.test.kind = kind ∧ r.test.operatorWord = operator ∧
      r.importance = importance := by
  rw [spells_iff_words h]
  constructor
  · rintro ⟨hkind, rfl, hbelongs, himportance⟩
    obtain ⟨r, hr, hrkind, hrimportance⟩ := exists_toRule? hkind hbelongs himportance
    exact ⟨r, hr, hrkind, (words_of_toRule? hr).2.1.symm, hrimportance⟩
  · rintro ⟨r, hr, rfl, rfl, rfl⟩
    obtain ⟨hkind, hoperator, hbelongs, himportance⟩ := words_of_toRule? hr
    exact ⟨hkind, hoperator, hoperator ▸ hbelongs, himportance⟩

end Spelled

/-- A draft kept as it was read declares the importance that its element spells. -/
theorem importance_toRecord (h : ofValue position element = .ok d) :
    Unreadable.importance d.toRecord = declaredImportance element := by
  obtain ⟨-, -, text, -, -, himportance, -, -, hd⟩ := words_of_ofValue h
  show (Importance.ofWord? d.importance).getD .required = _
  rw [declaredImportance, hd]
  have hread (importance : Importance) :
      Importance.ofWord? (orElse (Text.lower text) "required") = some importance ↔
        (importanceValue element).spelling = some importance.word ∨
          (importanceValue element).isBlank = true ∧ importance = .required := by
    rw [Importance.ofWord?_eq_some_iff, orElse_eq_word_iff himportance]
  cases hspelled : (importanceValue element).spelling.bind Importance.ofWord? with
  | some importance =>
    obtain ⟨word, hword, hfound⟩ := Option.bind_eq_some_iff.mp hspelled
    obtain rfl := Importance.ofWord?_eq_some_iff.mp hfound
    rw [(hread importance).mpr (.inl hword)]
  | none =>
    cases hfound : Importance.ofWord? (orElse (Text.lower text) "required") with
    | none => rfl
    | some importance =>
      -- only what is blank is read as an importance without spelling one
      rcases (hread importance).mp hfound with hword | ⟨-, rfl⟩
      · rw [hword, Option.bind_some, Importance.ofWord?_eq_some_iff.mpr rfl] at hspelled
        cases hspelled
      · rfl

end RuleDraft

/-! ### Where elements go -/

/-- The check of an active element is in every verdict. -/
theorem exists_mem_checks {criteria : Value} (hraw : criteria.isRaw = true) {c : Criteria}
    (hc : Criteria.ofValue criteria = .ok c) {i : Nat} {element : Value}
    (helement : (Criteria.elements criteria)[i]? = some element)
    (hactive : RuleDraft.isActiveElement element = true) {s : Student} {v : Verdict}
    (hv : evaluate s c = .ok v) : ∃ k ∈ v.checks, IsElementCheck s (element, i) k := by
  obtain ⟨ks, hks, rfl⟩ := map_eq_ok.mp hv
  simp only [allChecks, bind_eq_ok, pure_eq_ok] at hks
  obtain ⟨standard, -, own, hown, rfl⟩ := hks
  have hmem : (element, i) ∈ Criteria.activeElements criteria :=
    List.mem_filter.mpr ⟨List.mk_mem_zipIdx_iff_getElem?.mpr helement, hactive⟩
  obtain ⟨k, hk, hcheck⟩ := exists_mem_of_forall₂ (forall₂_activeElements hraw hc hown) hmem
  exact ⟨k, List.mem_append_right standard hk, hcheck⟩

theorem Verdict.passed_eq_false_of_mem {s : Student} {c : Criteria} {v : Verdict}
    (hv : evaluate s c = .ok v) {k : Check} (hk : k ∈ v.checks) (hblocks : k.blocks = true) :
    v.passed = false := by
  obtain ⟨ks, -, rfl⟩ := map_eq_ok.mp hv
  have hany : ks.any (·.blocks) = true := List.any_eq_true.mpr ⟨k, hk, hblocks⟩
  rw [Verdict.passed_ofChecks, hany]
  rfl

namespace Criteria

/-- The rule at a place is the only thing there, and is of this kind, operator and importance. -/
def IsParsedAt (c : Criteria) (i : Nat) (kind : Kind) (operator : String)
    (importance : Importance) : Prop :=
  ∃ r, c.rulesAt i = [r] ∧ c.unreadableAt i = [] ∧ r.test.kind = kind ∧
    r.test.operatorWord = operator ∧ r.importance = importance

/-- What becomes of an element that is kept as it was read: no rule is at its place, and its check
fails under the importance that the element declares. Unless the element is off, the check is in
every verdict, and if it is a required one nobody is eligible. -/
structure IsQuarantinedAt (c : Criteria) (i : Nat) (element : Value) : Prop where
  not_parsed : c.rulesAt i = []
  failure : ∃ raw k, c.unreadableAt i = [raw] ∧
    Unreadable.isActive raw = RuleDraft.isActiveElement element ∧
    Unreadable.check raw = .ok k ∧ k.passed = false ∧
    k.importance = RuleDraft.declaredImportance element ∧
    (RuleDraft.isActiveElement element = true →
      ∀ s v, evaluate s c = .ok v → k ∈ v.checks)
  blocks : RuleDraft.isActiveElement element = true →
    RuleDraft.declaredImportance element = .required →
    ∀ s, quickVerdict s c ≠ .ok true ∧ ∀ v, evaluate s c = .ok v → v.passed = false

/-- Criteria whose list of own rules is read by the grammar, element by element. -/
structure ParsesGrammar (criteria : Value) : Prop where
  /-- The list is read exactly if all texts in it can be made. -/
  readable : Returns (RuleDraft.ofList (criteria.toRecord.get "customConditions")) ↔
    ∀ element ∈ elements criteria, RuleDraft.IsLegible element
  /-- So it is if the criteria are within the limits of digits and depth; then both verdicts are
  reached as well. -/
  loose : criteria.IsLoose → ∃ c, ofValue criteria = .ok c ∧
    ∀ s : Student, s.Writable → Returns (evaluate s c) ∧ Returns (quickVerdict s c)
  parsed : ∀ c, ofValue criteria = .ok c → ∀ i element, (elements criteria)[i]? = some element →
    ∀ kind operator importance, c.IsParsedAt i kind operator importance ↔
      RuleDraft.Spells element kind operator importance
  quarantined : ∀ c, ofValue criteria = .ok c → ∀ i element,
    (elements criteria)[i]? = some element →
    (c.IsQuarantinedAt i element ↔
      ∀ kind operator importance, ¬RuleDraft.Spells element kind operator importance)

/-- A required rule that is kept as it was read keeps the quick verdict from being positive. -/
theorem quickVerdict_ne_true {c : Criteria} {i : Nat} {raw : Record} (h : raw ∈ c.unreadableAt i)
    (hactive : Unreadable.isActive raw = true) (hrequired : Unreadable.importance raw = .required)
    (s : Student) : quickVerdict s c ≠ .ok true := by
  intro hquick
  have htolerable := quickUnreadable_eq_true_iff.mp (quickVerdict_eq_true_iff.mp hquick).2.2
  exact (htolerable raw (List.mem_filter.mp h).1 hactive).2 hrequired

section Element

variable {criteria : Value} (hraw : criteria.isRaw = true) {c : Criteria}
  (hc : ofValue criteria = .ok c) {i : Nat} {element : Value}
  (helement : (elements criteria)[i]? = some element)

include hraw hc helement

theorem isParsedAt_iff {kind : Kind} {operator : String} {importance : Importance} :
    c.IsParsedAt i kind operator importance ↔
      RuleDraft.Spells element kind operator importance := by
  obtain ⟨d, hd, hplaced⟩ := (sorts_elements hraw hc).placed i element helement
  rw [RuleDraft.spells_iff hd]
  rcases hplaced with ⟨r, hr, hrules, hunreadable⟩ | ⟨hnone, hrules, hunreadable⟩
  · rw [IsParsedAt, hrules, hunreadable, hr]
    simp
  · rw [IsParsedAt, hrules, hnone]
    simp

theorem isQuarantinedAt_iff : c.IsQuarantinedAt i element ↔
    ∀ kind operator importance, ¬RuleDraft.Spells element kind operator importance := by
  obtain ⟨d, hd, hplaced⟩ := (sorts_elements hraw hc).placed i element helement
  rcases hplaced with ⟨r, hr, hrules, -⟩ | ⟨hnone, hrules, hunreadable⟩
  · refine iff_of_false (fun h => ?_) fun h => ?_
    · have hempty := h.not_parsed
      rw [hrules] at hempty
      cases hempty
    · exact h _ _ _ ((RuleDraft.spells_iff hd).mpr ⟨r, hr, rfl, rfl, rfl⟩)
  refine iff_of_true ?_ fun kind operator importance hspells => ?_
  · obtain ⟨k, hk, -⟩ := d.check_toRecord_returns
    have hfailed := Unreadable.not_passed_of_check hk
    have himportance := (Unreadable.importance_of_check hk).trans
      (RuleDraft.importance_toRecord hd)
    have hmem (hactive : RuleDraft.isActiveElement element = true) (s : Student) (v : Verdict)
        (hv : evaluate s c = .ok v) : k ∈ v.checks := by
      obtain ⟨k', hk', ⟨e, he, hcheck⟩, -⟩ := exists_mem_checks hraw hc helement hactive hv
      obtain rfl : e = d := Except.ok.inj (he.symm.trans hd)
      rw [RuleDraft.check, hnone] at hcheck
      obtain rfl : k' = k := Except.ok.inj (hcheck.symm.trans hk)
      exact hk'
    have hactivity := (RuleDraft.of_ofValue hd).2.1
    refine ⟨hrules, ⟨d.toRecord, k, hunreadable, hactivity, hk, hfailed, himportance, hmem⟩,
      fun hactive hrequired s => ⟨?_, fun v hv => ?_⟩⟩
    · have hat : d.toRecord ∈ c.unreadableAt i := by
        rw [hunreadable]
        exact List.mem_cons_self
      exact quickVerdict_ne_true hat (hactivity.trans hactive)
        ((RuleDraft.importance_toRecord hd).trans hrequired) s
    · refine Verdict.passed_eq_false_of_mem hv (hmem hactive s v hv) ?_
      rw [Check.blocks, himportance, hrequired, hfailed]
      rfl
  · obtain ⟨r, hr, -⟩ := (RuleDraft.spells_iff hd).mp hspells
    rw [hnone] at hr
    cases hr

end Element

/-- Raw criteria are read by the grammar: exactly those elements become rules that spell one,
whatever else is in them, and the check of any other fails. -/
theorem parsesGrammar {criteria : Value} (hraw : criteria.isRaw = true) :
    ParsesGrammar criteria where
  readable := by rw [RuleDraft.ofList_customConditions, RuleDraft.ofValues_returns_iff]
  loose hloose := by
    obtain ⟨c, hc, hcheckable⟩ := ofValue_yields hloose
    exact ⟨c, hc, fun s hs => ⟨evaluate_returns hs hcheckable, quickVerdict_returns hs hcheckable⟩⟩
  parsed c hc i element helement kind operator importance := isParsedAt_iff hraw hc helement
  quarantined c hc i element helement := isQuarantinedAt_iff hraw hc helement

/-- A rule with blanks and capitals in its words and odd values under other keys; nothing at all; an
operator of another kind under an importance that is spelled; a kind in a list, which hides one that
is spelled under an older key; and a rule that is preferred. -/
theorem parsesGrammar_of_mixed_elements :
    let criteria : Value := .record [("customConditions", .list [
      .record [("type", .text " Range\n"), ("operator", .text "BETWEEN_Exclusive"),
        ("name", .list [.null]), ("studentField", .whole 7), ("value", .flag true)],
      .null,
      .record [("conditionType", .text "list"), ("operator", .text "lt"),
        ("importance", .text " Optional ")],
      .record [("condition_type", .list [.text "range"]), ("type", .text "range"),
        ("operator", .text "lt"), ("importance", .text "vital")],
      .record [("type", .text "boolean"), ("operator", .text "is"),
        ("importance", .text "\tPREFERRED")]])]
    criteria.isRaw = true ∧ ParsesGrammar criteria ∧
      (ofValue criteria).toOption.map (fun c => (c.rules.map fun r => (r.position, r.importance),
        c.unreadableRules.map Unreadable.importance)) =
        some ([(some 0, .required), (some 4, .preferred)], [.required, .optional, .required]) :=
  ⟨rfl, parsesGrammar rfl, by decide +kernel⟩

/-- An element whose kind is an integer beyond the digit limit spells no rule, and is active. It is
not kept as one that spells none: the criteria that it stands in are not read at all. -/
theorem unread_of_long_kind :
    let element : Value := .record [("type", .whole (Int.ofNat (Nat.pow 10 5000)))]
    let criteria : Value := .record [("customConditions", .list [element])]
    criteria.isRaw = true ∧ (elements criteria)[0]? = some element ∧
      RuleDraft.isActiveElement element = true ∧
      (∀ kind operator importance, ¬RuleDraft.Spells element kind operator importance) ∧
      ¬Returns (ofValue criteria) := by
  intro element criteria
  have hkind : (RuleDraft.kindValue element).spelling = none := by decide +kernel
  have hunread : (ofValue criteria).toOption.isNone = true := by decide +kernel
  refine ⟨rfl, rfl, by decide +kernel, fun kind operator importance h => ?_, ?_⟩
  · rw [h.kindWord] at hkind
    cases hkind
  · rintro ⟨c, hc, -⟩
    rw [hc] at hunread
    cases hunread

end Criteria

end Bursary
