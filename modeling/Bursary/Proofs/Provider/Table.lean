import Mathlib.Data.List.Lex
import Mathlib.Data.List.Nodup
import Mathlib.Data.Prod.Lex
import Mathlib.Order.WithBot
import Bursary.Model.Table
import Bursary.Proofs.Acceptance
import Bursary.Proofs.Provider.Isolation

/-! A provider over the table of trained models. Rows are ordered by their time of training and then
by their id, rows without a time before all others. The table gives the last active row of a kind in
this order if there is one. A provider that has not been used takes the row for a scholarship or
else the one for all, and never looks for another row because the one it took is not accurate
enough. -/

namespace Bursary

attribute [local irreducible] Binary64.unitsPerOne Binary64.unitLimit Value.digitBound

/-! ### Times -/

namespace Timestamp

/-- The parts of a time are within their ranges. -/
structure IsValid (t : Timestamp) : Prop where
  month : 1 ≤ t.month ∧ t.month ≤ 12
  day : 1 ≤ t.day ∧ t.day ≤ 31
  hour : t.hour < 24
  minute : t.minute < 60
  second : t.second < 60
  micros : t.micros < 1000000

instance (t : Timestamp) : Decidable t.IsValid :=
  decidable_of_iff ((1 ≤ t.month ∧ t.month ≤ 12) ∧ (1 ≤ t.day ∧ t.day ≤ 31) ∧ t.hour < 24 ∧
      t.minute < 60 ∧ t.second < 60 ∧ t.micros < 1000000)
    ⟨fun ⟨month, day, hour, minute, second, micros⟩ => ⟨month, day, hour, minute, second, micros⟩,
      fun ⟨month, day, hour, minute, second, micros⟩ => ⟨month, day, hour, minute, second, micros⟩⟩

/-- The parts of a time, the longest first. -/
def parts (t : Timestamp) : List ℕ :=
  [t.year, t.month, t.day, t.hour, t.minute, t.second, t.micros]

/-- A part counts only between times that agree in all longer ones. -/
theorem mul_add_lt_iff {r a b c d : ℕ} (hc : c < d + r) (hd : d < c + r) :
    a * r + c < b * r + d ↔ a < b ∨ a = b ∧ c < d := by
  rcases Nat.lt_trichotomy a b with h | rfl | h
  · have := Nat.mul_le_mul_right r (Nat.succ_le_of_lt h)
    rw [Nat.succ_mul] at this
    omega
  · omega
  · have := Nat.mul_le_mul_right r (Nat.succ_le_of_lt h)
    rw [Nat.succ_mul] at this
    omega

theorem mul_add_inj {r a b c d : ℕ} (hc : c < d + r) (hd : d < c + r) :
    a * r + c = b * r + d ↔ a = b ∧ c = d := by
  have hlt : a * r + c < b * r + d ↔ a < b ∨ a = b ∧ c < d := mul_add_lt_iff hc hd
  have hgt : b * r + d < a * r + c ↔ b < a ∨ b = a ∧ d < c := mul_add_lt_iff hd hc
  omega

variable {s t : Timestamp}

/-- Times are ranked as their parts are, each in turn. -/
theorem rank_lt_iff (hs : s.IsValid) (ht : t.IsValid) : s.rank < t.rank ↔ s.parts < t.parts := by
  obtain ⟨smonth, sday, shour, sminute, ssecond, smicros⟩ := hs
  obtain ⟨tmonth, tday, thour, tminute, tsecond, tmicros⟩ := ht
  -- one part at a time, from the microseconds up to the year
  rw [rank, rank, mul_add_lt_iff (by omega) (by omega), mul_add_inj (by omega) (by omega),
    mul_add_lt_iff (by omega) (by omega), mul_add_inj (by omega) (by omega),
    mul_add_lt_iff (by omega) (by omega), mul_add_inj (by omega) (by omega),
    mul_add_lt_iff (by omega) (by omega), mul_add_inj (by omega) (by omega),
    mul_add_lt_iff (by omega) (by omega), mul_add_inj (by omega) (by omega),
    mul_add_lt_iff (by omega) (by omega)]
  simp only [parts, List.cons_lt_cons_iff, List.lt_irrefl, and_or_left, or_assoc, and_assoc,
    and_false, or_false]

theorem rank_eq_iff (hs : s.IsValid) (ht : t.IsValid) : s.rank = t.rank ↔ s.parts = t.parts := by
  rw [eq_iff_le_not_lt, eq_iff_le_not_lt, ← not_lt, ← not_lt, rank_lt_iff hs ht, rank_lt_iff ht hs]

end Timestamp

/-! ### The newest row -/

namespace ModelRow

/-- The time of training if there is one, as one of times that begin with none. -/
def trained (r : ModelRow) : WithBot (List ℕ) :=
  match r.trainedAt with
  | none => ⊥
  | some t => t.parts

/-- What rows are ordered by: first the time of training, then the id. -/
def recency (r : ModelRow) : WithBot (List ℕ) ×ₗ ℤ := toLex (r.trained, r.id)

def IsTimed (r : ModelRow) : Prop := ∀ t ∈ r.trainedAt, t.IsValid

instance (r : ModelRow) : Decidable r.IsTimed :=
  inferInstanceAs (Decidable (∀ t ∈ r.trainedAt, t.IsValid))

theorem olderThan_iff {a b : ModelRow} (ha : a.IsTimed) (hb : b.IsTimed) :
    a.olderThan b = true ↔ a.recency < b.recency := by
  rw [recency, recency, Prod.Lex.toLex_lt_toLex]
  unfold olderThan trained
  cases hs : a.trainedAt with
  | none =>
    cases ht : b.trainedAt with
    | none => simp
    | some t => simp
  | some s =>
    cases ht : b.trainedAt with
    | none => simp
    | some t =>
      have hlt : s.rank < t.rank ↔ s.parts < t.parts := Timestamp.rank_lt_iff (ha s hs) (hb t ht)
      have heq : s.rank = t.rank ↔ s.parts = t.parts := Timestamp.rank_eq_iff (ha s hs) (hb t ht)
      simp [hlt, heq]

end ModelRow

namespace ModelTable

theorem newest?_eq_none_iff {rows : List ModelRow} : newest? rows = none ↔ rows = [] := by
  cases rows with
  | nil => simp [newest?]
  | cons r rs =>
    refine iff_of_false ?_ (List.cons_ne_nil r rs)
    unfold newest?
    split
    · split <;> nofun
    · nofun

/-- The newest row is one of the rows, and none of them is newer. -/
theorem recency_le_of_newest? {rows : List ModelRow} (htimed : ∀ r ∈ rows, r.IsTimed) {r : ModelRow}
    (h : newest? rows = some r) : r ∈ rows ∧ ∀ s ∈ rows, s.recency ≤ r.recency := by
  induction rows generalizing r with
  | nil => cases h
  | cons a rows ih =>
    obtain ⟨ha, hrows⟩ := List.forall_mem_cons.mp htimed
    rw [List.forall_mem_cons]
    -- the first row stays unless it is older than the newest of the others
    unfold newest? at h
    split at h
    case h_2 hnone =>
      cases h
      rw [newest?_eq_none_iff.mp hnone]
      exact ⟨List.mem_singleton_self a, le_refl _, nofun⟩
    case h_1 b hb =>
      obtain ⟨hmem, hle⟩ := ih hrows hb
      have holder := ModelRow.olderThan_iff ha (hrows b hmem)
      split at h
      case isTrue hab =>
        cases h
        exact ⟨List.mem_cons_of_mem a hmem, (holder.mp hab).le, hle⟩
      case isFalse hab =>
        cases h
        rw [holder, not_lt] at hab
        exact ⟨List.mem_cons_self, le_refl _, fun s hs => (hle s hs).trans hab⟩

/-! ### The row in force -/

/-- The contents of a table: every row has an id of its own of at most 64 bits, and the times are
real ones. -/
structure IsSound (rows : List ModelRow) : Prop where
  distinct : (rows.map (·.id)).Nodup
  small : ∀ r ∈ rows, r.id.natAbs ≤ 2 ^ 63
  timed : ∀ r ∈ rows, r.IsTimed

/-- A row for a scholarship, or one for all. -/
def IsFor (id : Option String) (r : ModelRow) : Prop :=
  match id with
  | some id => r.kind = "scholarship" ∧ r.scholarshipId = some id
  | none => r.kind = "global"

/-- A row that may be used for a scholarship, or for all. -/
structure IsCandidate (rows : List ModelRow) (id : Option String) (r : ModelRow) : Prop where
  mem : r ∈ rows
  active : r.isActive = true
  isFor : IsFor id r

/-- The last one of these rows. -/
structure IsInForce (rows : List ModelRow) (id : Option String) (r : ModelRow) : Prop
    extends IsCandidate rows id r where
  last : ∀ s, IsCandidate rows id s → s.recency ≤ r.recency

theorem IsInForce.unique {rows : List ModelRow} (hrows : IsSound rows) {id : Option String}
    {r s : ModelRow} (hr : IsInForce rows id r) (hs : IsInForce rows id s) : r = s := by
  have hrecency : r.recency = s.recency :=
    le_antisymm (hs.last r hr.toIsCandidate) (hr.last s hs.toIsCandidate)
  have hid : r.id = s.id := congrArg (fun x => (ofLex x).2) hrecency
  exact List.inj_on_of_nodup_map hrows.distinct hr.mem hs.mem hid

/-- The row that a table gives for a scholarship, or for all. -/
def lookup (t : ModelTable) : Option String → Except Failure (Option ModelRow)
  | some id => t.scholarshipModel id
  | none => t.globalModel

theorem lookup_eq (rows : List ModelRow) (id : Option String) :
    ∃ candidates, lookup ⟨some rows⟩ id = .ok (newest? candidates) ∧
      ∀ r, r ∈ candidates ↔ IsCandidate rows id r := by
  cases id with
  | none =>
    refine ⟨_, rfl, fun r => ?_⟩
    rw [List.mem_filter, Bool.and_eq_true, beq_iff_eq]
    exact ⟨fun ⟨hmem, hactive, hkind⟩ => ⟨hmem, hactive, hkind⟩,
      fun ⟨hmem, hactive, hkind⟩ => ⟨hmem, hactive, hkind⟩⟩
  | some id =>
    refine ⟨_, rfl, fun r => ?_⟩
    rw [List.mem_filter, Bool.and_eq_true, Bool.and_eq_true, beq_iff_eq, beq_iff_eq]
    exact ⟨fun ⟨hmem, hactive, hkind⟩ => ⟨hmem, hactive, hkind⟩,
      fun ⟨hmem, hactive, hkind⟩ => ⟨hmem, hactive, hkind⟩⟩

/-- A table answers with the row in force, and with none exactly if there is no candidate. -/
theorem lookup_spec {rows : List ModelRow} (hrows : IsSound rows) (id : Option String) :
    Returns (lookup ⟨some rows⟩ id) ∧
      (lookup ⟨some rows⟩ id = .ok none ↔ ¬∃ r, IsCandidate rows id r) ∧
      ∀ r, lookup ⟨some rows⟩ id = .ok (some r) ↔ IsInForce rows id r := by
  obtain ⟨candidates, hlookup, hcandidates⟩ := lookup_eq rows id
  have htimed : ∀ r ∈ candidates, r.IsTimed :=
    fun r hr => hrows.timed r ((hcandidates r).mp hr).mem
  have hinForce {r : ModelRow} (h : newest? candidates = some r) : IsInForce rows id r := by
    obtain ⟨hmem, hle⟩ := recency_le_of_newest? htimed h
    exact ⟨(hcandidates r).mp hmem, fun s hs => hle s ((hcandidates s).mpr hs)⟩
  simp only [hlookup, Except.ok.injEq]
  refine ⟨.ok trivial, ?_, fun r => ⟨hinForce, fun hr => ?_⟩⟩
  · rw [newest?_eq_none_iff, List.eq_nil_iff_forall_not_mem, not_exists]
    exact forall_congr' fun r => not_congr (hcandidates r)
  · cases h : newest? candidates with
    | none =>
      rw [newest?_eq_none_iff] at h
      have hmem := (hcandidates r).mpr hr.toIsCandidate
      rw [h] at hmem
      cases hmem
    | some s => rw [(hinForce h).unique hrows hr]

end ModelTable

/-! ### What a row gives -/

namespace ModelRow

/-- The weights of a row: its own if it reports enough accuracy, the neutral ones otherwise. -/
def resolved (settings : Settings) (source : Source) (r : ModelRow) : ResolvedWeights :=
  if settings.minAccuracy.le (Model.accuracy r.toRecord) then
    { weights := Model.weights r.toRecord
      trained := true
      source
      accuracy := some (Model.accuracy r.toRecord)
      modelId := if r.id = 0 then none else some (Quantity.intText Decimal.digits r.id) }
  else .fallback

theorem textIfGiven_id {r : ModelRow} (h : r.id.natAbs ≤ 2 ^ 63) :
    (Record.firstTruthy r.toRecord ["id", "_id"]).textIfGiven =
      .ok (if r.id = 0 then none else some (Quantity.intText Decimal.digits r.id)) := by
  have hfirst : Record.firstTruthy r.toRecord ["id", "_id"] =
      ([.whole r.id, .null].find? Value.isTruthy).getD .null := rfl
  rw [hfirst]
  by_cases hid : r.id = 0
  · rw [if_pos hid, hid]
    rfl
  · have hsmall : r.id.natAbs < Value.digitBound :=
      Nat.lt_of_le_of_lt h (by decide +kernel : 2 ^ 63 < Value.digitBound)
    have htruthy : (Value.whole r.id).isTruthy = true := bne_iff_ne.mpr hid
    rw [if_neg hid, List.find?_cons_of_pos htruthy, Option.getD_some, Value.textIfGiven,
      if_pos htruthy]
    show (Value.wholeText r.id).map some = _
    rw [Value.wholeText, if_pos hsmall]
    rfl

/-- A row counts as a model, so that its accuracy alone decides. -/
theorem accepted?_toRecord {settings : Settings} (h : settings.WithinBounds) (r : ModelRow) :
    Model.accepted? (.record r.toRecord) (.real settings.minAccuracy) =
      if settings.minAccuracy.le (Model.accuracy r.toRecord) then some r.toRecord else none := by
  have hrecord : r.toRecord ≠ [] := List.cons_ne_nil _ _
  by_cases haccuracy : settings.minAccuracy.le (Model.accuracy r.toRecord) = true
  · rw [if_pos haccuracy, Model.accepted?_eq_some_iff]
    exact ⟨rfl, hrecord, Binary64.lt_eq_false_of_le haccuracy⟩
  · rw [if_neg haccuracy, Model.accepted?_eq_none_iff]
    refine .inr ⟨_, rfl, hrecord, Binary64.lt_iff.mpr ?_⟩
    have hnan := Model.accuracy_ne_nan r.toRecord
    have hplace := fun hle => haccuracy (Binary64.le_iff.mpr ⟨h.minAccuracy_ne_nan, hnan, hle⟩)
    exact ⟨hnan, h.minAccuracy_ne_nan, Int.not_le.mp hplace⟩

theorem settle_row {settings : Settings} (hsettings : settings.WithinBounds) {r : ModelRow}
    (hid : r.id.natAbs ≤ 2 ^ 63) (source : Source) :
    Provider.settle settings (.model (.record r.toRecord) source) =
      .ok (r.resolved settings source) := by
  rw [Provider.settle, accepted?_toRecord hsettings, resolved]
  by_cases haccuracy : settings.minAccuracy.le (Model.accuracy r.toRecord) = true
  · rw [if_pos haccuracy, if_pos haccuracy]
    dsimp only
    rw [ResolvedWeights.ofModel, textIfGiven_id hid]
    rfl
  · rw [if_neg haccuracy, if_neg haccuracy]

end ModelRow

/-! ### The provider -/

namespace ModelTable

variable {rows : List ModelRow} {r : ModelRow}

theorem fetchGlobal_of_some (h : lookup ⟨some rows⟩ none = .ok (some r)) :
    (toRegistry ⟨some rows⟩).fetchGlobal = .model (.record r.toRecord) .global := by
  have hreply : (toRegistry ⟨some rows⟩).globalModel = .answer (.record r.toRecord) :=
    congrArg reply h
  rw [Registry.fetchGlobal, hreply]
  rfl

theorem fetchGlobal_of_none (h : lookup ⟨some rows⟩ none = .ok none) :
    (toRegistry ⟨some rows⟩).fetchGlobal = .nothing := by
  have hreply : (toRegistry ⟨some rows⟩).globalModel = .answer .null := congrArg reply h
  rw [Registry.fetchGlobal, hreply]
  rfl

theorem fetch_of_some {id : String} (h : lookup ⟨some rows⟩ (some id) = .ok (some r)) :
    (toRegistry ⟨some rows⟩).fetch (some id) = (.model (.record r.toRecord) .scholarship, 1) := by
  have hreply : (toRegistry ⟨some rows⟩).scholarshipModel id = .answer (.record r.toRecord) :=
    congrArg reply h
  rw [Registry.fetch, hreply]
  rfl

theorem fetch_of_none {id : String} (h : lookup ⟨some rows⟩ (some id) = .ok none) :
    (toRegistry ⟨some rows⟩).fetch (some id) = ((toRegistry ⟨some rows⟩).fetchGlobal, 2) := by
  have hreply : (toRegistry ⟨some rows⟩).scholarshipModel id = .answer .null := congrArg reply h
  rw [Registry.fetch, hreply]
  rfl

section Fresh

variable (rows) (settings : Settings)

/-- A provider over a table that has not been used. -/
def freshProvider : Provider := .fresh settings (some (toRegistry ⟨some rows⟩))

theorem resolve_freshProvider (id : Option String) :
    ((freshProvider rows settings).resolve id).1 =
      Provider.settle settings ((toRegistry ⟨some rows⟩).fetch (Provider.asked id)).1 :=
  Provider.resolve_fresh settings (some (toRegistry ⟨some rows⟩)) id

theorem resolve_empty_id :
    ((freshProvider rows settings).resolve (some "")).1 =
      ((freshProvider rows settings).resolve none).1 := by
  rw [resolve_freshProvider, resolve_freshProvider]
  rfl

theorem asked_of_ne_empty {id : String} (hid : id ≠ "") :
    Provider.asked (some id) = some id := by
  rw [Provider.asked, Option.filter_some, if_pos]
  simpa using hid

variable {rows settings} (hrows : IsSound rows) (hsettings : settings.WithinBounds)
include hrows hsettings

theorem resolve_of_row {id : String} (hid : id ≠ "") (hr : IsInForce rows (some id) r) :
    ((freshProvider rows settings).resolve (some id)).1 =
      .ok (r.resolved settings .scholarship) := by
  rw [resolve_freshProvider, asked_of_ne_empty hid,
    fetch_of_some (((lookup_spec hrows _).2.2 r).mpr hr)]
  exact ModelRow.settle_row hsettings (hrows.small r hr.mem) .scholarship

theorem resolve_none_of_row (hr : IsInForce rows none r) :
    ((freshProvider rows settings).resolve none).1 = .ok (r.resolved settings .global) := by
  rw [resolve_freshProvider]
  show Provider.settle settings (toRegistry ⟨some rows⟩).fetchGlobal = _
  rw [fetchGlobal_of_some (((lookup_spec hrows none).2.2 r).mpr hr)]
  exact ModelRow.settle_row hsettings (hrows.small r hr.mem) .global

omit hsettings

theorem resolve_of_no_row {id : String} (hid : id ≠ "") (h : ¬∃ r, IsCandidate rows (some id) r) :
    ((freshProvider rows settings).resolve (some id)).1 =
      ((freshProvider rows settings).resolve none).1 := by
  rw [resolve_freshProvider, resolve_freshProvider, asked_of_ne_empty hid,
    fetch_of_none ((lookup_spec hrows _).2.1.mpr h)]
  rfl

theorem resolve_none_of_no_row (h : ¬∃ r, IsCandidate rows none r) :
    ((freshProvider rows settings).resolve none).1 = .ok .fallback := by
  rw [resolve_freshProvider]
  show Provider.settle settings (toRegistry ⟨some rows⟩).fetchGlobal = _
  rw [fetchGlobal_of_none ((lookup_spec hrows none).2.1.mpr h)]
  rfl

end Fresh

/-- A table answers every question, with the row in force, and with none exactly if there is no
candidate. A provider that has not been used takes the row of a scholarship if there is one, and the
one for all otherwise; whichever it takes, the row gives its weights if it is accurate enough and
the neutral ones if not. An empty id asks for no scholarship. -/
theorem resolve_of_table (hrows : IsSound rows) {settings : Settings}
    (hsettings : settings.WithinBounds) :
    let table : ModelTable := ⟨some rows⟩
    let p := freshProvider rows settings
    (∀ id, Returns (table.lookup id) ∧
      (table.lookup id = .ok none ↔ ¬∃ r, IsCandidate rows id r) ∧
      ∀ r, table.lookup id = .ok (some r) ↔ IsInForce rows id r) ∧
    (∀ id : String, id ≠ "" →
      (∀ r, IsInForce rows (some id) r →
        (p.resolve (some id)).1 = .ok (r.resolved settings .scholarship)) ∧
      ((¬∃ r, IsCandidate rows (some id) r) → (p.resolve (some id)).1 = (p.resolve none).1)) ∧
    (p.resolve (some "")).1 = (p.resolve none).1 ∧
    (∀ r, IsInForce rows none r → (p.resolve none).1 = .ok (r.resolved settings .global)) ∧
    ((¬∃ r, IsCandidate rows none r) → (p.resolve none).1 = .ok .fallback) := by
  intro table p
  refine ⟨lookup_spec hrows, fun id hid => ⟨fun r hr => ?_, fun h => ?_⟩,
    resolve_empty_id rows settings, fun r hr => ?_, fun h => ?_⟩
  · exact resolve_of_row hrows hsettings hid hr
  · exact resolve_of_no_row hrows hid h
  · exact resolve_none_of_row hrows hsettings hr
  · exact resolve_none_of_no_row hrows h

theorem withinBounds_default : ({} : Settings).WithinBounds :=
  Settings.withinBounds_of_ofRecord (r := []) rfl

/-- Of three rows for one scholarship two were trained at the same time. The last of them is not
accurate enough, so that neither an earlier row nor the one for all is used in its place. A row that
is not active does not count, and a scholarship without a row gets the one for all. -/
theorem resolve_of_tied_rows :
    let late : Timestamp := { year := 2025, month := 3, day := 2 }
    let early : ModelRow :=
      { id := 1, scholarshipId := some "s-1", kind := "scholarship", accuracy := some 0.9 }
    let first : ModelRow := { early with id := 4, trainedAt := some late }
    let last : ModelRow := { first with id := 7, accuracy := some 0.5 }
    let unused : ModelRow :=
      { first with id := 9, isActive := false, trainedAt := some { late with month := 11 } }
    let forAll : ModelRow := { id := -2, accuracy := some 0.75 }
    let rows := [unused, last, early, forAll, first]
    let p := freshProvider rows {}
    IsSound rows ∧ IsInForce rows (some "s-1") last ∧ (p.resolve (some "s-1")).1 = .ok .fallback ∧
      IsInForce rows none forAll ∧ (p.resolve (some "s-2")).1 = .ok (forAll.resolved {} .global) ∧
      (forAll.resolved {} .global).modelId = some "-2" := by
  intro late early first last unused forAll rows p
  have hrows : IsSound rows := ⟨by decide, by decide, by decide⟩
  obtain ⟨hlookup, hresolve, -, hall, -⟩ := resolve_of_table hrows withinBounds_default
  have hlast : IsInForce rows (some "s-1") last := by
    refine ((hlookup _).2.2 last).mp ?_
    simp [lookup, scholarshipModel, latest?, newest?, ModelRow.olderThan, rows, unused, last, early,
      forAll, first]
  have hforAll : IsInForce rows none forAll := ((hlookup _).2.2 forAll).mp rfl
  have hnone : ¬∃ r, IsCandidate rows (some "s-2") r := (hlookup _).2.1.mp rfl
  refine ⟨hrows, hlast, ?_, hforAll, ?_, by decide +kernel⟩
  · rw [(hresolve "s-1" (by decide)).1 last hlast, ModelRow.resolved, if_neg]
    decide +kernel
  · rw [(hresolve "s-2" (by decide)).2 hnone]
    exact hall forAll hforAll

/-- The row of a scholarship with an empty id is never used. -/
theorem resolve_passes_over_empty_id :
    let row : ModelRow :=
      { id := 1, scholarshipId := some "", kind := "scholarship", accuracy := some 0.9 }
    let forAll : ModelRow := { id := 2, accuracy := some 0.8 }
    let p := freshProvider [row, forAll] {}
    IsInForce [row, forAll] (some "") row ∧
      (p.resolve (some "")).1 = .ok (forAll.resolved {} .global) ∧
      (p.resolve (some "")).1 ≠ .ok (row.resolved {} .scholarship) := by
  intro row forAll p
  have hrows : IsSound [row, forAll] := ⟨by decide, by decide, by decide⟩
  have hrow : IsInForce [row, forAll] (some "") row := ((lookup_spec hrows _).2.2 row).mp rfl
  have hforAll : IsInForce [row, forAll] none forAll := ((lookup_spec hrows _).2.2 forAll).mp rfl
  have hresolve : (p.resolve (some "")).1 = .ok (forAll.resolved {} .global) :=
    (resolve_empty_id _ _).trans (resolve_none_of_row hrows withinBounds_default hforAll)
  refine ⟨hrow, hresolve, ?_⟩
  rw [hresolve]
  intro h
  have hid : (forAll.resolved {} .global).modelId = (row.resolved {} .scholarship).modelId :=
    congrArg ResolvedWeights.modelId (Except.ok.inj h)
  revert hid
  decide +kernel

end ModelTable

end Bursary
