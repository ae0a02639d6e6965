import Mathlib.Logic.Relation
import Bursary.Proofs.Text.Split
import Bursary.Proofs.Value.Equality
import Bursary.Proofs.Value.Related
import Bursary.Proofs.Value.Writable

/-! Paths into the custom fields. A path that starts with no field of the student leads where it
leads behind the name of the custom fields, since both routes meet at the entry of the first name.
Further on a record and a keyed structure with its entries answer alike, but to the name `get`: so
who keeps a record as a keyed structure sees a difference only in a result that is or holds that
structure. -/

namespace Bursary

open Relation (ReflGen ReflTransGen)

/-! ### The names of a path -/

namespace Student

/-- A path that is not empty leads from its first name through the others. -/
theorem resolve_of_split {s : Student} {path first : String} {rest : List String}
    (hpath : path ≠ "") (h : Text.split '.' path = first :: rest) :
    s.resolve path = rest.foldl Value.entry (s.start first) := by
  unfold resolve
  split
  case h_1 hnil => cases hnil.symm.trans h
  case h_2 hempty => exact absurd (Text.eq_empty_of_split hempty) hpath
  case h_3 first' rest' _ hsplit =>
    cases hsplit.symm.trans h
    rfl

/-! ### Bare and prefixed paths -/

/-- Whether a name, as written or in snake case, is that of a field. -/
def HasField (s : Student) (name : String) : Prop :=
  name ∈ s.toRecord.map (·.1) ∨ Text.snakeCase name ∈ s.toRecord.map (·.1)

instance (s : Student) (name : String) : Decidable (s.HasField name) :=
  inferInstanceAs (Decidable (_ ∨ _))

/-- The prefixes that lead into the custom fields. -/
def customPrefixes : List String := ["customFields", "custom_fields"]

theorem start_of_not_hasField {s : Student} {name : String} (h : ¬s.HasField name) :
    s.start name = s.customFields.get name := by
  have hnone {key : String} (hkey : key ∉ s.toRecord.map (·.1)) : s.toRecord.get? key = none := by
    cases hfound : s.toRecord.get? key with
    | none => rfl
    | some v => exact absurd (List.mem_map_of_mem (Record.mem_of_get? hfound)) hkey
  obtain ⟨hname, hsnake⟩ := not_or.mp h
  have hfield : s.toRecord.fieldNamed name = .null := by
    rw [Record.fieldNamed, hnone hname, Record.get, hnone hsnake]
    rfl
  rw [start, hfield]
  rfl

theorem start_custom (s : Student) : ∀ name ∈ customPrefixes,
    s.start name = .record s.customFields := by
  have hsnake : Text.snakeCase "customFields" = "custom_fields" := by decide +kernel
  have hbare : s.toRecord.get? "customFields" = none := rfl
  have hfield : s.toRecord.get? "custom_fields" = some (.record s.customFields) := rfl
  intro name hname
  rw [customPrefixes, List.mem_pair] at hname
  obtain rfl | rfl := hname
  · simp only [start, Record.fieldNamed, hbare, hsnake, Record.get, hfield]
    rfl
  · simp only [start, Record.fieldNamed, hfield]
    rfl

/-- Behind the name of the custom fields a path leads where it leads without it. -/
theorem resolve_prefixed {s : Student} {path : String} (hpath : path ≠ "")
    (h : ∀ first ∈ (Text.split '.' path).head?, ¬s.HasField first) :
    ∀ name ∈ customPrefixes, s.resolve (name ++ "." ++ path) = s.resolve path := by
  intro name hname
  obtain ⟨first, rest, hsplit⟩ := Text.exists_split '.' path
  have hprefixed : Text.split '.' (name ++ "." ++ path) = name :: first :: rest := by
    have hdot : '.' ∉ name.toList := by
      revert name
      decide
    rw [← hsplit]
    simp [Text.split, Text.splitChars_append hdot]
  rw [resolve_of_split hpath hsplit, resolve_of_split (by simp) hprefixed, List.foldl_cons,
    s.start_custom name hname, start_of_not_hasField (h first (by rw [hsplit]; rfl))]
  rfl

end Student

/-! ### Records that become keyed structures -/

/-- One record, which is the value or somewhere inside it, becomes a keyed structure with the same
entries. -/
inductive Value.Rekeys : Value → Value → Prop
  | here (es : Record) : Rekeys (.record es) (.keyed es)
  | list (front back : List Value) {v w : Value} (h : Rekeys v w) :
    Rekeys (.list (front ++ v :: back)) (.list (front ++ w :: back))
  | record (front back : Record) (key : String) {v w : Value} (h : Rekeys v w) :
    Rekeys (.record (front ++ (key, v) :: back)) (.record (front ++ (key, w) :: back))
  | keyed (front back : Record) (key : String) {v w : Value} (h : Rekeys v w) :
    Rekeys (.keyed (front ++ (key, v) :: back)) (.keyed (front ++ (key, w) :: back))
  | form (kind : String) (front back : Record) (key : String) {v w : Value} (h : Rekeys v w) :
    Rekeys (.form kind (front ++ (key, v) :: back)) (.form kind (front ++ (key, w) :: back))

/-- One record inside an entry becomes a keyed structure. -/
inductive Record.Rekeys : Record → Record → Prop
  | entry (front back : Record) (key : String) {v w : Value} (h : v.Rekeys w) :
    Rekeys (front ++ (key, v) :: back) (front ++ (key, w) :: back)

namespace Record.Rekeys

variable {r r' : Record} (h : r.Rekeys r')

include h

/-- Under every key stands the same value, or one with the record that became a keyed structure. -/
theorem get? (key : String) :
    Option.Rel (ReflGen Value.Rekeys) (r.get? key) (r'.get? key) := by
  obtain ⟨front, back, k, h⟩ := h
  refine Record.get?_related .none ?_ (List.not_mem_nil : key ∉ [])
  have hsame (es : Record) : List.Forall₂ (fun e f => e.1 = f.1 ∧
      (e.1 ∈ [] ∨ Option.Rel (ReflGen Value.Rekeys) (some e.2) (some f.2))) es es :=
    List.forall₂_same.mpr fun e _ => ⟨rfl, .inr (.some .refl)⟩
  exact List.rel_append (hsame front) (.cons ⟨rfl, .inr (.some (.single h))⟩ (hsame back))

theorem get (key : String) : ReflGen Value.Rekeys (r.get key) (r'.get key) := by
  unfold Record.get
  generalize hx : r.get? key = x, hy : r'.get? key = y
  have hrel : Option.Rel (ReflGen Value.Rekeys) x y := hx ▸ hy ▸ h.get? key
  cases hrel with
  | none => exact .refl
  | some h => exact h

theorem fieldNamed (name : String) :
    ReflGen Value.Rekeys (r.fieldNamed name) (r'.fieldNamed name) := by
  unfold Record.fieldNamed
  generalize hx : r.get? name = x, hy : r'.get? name = y
  have hrel : Option.Rel (ReflGen Value.Rekeys) x y := hx ▸ hy ▸ h.get? name
  cases hrel with
  | none => exact h.get _
  | some h => exact h

/-- A record that is a field. -/
theorem field (front back : Record) (key : String) :
    Rekeys (front ++ (key, .record r) :: back) (front ++ (key, .record r') :: back) := by
  obtain ⟨front', back', k, h⟩ := h
  exact .entry front back key (.record front' back' k h)

end Record.Rekeys

namespace Value

/-- Whether a value is no keyed structure. -/
def isUnkeyed : Value → Bool
  | keyed _ => false
  | _ => true

namespace Rekeys

variable {v w : Value} (h : v.Rekeys w)

include h

/-- What came out is or holds a keyed structure. -/
theorem holdsKeyed : ¬w.everywhere isUnkeyed = true := by
  induction h with
  | here es => simp [everywhere, isUnkeyed]
  | list front back _ ih =>
    rw [everywhere_list]
    exact fun hall => ih (hall.2 _ (by simp))
  | record front back key _ ih =>
    rw [everywhere_record]
    exact fun hall => ih (hall.2 (key, _) (by simp))
  | keyed front back key _ ih =>
    rw [everywhere_keyed]
    exact fun hall => ih (hall.2 (key, _) (by simp))
  | form kind front back key _ ih =>
    rw [everywhere_form]
    exact fun hall => ih (hall.2 (key, _) (by simp))

theorem entry {key : String} (hkey : key ≠ "get") :
    ReflGen Rekeys (v.entry key) (w.entry key) := by
  cases h with
  | here es =>
    simp only [Value.entry, beq_eq_false_iff_ne.mpr hkey]
    exact .refl
  | list => exact .refl
  | record front back k h => exact Record.Rekeys.get (.entry front back k h) key
  | keyed front back k h =>
    simp only [Value.entry, beq_eq_false_iff_ne.mpr hkey]
    exact Record.Rekeys.get (.entry front back k h) key
  | form kind front back k h => exact Record.Rekeys.fieldNamed (.entry front back k h) key

end Rekeys

theorem isNull_of_rekeys {v w : Value} (h : ReflGen Rekeys v w) : v.isNull = w.isNull := by
  obtain _ | h := h
  · rfl
  · cases h <;> rfl

theorem foldl_entry_rekeys {v w : Value} (h : ReflGen Rekeys v w) {names : List String}
    (hnames : "get" ∉ names) :
    ReflGen Rekeys (names.foldl entry v) (names.foldl entry w) := by
  induction names generalizing v w with
  | nil => exact h
  | cons name names ih =>
    rw [List.mem_cons, not_or] at hnames
    refine ih ?_ hnames.2
    cases h with
    | refl => exact .refl
    | single h => exact h.entry (Ne.symm hnames.1)

end Value

namespace Student

variable {s : Student} {custom : Record}

theorem start_rekeys (h : s.customFields.Rekeys custom) (name : String) :
    ReflGen Value.Rekeys (s.start name) ({ s with customFields := custom }.start name) := by
  have hfields : Record.Rekeys s.toRecord ({ s with customFields := custom } : Student).toRecord :=
    h.field s.toRecord.dropLast [] "custom_fields"
  have hfield := hfields.fieldNamed name
  unfold start
  dsimp only
  rw [Value.isNull_of_rekeys hfield]
  split
  · exact h.get name
  · exact hfield

/-- One record becomes a keyed structure: a path leads to the same value, or to one that is or
holds the structure. -/
theorem resolve_rekeys (h : s.customFields.Rekeys custom) {path : String}
    (hget : "get" ∉ Text.split '.' path) :
    ReflGen Value.Rekeys (s.resolve path) ({ s with customFields := custom }.resolve path) := by
  by_cases hpath : path = ""
  · subst hpath
    exact .refl
  · obtain ⟨first, rest, hsplit⟩ := Text.exists_split '.' path
    rw [resolve_of_split hpath hsplit, resolve_of_split hpath hsplit]
    rw [hsplit, List.mem_cons, not_or] at hget
    exact Value.foldl_entry_rekeys (start_rekeys h first) hget.2

theorem resolve_many_rekeys (h : ReflTransGen Record.Rekeys s.customFields custom) {path : String}
    (hget : "get" ∉ Text.split '.' path) :
    ReflTransGen Value.Rekeys (s.resolve path)
      ({ s with customFields := custom }.resolve path) := by
  induction h with
  | refl => exact .refl
  | @tail custom custom' _ hstep ih =>
    have hone := resolve_rekeys (s := { s with customFields := custom }) hstep hget
    exact ih.trans hone.to_reflTransGen

/-- Paths into the custom fields. If the first name is no field, the path may as well start at the
custom fields. And unless it asks for `get`, records in the custom fields may as well be keyed
structures: the result is the same but for these structures themselves. -/
theorem resolve_customFields (s : Student) (path : String) :
    (path ≠ "" → (∀ first ∈ (Text.split '.' path).head?, ¬s.HasField first) →
      ∀ name ∈ customPrefixes, s.resolve (name ++ "." ++ path) = s.resolve path) ∧
      ("get" ∉ Text.split '.' path →
        ∀ custom, ReflTransGen Record.Rekeys s.customFields custom →
          let rekeyed := { s with customFields := custom }
          ReflTransGen Value.Rekeys (s.resolve path) (rekeyed.resolve path) ∧
            ((rekeyed.resolve path).everywhere Value.isUnkeyed = true →
              rekeyed.resolve path = s.resolve path)) := by
  refine ⟨resolve_prefixed, fun hget custom hcustom => ?_⟩
  have hresult := resolve_many_rekeys hcustom hget
  refine ⟨hresult, fun hunkeyed => ?_⟩
  obtain hsame | ⟨v, -, hstep⟩ := hresult.cases_tail
  · exact hsame
  · exact absurd hunkeyed hstep.holdsKeyed

/-- A record in a record, of which first the inner one and then the outer one becomes a keyed
structure. -/
theorem resolve_nested_pet :
    let dog : Record := [("age", .whole 3), ("name", .null)]
    let s : Student := { customFields := [("myPets", .record [("dog", .record dog)])] }
    let custom : Record := [("myPets", .keyed [("dog", .keyed dog)])]
    let rekeyed := { s with customFields := custom }
    let path := "myPets.dog.age"
    path ≠ "" ∧ (∀ first ∈ (Text.split '.' path).head?, ¬s.HasField first) ∧
      "get" ∉ Text.split '.' path ∧ ReflTransGen Record.Rekeys s.customFields custom ∧
      (s.resolve path).quantity? = some (.whole 3) ∧
      (∀ name ∈ customPrefixes, s.resolve (name ++ "." ++ path) = s.resolve path) ∧
      rekeyed.resolve path = s.resolve path := by
  intro dog s custom rekeyed path
  have hfirst : ∀ first ∈ (Text.split '.' path).head?, ¬s.HasField first := by decide +kernel
  have hget : "get" ∉ Text.split '.' path := by decide +kernel
  have hinner : Record.Rekeys s.customFields [("myPets", .record [("dog", .keyed dog)])] :=
    .entry [] [] "myPets" (.record [] [] "dog" (.here dog))
  have houter : Record.Rekeys [("myPets", .record [("dog", .keyed dog)])] custom :=
    .entry [] [] "myPets" (.here _)
  have hcustom : ReflTransGen Record.Rekeys s.customFields custom := .tail (.single hinner) houter
  have hvalue : (s.resolve path).quantity? = some (.whole 3) := by decide +kernel
  have hunkeyed : (rekeyed.resolve path).everywhere Value.isUnkeyed = true := by decide +kernel
  obtain ⟨hprefixed, hrekeyed⟩ := resolve_customFields s path
  exact ⟨by decide, hfirst, hget, hcustom, hvalue, hprefixed (by decide) hfirst,
    (hrekeyed hget custom hcustom).2 hunkeyed⟩

end Student

end Bursary
