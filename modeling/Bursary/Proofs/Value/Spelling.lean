import Mathlib.Data.List.Basic
import Mathlib.Data.List.TakeWhile
import Bursary.Proofs.Text.Padding
import Bursary.Proofs.Value.Writable

/-! What a value spells. Readings make a text of any value, trim it and take its lower case, but
only a text comes out as a word that way. The text of a number, list, record or form has a mark in
it that no word has, and the few texts without one are no words either. -/

namespace Bursary

attribute [local irreducible] Binary64.unitsPerOne Binary64.unitLimit Value.digitBound

/-! ### Marks -/

namespace Text

/-- Digits, the point, the brackets that open lists and records, and the sign between the name of a
field and its value. -/
def marks : List Char :=
  ['0', '1', '2', '3', '4', '5', '6', '7', '8', '9', '.', '[', '\x7b', '=']

theorem mem_marks_of_isDigit {c : Char} (h : c.isDigit = true) : c ∈ marks := by
  have hdigits : ∀ n < 10, Char.ofNat (n + 48) ∈ marks := by decide
  simp only [Char.isDigit, Bool.and_eq_true, decide_eq_true_eq, ge_iff_le,
    UInt32.le_iff_toNat_le] at h
  have hlow : 48 ≤ c.toNat := h.1
  have hhigh : c.toNat ≤ 57 := h.2
  have hat := hdigits (c.toNat - 48) (by omega)
  rwa [Nat.sub_add_cancel hlow, Char.ofNat_toNat] at hat

theorem mem_trimBy {p : Char → Bool} {c : Char} {cs : List Char} (hc : c ∈ cs) (hp : p c = false) :
    c ∈ trimBy p cs := by
  have hkept {cs : List Char} (hc : c ∈ cs) : c ∈ cs.dropWhile p := by
    rw [← List.takeWhile_append_dropWhile (p := p) (l := cs), List.mem_append] at hc
    rcases hc with hc | hc
    · rw [List.mem_takeWhile_imp hc] at hp
      cases hp
    · exact hc
  rw [trimBy, List.mem_reverse]
  exact hkept (List.mem_reverse.mpr (hkept hc))

theorem mem_lowerFrom {c : Char} {cs : List Char} (hc : c ∈ cs) (hsigma : (c == 'Σ') = false)
    (hlower : lowerChar c = [c]) (before : List Char) : c ∈ lowerFrom before cs := by
  induction cs generalizing before with
  | nil => cases hc
  | cons d cs ih =>
    rw [lowerFrom, List.mem_append]
    rcases List.mem_cons.mp hc with rfl | hc
    · rw [hsigma, hlower]
      exact .inl (List.mem_singleton.mpr rfl)
    · exact .inr (ih hc (d :: before))

/-- Marks are neither trimmed nor changed by taking the lower case. -/
theorem mark_mem_lower_trim {s : String} {c : Char} (hc : c ∈ s.toList) (hmark : c ∈ marks) :
    c ∈ (lower (trim s)).toList := by
  have hplain : ∀ c ∈ marks, isBlank c = false ∧ (c == 'Σ') = false ∧ lowerChar c = [c] :=
    List.forall_iff_forall_mem.mp (by decide)
  obtain ⟨hblank, hsigma, hlower⟩ := hplain c hmark
  rw [lower, trim, String.toList_ofList, String.toList_ofList]
  exact mem_lowerFrom (mem_trimBy hc hblank) hsigma hlower []

theorem lowerChar_ne_nil (c : Char) : lowerChar c ≠ [] := by
  have hwords : ∀ e ∈ CaseTable.lowerWords, e.2 ≠ [] := by decide +kernel
  unfold lowerChar recase
  split
  · exact List.cons_ne_nil _ _
  split
  case h_1 n word hfound =>
    rw [ne_eq, List.map_eq_nil_iff]
    exact hwords (n, word) (List.mem_of_find?_eq_some hfound)
  case h_2 =>
    split <;> exact List.cons_ne_nil _ _

theorem lower_eq_empty_iff {s : String} : lower s = "" ↔ s = "" := by
  rw [← String.toList_inj, ← String.toList_inj, lower, String.toList_ofList, lowerChars]
  cases s.toList with
  | nil => exact iff_of_true rfl rfl
  | cons c cs =>
    refine iff_of_false (fun h => ?_) (List.cons_ne_nil c cs)
    rw [lowerFrom] at h
    have hhead := (List.append_eq_nil_iff.mp h).1
    split at hhead
    · cases hhead
    · exact lowerChar_ne_nil c hhead

/-- The texts without a mark that values other than texts have, if they are not blank. -/
def unmarked : List String := ["True", "False", "nan", "inf", "-inf"]

/-- A text in lower case that only a text comes to: it has no mark, and is neither empty nor one of
the texts without a mark. -/
structure IsWord (w : String) : Prop where
  ne_empty : w ≠ ""
  no_mark : ∀ c ∈ w.toList, c ∉ marks
  ne_unmarked : w ∉ unmarked.map fun s => lower (trim s)

instance (w : String) : Decidable (IsWord w) :=
  -- Another instance decides such a statement by going through every character there is.
  letI : Decidable (∀ c ∈ w.toList, c ∉ marks) := List.decidableBAll _ _
  decidable_of_iff (w ≠ "" ∧ (∀ c ∈ w.toList, c ∉ marks) ∧
      w ∉ unmarked.map fun s => lower (trim s))
    ⟨fun h => ⟨h.1, h.2.1, h.2.2⟩, fun h => ⟨h.ne_empty, h.no_mark, h.ne_unmarked⟩⟩

/-- Whether there is a mark in a text. -/
def IsMarked (s : String) : Prop := ∃ c ∈ s.toList, c ∈ marks

theorem IsMarked.append_left {s : String} (h : IsMarked s) (t : String) : IsMarked (s ++ t) := by
  obtain ⟨c, hc, hmark⟩ := h
  exact ⟨c, by rw [String.toList_append]; exact List.mem_append_left _ hc, hmark⟩

end Text

open Text (IsMarked IsWord)

/-! ### Texts of numbers -/

namespace Decimal

theorem exists_mark_digits (n : Nat) : ∃ c ∈ digits n, c ∈ Text.marks := by
  obtain ⟨c, rest, hdigits⟩ := List.exists_cons_of_ne_nil (Nat.toDigits_ne_nil (n := n) (b := 10))
  have hc : c ∈ digits n := by
    rw [digits, hdigits]
    exact List.mem_cons_self
  exact ⟨c, hc, Text.mem_marks_of_isDigit (Nat.isDigit_of_mem_toDigits (by decide) (by decide) hc)⟩

/-- The shortest text of a number has a point, or else an exponent. -/
theorem exists_mark_shortestDigits (units : Nat) :
    ∃ c ∈ shortestDigits units, c ∈ Text.marks := by
  have hpoint : '.' ∈ Text.marks := by decide
  unfold shortestDigits
  split
  · exact ⟨'.', by decide, hpoint⟩
  generalize shortest units = found
  obtain ⟨n, position⟩ := found
  dsimp only
  split
  · -- the digits may all be dropped as zeros, but not those of the exponent
    obtain ⟨c, hc, hmark⟩ := exists_mark_digits
      (position + ((digits n).length - 1 : Nat)).natAbs
    refine ⟨c, ?_, hmark⟩
    simp [scientific, exponentMark, padded, hc]
  split
  · split
    case isTrue hdot => exact ⟨'.', List.contains_iff_mem.mp hdot, hpoint⟩
    case isFalse => exact ⟨'.', by simp, hpoint⟩
  · exact ⟨'.', by simp, hpoint⟩

theorem isMarked_shortestText (x : Binary64) :
    shortestText x ∈ Text.unmarked ∨ IsMarked (shortestText x) := by
  cases x with
  | nan => exact .inl (by decide)
  | infinite s => cases s <;> exact .inl (by decide)
  | finite s u h =>
    obtain ⟨c, hc, hmark⟩ := exists_mark_shortestDigits u
    refine .inr ⟨c, ?_, hmark⟩
    rw [shortestText, textWith, String.toList_ofList]
    exact List.mem_append_right _ hc

end Decimal

/-! ### Texts of values -/

namespace Value

variable {v : Value} {s : String}

theorem isMarked_wholeText {i : Int} (h : wholeText i = .ok s) : IsMarked s := by
  unfold wholeText at h
  split at h
  · cases h
    obtain ⟨c, hc, hmark⟩ := Decimal.exists_mark_digits i.natAbs
    exact ⟨c, by rw [String.toList_ofList]; exact List.mem_append_right _ hc, hmark⟩
  · cases h

theorem inside_eq_ok {α : Type} {room : Nat} {write : Nat → Except Failure α} {a : α} :
    inside room write = .ok a ↔ ∃ inner, room = inner + 1 ∧ write inner = .ok a := by
  cases room with
  | zero => exact iff_of_false nofun (by rintro ⟨_, ⟨⟩, -⟩)
  | succ room => simp [inside]

/-- The first field of a form shows a sign of equality. -/
theorem isMarked_fieldsText {room : Nat} {fields : Record} {items : List String}
    (h : displayFields room fields = .ok items) (hne : fields ≠ []) :
    IsMarked (" ".intercalate items) := by
  obtain ⟨⟨k, w⟩, fields, rfl⟩ := List.exists_cons_of_ne_nil hne
  simp only [displayFields, bind_eq_ok, pure_eq_ok] at h
  obtain ⟨shown, -, rest, -, rfl⟩ := h
  have hfirst : IsMarked (k ++ "=" ++ shown) := ⟨'=', by simp, by decide⟩
  cases rest with
  | nil => rwa [String.intercalate_singleton]
  | cons t rest =>
    rw [String.intercalate_cons_cons, String.append_assoc]
    exact hfirst.append_left _

/-- What a text spells, blanks around it and its letter case aside. -/
def spelling : Value → Option String
  | text s => some (Text.lower (Text.trim s))
  | _ => none

/-- Whether nothing is spelled at all; a form shows its fields alone and may have none. -/
def isBlank : Value → Bool
  | null => true
  | text s => (Text.trim s).isEmpty
  | form _ fields => fields.isEmpty
  | _ => false

/-- The text of a value that is neither a text nor blank has a mark or is one of a few. -/
theorem isMarked_of_asText (h : v.asText = .ok s) (hv : ∀ t, v ≠ text t)
    (hblank : v.isBlank = false) : s ∈ Text.unmarked ∨ IsMarked s := by
  have hopening {c : Char} (hc : c ∈ Text.marks) (t closing : String) :
      IsMarked (String.singleton c ++ t ++ closing) := ⟨c, by simp, hc⟩
  cases v with
  | null => cases hblank
  | flag b =>
    cases h
    cases b <;> exact .inl (by decide)
  | whole i => exact .inr (isMarked_wholeText h)
  | real x =>
    cases h
    exact Decimal.isMarked_shortestText x
  | text t => exact absurd rfl (hv t)
  | list xs =>
    obtain ⟨items, -, rfl⟩ := map_eq_ok.mp h
    exact .inr (hopening (c := '[') (by decide) _ _)
  | record es =>
    obtain ⟨items, -, rfl⟩ := map_eq_ok.mp h
    exact .inr (hopening (c := '\x7b') (by decide) _ _)
  | keyed es =>
    obtain ⟨items, -, rfl⟩ := map_eq_ok.mp h
    exact .inr (hopening (c := '\x7b') (by decide) _ _)
  | form kind fields =>
    obtain ⟨items, hitems, rfl⟩ := map_eq_ok.mp h
    obtain ⟨room, -, hitems⟩ := inside_eq_ok.mp hitems
    refine .inr (isMarked_fieldsText hitems ?_)
    rintro rfl
    cases hblank

/-! ### Readings as text -/

section Read

variable (h : v.toText = .ok s)

include h

theorem toText_of_isBlank (hblank : v.isBlank = true) : s = "" := by
  cases v with
  | null =>
    cases h
    rfl
  | text t =>
    cases h
    exact String.isEmpty_iff.mp hblank
  | form kind fields =>
    obtain rfl : fields = [] := List.isEmpty_iff.mp hblank
    cases h
    decide
  | _ => cases hblank

/-- Read as a text, another value than a text keeps its mark, unless it is blank. -/
theorem isMarked_toText (hv : ∀ t, v ≠ text t) (hblank : v.isBlank = false) :
    ∃ t, s = Text.trim t ∧ (t ∈ Text.unmarked ∨ IsMarked t) := by
  have htext : v.toText = v.asText.map Text.trim := by
    cases v with
    | null => cases hblank
    | _ => rfl
  rw [htext] at h
  obtain ⟨t, ht, rfl⟩ := map_eq_ok.mp h
  exact ⟨t, rfl, isMarked_of_asText ht hv hblank⟩

/-- A value that is read as a word is a text that spells it. -/
theorem lower_toText_eq_iff {w : String} (hw : IsWord w) :
    Text.lower s = w ↔ v.spelling = some w := by
  by_cases hv : ∃ t, v = text t
  · obtain ⟨t, rfl⟩ := hv
    cases h
    exact (Option.some_inj).symm
  · have hother (t : String) : v ≠ text t := fun heq => hv ⟨t, heq⟩
    have hnone : v.spelling = none := by
      cases v with
      | text t => exact absurd rfl (hother t)
      | _ => rfl
    rw [hnone]
    refine iff_of_false (fun heq => ?_) nofun
    cases hblank : v.isBlank with
    | true =>
      obtain rfl := toText_of_isBlank h hblank
      exact hw.ne_empty heq.symm
    | false =>
      obtain ⟨t, rfl, hplain | ⟨c, hc, hmark⟩⟩ := isMarked_toText h hother hblank
      · exact hw.ne_unmarked (List.mem_map.mpr ⟨t, hplain, heq⟩)
      · have hin := Text.mark_mem_lower_trim hc hmark
        rw [heq] at hin
        exact hw.no_mark c hin hmark

/-- A value that is read as an empty text is blank. -/
theorem toText_eq_empty_iff : s = "" ↔ v.isBlank = true := by
  refine ⟨fun hs => ?_, toText_of_isBlank h⟩
  by_contra hblank
  rw [Bool.not_eq_true] at hblank
  by_cases hv : ∃ t, v = text t
  · obtain ⟨t, rfl⟩ := hv
    cases h
    rw [isBlank, hs] at hblank
    cases hblank
  · obtain ⟨t, rfl, hplain | ⟨c, hc, hmark⟩⟩ := isMarked_toText h (fun t heq => hv ⟨t, heq⟩) hblank
    · have hall : ∀ t ∈ Text.unmarked, Text.trim t ≠ "" := by decide
      exact hall t hplain hs
    · have hin := Text.mark_mem_lower_trim hc hmark
      rw [hs] at hin
      cases hin

end Read

end Value

end Bursary
