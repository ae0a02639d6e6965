import Bursary.Proofs.Outcome
import Bursary.Proofs.Text.LetterCase
import Bursary.Value.Reading

/-! Values that differ in the case of ASCII letters only, be it in a text or in the texts inside a
list or record. They count as given alike, and their own texts differ only in the case of letters.
-/

namespace Bursary.Value

attribute [local irreducible] digitBound

mutual

/-- A value with the ASCII letters of all its texts made small. -/
def small : Value → Value
  | text s => text (Text.small s)
  | list xs => list (smallItems xs)
  | record es => record (smallEntries es)
  | keyed es => keyed (smallEntries es)
  | v => v

def smallItems : List Value → List Value
  | [] => []
  | x :: xs => small x :: smallItems xs

def smallEntries : List (String × Value) → List (String × Value)
  | [] => []
  | (k, v) :: es => (Text.small k, small v) :: smallEntries es

end

/-- Values that differ at most in the case of ASCII letters. -/
def SameLetters (v w : Value) : Prop := v.small = w.small

theorem sameLetters_text {s t : String} (h : Text.SameLetters s t) :
    SameLetters (text s) (text t) :=
  congrArg text h

theorem isTruthy_small (v : Value) : v.small.isTruthy = v.isTruthy := by
  cases v with
  | text s =>
    show (!(Text.small s).isEmpty) = _
    rw [Text.isEmpty_small]
    rfl
  | list xs => cases xs <;> rfl
  | record es => cases es <;> rfl
  | _ => rfl

theorem SameLetters.isTruthy {v w : Value} (h : v.SameLetters w) : v.isTruthy = w.isTruthy := by
  rw [← isTruthy_small v, h, isTruthy_small]

/-! ### Texts of values -/

/-- Texts in brackets, with commas between them. -/
def bracketed (opening closing : String) (items : List String) : String :=
  opening ++ ", ".intercalate items ++ closing

theorem small_bracketed {opening closing : String} {items items' : List String}
    (h : items.map Text.small = items'.map Text.small) :
    Text.small (bracketed opening closing items) =
      Text.small (bracketed opening closing items') := by
  simp only [bracketed, Text.small_append, Text.small_intercalate, h]

theorem inside_alike {α β : Type} {R : α → β → Prop} {write : Nat → Except Failure α}
    {write' : Nat → Except Failure β} (h : ∀ room, Alike R (write room) (write' room))
    (room : Nat) : Alike R (inside room write) (inside room write') := by
  cases room with
  | zero => exact .error _
  | succ room => exact h room

mutual

theorem displayWithin_small : ∀ (room : Nat) (v : Value),
    Alike (fun s t => Text.small s = Text.small t) (displayWithin room v.small)
      (displayWithin room v)
  | _, null => .ok rfl
  | _, flag _ => .ok rfl
  | _, whole _ => alike_iff_map_eq.mpr rfl
  | _, real _ => .ok rfl
  | _, text s => .ok (Text.small_quoted s)
  | room, list xs =>
    (inside_alike (fun room => displayItems_small room xs) room).map fun _ _ => small_bracketed
  | room, record es | room, keyed es =>
    (inside_alike (fun room => displayEntries_small room es) room).map fun _ _ => small_bracketed
  | _, form _ _ => alike_iff_map_eq.mpr rfl

theorem displayItems_small : ∀ (room : Nat) (xs : List Value),
    Alike (fun ss ts => ss.map Text.small = ts.map Text.small)
      (displayItems room (smallItems xs)) (displayItems room xs)
  | _, [] => .ok rfl
  | room, x :: xs => (displayWithin_small room x).bind fun _ _ h =>
      (displayItems_small room xs).bind fun _ _ hs =>
        .ok (by rw [List.map_cons, List.map_cons, h, hs])

theorem displayEntries_small : ∀ (room : Nat) (es : List (String × Value)),
    Alike (fun ss ts => ss.map Text.small = ts.map Text.small)
      (displayEntries room (smallEntries es)) (displayEntries room es)
  | _, [] => .ok rfl
  | room, (k, v) :: es => (displayWithin_small room v).bind fun _ _ h =>
      (displayEntries_small room es).bind fun _ _ hs => .ok (by
        simp only [List.map_cons, Text.small_append, Text.small_quoted, h, hs])

end

theorem asText_small (v : Value) :
    v.small.asText.map Text.small = v.asText.map Text.small := by
  cases v with
  | text s => exact congrArg Except.ok (Text.small_small s)
  | form kind fields => rfl
  | list xs => exact alike_iff_map_eq.mp (displayWithin_small _ (list xs))
  | record es => exact alike_iff_map_eq.mp (displayWithin_small _ (record es))
  | keyed es => exact alike_iff_map_eq.mp (displayWithin_small _ (keyed es))
  | _ => rfl

namespace SameLetters

variable {v w : Value} (h : v.SameLetters w)

include h

theorem asText : Alike Text.SameLetters v.asText w.asText := by
  refine alike_iff_map_eq.mpr ?_
  rw [← asText_small v, h, asText_small]

theorem toText : Alike Text.SameLetters v.toText w.toText := by
  have hnull {v : Value} : v.small = null ↔ v = null := by cases v <;> simp [small]
  have hshown {v : Value} (hv : v ≠ null) : v.toText = v.asText.map Text.trim := by
    cases v with
    | null => exact absurd rfl hv
    | _ => rfl
  by_cases hv : v = null
  · obtain rfl := hv
    obtain rfl : w = null := hnull.mp h.symm
    exact .ok rfl
  · have hw : w ≠ null := fun hw => hv (hnull.mp (h.trans (hnull.mpr hw)))
    rw [hshown hv, hshown hw]
    exact h.asText.map fun s t hst => hst.trim

theorem textIfGiven :
    Alike (fun s t => s.map Text.small = t.map Text.small) v.textIfGiven w.textIfGiven := by
  unfold Value.textIfGiven
  rw [h.isTruthy]
  split
  · exact h.asText.map fun s t hst => congrArg some hst
  · exact .ok rfl

end SameLetters

end Bursary.Value
