import Mathlib.Data.List.Forall2
import Bursary.Value.Reading

/-! Records that agree but at some keys. What is read at other keys is the same, and where several
keys are tried in turn, related values under all of them give related readings. -/

namespace Bursary.Record

/-- Records with the same values at all keys but those of a list. -/
def AgreeBut (keys : List String) (r r' : Record) : Prop := ∀ key ∉ keys, r.get? key = r'.get? key

/-- What is found under a key is related if all entries are, but for some of other keys. -/
theorem get?_related {Q : Option Value → Option Value → Prop} (hnone : Q none none)
    {keys : List String} {r r' : Record}
    (h : List.Forall₂ (fun e f => e.1 = f.1 ∧ (e.1 ∈ keys ∨ Q (some e.2) (some f.2))) r r')
    {key : String} (hkey : key ∉ keys) : Q (r.get? key) (r'.get? key) := by
  induction h with
  | nil => exact hnone
  | @cons e f r r' hef _ ih =>
    obtain ⟨hsame, hvalue⟩ := hef
    simp only [get?, List.find?_cons, ← hsame] at ih ⊢
    split
    case h_1 hfound =>
      obtain rfl : e.1 = key := eq_of_beq hfound
      exact hvalue.resolve_left hkey
    case h_2 => exact ih

theorem agreeBut_of_forall₂ {keys : List String} {r r' : Record}
    (h : List.Forall₂ (fun e f => e.1 = f.1 ∧ (e.1 ∈ keys ∨ some e.2 = some f.2)) r r') :
    AgreeBut keys r r' :=
  fun _ hkey => get?_related rfl h hkey

theorem get_related {R : Value → Value → Prop} (hnull : R .null .null) {keys : List String}
    {r r' : Record} (h : List.Forall₂ (fun e f => e.1 = f.1 ∧ (e.1 ∈ keys ∨ R e.2 f.2)) r r')
    {key : String} (hkey : key ∉ keys) : R (r.get key) (r'.get key) :=
  get?_related (Q := fun x y => R (x.getD .null) (y.getD .null)) hnull h hkey

theorem firstTruthy_cons (r : Record) (key : String) (keys : List String) :
    r.firstTruthy (key :: keys) =
      if (r.get key).isTruthy then r.get key else r.firstTruthy keys := by
  rw [firstTruthy, List.map_cons, List.find?_cons]
  cases (r.get key).isTruthy <;> rfl

section Related

variable {R : Value → Value → Prop} {r r' : Record} {tried : List String}

/-- A test that related values pass alike finds related values. -/
theorem find?_related {p : Value → Bool} (hp : ∀ v w, R v w → p v = p w) (hnull : R .null .null)
    (h : ∀ key ∈ tried, R (r.get key) (r'.get key)) :
    R (((tried.map r.get).find? p).getD .null) (((tried.map r'.get).find? p).getD .null) := by
  induction tried with
  | nil => exact hnull
  | cons key tried ih =>
    obtain ⟨hkey, hrest⟩ := List.forall_mem_cons.mp h
    simp only [List.map_cons, List.find?_cons, hp _ _ hkey]
    split
    · exact hkey
    · exact ih hrest

theorem first_related (hR : ∀ v w, R v w → v.isNull = w.isNull) (hnull : R .null .null)
    (h : ∀ key ∈ tried, R (r.get key) (r'.get key)) : R (r.first tried) (r'.first tried) :=
  find?_related (fun v w hvw => by rw [hR v w hvw]) hnull h

theorem firstTruthy_related (hR : ∀ v w, R v w → v.isTruthy = w.isTruthy) (hnull : R .null .null)
    (h : ∀ key ∈ tried, R (r.get key) (r'.get key)) :
    R (r.firstTruthy tried) (r'.firstTruthy tried) :=
  find?_related hR hnull h

end Related

namespace AgreeBut

variable {keys : List String} {r r' : Record} (h : AgreeBut keys r r')

include h

theorem get? {key : String} (hkey : key ∉ keys) : r.get? key = r'.get? key := h key hkey

theorem get {key : String} (hkey : key ∉ keys) : r.get key = r'.get key := by
  rw [Record.get, Record.get, h key hkey]

theorem first {tried : List String} (htried : ∀ key ∈ tried, key ∉ keys) :
    r.first tried = r'.first tried :=
  first_related (fun v w hvw => by rw [hvw]) rfl fun key hkey => h.get (htried key hkey)

theorem firstTruthy {tried : List String} (htried : ∀ key ∈ tried, key ∉ keys) :
    r.firstTruthy tried = r'.firstTruthy tried :=
  firstTruthy_related (fun v w hvw => by rw [hvw]) rfl fun key hkey => h.get (htried key hkey)

end AgreeBut

end Bursary.Record
