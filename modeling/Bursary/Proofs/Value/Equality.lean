import Mathlib.Data.List.Nodup
import Mathlib.Data.List.Perm.Subperm
import Bursary.Proofs.Value.Writable

/-! Equality of values is symmetric. It looks up the entries of one record in the other, so this
rests on keys that are distinct, as those of a record are meant to be: then two records of one size
whose entries are found in one direction have the same keys, and are found in the other. -/

namespace Bursary

attribute [local irreducible] Binary64.unitsPerOne Binary64.unitLimit

theorem Binary64.equals_comm (x y : Binary64) : x.equals y = y.equals x := by
  rw [Bool.eq_iff_iff, equals_iff, equals_iff]
  constructor <;> exact fun ⟨hx, hy, h⟩ => ⟨hy, hx, h.symm⟩

/-! ### Distinct keys -/

namespace Record

variable {r r' : Record}

/-- No two entries have one key. -/
def DistinctKeys (r : Record) : Prop := (r.map (·.1)).Nodup

instance (r : Record) : Decidable r.DistinctKeys := inferInstanceAs (Decidable (List.Nodup _))

theorem mem_of_get? {key : String} {v : Value} (h : r.get? key = some v) : (key, v) ∈ r := by
  obtain ⟨⟨k, w⟩, hfound, rfl⟩ := Option.map_eq_some_iff.mp h
  obtain rfl : k = key := by simpa using List.find?_some hfound
  exact List.mem_of_find?_eq_some hfound

theorem exists_get? {key : String} (h : key ∈ r.map (·.1)) : ∃ v, r.get? key = some v := by
  cases hfound : r.get? key with
  | some v => exact ⟨v, rfl⟩
  | none =>
    obtain ⟨e, he, rfl⟩ := List.mem_map.mp h
    have hnone := List.find?_eq_none.mp (Option.map_eq_none_iff.mp hfound) e he
    exact absurd (beq_self_eq_true e.1) hnone

theorem DistinctKeys.eq_of_mem (hr : r.DistinctKeys) {key : String} {v w : Value}
    (hv : (key, v) ∈ r) (hw : (key, w) ∈ r) : v = w :=
  congrArg Prod.snd (List.inj_on_of_nodup_map hr hv hw rfl)

/-- Where one record has all keys of another, and no more entries, they have the same keys. -/
theorem keys_perm (hr : r.DistinctKeys) (hlength : r.length = r'.length)
    (hkeys : ∀ e ∈ r, ∃ w, r'.get? e.1 = some w) : (r.map (·.1)).Perm (r'.map (·.1)) := by
  refine (List.subperm_of_subset hr fun key hkey => ?_).perm_of_length_le (by simp [hlength])
  obtain ⟨e, he, rfl⟩ := List.mem_map.mp hkey
  obtain ⟨w, hw⟩ := hkeys e he
  exact List.mem_map.mpr ⟨(e.1, w), mem_of_get? hw, rfl⟩

end Record

/-! ### Equality -/

namespace Value

/-- Whether the keys of a record are distinct, if the value holds one. -/
def hasDistinctKeys : Value → Bool
  | record es => decide (Record.DistinctKeys es)
  | keyed es => decide (Record.DistinctKeys es)
  | form _ es => decide (Record.DistinctKeys es)
  | _ => true

theorem equalNumbers_comm (v w : Value) : v.equalNumbers w = w.equalNumbers v := by
  cases v <;> cases w <;>
    first | rfl | exact Binary64.equals_comm _ _ | exact Bool.beq_comm

theorem equalEntries_iff {es fs : Record} :
    equalEntries es fs = true ↔ ∀ e ∈ es, ∃ w, fs.get? e.1 = some w ∧ e.2.equals w = true := by
  induction es with
  | nil => simp [equalEntries]
  | cons e es ih =>
    obtain ⟨k, v⟩ := e
    simp only [equalEntries, Bool.and_eq_true, ih, List.forall_mem_cons]
    cases fs.get? k <;> simp

/-- Entries that are found in a record of the same size are found there by its own entries. -/
theorem equalEntries_symm {es fs : Record} (hes : es.DistinctKeys) (hlength : es.length = fs.length)
    (hsymm : ∀ e ∈ es, ∀ w : Value, e.2.equals w = true → w.equals e.2 = true)
    (h : equalEntries es fs = true) : equalEntries fs es = true := by
  rw [equalEntries_iff] at h ⊢
  have hperm := Record.keys_perm hes hlength fun e he => (h e he).imp fun w hw => hw.1
  have hfs : fs.DistinctKeys := hperm.nodup hes
  rintro ⟨k, w⟩ hw
  obtain ⟨v, hv⟩ := Record.exists_get? (hperm.mem_iff.mpr (List.mem_map.mpr ⟨(k, w), hw, rfl⟩))
  obtain ⟨w', hw', heq⟩ := h (k, v) (Record.mem_of_get? hv)
  obtain rfl := hfs.eq_of_mem hw (Record.mem_of_get? hw')
  exact ⟨v, hv, hsymm (k, v) (Record.mem_of_get? hv) w heq⟩

mutual

theorem equals_symm : ∀ {v : Value}, v.everywhere hasDistinctKeys = true → ∀ w : Value,
    v.equals w = true → w.equals v = true
  | list xs, h, w, heq => by
    cases w with
    | list ys =>
      rw [equals] at heq ⊢
      rw [everywhere, Bool.and_eq_true] at h
      exact equalLists_symm h.2 ys heq
    | _ => simp [equals, equalNumbers] at heq
  | record es, h, w, heq => by
    cases w with
    | record fs =>
      rw [everywhere, Bool.and_eq_true] at h
      rw [equals, Bool.and_eq_true, beq_iff_eq] at heq ⊢
      exact ⟨heq.1.symm, equalEntries_symm (of_decide_eq_true h.1) heq.1 (entries_symm h.2) heq.2⟩
    | _ => simp [equals, equalNumbers] at heq
  | form kind es, h, w, heq => by
    cases w with
    | form kind' fs =>
      rw [everywhere, Bool.and_eq_true] at h
      simp only [equals, Bool.and_eq_true, beq_iff_eq] at heq ⊢
      exact ⟨⟨heq.1.1.symm, heq.1.2.symm⟩,
        equalEntries_symm (of_decide_eq_true h.1) heq.1.2 (entries_symm h.2) heq.2⟩
    | _ => simp [equals, equalNumbers] at heq
  | null, _, w, heq => by
    cases w with
    | null => exact heq
    | _ => simp [equals, equalNumbers] at heq
  | text s, _, w, heq => by
    cases w with
    | text t =>
      rw [equals, beq_iff_eq] at heq ⊢
      exact heq.symm
    | _ => simp [equals, equalNumbers] at heq
  | flag b, _, w, heq => by
    cases w <;> simp only [equals] at heq ⊢ <;> rw [equalNumbers_comm] <;> exact heq
  | whole i, _, w, heq => by
    cases w <;> simp only [equals] at heq ⊢ <;> rw [equalNumbers_comm] <;> exact heq
  | real x, _, w, heq => by
    cases w <;> simp only [equals] at heq ⊢ <;> rw [equalNumbers_comm] <;> exact heq
  | keyed es, _, w, heq => by
    cases w <;> simp [equals, equalNumbers] at heq

theorem equalLists_symm : ∀ {xs : List Value}, everywhereItems hasDistinctKeys xs = true →
    ∀ ys : List Value, equalLists xs ys = true → equalLists ys xs = true
  | [], _, ys, heq => by cases ys <;> simp [equalLists] at heq ⊢
  | x :: xs, h, ys, heq => by
    cases ys with
    | nil => simp [equalLists] at heq
    | cons y ys =>
      rw [everywhereItems, Bool.and_eq_true] at h
      rw [equalLists, Bool.and_eq_true] at heq ⊢
      exact ⟨equals_symm h.1 y heq.1, equalLists_symm h.2 ys heq.2⟩

theorem entries_symm : ∀ {es : List (String × Value)}, everywhereEntries hasDistinctKeys es = true →
    ∀ e ∈ es, ∀ w : Value, e.2.equals w = true → w.equals e.2 = true
  | [], _, e, he => nomatch he
  | (k, v) :: es, h, e, he => by
    rw [everywhereEntries, Bool.and_eq_true] at h
    rcases List.mem_cons.mp he with rfl | he
    · exact equals_symm h.1
    · exact entries_symm h.2 e he

end

end Value

end Bursary
