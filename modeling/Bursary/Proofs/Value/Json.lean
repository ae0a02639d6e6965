import Bursary.Proofs.Value.Equality
import Bursary.Value.Json

/-! What JSON text spells. A record is filled entry by entry, and a later entry for a key replaces
an earlier one, so the keys of every record inside a value that was read are distinct. -/

namespace Bursary

namespace Record

variable {r : Record}

theorem mem_set {key : String} {v : Value} {e : String × Value} (h : e ∈ r.set key v) :
    e = (key, v) ∨ e ∈ r := by
  induction r with
  | nil => exact .inl (List.mem_singleton.mp h)
  | cons e' r ih =>
    rw [set] at h
    split at h
    · exact (List.mem_cons.mp h).imp_right (List.mem_cons_of_mem _)
    · rcases List.mem_cons.mp h with rfl | h
      · exact .inr List.mem_cons_self
      · exact (ih h).imp_right (List.mem_cons_of_mem _)

theorem distinctKeys_set (h : r.DistinctKeys) (key : String) (v : Value) :
    (r.set key v).DistinctKeys := by
  induction r with
  | nil => simp [set, DistinctKeys]
  | cons e r ih =>
    obtain ⟨k, w⟩ := e
    rw [DistinctKeys, List.map_cons, List.nodup_cons] at h
    rw [set]
    split
    case isTrue hk =>
      obtain rfl : k = key := eq_of_beq hk
      exact List.nodup_cons.mpr h
    case isFalse hk =>
      refine List.nodup_cons.mpr ⟨fun hmem => ?_, ih h.2⟩
      obtain ⟨e, he, hkey⟩ := List.mem_map.mp hmem
      rcases mem_set he with rfl | he
      · exact hk (beq_iff_eq.mpr hkey.symm)
      · exact h.1 (List.mem_map.mpr ⟨e, he, hkey⟩)

/-- Filling in one entry after the other keeps what holds of all of them. -/
theorem ofEntries_induction {P : Record → Prop} {entries : List (String × Value)} (hnil : P [])
    (hset : ∀ (r : Record) (e), e ∈ entries → P r → P (r.set e.1 e.2)) : P (ofEntries entries) := by
  unfold ofEntries
  generalize ([] : Record) = start at hnil ⊢
  induction entries generalizing start with
  | nil => exact hnil
  | cons e entries ih =>
    exact ih (fun r e' he' => hset r e' (List.mem_cons_of_mem e he')) _
      (hset start e List.mem_cons_self hnil)

theorem distinctKeys_ofEntries (entries : List (String × Value)) :
    (ofEntries entries).DistinctKeys :=
  ofEntries_induction List.nodup_nil fun _ e _ h => distinctKeys_set h e.1 e.2

theorem everywhere_ofEntries {p : Value → Bool} {entries : List (String × Value)}
    (h : Everywhere p entries) : (ofEntries entries).Everywhere p := by
  refine ofEntries_induction (fun e he => nomatch he) fun r e he hr e' he' => ?_
  rcases mem_set he' with rfl | he'
  · exact h e he
  · exact hr e' he'

end Record

namespace Json

open Value

theorem hasDistinctKeys_word {c after : Cursor} {v : Value} (h : word? c = some (v, after)) :
    v.everywhere hasDistinctKeys = true := by
  obtain ⟨⟨w, v'⟩, hfound, heq⟩ := Option.map_eq_some_iff.mp h
  cases heq
  have hmem := List.mem_of_find?_eq_some hfound
  simp only [words, List.mem_cons, Prod.mk.injEq, List.not_mem_nil, or_false] at hmem
  rcases hmem with ⟨-, rfl⟩ | ⟨-, rfl⟩ | ⟨-, rfl⟩ | ⟨-, rfl⟩ | ⟨-, rfl⟩ | ⟨-, rfl⟩ <;> rfl

theorem hasDistinctKeys_number {c after : Cursor} {v : Value} (h : numberAt c = .ok (v, after)) :
    v.everywhere hasDistinctKeys = true := by
  unfold numberAt at h
  extract_lets at h
  split at h
  · cases h
  split at h
  · split at h
    · cases h
    · obtain ⟨rfl, -⟩ := Prod.mk.inj (Except.ok.inj h)
      rfl
  · split at h
    · obtain ⟨rfl, -⟩ := Prod.mk.inj (Except.ok.inj h)
      rfl
    · cases h

/-- What is read with some fuel: values, items and entries. -/
structure ReadsDistinct (fuel : Nat) : Prop where
  value {depth : Nat} {c after : Cursor} {v : Value} (h : valueAt fuel depth c = .ok (v, after)) :
    v.everywhere hasDistinctKeys = true
  items {depth : Nat} {c after : Cursor} {vs : List Value}
    (h : itemsAt fuel depth c = .ok (vs, after)) : ∀ v ∈ vs, v.everywhere hasDistinctKeys = true
  entries {depth : Nat} {c after : Cursor} {es : List (String × Value)}
    (h : entriesAt fuel depth c = .ok (es, after)) : Record.Everywhere hasDistinctKeys es

theorem readsDistinct_zero : ReadsDistinct 0 where
  value h := by cases h
  items h := by cases h
  entries h := by cases h

theorem readsDistinct_succ {fuel : Nat} (ih : ReadsDistinct fuel) : ReadsDistinct (fuel + 1) where
  value h := by
    rw [valueAt] at h
    split at h
    case h_1 =>
      obtain ⟨⟨s, after⟩, -, hs⟩ := map_eq_ok.mp h
      cases hs
      rfl
    case h_2 =>
      split at h
      · cases h
      dsimp only at h
      split at h
      · cases h
        rfl
      · obtain ⟨⟨vs, after⟩, hvs, hv⟩ := bind_eq_ok.mp h
        cases hv
        exact everywhere_list.mpr ⟨rfl, ih.items hvs⟩
    case h_3 =>
      split at h
      · cases h
      dsimp only at h
      split at h
      · cases h
        rfl
      · obtain ⟨⟨es, after⟩, hes, hv⟩ := bind_eq_ok.mp h
        cases hv
        exact everywhere_record.mpr ⟨decide_eq_true (Record.distinctKeys_ofEntries es),
          Record.everywhere_ofEntries (ih.entries hes)⟩
    case h_4 =>
      split at h
      case h_1 found hfound =>
        cases h
        exact hasDistinctKeys_word hfound
      case h_2 => exact hasDistinctKeys_number h
  items h := by
    rw [itemsAt] at h
    obtain ⟨⟨v, afterValue⟩, hv, h⟩ := bind_eq_ok.mp h
    dsimp only at h
    split at h
    case h_1 =>
      cases h
      exact List.forall_mem_singleton.mpr (ih.value hv)
    case h_2 =>
      obtain ⟨⟨vs, after⟩, hvs, h⟩ := bind_eq_ok.mp h
      cases h
      exact List.forall_mem_cons.mpr ⟨ih.value hv, ih.items hvs⟩
    case h_3 => cases h
  entries h := by
    rw [entriesAt] at h
    split at h
    · cases h
    obtain ⟨⟨key, afterKey⟩, -, h⟩ := bind_eq_ok.mp h
    dsimp only at h
    split at h
    · cases h
    obtain ⟨⟨v, afterValue⟩, hv, h⟩ := bind_eq_ok.mp h
    dsimp only at h
    split at h
    case h_1 =>
      cases h
      exact List.forall_mem_singleton.mpr (ih.value hv)
    case h_2 =>
      obtain ⟨⟨es, after⟩, hes, h⟩ := bind_eq_ok.mp h
      cases h
      exact List.forall_mem_cons.mpr ⟨ih.value hv, ih.entries hes⟩
    case h_3 => cases h

theorem readsDistinct (fuel : Nat) : ReadsDistinct fuel := by
  induction fuel with
  | zero => exact readsDistinct_zero
  | succ fuel ih => exact readsDistinct_succ ih

/-- Keys are distinct in whatever is read from a text. -/
theorem hasDistinctKeys_of_read {s : String} {v : Value} (h : read s = .ok v) :
    v.everywhere hasDistinctKeys = true := by
  unfold read at h
  obtain ⟨⟨v', after⟩, hv, h⟩ := bind_eq_ok.mp h
  dsimp only at h
  split at h
  · cases h
    exact (readsDistinct _).value hv
  · cases h

end Json

end Bursary
