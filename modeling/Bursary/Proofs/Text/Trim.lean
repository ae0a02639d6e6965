import Bursary.Canonical

/-! Texts without blanks around them. Trimming leaves none at either end and such a text as it is,
and no canonical name has any, so what a reading makes of a text has none either. -/

namespace Bursary

namespace Text

/-- Whether a text neither starts nor ends with a blank. -/
def IsTrimmed (s : String) : Prop :=
  (∀ c ∈ s.toList.head?, isBlank c = false) ∧ ∀ c ∈ s.toList.getLast?, isBlank c = false

/-- Only the two ends are looked at. -/
instance (s : String) : Decidable (IsTrimmed s) :=
  decidable_of_iff ((s.toList.head?.all fun c => !isBlank c) = true ∧
      (s.toList.getLast?.all fun c => !isBlank c) = true)
    (by simp [IsTrimmed, Option.all_eq_true])

section Chars

variable {p : Char → Bool} {c : Char} {cs : List Char}

theorem not_of_mem_head?_dropWhile (h : c ∈ (cs.dropWhile p).head?) : p c = false := by
  have hhead := List.head?_dropWhile_not p cs
  rw [Option.mem_def.mp h] at hhead
  exact hhead

/-- What is left of a text is the front of the text from its first kept character on. -/
theorem trimBy_prefix : trimBy p cs <+: cs.dropWhile p := by
  rw [← List.reverse_suffix, trimBy, List.reverse_reverse]
  exact List.dropWhile_suffix p

theorem not_of_mem_head?_trimBy (h : c ∈ (trimBy p cs).head?) : p c = false := by
  obtain ⟨rest, hrest⟩ : trimBy p cs <+: cs.dropWhile p := trimBy_prefix
  have hkept : c ∈ (cs.dropWhile p).head? → p c = false := not_of_mem_head?_dropWhile
  refine hkept ?_
  rw [← hrest, Option.mem_def, List.head?_append, Option.mem_def.mp h]
  rfl

theorem not_of_mem_getLast?_trimBy (h : c ∈ (trimBy p cs).getLast?) : p c = false := by
  rw [trimBy, List.getLast?_reverse] at h
  exact not_of_mem_head?_dropWhile h

theorem dropWhile_eq_self (h : ∀ c ∈ cs.head?, p c = false) : cs.dropWhile p = cs := by
  cases cs with
  | nil => rfl
  | cons c cs => rw [List.dropWhile_cons, h c rfl, if_neg Bool.false_ne_true]

theorem trimBy_eq_self (hfront : ∀ c ∈ cs.head?, p c = false)
    (hback : ∀ c ∈ cs.getLast?, p c = false) : trimBy p cs = cs := by
  rw [← List.head?_reverse] at hback
  rw [trimBy, dropWhile_eq_self hfront, dropWhile_eq_self hback, List.reverse_reverse]

end Chars

theorem isTrimmed_trim (s : String) : IsTrimmed (trim s) := by
  unfold IsTrimmed trim
  rw [String.toList_ofList]
  exact ⟨fun _ => not_of_mem_head?_trimBy, fun _ => not_of_mem_getLast?_trimBy⟩

theorem IsTrimmed.trim_eq {s : String} (h : IsTrimmed s) : trim s = s := by
  rw [trim, trimBy_eq_self h.1 h.2, String.ofList_toList]

@[simp] theorem trim_trim (s : String) : trim (trim s) = trim s := (isTrimmed_trim s).trim_eq

theorem isTrimmed_empty : IsTrimmed "" := by decide

/-- Brackets around a text leave nothing else at its ends. -/
theorem isTrimmed_bracketed (s : String) : IsTrimmed ("(" ++ s ++ ")") := by
  simp only [IsTrimmed, String.toList_append]
  constructor
  · intro c hc
    cases hc
    decide
  · intro c hc
    rw [List.getLast?_append] at hc
    cases hc
    decide

end Text

namespace Canonical

/-- A table none of whose names is empty or has blanks around it. -/
def Table.IsNormal (table : Table) : Prop := ∀ e ∈ table, e.2 ≠ "" ∧ Text.IsTrimmed e.2

instance (table : Table) : Decidable table.IsNormal := inferInstanceAs (Decidable (∀ _ ∈ _, _))

theorem isTrimmed_name {table : Table} (h : table.IsNormal) (s : String) :
    Text.IsTrimmed (name table s) := by
  unfold name
  dsimp only
  cases hfound : table.lookup (Text.upper (Text.trim s)) with
  | none => exact Text.isTrimmed_trim s
  | some canonical =>
    obtain ⟨before, after, htable, -⟩ := List.lookup_eq_some_iff.mp hfound
    exact (h (Text.upper (Text.trim s), canonical) (by rw [htable]; simp)).2

theorem isNormal_yearLevels : yearLevels.IsNormal := by decide +kernel

theorem isNormal_colleges : colleges.IsNormal := by decide +kernel

end Canonical

end Bursary
