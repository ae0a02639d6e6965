import Bursary.Text.Search

/-! Texts in stretches. What stands before the first separator is the first stretch, and a text has
one stretch at least. So stretches without a separator that are joined with separators between them
come out of the split as they were; no stretches at all come out as an empty one. -/

namespace Bursary.Text

variable {separator : Char}

theorem splitChars_append {front : List Char} (h : separator ∉ front) (rest : List Char) :
    splitChars separator (front ++ separator :: rest) = front :: splitChars separator rest := by
  induction front with
  | nil => simp [splitChars]
  | cons c front ih =>
    rw [List.mem_cons, not_or] at h
    have hne : (c == separator) = false := beq_false_of_ne (Ne.symm h.1)
    rw [List.cons_append, splitChars, hne, ih h.2]
    rfl

theorem splitChars_of_notMem {cs : List Char} (h : separator ∉ cs) :
    splitChars separator cs = [cs] := by
  induction cs with
  | nil => rfl
  | cons c cs ih =>
    rw [List.mem_cons, not_or] at h
    have hne : (c == separator) = false := beq_false_of_ne (Ne.symm h.1)
    rw [splitChars, hne, ih h.2]
    rfl

theorem splitChars_ne_nil (separator : Char) (cs : List Char) : splitChars separator cs ≠ [] := by
  cases cs with
  | nil => exact List.cons_ne_nil _ _
  | cons c cs =>
    rw [splitChars]
    split
    · exact List.cons_ne_nil _ _
    · split <;> exact List.cons_ne_nil _ _

/-- Only no characters at all have no stretch but an empty one. -/
theorem eq_nil_of_splitChars {cs : List Char} (h : splitChars separator cs = [[]]) : cs = [] := by
  cases cs with
  | nil => rfl
  | cons c cs =>
    rw [splitChars] at h
    split at h
    · exact absurd (List.cons.inj h).2 (splitChars_ne_nil separator cs)
    · split at h <;> cases h

theorem exists_split (separator : Char) (s : String) :
    ∃ first rest, split separator s = first :: rest :=
  List.exists_cons_of_ne_nil (by simp [split, splitChars_ne_nil])

theorem eq_empty_of_split {s : String} (h : split separator s = [""]) : s = "" := by
  obtain ⟨cs, hcs, hempty⟩ := List.map_eq_singleton_iff.mp h
  have hnil : cs = [] := by simpa using congrArg String.toList hempty
  rw [hnil] at hcs
  exact String.toList_eq_nil_iff.mp (eq_nil_of_splitChars hcs)

/-! ### Joined texts -/

theorem split_of_notMem {s : String} (h : separator ∉ s.toList) : split separator s = [s] := by
  rw [split, splitChars_of_notMem h, List.map_singleton, String.ofList_toList]

theorem split_append {s : String} (h : separator ∉ s.toList) (rest : String) :
    split separator (s ++ String.singleton separator ++ rest) = s :: split separator rest := by
  have hchars : (s ++ String.singleton separator ++ rest).toList =
      s.toList ++ separator :: rest.toList := by simp
  rw [split, hchars, splitChars_append h, List.map_cons, String.ofList_toList, split]

/-- The split undoes the join of texts without a separator. -/
theorem split_intercalate {s : String} {rest : List String}
    (h : ∀ t ∈ s :: rest, separator ∉ t.toList) :
    split separator ((String.singleton separator).intercalate (s :: rest)) = s :: rest := by
  induction rest generalizing s with
  | nil =>
    rw [String.intercalate_singleton]
    exact split_of_notMem (h s (by simp))
  | cons t rest ih =>
    obtain ⟨hs, hrest⟩ := List.forall_mem_cons.mp h
    rw [String.intercalate_cons_cons, split_append hs, ih hrest]

end Bursary.Text
