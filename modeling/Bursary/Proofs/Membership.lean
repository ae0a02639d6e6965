import Mathlib.Logic.Relation
import Bursary.Proofs.Operators
import Bursary.Proofs.Text.LetterCase
import Bursary.Proofs.Text.Padding

/-! What operators on lists look past. They compare texts in lower case and trimmed, and of a list
they ask which members it has. So the case of ASCII letters, blanks around a text, the order of a
list and how often it names a member make no difference, on the required side and on the student's.
The one test of a text as it is given is whether it is empty: only a text that is not blank may be
padded. -/

namespace Bursary

/-! ### Changes to a text -/

/-- Letters of a text take the other case, or blanks are put around it. -/
inductive Text.Restyles : String → String → Prop
  | recase {s t : String} (h : SameLetters s t) : Restyles s t
  | pad {s front back : String} (hs : ¬IsPadding s) (hfront : IsPadding front)
    (hback : IsPadding back) : Restyles s (front ++ s ++ back)

namespace Text.Restyles

variable {s t : String}

theorem trim_lower (h : Restyles s t) : trim (lower t) = trim (lower s) := by
  cases h with
  | recase h => rw [h.lower]
  | pad hs hfront hback => exact trim_lower_padded hfront hback s

theorem isEmpty (h : Restyles s t) : t.isEmpty = s.isEmpty := by
  cases h with
  | recase h => exact h.isEmpty.symm
  | @pad front back hs =>
    have hne : s ≠ "" := by
      rintro rfl
      exact hs (by decide)
    rw [Bool.eq_iff_iff, String.isEmpty_iff, String.isEmpty_iff]
    simp [hne]

theorem folded (h : Restyles s t) : folded (.text t) = folded (.text s) := by
  rw [Bursary.folded, Bursary.folded, h.trim_lower]

end Text.Restyles

/-! ### Changes to a list -/

namespace Value

/-- Whether a value holds no others. -/
def isScalar : Value → Bool
  | null | flag _ | whole _ | real _ | text _ => true
  | _ => false

/-- A text of a list is restyled, the list is reordered, or one of its entries is repeated. -/
inductive Rearranges : List Value → List Value → Prop
  | restyle (front back : List Value) {s t : String} (h : Text.Restyles s t) :
    Rearranges (front ++ text s :: back) (front ++ text t :: back)
  | reorder {xs ys : List Value} (h : xs.Perm ys) : Rearranges xs ys
  | duplicate (front back : List Value) {x : Value} (h : x ∈ front ++ back) :
    Rearranges (front ++ back) (front ++ x :: back)

/-- A text is restyled, or a list rearranged. -/
inductive Varies : Value → Value → Prop
  | text {s t : String} (h : Text.Restyles s t) : Varies (text s) (text t)
  | list {xs ys : List Value} (h : Rearranges xs ys) : Varies (list xs) (list ys)

/-- Lists that have the same members once their texts are folded. -/
def SameMembers (xs ys : List Value) : Prop := ∀ x, x ∈ ys.map folded ↔ x ∈ xs.map folded

section Members

variable {xs ys : List Value}

theorem Rearranges.sameMembers (h : Rearranges xs ys) : SameMembers xs ys := by
  intro x
  cases h with
  | restyle front back h => simp only [List.map_append, List.map_cons, h.folded]
  | reorder h => exact (h.map folded).mem_iff.symm
  | @duplicate front back y hy =>
    have hmem : folded y ∈ (front ++ back).map folded := List.mem_map_of_mem hy
    simp only [List.map_append, List.map_cons, List.mem_append, List.mem_cons] at hmem ⊢
    constructor
    · rintro (hx | rfl | hx)
      · exact .inl hx
      · exact hmem
      · exact .inr hx
    · exact Or.imp_right .inr

/-- However often a list is rearranged. -/
theorem sameMembers_of_run (h : Relation.ReflTransGen Rearranges xs ys) : SameMembers xs ys := by
  induction h with
  | refl => exact fun _ => Iff.rfl
  | tail _ hstep ih => exact fun x => (hstep.sameMembers x).trans (ih x)

namespace SameMembers

variable (h : SameMembers xs ys)

include h

theorem any (p : Value → Bool) : (ys.map folded).any p = (xs.map folded).any p := by
  rw [Bool.eq_iff_iff, List.any_eq_true, List.any_eq_true]
  exact exists_congr fun x => and_congr_left fun _ => h x

theorem all (p : Value → Bool) : (ys.map folded).all p = (xs.map folded).all p := by
  rw [Bool.eq_iff_iff, List.all_eq_true, List.all_eq_true]
  exact forall_congr' fun x => imp_congr_left (h x)

theorem isIn (v : Value) : v.isIn (ys.map folded) = v.isIn (xs.map folded) := h.any v.equals

theorem eq_nil_iff : ys = [] ↔ xs = [] := by
  rw [← List.map_eq_nil_iff (f := folded), ← List.map_eq_nil_iff (l := xs) (f := folded),
    List.eq_nil_iff_forall_not_mem, List.eq_nil_iff_forall_not_mem]
  exact forall_congr' fun x => not_congr (h x)

end SameMembers

end Members

end Value

/-! ### What the operators see -/

open Value

variable {targets targets' : List Value} {v w : Value}

/-- An operator asks which required values there are. -/
theorem listCompares_targets (h : SameMembers targets targets') (op : ListOperator) (v : Value) :
    listCompares op (targets'.map folded) v = listCompares op (targets.map folded) v := by
  cases op <;> simp only [listCompares, h.isIn, h.any, h.all]

/-- A list is none of the required values if these hold no others. -/
theorem not_isIn_of_scalars (hscalar : ∀ t ∈ targets, t.isScalar = true) (xs : List Value) :
    (list xs).isIn (targets.map folded) = false := by
  refine List.any_eq_false.mpr fun x hx => ?_
  obtain ⟨t, ht, rfl⟩ := List.mem_map.mp hx
  have ht := hscalar t ht
  cases t <;> simp [isScalar, folded, equals, equalNumbers] at ht ⊢

/-- An operator asks for the folded text or for the members, and whether there is any. -/
theorem listCompares_of_varies (hscalar : ∀ t ∈ targets, t.isScalar = true) (h : Varies v w)
    (op : ListOperator) :
    listCompares op (targets.map folded) w = listCompares op (targets.map folded) v := by
  cases h with
  | @text s t h =>
    have htruthy : (text t).isTruthy = (text s).isTruthy := congrArg not h.isEmpty
    cases op <;> simp only [listCompares, textHolds, h.folded, htruthy, Value.list?]
  | @list xs ys h =>
    have hsame := h.sameMembers
    have htruthy : (list ys).isTruthy = (list xs).isTruthy := by
      have hempty : ys.isEmpty = xs.isEmpty := by
        rw [Bool.eq_iff_iff, List.isEmpty_iff, List.isEmpty_iff, hsame.eq_nil_iff]
      exact congrArg not hempty
    -- as a whole, the list is only looked up among the required values, where it is not
    cases op <;>
      simp only [listCompares, textHolds, folded, Value.list?, Option.map_some, hsame.any,
        hsame.isIn, htruthy, not_isIn_of_scalars hscalar]

theorem listHolds_of_varies (hscalar : ∀ t ∈ targets, t.isScalar = true) (h : Varies v w)
    (op : ListOperator) : listHolds op (.list targets) w = listHolds op (.list targets) v := by
  by_cases hne : targets = []
  · subst hne
    rfl
  · rw [listHolds_of_ne_nil hne, listHolds_of_ne_nil hne, listCompares_of_varies hscalar h]

theorem listHolds_targets (h : SameMembers targets targets') (op : ListOperator) (v : Value) :
    listHolds op (.list targets') v = listHolds op (.list targets) v := by
  by_cases hne : targets = []
  · obtain rfl := hne
    obtain rfl := h.eq_nil_iff.mpr rfl
    rfl
  · rw [listHolds_of_ne_nil hne, listHolds_of_ne_nil (mt h.eq_nil_iff.mp hne),
      listCompares_targets h]

/-- Operators on lists look past letter case, padding, order and repetition, in the required values
and in what the student has, however often these change. -/
theorem listHolds_unchanged (op : ListOperator) (hscalar : ∀ t ∈ targets, t.isScalar = true)
    (htargets : Relation.ReflTransGen Rearranges targets targets')
    (hv : Relation.ReflTransGen Varies v w) :
    listHolds op (.list targets') w = listHolds op (.list targets) v := by
  rw [listHolds_targets (sameMembers_of_run htargets)]
  clear htargets
  induction hv with
  | refl => rfl
  | tail _ hstep ih => rw [listHolds_of_varies hscalar hstep, ih]

/-- All required values are found when the province is written in capitals and the year asked for
twice, and the student's province is padded. -/
theorem containsAll_province_and_year :
    (∀ t ∈ [text "Rizal", whole 4], t.isScalar = true) ∧
    Relation.ReflTransGen Rearranges [text "Rizal", whole 4] [whole 4, text "RIZAL", whole 4] ∧
    Relation.ReflTransGen Varies (list [whole 4, text "rizal"]) (list [text " Rizal\t", whole 4]) ∧
    listHolds .containsAll (list [whole 4, text "RIZAL", whole 4])
      (list [text " Rizal\t", whole 4]) =
    listHolds .containsAll (list [text "Rizal", whole 4]) (list [whole 4, text "rizal"]) ∧
    listHolds .containsAll (list [text "Rizal", whole 4])
      (list [whole 4, text "rizal"]) = true := by
  have hscalar : ∀ t ∈ [text "Rizal", whole 4], t.isScalar = true := by decide
  have htargets : Relation.ReflTransGen Rearranges [text "Rizal", whole 4]
      [whole 4, text "RIZAL", whole 4] :=
    .tail (.single (.restyle [] [whole 4] (.recase (by decide))))
      (.duplicate [] [text "RIZAL", whole 4] (by simp))
  have hpad : Text.Restyles "Rizal" " Rizal\t" :=
    @Text.Restyles.pad "Rizal" " " "\t" (by decide) (by decide) (by decide)
  have hv : Relation.ReflTransGen Varies (list [whole 4, text "rizal"])
      (list [text " Rizal\t", whole 4]) :=
    .tail (.tail (.single (.list (.restyle [whole 4] [] (.recase (by decide)))))
      (.list (.restyle [whole 4] [] hpad))) (.list (.reorder (.swap _ _ [])))
  exact ⟨hscalar, htargets, hv, listHolds_unchanged .containsAll hscalar htargets hv,
    by decide +kernel⟩

end Bursary
