/-! Stable sorting by a total preorder. The sort puts an element behind exactly those that it may
not precede, so it commutes with leaving elements out; that elements of one rank keep their order
is a case of this. -/

namespace Bursary.StableSort

variable {α : Type} {le le' : α → α → Bool}

/-- Sorts by comparisons that agree on a list agree on it. -/
theorem mergeSort_congr {xs : List α} (h : ∀ a ∈ xs, ∀ b ∈ xs, le a b = le' a b) :
    xs.mergeSort le = xs.mergeSort le' := by
  have hmap := List.map_mergeSort (r := le) (s := le') (f := id) h
  rwa [List.map_id, List.map_id] at hmap

theorem filter_filter_of_imp {p q : α → Bool} (h : ∀ a, p a = true → q a = true) (xs : List α) :
    (xs.filter q).filter p = xs.filter p := by
  rw [List.filter_filter]
  refine List.filter_congr fun a _ => ?_
  cases hp : p a with
  | true => simp [h a hp]
  | false => rfl

section Preorder

variable (trans : ∀ a b c, le a b = true → le b c = true → le a c = true)
  (total : ∀ a b, (le a b || le b a) = true)

include trans total

/-- Where the first element of a list comes to stand when the others are sorted. -/
theorem exists_mergeSort_cons (a : α) (xs : List α) :
    ∃ front back, (a :: xs).mergeSort le = front ++ a :: back ∧
      xs.mergeSort le = front ++ back ∧
      (∀ b ∈ front, le a b = false) ∧ ∀ b ∈ back, le a b = true := by
  obtain ⟨front, back, hcons, hsorted, hfront⟩ := List.mergeSort_cons trans total a xs
  have hpairwise := List.pairwise_mergeSort trans total (a :: xs)
  rw [hcons, List.pairwise_append, List.pairwise_cons] at hpairwise
  refine ⟨front, back, hcons, hsorted, fun b hb => ?_, hpairwise.2.1.1⟩
  simpa using hfront b hb

omit trans total in
/-- A list can be cut in one way only between what an element may not precede and what it may. -/
theorem append_inj_of_cut {a : α} {front back front' back' : List α}
    (h : front ++ back = front' ++ back')
    (hfront : ∀ b ∈ front, le a b = false) (hback : ∀ b ∈ back, le a b = true)
    (hfront' : ∀ b ∈ front', le a b = false) (hback' : ∀ b ∈ back', le a b = true) :
    front = front' ∧ back = back' := by
  have keep {xs : List α} (hxs : ∀ b ∈ xs, le a b = true) : xs.filter (le a ·) = xs :=
    List.filter_eq_self.mpr hxs
  have drop {xs : List α} (hxs : ∀ b ∈ xs, le a b = false) : xs.filter (le a ·) = [] := by
    rw [List.filter_eq_nil_iff]
    intro b hb
    rw [hxs b hb]
    exact Bool.false_ne_true
  have hb : back = back' := by
    have hf := congrArg (List.filter (le a ·)) h
    rwa [List.filter_append, List.filter_append, drop hfront, drop hfront', keep hback,
      keep hback'] at hf
  subst hb
  exact ⟨List.append_cancel_right h, rfl⟩

/-- Leaving elements out before a stable sort or after it comes to the same. -/
theorem filter_mergeSort (p : α → Bool) (xs : List α) :
    (xs.mergeSort le).filter p = (xs.filter p).mergeSort le := by
  induction xs with
  | nil => simp
  | cons a xs ih =>
    obtain ⟨front, back, hcons, hsorted, hfront, hback⟩ := exists_mergeSort_cons trans total a xs
    rw [hsorted, List.filter_append] at ih
    rw [hcons, List.filter_append]
    by_cases ha : p a = true
    · obtain ⟨front', back', hcons', hsorted', hfront', hback'⟩ :=
        exists_mergeSort_cons trans total a (xs.filter p)
      obtain ⟨hf, hb⟩ := append_inj_of_cut (ih.trans hsorted')
        (fun b hb => hfront b ((List.mem_filter.mp hb).1))
        (fun b hb => hback b ((List.mem_filter.mp hb).1)) hfront' hback'
      rw [List.filter_cons_of_pos ha, List.filter_cons_of_pos ha, hcons', hf, hb]
    · rw [List.filter_cons_of_neg ha, List.filter_cons_of_neg ha, ih]

/-- Elements that may all precede each other keep their order. -/
theorem filter_mergeSort_of_ties {p : α → Bool} (hp : ∀ a b, p a = true → p b = true → le a b)
    (xs : List α) : (xs.mergeSort le).filter p = xs.filter p := by
  rw [filter_mergeSort trans total]
  refine List.mergeSort_of_pairwise (List.pairwise_of_forall_mem_list fun a ha b hb => ?_)
  exact hp a b (List.mem_filter.mp ha).2 (List.mem_filter.mp hb).2

/-- What stands in some order goes on standing in it where the sort leaves the choice. -/
theorem pairwise_mergeSort_ties {before : α → α → Prop} {xs : List α} (hxs : xs.Pairwise before) :
    (xs.mergeSort le).Pairwise fun a b => le a b = true ∧ (le b a = true → before a b) := by
  apply List.pairwise_iff_forall_sublist.mpr
  intro a b hab
  have hle : le a b = true :=
    List.pairwise_iff_forall_sublist.mp (List.pairwise_mergeSort trans total xs) hab
  refine ⟨hle, fun hba => ?_⟩
  -- both are among the elements that may precede `a` and that `a` may precede
  have hties := filter_mergeSort_of_ties trans total (p := fun m => le a m && le m a)
    (fun m n hm hn => trans m a n (Bool.and_eq_true_iff.mp hm).2 (Bool.and_eq_true_iff.mp hn).1) xs
  have hkept := hab.filter fun m => le a m && le m a
  have haa : le a a = true := by simpa using total a a
  have hpair : [a, b].filter (fun m => le a m && le m a) = [a, b] := by simp [haa, hle, hba]
  rw [hties, hpair] at hkept
  exact List.pairwise_iff_forall_sublist.mp hxs (hkept.trans List.filter_sublist)

end Preorder

/-- A list in order is determined by its elements and by the order among those that may precede
each other. -/
theorem eq_of_pairwise {xs ys : List α} (hrefl : ∀ a ∈ xs, le a a = true) (hperm : xs.Perm ys)
    (hxs : xs.Pairwise (le · ·)) (hys : ys.Pairwise (le · ·))
    (hties : ∀ m, xs.filter (fun a => le m a && le a m) = ys.filter (fun a => le m a && le a m)) :
    xs = ys := by
  induction xs generalizing ys with
  | nil => exact (List.nil_perm.mp hperm).symm
  | cons x xs ih =>
    cases ys with
    | nil => exact absurd hperm.symm (by simp)
    | cons y ys =>
      rw [List.pairwise_cons] at hxs hys
      have hxx := hrefl x List.mem_cons_self
      have hxy : le x y = true := by
        rcases List.mem_cons.mp (hperm.mem_iff.mpr List.mem_cons_self) with rfl | hy
        · exact hxx
        · exact hxs.1 y hy
      have hyx : le y x = true := by
        rcases List.mem_cons.mp (hperm.mem_iff.mp List.mem_cons_self) with rfl | hx
        · exact hxx
        · exact hys.1 x hx
      have hhead := hties x
      rw [List.filter_cons_of_pos (by rw [hxx]; rfl), List.filter_cons_of_pos (by rw [hxy, hyx]; rfl)]
        at hhead
      obtain ⟨rfl, -⟩ := List.cons.inj hhead
      refine congrArg (x :: ·) (ih (fun a ha => hrefl a (List.mem_cons_of_mem x ha)) ?_ hxs.2 hys.2 ?_)
      · exact (List.perm_cons x).mp hperm
      · intro m
        have hm := hties m
        rw [List.filter_cons, List.filter_cons] at hm
        split at hm
        · exact (List.cons.inj hm).2
        · exact hm

end Bursary.StableSort
