import Mathlib.Data.List.Nodup
import Mathlib.Order.Lattice
import Bursary.Proofs.Outcome
import Bursary.Sorting

/-! Sorting by a comparison that may fail. A sort that no comparison stops neither loses nor
repeats an element, whatever the comparison says. Where it can only compare elements of one kind,
it is stopped exactly by two elements of different kinds, whichever of them it compares. Where the
comparison is that of keys, it puts the elements into the order of their keys, and those of one key
into the order in which they stood. -/

namespace Bursary.Sorting

variable {ε α : Type} {below : α → α → Except ε Bool}

theorem insert_perm {x : α} {xs ys : List α} (h : insert below x xs = .ok ys) :
    ys.Perm (x :: xs) := by
  fun_induction insert below x xs generalizing ys
  case case1 xs hd =>
    have : xs = [] := by
      have := List.drop_eq_nil_iff.mp hd
      exact List.length_eq_zero_iff.mp (by omega)
    simp_all [pure_eq_ok]
  case case2 xs y back hd front ihFront ihBack =>
    have hxs : xs = front ++ y :: back := by rw [← hd, List.take_append_drop]
    rw [bind_eq_ok] at h
    obtain ⟨b, -, h⟩ := h
    cases b with
    | true =>
      simp only [↓reduceIte, bind_eq_ok, pure_eq_ok] at h
      obtain ⟨zs, hz, rfl⟩ := h
      rw [hxs]
      exact (ihFront hz).append_right _
    | false =>
      simp only [Bool.false_eq_true, ↓reduceIte, bind_eq_ok, pure_eq_ok] at h
      obtain ⟨zs, hz, rfl⟩ := h
      rw [hxs]
      calc front ++ y :: zs
        _ |>.Perm (front ++ y :: x :: back) := ((ihBack hz).cons y).append_left front
        _ |>.Perm (front ++ x :: y :: back) := (List.Perm.swap x y back).append_left front
        _ |>.Perm (x :: (front ++ y :: back)) := List.perm_middle

/-- An insertion moves an element of the list behind into the one in front. -/
theorem insert_append_perm {x : α} {xs sorted zs : List α} (h : insert below x sorted = .ok zs) :
    (zs ++ xs).Perm (sorted ++ x :: xs) :=
  ((insert_perm h).append_right xs).trans List.perm_middle.symm

/-- A run and what is behind it are the list as it stands. -/
theorem runFrom_append {descends : Bool} {previous : α} {xs run others : List α}
    (h : runFrom below descends previous xs = .ok (run, others)) : run ++ others = xs := by
  induction xs generalizing previous run others with
  | nil => simp_all [runFrom, pure_eq_ok]
  | cons x xs ih =>
    simp only [runFrom, bind_eq_ok] at h
    obtain ⟨b, -, h⟩ := h
    split at h
    · simp only [bind_eq_ok, pure_eq_ok] at h
      obtain ⟨⟨run', others'⟩, hr, h⟩ := h
      cases h
      rw [List.cons_append, ih hr]
    · cases h; rfl

/-- The run at the front is a part of the list as it stands, or that part turned round. -/
theorem exists_front_of_firstRun {xs run others : List α}
    (h : firstRun below xs = .ok (run, others)) : ∃ front, run.Perm front ∧ xs = front ++ others := by
  match xs with
  | [] | [_] =>
    cases h
    exact ⟨_, .refl _, (List.append_nil _).symm⟩
  | x :: y :: xs =>
    simp only [firstRun, bind_eq_ok, pure_eq_ok] at h
    obtain ⟨descends, -, ⟨run', others'⟩, hr, h⟩ := h
    cases h
    refine ⟨x :: y :: run', ?_, by rw [← runFrom_append hr]; rfl⟩
    cases descends with
    | true => exact List.reverse_perm _
    | false => exact .refl _

theorem firstRun_perm {xs run others : List α} (h : firstRun below xs = .ok (run, others)) :
    (run ++ others).Perm xs := by
  obtain ⟨front, hfront, rfl⟩ := exists_front_of_firstRun h
  exact hfront.append_right others

theorem foldlM_insert_perm {xs sorted ys : List α}
    (h : xs.foldlM (fun sorted x => insert below x sorted) sorted = .ok ys) :
    ys.Perm (sorted ++ xs) := by
  induction xs generalizing sorted with
  | nil => cases h; simp
  | cons x xs ih =>
    simp only [List.foldlM_cons, bind_eq_ok] at h
    obtain ⟨zs, hz, h⟩ := h
    exact (ih h).trans (insert_append_perm hz)

/-- A sort that no comparison stops rearranges its list. -/
theorem sort_perm {xs ys : List α} (h : sort below xs = .ok ys) : ys.Perm xs := by
  simp only [sort, bind_eq_ok] at h
  obtain ⟨⟨run, others⟩, hr, h⟩ := h
  exact (foldlM_insert_perm h).trans (firstRun_perm hr)

/-! ### When no comparison stops a sort -/

theorem insert_returns {x : α} {xs : List α} (h : ∀ y ∈ xs, Returns (below x y)) :
    Returns (insert below x xs) := by
  fun_induction insert below x xs
  case case1 => exact .ok trivial
  case case2 xs y back hd front ihFront ihBack =>
    have hxs : xs = front ++ y :: back := by rw [← hd, List.take_append_drop]
    simp only [hxs, List.mem_append, List.mem_cons] at h
    refine (h y (.inr (.inl rfl))).bind fun b _ => ?_
    split
    · exact (ihFront fun z hz => h z (.inl hz)).bind fun _ _ => .ok trivial
    · exact (ihBack fun z hz => h z (.inr (.inr hz))).bind fun _ _ => .ok trivial

theorem runFrom_returns {descends : Bool} {previous : α} {xs : List α}
    (h : ∀ a ∈ previous :: xs, ∀ b ∈ previous :: xs, Returns (below a b)) :
    Returns (runFrom below descends previous xs) := by
  induction xs generalizing previous with
  | nil => exact .ok trivial
  | cons x xs ih =>
    refine (h x (by simp) previous (by simp)).bind fun b _ => ?_
    split
    · refine (ih fun a ha b hb => ?_).bind fun _ _ => .ok trivial
      exact h a (List.mem_cons_of_mem _ ha) b (List.mem_cons_of_mem _ hb)
    · exact .ok trivial

theorem foldlM_insert_returns {xs sorted : List α}
    (h : ∀ a ∈ sorted ++ xs, ∀ b ∈ sorted ++ xs, Returns (below a b)) :
    Returns (xs.foldlM (fun sorted x => insert below x sorted) sorted) := by
  induction xs generalizing sorted with
  | nil => exact .ok trivial
  | cons x xs ih =>
    have hinsert : Returns (insert below x sorted) :=
      insert_returns fun y hy => h x (by simp) y (by simp [hy])
    obtain ⟨zs, hz, -⟩ := hinsert
    have hmem {a : α} : a ∈ zs ++ xs → a ∈ sorted ++ x :: xs := (insert_append_perm hz).mem_iff.mp
    rw [List.foldlM_cons, hz]
    exact ih fun a ha b hb => h a (hmem ha) b (hmem hb)

/-- A sort of elements that can all be compared is not stopped. -/
theorem sort_returns {xs : List α} (h : ∀ a ∈ xs, ∀ b ∈ xs, Returns (below a b)) :
    Returns (sort below xs) := by
  have hrun : Returns (firstRun below xs) := by
    match xs with
    | [] | [_] => exact .ok trivial
    | x :: y :: xs =>
      refine (h y (by simp) x (by simp)).bind fun descends _ => ?_
      refine (runFrom_returns fun a ha b hb => ?_).bind fun _ _ => .ok trivial
      exact h a (List.mem_cons_of_mem _ ha) b (List.mem_cons_of_mem _ hb)
  obtain ⟨⟨run, others⟩, hr, -⟩ := hrun
  rw [sort, hr]
  refine foldlM_insert_returns fun a ha b hb => ?_
  exact h a ((firstRun_perm hr).mem_iff.mp ha) b ((firstRun_perm hr).mem_iff.mp hb)

section Kinds

variable {κ : Type} {kind : α → Option κ}

/-- Insertion compares the new element with one that is there. -/
theorem exists_kind_of_insert {x : α} {xs ys : List α} (hxs : xs ≠ [])
    (hkind : ∀ y ∈ xs, Returns (below x y) → ∃ k, kind x = some k ∧ kind y = some k)
    (h : insert below x xs = .ok ys) : ∃ y ∈ xs, ∃ k, kind x = some k ∧ kind y = some k := by
  rw [insert.eq_def] at h
  split at h
  case h_1 hd =>
    have := List.drop_eq_nil_iff.mp hd
    exact absurd (List.length_eq_zero_iff.mp (by omega)) hxs
  case h_2 y back hd =>
    rw [bind_eq_ok] at h
    obtain ⟨b, hb, -⟩ := h
    have hy : y ∈ xs := List.mem_of_mem_drop (by rw [hd]; exact List.mem_cons_self)
    exact ⟨y, hy, hkind y hy (returns_of_eq_ok hb)⟩

/-- All elements of a run are of the kind of the one before it. -/
theorem kind_of_runFrom {descends : Bool} {previous : α} {xs run others : List α} {k : κ}
    (hkind : ∀ a ∈ previous :: xs, ∀ b ∈ previous :: xs,
      Returns (below a b) → ∃ k, kind a = some k ∧ kind b = some k)
    (hprevious : kind previous = some k)
    (h : runFrom below descends previous xs = .ok (run, others)) : ∀ x ∈ run, kind x = some k := by
  induction xs generalizing previous run others with
  | nil =>
    cases h
    exact fun x hx => nomatch hx
  | cons x xs ih =>
    simp only [runFrom, bind_eq_ok] at h
    obtain ⟨b, hb, h⟩ := h
    obtain ⟨k', hx, hp⟩ := hkind x (by simp) previous (by simp) (returns_of_eq_ok hb)
    cases hprevious.symm.trans hp
    split at h
    · simp only [bind_eq_ok, pure_eq_ok] at h
      obtain ⟨⟨run', others'⟩, hr, h⟩ := h
      cases h
      refine List.forall_mem_cons.mpr ⟨hx, ih (fun a ha b hb => ?_) hx hr⟩
      exact hkind a (List.mem_cons_of_mem _ ha) b (List.mem_cons_of_mem _ hb)
    · cases h
      exact fun x hx => nomatch hx

/-- Insertions into elements of one kind are of that kind. -/
theorem kind_of_foldlM_insert {xs sorted ys : List α} {k : κ} (hne : sorted ≠ [])
    (hkind : ∀ a ∈ sorted ++ xs, ∀ b ∈ sorted ++ xs,
      Returns (below a b) → ∃ k, kind a = some k ∧ kind b = some k)
    (hsorted : ∀ a ∈ sorted, kind a = some k)
    (h : xs.foldlM (fun sorted x => insert below x sorted) sorted = .ok ys) :
    ∀ x ∈ xs, kind x = some k := by
  induction xs generalizing sorted with
  | nil => exact fun x hx => nomatch hx
  | cons x xs ih =>
    simp only [List.foldlM_cons, bind_eq_ok] at h
    obtain ⟨zs, hz, h⟩ := h
    obtain ⟨y, hy, k', hx, hk⟩ := exists_kind_of_insert hne
      (fun y hy => hkind x (by simp) y (by simp [hy])) hz
    cases (hsorted y hy).symm.trans hk
    have hperm := insert_perm hz
    have hmem {a : α} : a ∈ zs ++ xs → a ∈ sorted ++ x :: xs := (insert_append_perm hz).mem_iff.mp
    refine List.forall_mem_cons.mpr ⟨hx, ih ?_ (fun a ha b hb => ?_) (fun a ha => ?_) h⟩
    · rintro rfl
      exact absurd (List.nil_perm.mp hperm) (by simp)
    · exact hkind a (hmem ha) b (hmem hb)
    · rcases List.mem_cons.mp (hperm.mem_iff.mp ha) with rfl | ha
      · exact hx
      · exact hsorted a ha

/-- The run at the front of a list of two or more is of one kind. -/
theorem exists_kind_of_firstRun {x y : α} {xs run others : List α}
    (hkind : ∀ a ∈ x :: y :: xs, ∀ b ∈ x :: y :: xs,
      Returns (below a b) → ∃ k, kind a = some k ∧ kind b = some k)
    (h : firstRun below (x :: y :: xs) = .ok (run, others)) :
    run ≠ [] ∧ ∃ k, ∀ a ∈ run, kind a = some k := by
  simp only [firstRun, bind_eq_ok, pure_eq_ok] at h
  obtain ⟨descends, hd, ⟨run', others'⟩, hr, h⟩ := h
  obtain ⟨k, hy, hx⟩ := hkind y (by simp) x (by simp) (returns_of_eq_ok hd)
  have hrun : ∀ a ∈ run', kind a = some k := kind_of_runFrom
    (fun a ha b hb => hkind a (List.mem_cons_of_mem _ ha) b (List.mem_cons_of_mem _ hb)) hy hr
  have hall : ∀ a ∈ x :: y :: run', kind a = some k :=
    List.forall_mem_cons.mpr ⟨hx, List.forall_mem_cons.mpr ⟨hy, hrun⟩⟩
  cases h
  cases descends with
  | true => exact ⟨by simp, k, fun a ha => hall a (List.mem_reverse.mp ha)⟩
  | false => exact ⟨by simp, k, hall⟩

/-- Where only elements of one kind can be compared, a sort is stopped exactly if there are two
elements that are not of one kind. -/
theorem sort_returns_iff (kind : α → Option κ) {xs : List α}
    (hkind : ∀ a ∈ xs, ∀ b ∈ xs, Returns (below a b) ↔ ∃ k, kind a = some k ∧ kind b = some k) :
    Returns (sort below xs) ↔ xs.length ≤ 1 ∨ ∃ k, ∀ x ∈ xs, kind x = some k := by
  constructor
  · rintro ⟨ys, h, -⟩
    match xs with
    | [] | [_] => exact .inl (by simp)
    | x :: y :: xs =>
      rw [sort, bind_eq_ok] at h
      obtain ⟨⟨run, others⟩, hr, h⟩ := h
      obtain ⟨hne, k, hk⟩ := exists_kind_of_firstRun (fun a ha b hb => (hkind a ha b hb).mp) hr
      have hmem {a : α} : a ∈ run ++ others ↔ a ∈ x :: y :: xs := (firstRun_perm hr).mem_iff
      have hothers := kind_of_foldlM_insert hne
        (fun a ha b hb => (hkind a (hmem.mp ha) b (hmem.mp hb)).mp) hk h
      refine .inr ⟨k, fun a ha => ?_⟩
      rcases List.mem_append.mp (hmem.mpr ha) with ha | ha
      · exact hk a ha
      · exact hothers a ha
  · rintro (hlen | ⟨k, hk⟩)
    · match xs with
      | [] | [_] => exact .ok trivial
    · exact sort_returns fun a ha b hb => (hkind a ha b hb).mpr ⟨k, hk a ha, hk b hb⟩

end Kinds

/-! ### Sorting by keys -/

section Keys

variable {κ : Type} [LinearOrder κ] {key : α → κ} {before : α → α → Prop}

/-- The order of a stable sort: by the keys, and among elements of one key the order in which they
stood. -/
def Precedes (key : α → κ) (before : α → α → Prop) (a b : α) : Prop :=
  key a < key b ∨ key a = key b ∧ before a b

theorem Precedes.key_le {a b : α} (h : Precedes key before a b) : key a ≤ key b :=
  h.elim le_of_lt fun h => le_of_eq h.1

/-- An insertion by keys puts an element behind those of its key, which stood before it. -/
theorem insert_pairwise {x : α} {xs ys : List α}
    (hkey : ∀ y ∈ xs, below x y = .ok (decide (key x < key y)))
    (hxs : xs.Pairwise (Precedes key before)) (hx : ∀ y ∈ xs, before y x)
    (h : insert below x xs = .ok ys) : ys.Pairwise (Precedes key before) := by
  fun_induction insert below x xs generalizing ys
  case case1 =>
    obtain rfl := pure_eq_ok.mp h
    exact List.pairwise_singleton _ _
  case case2 xs y back hd front ihFront ihBack =>
    have hsplit : xs = front ++ y :: back := by rw [← hd, List.take_append_drop]
    rw [hsplit, List.pairwise_append, List.pairwise_cons] at hxs
    obtain ⟨hfront, ⟨hy, hback⟩, hcross⟩ := hxs
    simp only [hsplit, List.mem_append, List.mem_cons] at hkey hx
    rw [hkey y (.inr (.inl rfl)), ok_bind] at h
    split at h
    case isTrue hlt =>
      rw [decide_eq_true_eq] at hlt
      simp only [bind_eq_ok, pure_eq_ok] at h
      obtain ⟨zs, hz, rfl⟩ := h
      have hzs := ihFront (fun z hz => hkey z (.inl hz)) hfront (fun z hz => hx z (.inl hz)) hz
      refine List.pairwise_append.mpr ⟨hzs, List.pairwise_cons.mpr ⟨hy, hback⟩,
        fun z hmem w hw => ?_⟩
      rcases List.mem_cons.mp ((insert_perm hz).mem_iff.mp hmem) with rfl | hmem
      · refine .inl (lt_of_lt_of_le hlt ?_)
        rcases List.mem_cons.mp hw with rfl | hw
        · exact le_refl _
        · exact (hy w hw).key_le
      · exact hcross z hmem w hw
    case isFalse hlt =>
      rw [decide_eq_true_eq, not_lt] at hlt
      simp only [bind_eq_ok, pure_eq_ok] at h
      obtain ⟨zs, hz, rfl⟩ := h
      -- what is not behind `y` is not behind the new element either
      have hnew {z : α} (hz : key z ≤ key y) (hzx : before z x) : Precedes key before z x :=
        (lt_or_eq_of_le (le_trans hz hlt)).imp_right fun h => ⟨h, hzx⟩
      have hzs := ihBack (fun z hz => hkey z (.inr (.inr hz))) hback
        (fun z hz => hx z (.inr (.inr hz))) hz
      have hyz : ∀ z ∈ zs, Precedes key before y z := fun z hmem => by
        rcases List.mem_cons.mp ((insert_perm hz).mem_iff.mp hmem) with rfl | hmem
        · exact hnew (le_refl _) (hx y (.inr (.inl rfl)))
        · exact hy z hmem
      refine List.pairwise_append.mpr ⟨hfront, List.pairwise_cons.mpr ⟨hyz, hzs⟩,
        fun z hmem w hw => ?_⟩
      rcases List.mem_cons.mp hw with rfl | hw
      · exact hcross z hmem w List.mem_cons_self
      rcases List.mem_cons.mp ((insert_perm hz).mem_iff.mp hw) with rfl | hw
      · exact hnew (hcross z hmem y List.mem_cons_self).key_le (hx z (.inl hmem))
      · exact hcross z hmem w (List.mem_cons_of_mem _ hw)

/-- How the keys of a run go on. -/
def Continues (key : α → κ) (descends : Bool) (a b : α) : Prop :=
  if descends then key b < key a else key a ≤ key b

theorem Continues.trans {descends : Bool} {a b c : α} (h : Continues key descends a b)
    (h' : Continues key descends b c) : Continues key descends a c := by
  cases descends with
  | true => exact lt_trans h' h
  | false => exact le_trans h h'

theorem continues_decide {a b : α} : Continues key (decide (key b < key a)) a b := by
  unfold Continues
  split
  case isTrue h => exact of_decide_eq_true h
  case isFalse h => exact not_lt.mp fun hlt => h (decide_eq_true hlt)

/-- A run goes on from an element as it does from the one behind it. -/
theorem Continues.cons {descends : Bool} {a b : α} {xs : List α} (h : Continues key descends a b)
    (hrun : (b :: xs).Pairwise (Continues key descends)) :
    (a :: b :: xs).Pairwise (Continues key descends) := by
  refine List.pairwise_cons.mpr ⟨fun z hz => ?_, hrun⟩
  rcases List.mem_cons.mp hz with rfl | hz
  · exact h
  · exact h.trans (List.rel_of_pairwise_cons hrun hz)

/-- A run goes down or up from the element before it. -/
theorem runFrom_pairwise {descends : Bool} {previous : α} {xs run others : List α}
    (hkey : ∀ a ∈ previous :: xs, ∀ b ∈ previous :: xs, below a b = .ok (decide (key a < key b)))
    (h : runFrom below descends previous xs = .ok (run, others)) :
    (previous :: run).Pairwise (Continues key descends) := by
  induction xs generalizing previous run others with
  | nil =>
    cases h
    exact List.pairwise_singleton _ _
  | cons x xs ih =>
    rw [runFrom, hkey x (by simp) previous (by simp), ok_bind] at h
    split at h
    case isTrue hb =>
      simp only [bind_eq_ok, pure_eq_ok] at h
      obtain ⟨⟨run', others'⟩, hr, h⟩ := h
      cases h
      have hrest := ih (fun a ha b hb => hkey a (List.mem_cons_of_mem _ ha) b
        (List.mem_cons_of_mem _ hb)) hr
      rw [← eq_of_beq hb] at hrest ⊢
      exact continues_decide.cons hrest
    case isFalse =>
      cases h
      exact List.pairwise_singleton _ _

/-- Only a run without two equal keys is turned round. -/
theorem firstRun_pairwise {xs run others : List α}
    (hkey : ∀ a ∈ xs, ∀ b ∈ xs, below a b = .ok (decide (key a < key b)))
    (hxs : xs.Pairwise before) (h : firstRun below xs = .ok (run, others)) :
    run.Pairwise (Precedes key before) := by
  match xs with
  | [] =>
    cases h
    exact .nil
  | [_] =>
    cases h
    exact List.pairwise_singleton _ _
  | x :: y :: xs =>
    rw [firstRun, hkey y (by simp) x (by simp), ok_bind] at h
    simp only [bind_eq_ok, pure_eq_ok] at h
    obtain ⟨⟨run', others'⟩, hr, h⟩ := h
    have hrun := continues_decide.cons (runFrom_pairwise
      (fun a ha b hb => hkey a (List.mem_cons_of_mem _ ha) b (List.mem_cons_of_mem _ hb)) hr)
    have hbefore : (x :: y :: run').Pairwise before := by
      rw [← runFrom_append hr] at hxs
      exact hxs.sublist (List.sublist_append_left (x :: y :: run') others')
    generalize decide (key y < key x) = descends at h hrun
    cases h
    cases descends with
    | true => exact List.pairwise_reverse.mpr (hrun.imp .inl)
    | false =>
      exact (hrun.and hbefore).imp fun h => (lt_or_eq_of_le h.1).imp_right fun heq => ⟨heq, h.2⟩

theorem foldlM_insert_pairwise {xs sorted ys : List α}
    (hkey : ∀ a ∈ sorted ++ xs, ∀ b ∈ sorted ++ xs, below a b = .ok (decide (key a < key b)))
    (hsorted : sorted.Pairwise (Precedes key before)) (hxs : xs.Pairwise before)
    (hbefore : ∀ a ∈ sorted, ∀ b ∈ xs, before a b)
    (h : xs.foldlM (fun sorted x => insert below x sorted) sorted = .ok ys) :
    ys.Pairwise (Precedes key before) := by
  induction xs generalizing sorted with
  | nil =>
    cases h
    exact hsorted
  | cons x xs ih =>
    simp only [List.foldlM_cons, bind_eq_ok] at h
    obtain ⟨zs, hz, h⟩ := h
    rw [List.pairwise_cons] at hxs
    have hmem {a : α} : a ∈ zs ++ xs → a ∈ sorted ++ x :: xs := (insert_append_perm hz).mem_iff.mp
    refine ih (fun a ha b hb => hkey a (hmem ha) b (hmem hb)) ?_ hxs.2 (fun a ha b hb => ?_) h
    · exact insert_pairwise (fun y hy => hkey x (by simp) y (by simp [hy])) hsorted
        (fun y hy => hbefore y hy x List.mem_cons_self) hz
    · rcases List.mem_cons.mp ((insert_perm hz).mem_iff.mp ha) with rfl | ha
      · exact hxs.1 b hb
      · exact hbefore a ha b (List.mem_cons_of_mem _ hb)

/-- A sort by keys puts its list into the order of the keys, elements of one key in the order in
which they stood. -/
theorem sort_pairwise {xs ys : List α}
    (hkey : ∀ a ∈ xs, ∀ b ∈ xs, below a b = .ok (decide (key a < key b)))
    (hxs : xs.Pairwise before) (h : sort below xs = .ok ys) :
    ys.Pairwise (Precedes key before) := by
  simp only [sort, bind_eq_ok] at h
  obtain ⟨⟨run, others⟩, hr, h⟩ := h
  have hmem {a : α} : a ∈ run ++ others → a ∈ xs := (firstRun_perm hr).mem_iff.mp
  obtain ⟨front, hfront, hsplit⟩ := exists_front_of_firstRun hr
  have hparts := hxs
  rw [hsplit, List.pairwise_append] at hparts
  exact foldlM_insert_pairwise (fun a ha b hb => hkey a (hmem ha) b (hmem hb))
    (firstRun_pairwise hkey hxs hr) hparts.2.1
    (fun a ha b hb => hparts.2.2 a (hfront.mem_iff.mp ha) b hb) h

/-- Where no two keys are equal, the order of the keys leaves no choice. -/
theorem sort_eq_of_perm {xs ys zs : List α}
    (hkey : ∀ a ∈ xs, ∀ b ∈ xs, below a b = .ok (decide (key a < key b)))
    (h : sort below xs = .ok ys) (hperm : zs.Perm xs)
    (hzs : zs.Pairwise fun a b => key a < key b) : ys = zs := by
  have hys := (sort_perm h).trans hperm.symm
  have hkeys : (zs.map key).Nodup := List.pairwise_map.mpr (hzs.imp ne_of_lt)
  have hsorted : ys.Pairwise (Precedes key fun _ _ => True) :=
    sort_pairwise hkey (List.pairwise_of_forall fun _ _ => trivial) h
  refine hys.eq_of_pairwise (fun a b ha hb hle hle' => ?_) (hsorted.imp Precedes.key_le)
    (hzs.imp le_of_lt)
  exact List.inj_on_of_nodup_map hkeys (hys.mem_iff.mp ha) hb (le_antisymm hle hle')

end Keys

end Bursary.Sorting
