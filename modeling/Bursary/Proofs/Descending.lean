import Bursary.Proofs.Sorting

/-! Sorting in descending order. It neither loses nor repeats an element, and by keys it is stable.
It commutes with every map that keeps the comparison: what the comparison does not look at has no
say in the order. -/

namespace Bursary.Sorting

section Insert

variable {m : Type → Type} [Monad m] {α : Type} {below : α → α → m Bool}

theorem insert_of_drop_eq_nil {x : α} {xs : List α} (hd : xs.drop (xs.length / 2) = []) :
    insert below x xs = pure [x] := by
  rw [insert.eq_def]
  split
  case h_1 => rfl
  case h_2 hd' => cases hd.symm.trans hd'

theorem insert_of_drop_eq_cons {x y : α} {xs back : List α}
    (hd : xs.drop (xs.length / 2) = y :: back) :
    insert below x xs = (do
      if ← below x y then return (← insert below x (xs.take (xs.length / 2))) ++ y :: back
      else return xs.take (xs.length / 2) ++ y :: (← insert below x back)) := by
  rw [insert.eq_def]
  split
  case h_1 hd' => cases hd.symm.trans hd'
  case h_2 hd' =>
    obtain ⟨rfl, rfl⟩ := List.cons.inj (hd.symm.trans hd')
    rfl

end Insert

/-! ### Maps that keep the comparison -/

section Map

variable {m : Type → Type} [Monad m] [LawfulMonad m] {α β : Type} {below : α → α → m Bool}
  {below' : β → β → m Bool} {f : α → β} (h : ∀ a b, below' (f a) (f b) = below a b)

include h

theorem map_insert (x : α) (xs : List α) :
    List.map f <$> insert below x xs = insert below' (f x) (xs.map f) := by
  fun_induction insert below x xs
  case case1 xs hd =>
    rw [insert_of_drop_eq_nil (by rw [List.length_map, ← List.map_drop, hd, List.map_nil]),
      map_pure]
    rfl
  case case2 xs y back hd front ihFront ihBack =>
    have hfront : (xs.map f).take ((xs.map f).length / 2) = front.map f := by
      rw [List.length_map, ← List.map_take]
    have hdrop : (xs.map f).drop ((xs.map f).length / 2) = f y :: back.map f := by
      rw [List.length_map, ← List.map_drop, hd, List.map_cons]
    rw [insert_of_drop_eq_cons hdrop, hfront, ← ihFront, ← ihBack, h, map_bind]
    refine bind_congr fun b => ?_
    cases b with
    | true => simp
    | false => simp

theorem map_runFrom (descends : Bool) (previous : α) (xs : List α) :
    Prod.map (List.map f) (List.map f) <$> runFrom below descends previous xs =
      runFrom below' descends (f previous) (xs.map f) := by
  induction xs generalizing previous with
  | nil => simp [runFrom]
  | cons x xs ih =>
    rw [List.map_cons, runFrom, runFrom, map_bind, h]
    refine bind_congr fun b => ?_
    split
    · rw [← ih]
      simp
    · simp

theorem map_firstRun (xs : List α) :
    Prod.map (List.map f) (List.map f) <$> firstRun below xs = firstRun below' (xs.map f) := by
  match xs with
  | [] | [_] => simp [firstRun]
  | x :: y :: xs =>
    rw [List.map_cons, List.map_cons, firstRun, firstRun, map_bind, h]
    refine bind_congr fun descends => ?_
    rw [← map_runFrom h]
    cases descends with
    | true => simp
    | false => simp

theorem map_sort (xs : List α) : List.map f <$> sort below xs = sort below' (xs.map f) := by
  have hfold (others run : List α) :
      List.map f <$> others.foldlM (fun sorted x => insert below x sorted) run =
        (others.map f).foldlM (fun sorted x => insert below' x sorted) (run.map f) := by
    induction others generalizing run with
    | nil => simp
    | cons x others ih =>
      rw [List.map_cons, List.foldlM_cons, List.foldlM_cons, map_bind, ← map_insert h]
      simp [ih]
  rw [sort, sort, map_bind, ← map_firstRun h]
  simp [hfold]

end Map

/-! ### Comparisons that do not fail -/

section Pure

variable {m : Type → Type} [Monad m] [LawfulMonad m] {α : Type} (below : α → α → Bool)

/-- A comparison that does not fail, in any monad. -/
def surely (a b : α) : m Bool := pure (below a b)

theorem insert_surely (x : α) (xs : List α) :
    insert (m := m) (surely below) x xs = pure (Id.run (insert (surely below) x xs)) := by
  fun_induction insert (m := m) (surely below) x xs
  case case1 xs hd =>
    rw [insert_of_drop_eq_nil hd]
    rfl
  case case2 xs y back hd front ihFront ihBack =>
    rw [ihFront, ihBack, insert_of_drop_eq_cons hd]
    cases h : below x y <;> simp [surely, h, front]

theorem runFrom_surely (descends : Bool) (previous : α) (xs : List α) :
    runFrom (m := m) (surely below) descends previous xs =
      pure (Id.run (runFrom (surely below) descends previous xs)) := by
  induction xs generalizing previous with
  | nil => rfl
  | cons x xs ih =>
    rw [runFrom, runFrom, ih]
    by_cases h : below x previous = descends <;> simp [surely, h]

theorem firstRun_surely (xs : List α) :
    firstRun (m := m) (surely below) xs = pure (Id.run (firstRun (surely below) xs)) := by
  match xs with
  | [] | [_] => rfl
  | x :: y :: xs =>
    rw [firstRun, surely, pure_bind, runFrom_surely, firstRun]
    simp [surely]

theorem sort_surely (xs : List α) :
    sort (m := m) (surely below) xs = pure (Id.run (sort (surely below) xs)) := by
  have hfold (others run : List α) :
      others.foldlM (m := m) (fun sorted x => insert (surely below) x sorted) run =
        pure (Id.run (others.foldlM (fun sorted x => insert (surely below) x sorted) run)) := by
    induction others generalizing run with
    | nil => rfl
    | cons x others ih =>
      rw [List.foldlM_cons, insert_surely, pure_bind, ih]
      simp
  rw [sort, firstRun_surely, sort]
  simp [hfold]

theorem descending_perm (xs : List α) : (descending below xs).Perm xs := by
  have hsort : sort (surely below) xs.reverse =
      (Except.ok (Id.run (sort (surely below) xs.reverse)) : Except Unit _) := sort_surely below _
  exact ((List.reverse_perm _).trans (sort_perm hsort)).trans (List.reverse_perm _)

/-- Sorted by keys, the largest come first and elements of one key stay in their order. -/
theorem descending_pairwise {κ : Type} [LinearOrder κ] {key : α → κ} {before : α → α → Prop}
    {xs : List α} (hkey : ∀ a ∈ xs, ∀ b ∈ xs, below a b = decide (key a < key b))
    (hxs : xs.Pairwise before) :
    (descending below xs).Pairwise fun a b => key b < key a ∨ key a = key b ∧ before a b := by
  have hsort : sort (surely below) xs.reverse =
      (Except.ok (Id.run (sort (surely below) xs.reverse)) : Except Unit _) := sort_surely below _
  have hbefore : xs.reverse.Pairwise fun a b => before b a := List.pairwise_reverse.mpr hxs
  have hkeys : ∀ a ∈ xs.reverse, ∀ b ∈ xs.reverse,
      surely below a b = (Except.ok (decide (key a < key b)) : Except Unit _) := fun a ha b hb =>
    congrArg Except.ok (hkey a (List.mem_reverse.mp ha) b (List.mem_reverse.mp hb))
  refine List.pairwise_reverse.mpr ((sort_pairwise hkeys hbefore hsort).imp fun h => ?_)
  exact h.imp_right fun h => ⟨h.1.symm, h.2⟩

end Pure

/-- Elements may be mapped before they are sorted or after it. -/
theorem map_descending {α β : Type} {below : α → α → Bool} {below' : β → β → Bool} {f : α → β}
    (h : ∀ a b, below' (f a) (f b) = below a b) (xs : List α) :
    (descending below xs).map f = descending below' (xs.map f) := by
  have hsurely (a b : α) : surely (m := Id) below' (f a) (f b) = surely below a b :=
    congrArg pure (h a b)
  have hsort := congrArg Id.run (map_sort hsurely xs.reverse)
  rw [List.map_reverse] at hsort
  rw [descending, List.map_reverse]
  exact congrArg List.reverse hsort

end Bursary.Sorting
