/-! Sorting by a comparison that may fail, and that may be no order: a NaN is neither below
nor above any number. The longest run at the front of the list is kept, turned round if it
descends, and the other elements are inserted into it one by one, each at a place that is
found by halving. Equal elements keep their order. -/

namespace Bursary.Sorting

variable {m : Type → Type} [Monad m] {α : Type}

/-- Inserts `x` at a place found by halving: before a middle element that it is below, and
behind any other. -/
def insert (below : α → α → m Bool) (x : α) (xs : List α) : m (List α) :=
  match _h : xs.drop (xs.length / 2) with
  | [] => pure [x]
  | y :: back => do
    let front := xs.take (xs.length / 2)
    if ← below x y then return (← insert below x front) ++ y :: back
    else return front ++ y :: (← insert below x back)
termination_by xs.length
decreasing_by
  · have := congrArg List.length _h
    simp only [List.length_drop, List.length_cons] at this
    simp only [List.length_take]
    omega
  · have := congrArg List.length _h
    simp only [List.length_drop, List.length_cons] at this
    omega

/-- The elements that go on as a run does, each one below the one before it if the run
descends and none if not, and the elements behind them. -/
def runFrom (below : α → α → m Bool) (descends : Bool) (previous : α) :
    List α → m (List α × List α)
  | [] => pure ([], [])
  | x :: xs => do
    if (← below x previous) == descends then
      let (run, others) ← runFrom below descends x xs
      return (x :: run, others)
    else return ([], x :: xs)

/-- The run at the front of a list, in ascending order, and the elements behind it. -/
def firstRun (below : α → α → m Bool) : List α → m (List α × List α)
  | x :: y :: xs => do
    let descends ← below y x
    let (run, others) ← runFrom below descends y xs
    let run := x :: y :: run
    return (if descends then run.reverse else run, others)
  | xs => pure (xs, [])

/-- Sorts a list in ascending order. -/
def sort (below : α → α → m Bool) (xs : List α) : m (List α) := do
  let (run, others) ← firstRun below xs
  others.foldlM (fun sorted x => insert below x sorted) run

/-- Sorts a list so that none comes before one that is below it by `below`, equal elements
in their order. -/
def descending (below : α → α → Bool) (xs : List α) : List α :=
  (Id.run (sort (fun x y => pure (below x y)) xs.reverse)).reverse

end Bursary.Sorting
