import Bursary.Condition.Basic
import Bursary.Rule.Check

/-! Changes that relax criteria: of a threshold, a list, a flag, the size of a household, or one of
the scholarship's own rules. Thresholds, lists and flags each belong to one standard condition. -/

namespace Bursary

/-! ### Parts of criteria -/

/-- The thresholds of criteria that are measured. -/
inductive Threshold where
  | maxGwa | minGwa | minUnitsEnrolled | minUnitsPassed | maxIncome | minIncome
  deriving DecidableEq

namespace Threshold

def get : Threshold → Criteria → Option Binary64
  | maxGwa, c => c.maxGwa
  | minGwa, c => c.minGwa
  | minUnitsEnrolled, c => c.minUnitsEnrolled
  | minUnitsPassed, c => c.minUnitsPassed
  | maxIncome, c => c.maxIncome
  | minIncome, c => c.minIncome

def set : Threshold → Criteria → Option Binary64 → Criteria
  | maxGwa, c, x => { c with maxGwa := x }
  | minGwa, c, x => { c with minGwa := x }
  | minUnitsEnrolled, c, x => { c with minUnitsEnrolled := x }
  | minUnitsPassed, c, x => { c with minUnitsPassed := x }
  | maxIncome, c, x => { c with maxIncome := x }
  | minIncome, c, x => { c with minIncome := x }

def isCeiling : Threshold → Bool
  | maxGwa | maxIncome => true
  | minGwa | minUnitsEnrolled | minUnitsPassed | minIncome => false

/-- Whether the threshold is one on grades. Where it is missing, the range of grades bounds them. -/
def isOnGrades : Threshold → Bool
  | maxGwa | minGwa => true
  | minUnitsEnrolled | minUnitsPassed | maxIncome | minIncome => false

/-- The condition that reads the threshold. -/
def condition : Threshold → Condition
  | maxGwa | minGwa => .gwa
  | minUnitsEnrolled => .unitsEnrolled
  | minUnitsPassed => .unitsPassed
  | maxIncome | minIncome => .income

/-- A ceiling that is given and not zero is raised, such a floor is lowered but not to zero, and
one that is not on grades is taken away. -/
inductive Relaxes (t : Threshold) : Option Binary64 → Option Binary64 → Prop
  | raise {old new : Binary64} (ht : t.isCeiling = true) (hold : old.isZero = false)
      (h : old.lt new = true) : Relaxes t (some old) (some new)
  | lower {old new : Binary64} (ht : t.isCeiling = false) (hold : old.isZero = false)
      (hnew : new.isZero = false) (h : new.lt old = true) : Relaxes t (some old) (some new)
  | remove {old : Option Binary64} (ht : t.isOnGrades = false) : Relaxes t old none

end Threshold

/-- The lists of criteria. -/
inductive Listing where
  | yearLevels | colleges | courses | majors | stBrackets | provinces | citizenships
  deriving DecidableEq

namespace Listing

def get : Listing → Criteria → List String
  | yearLevels, c => c.yearLevels
  | colleges, c => c.colleges
  | courses, c => c.courses
  | majors, c => c.majors
  | stBrackets, c => c.stBrackets
  | provinces, c => c.provinces
  | citizenships, c => c.citizenships

def set : Listing → Criteria → List String → Criteria
  | yearLevels, c, names => { c with yearLevels := names }
  | colleges, c, names => { c with colleges := names }
  | courses, c, names => { c with courses := names }
  | majors, c, names => { c with majors := names }
  | stBrackets, c, names => { c with stBrackets := names }
  | provinces, c, names => { c with provinces := names }
  | citizenships, c, names => { c with citizenships := names }

def condition : Listing → Condition
  | yearLevels => .yearLevel
  | colleges => .college
  | courses => .course
  | majors => .major
  | stBrackets => .stBracket
  | provinces => .province
  | citizenships => .citizenship

end Listing

/-- The flags of criteria. -/
inductive Flag where
  | noOtherScholarship | noDisciplinaryAction | noThesisGrant | approvedThesisOutline
  | noFailingGrade | noGradeOf4 | noIncompleteGrade | graduating | filipinoOnly
  deriving DecidableEq

namespace Flag

def clear : Flag → Criteria → Criteria
  | noOtherScholarship, c => { c with noOtherScholarship := false }
  | noDisciplinaryAction, c => { c with noDisciplinaryAction := false }
  | noThesisGrant, c => { c with noThesisGrant := false }
  | approvedThesisOutline, c => { c with approvedThesisOutline := false }
  | noFailingGrade, c => { c with noFailingGrade := false }
  | noGradeOf4, c => { c with noGradeOf4 := false }
  | noIncompleteGrade, c => { c with noIncompleteGrade := false }
  | graduating, c => { c with graduating := false }
  | filipinoOnly, c => { c with filipinoOnly := false }

def condition : Flag → Condition
  | noOtherScholarship => .noOtherScholarship
  | noDisciplinaryAction => .noDisciplinaryAction
  | noThesisGrant => .noThesisGrant
  | approvedThesisOutline => .approvedThesis
  | noFailingGrade => .noFailingGrade
  | noGradeOf4 => .noGradeOf4
  | noIncompleteGrade => .noIncompleteGrade
  | graduating => .graduating
  | filipinoOnly => .citizenship

end Flag

/-! ### Rules -/

/-- One element of a list is taken out or relaxed. -/
inductive OneRelaxed {α : Type} (relaxesTo : α → α → Prop) : List α → List α → Prop
  | delete (front back : List α) (a : α) : OneRelaxed relaxesTo (front ++ a :: back) (front ++ back)
  | replace (front back : List α) {a b : α} (h : relaxesTo a b) :
    OneRelaxed relaxesTo (front ++ a :: back) (front ++ b :: back)

namespace OneRelaxed

variable {α β : Type} {relaxesTo : α → α → Prop} {xs ys : List α}

theorem forall_mem (h : OneRelaxed relaxesTo xs ys) {P : α → Prop}
    (hP : ∀ a b, relaxesTo a b → P a → P b) (hxs : ∀ a ∈ xs, P a) : ∀ b ∈ ys, P b := by
  cases h with
  | delete front back a =>
    simp only [List.forall_mem_append, List.forall_mem_cons] at hxs ⊢
    exact ⟨hxs.1, hxs.2.2⟩
  | replace front back h =>
    simp only [List.forall_mem_append, List.forall_mem_cons] at hxs ⊢
    exact ⟨hxs.1, hP _ _ h hxs.2.1, hxs.2.2⟩

/-- What a list tells of its elements of a kind, it goes on telling in its order, with nothing new,
if a relaxed element is of the kind only when it was before and then tells the same. -/
theorem map_filter_sublist (h : OneRelaxed relaxesTo xs ys) {p : α → Bool} {f : α → β}
    (hp : ∀ a b, relaxesTo a b → p b = true → p a = true ∧ f b = f a) :
    ((ys.filter p).map f).Sublist ((xs.filter p).map f) := by
  cases h with
  | delete front back a =>
    exact (((List.Sublist.refl front).append (List.sublist_cons_self a back)).filter p).map f
  | @replace front back a b h =>
    rw [List.filter_append, List.filter_append, List.map_append, List.map_append]
    refine (List.Sublist.refl _).append ?_
    by_cases hb : p b = true
    · obtain ⟨ha, hf⟩ := hp a b h hb
      have hsame : ((b :: back).filter p).map f = ((a :: back).filter p).map f := by
        rw [List.filter_cons_of_pos hb, List.filter_cons_of_pos ha, List.map_cons, List.map_cons,
          hf]
      exact hsame ▸ List.Sublist.refl _
    · rw [List.filter_cons_of_neg hb]
      exact ((List.sublist_cons_self a back).filter p).map f

end OneRelaxed

/-- A rule is switched off, or made less than required. -/
inductive Rule.RelaxesTo (r : Rule) : Rule → Prop
  | deactivate : RelaxesTo r { r with isActive := false }
  | demote {importance : Importance} (h : importance ≠ .required) :
    RelaxesTo r { r with importance }

/-- The same of a rule that could not be read. -/
inductive Unreadable.RelaxesTo (raw : Record) : Record → Prop
  | deactivate {v : Value} (h : v.isTruthy = false) : RelaxesTo raw (raw.set "is_active" v)
  | demote {importance : Importance} (h : importance ≠ .required) :
    RelaxesTo raw (raw.set "importance" (.text importance.word))

/-! ### Relaxations -/

/-- One change that relaxes criteria. -/
inductive Relaxation (c : Criteria) : Criteria → Prop
  | threshold (t : Threshold) {x : Option Binary64} (h : t.Relaxes (t.get c) x) :
    Relaxation c (t.set c x)
  | raiseHousehold {old new : Int} (hold : c.maxHouseholdSize = some old) (h : old < new) :
    Relaxation c { c with maxHouseholdSize := some new }
  | lowerHousehold {old new : Int} (hc : c.minHouseholdSize = some old) (hold : old ≠ 0)
    (hnew : new ≠ 0) (h : new < old) : Relaxation c { c with minHouseholdSize := some new }
  | extend (l : Listing) {names : List String} (hne : l.get c ≠ []) (hsub : l.get c ⊆ names) :
    Relaxation c (l.set c names)
  | empty (l : Listing) (h : l = .citizenships → c.filipinoOnly = false) :
    Relaxation c (l.set c [])
  | clear (f : Flag) : Relaxation c (f.clear c)
  | rule {rules : List Rule} (h : OneRelaxed Rule.RelaxesTo c.rules rules) :
    Relaxation c { c with rules }
  | unreadableRule {raws : List Record}
    (h : OneRelaxed Unreadable.RelaxesTo c.unreadableRules raws) :
    Relaxation c { c with unreadableRules := raws }

end Bursary
