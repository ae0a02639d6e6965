import Bursary.Text.Blank
import Bursary.Text.Case

/-! Blanks around a text. No rule for letter case knows a blank: it has no other case, it is no
letter, and it is not looked past. So the lower case of a padded text is the padded lower case, and
trimming takes the padding off again. -/

namespace Bursary.Text

/-! ### One blank -/

/-- What holds of every code point in the table holds of every blank. -/
theorem of_isBlank {P : Char → Prop}
    (h : ∀ r ∈ blankRanges, ∀ n ≤ r.2 - r.1, P (Char.ofNat (r.1 + n))) {c : Char}
    (hc : isBlank c = true) : P c := by
  obtain ⟨⟨first, last⟩, hr, hin⟩ := List.any_eq_true.mp hc
  simp only [Bool.and_eq_true, decide_eq_true_eq] at hin
  have hat := h (first, last) hr (c.toNat - first) (by dsimp only; omega)
  rwa [Nat.add_sub_cancel' hin.1, Char.ofNat_toNat] at hat

section Blank

variable {c : Char} (hc : isBlank c = true)

include hc

theorem isCaseIgnorable_of_isBlank : isCaseIgnorable c = false :=
  of_isBlank (P := fun c => isCaseIgnorable c = false) (by decide +kernel) hc

theorem isCased_of_isBlank : isCased c = false :=
  of_isBlank (P := fun c => isCased c = false) (by decide +kernel) hc

theorem ne_sigma_of_isBlank : (c == 'Σ') = false :=
  of_isBlank (P := fun c => (c == 'Σ') = false) (by decide) hc

theorem lowerChar_of_isBlank : lowerChar c = [c] :=
  of_isBlank (P := fun c => lowerChar c = [c]) (by decide +kernel) hc

end Blank

/-! ### Lower case -/

section Blanks

variable {front back : List Char} (hfront : ∀ c ∈ front, isBlank c = true)
  (hback : ∀ c ∈ back, isBlank c = true)

include hback

theorem startsCased_blanks : startsCased back = false := by
  cases back with
  | nil => rfl
  | cons c back =>
    have hc : isBlank c = true := hback c (by simp)
    simp [startsCased, isCaseIgnorable_of_isBlank hc, isCased_of_isBlank hc]

/-- Blanks after a text do not change what it starts with. -/
theorem startsCased_append (cs : List Char) : startsCased (cs ++ back) = startsCased cs := by
  cases hrest : cs.dropWhile isCaseIgnorable with
  | nil =>
    have hnone : startsCased cs = false := by rw [startsCased, hrest]; rfl
    have hskip : startsCased (cs ++ back) = startsCased back := by
      rw [startsCased, List.dropWhile_append, hrest]
      rfl
    rw [hnone, hskip, startsCased_blanks hback]
  | cons c rest =>
    rw [startsCased, startsCased, List.dropWhile_append, hrest]
    rfl

/-- Blanks that stand first in front of a text do not matter to its lower case. -/
theorem lowerFrom_append_blanks (before cs : List Char) :
    lowerFrom (before ++ back) cs = lowerFrom before cs := by
  induction cs generalizing before with
  | nil => rfl
  | cons c cs ih =>
    rw [lowerFrom, lowerFrom, startsCased_append hback, ← List.cons_append, ih]

/-- Blanks are their own lower case. -/
theorem lowerFrom_blanks (before : List Char) : lowerFrom before back = back := by
  induction back generalizing before with
  | nil => rfl
  | cons c back ih =>
    have hc : isBlank c = true := hback c (by simp)
    rw [lowerFrom, ne_sigma_of_isBlank hc, lowerChar_of_isBlank hc,
      ih fun d hd => hback d (by simp [hd])]
    rfl

theorem lowerFrom_append (before cs : List Char) :
    lowerFrom before (cs ++ back) = lowerFrom before cs ++ back := by
  induction cs generalizing before with
  | nil => exact lowerFrom_blanks hback before
  | cons c cs ih =>
    rw [List.cons_append, lowerFrom, lowerFrom, startsCased_append hback, ih, List.append_assoc]

omit hback

include hfront

theorem lowerFrom_front (before cs : List Char) :
    lowerFrom before (front ++ cs) = front ++ lowerFrom (front.reverse ++ before) cs := by
  induction front generalizing before with
  | nil => rfl
  | cons c front ih =>
    have hc : isBlank c = true := hfront c (by simp)
    rw [List.cons_append, lowerFrom, ne_sigma_of_isBlank hc, lowerChar_of_isBlank hc,
      ih fun d hd => hfront d (by simp [hd])]
    simp

include hback

/-- The lower case of a padded text is the padded lower case. -/
theorem lowerChars_padded (cs : List Char) :
    lowerChars (front ++ cs ++ back) = front ++ lowerChars cs ++ back := by
  have hreverse : ∀ c ∈ front.reverse, isBlank c = true := fun c hc =>
    hfront c (List.mem_reverse.mp hc)
  rw [lowerChars, lowerFrom_append hback, lowerFrom_front hfront, List.append_nil,
    ← List.nil_append front.reverse, lowerFrom_append_blanks hreverse, lowerChars]

end Blanks

/-! ### Trimming -/

/-- Trimming does not see what is put around a text if all of that is trimmed. -/
theorem trimBy_padded {p : Char → Bool} {front back : List Char} (hfront : ∀ c ∈ front, p c = true)
    (hback : ∀ c ∈ back, p c = true) (cs : List Char) :
    trimBy p (front ++ cs ++ back) = trimBy p cs := by
  have hreverse : ∀ c ∈ back.reverse, p c = true := fun c hc => hback c (List.mem_reverse.mp hc)
  have hnone : back.dropWhile p = [] := by
    rw [← List.append_nil back, List.dropWhile_append_of_pos hback, List.dropWhile_nil]
  rw [trimBy, trimBy, List.append_assoc, List.dropWhile_append_of_pos hfront,
    List.dropWhile_append]
  cases hrest : cs.dropWhile p with
  | nil => simp [hnone]
  | cons c rest =>
    rw [List.isEmpty_cons, if_neg Bool.false_ne_true, List.reverse_append,
      List.dropWhile_append_of_pos hreverse]

/-- A text of blanks only, which may be empty. -/
def IsPadding (s : String) : Prop := ∀ c ∈ s.toList, isBlank c = true

instance (s : String) : Decidable (IsPadding s) := List.decidableBAll _ _

/-- Text in lower case and without blanks around it comes out the same from a padded text. -/
theorem trim_lower_padded {front back : String} (hfront : IsPadding front) (hback : IsPadding back)
    (s : String) : trim (lower (front ++ s ++ back)) = trim (lower s) := by
  rw [trim, lower, String.toList_ofList, String.toList_append, String.toList_append,
    lowerChars_padded hfront hback, trimBy_padded hfront hback, trim, lower, String.toList_ofList]

end Bursary.Text
