import Bursary.Text.Blank
import Bursary.Text.Quoted

/-! Texts that differ in the case of ASCII letters. No rule on texts tells a capital from its small
letter but the one that keeps it: both cases, the blanks, and what stands in quotes come out the
same but for the letters. So it is enough to compare texts with all their ASCII letters made small.
-/

namespace Bursary.Text

/-- A text with its ASCII letters made small. -/
def small (s : String) : String := String.ofList (s.toList.map Char.toLower)

@[simp] theorem toList_small (s : String) : (small s).toList = s.toList.map Char.toLower :=
  String.toList_ofList

theorem small_append (s t : String) : small (s ++ t) = small s ++ small t := by
  simp [← String.toList_inj]

theorem small_intercalate (separator : String) (items : List String) :
    small (separator.intercalate items) = (small separator).intercalate (items.map small) := by
  induction items with
  | nil => rfl
  | cons s rest ih =>
    cases rest with
    | nil => simp
    | cons t rest =>
      rw [String.intercalate_cons_cons, small_append, small_append, ih]
      simp only [List.map_cons, String.intercalate_cons_cons]

/-- Texts that differ at most in the case of ASCII letters. -/
def SameLetters (s t : String) : Prop := small s = small t

instance (s t : String) : Decidable (SameLetters s t) := inferInstanceAs (Decidable (_ = _))

@[simp] theorem isEmpty_small (s : String) : (small s).isEmpty = s.isEmpty := by
  rw [Bool.eq_iff_iff, String.isEmpty_iff, String.isEmpty_iff, ← String.toList_inj,
    ← String.toList_inj]
  simp

/-! ### Characters -/

/-- What does not tell the 26 capitals from their small letters tells no character from its lower
case. -/
theorem eq_of_capitals {α : Type} {f : Char → α}
    (h : ∀ n < 26, f (Char.ofNat (n + 97)) = f (Char.ofNat (n + 65))) (c : Char) :
    f c.toLower = f c := by
  have hsmall : ∀ n < 26, (Char.ofNat (n + 65)).toLower = Char.ofNat (n + 97) := by decide
  by_cases hc : 65 ≤ c.toNat ∧ c.toNat ≤ 90
  · obtain ⟨n, hn, rfl⟩ : ∃ n < 26, c = Char.ofNat (n + 65) :=
      ⟨c.toNat - 65, by omega, by rw [Nat.sub_add_cancel hc.1, Char.ofNat_toNat]⟩
    rw [hsmall n hn, h n hn]
  · have hsame : c.toLower = c := dif_neg (by simpa [UInt32.le_iff_toNat_le] using hc)
    rw [hsame]

theorem small_small (s : String) : small (small s) = small s := by
  rw [← String.toList_inj, toList_small, toList_small, List.map_map]
  exact List.map_congr_left fun c _ => eq_of_capitals (by decide) c

theorem isBlank_toLower (c : Char) : isBlank c.toLower = isBlank c :=
  eq_of_capitals (by decide) c

theorem lowerChar_toLower (c : Char) : lowerChar c.toLower = lowerChar c :=
  eq_of_capitals (by decide) c

theorem upperChar_toLower (c : Char) : upperChar c.toLower = upperChar c :=
  eq_of_capitals (by decide) c

/-- Whether ranges of code points leave out all ASCII letters. -/
def leavesLettersOut (ranges : List (Nat × Nat)) : Bool :=
  ranges.all fun (first, last) => (last < 65 || 90 < first) && (last < 97 || 122 < first)

theorem toNat_letter : ∀ n < 26, ∀ first ∈ [97, 65],
    (Char.ofNat (n + first)).toNat = n + first := by
  decide

/-- No letter is in such ranges. -/
theorem inRanges_letter {ranges : List (Nat × Nat)} (h : leavesLettersOut ranges = true)
    {n first : Nat} (hn : n < 26) (hfirst : first ∈ [97, 65]) :
    inRanges ranges (Char.ofNat (n + first)).toNat = false := by
  rw [toNat_letter n hn first hfirst]
  simp only [List.mem_cons, List.not_mem_nil, or_false] at hfirst
  simp only [inRanges, List.any_eq_false, Bool.and_eq_true, decide_eq_true_eq]
  intro r hr hin
  have hout := List.all_eq_true.mp h r hr
  simp only [Bool.and_eq_true, Bool.or_eq_true, decide_eq_true_eq] at hout
  omega

theorem isCaseIgnorable_toLower (c : Char) : isCaseIgnorable c.toLower = isCaseIgnorable c := by
  have hout : leavesLettersOut CaseTable.ignorable = true := by decide +kernel
  refine eq_of_capitals (fun n hn => ?_) c
  rw [isCaseIgnorable, isCaseIgnorable, inRanges_letter hout hn (by simp),
    inRanges_letter hout hn (by simp)]

theorem isCased_toLower (c : Char) : isCased c.toLower = isCased c :=
  eq_of_capitals (by decide +kernel) c

theorem beq_toLower {x : Char}
    (h : ∀ n < 26, (Char.ofNat (n + 97) == x) = (Char.ofNat (n + 65) == x)) (c : Char) :
    (c.toLower == x) = (c == x) :=
  eq_of_capitals (f := (· == x)) h c

/-! ### Case and blanks -/

theorem startsCased_map (cs : List Char) : startsCased (cs.map Char.toLower) = startsCased cs := by
  have hignorable : isCaseIgnorable ∘ Char.toLower = isCaseIgnorable :=
    funext isCaseIgnorable_toLower
  have hcased : isCased ∘ Char.toLower = isCased := funext isCased_toLower
  rw [startsCased, List.dropWhile_map, hignorable, List.head?_map, Option.map_map, hcased,
    startsCased]

theorem lowerFrom_map (before cs : List Char) :
    lowerFrom (before.map Char.toLower) (cs.map Char.toLower) = lowerFrom before cs := by
  induction cs generalizing before with
  | nil => rfl
  | cons c cs ih =>
    have hsigma : (c.toLower == 'Σ') = (c == 'Σ') := beq_toLower (by decide) c
    simp only [List.map_cons, lowerFrom, hsigma, startsCased_map, lowerChar_toLower]
    rw [← List.map_cons, ih]

/-- The lower case of a text does not tell ASCII letters apart by their case. -/
theorem lower_small (s : String) : lower (small s) = lower s := by
  rw [lower, toList_small, lowerChars, ← List.map_nil, lowerFrom_map]
  rfl

theorem upper_small (s : String) : upper (small s) = upper s := by
  rw [upper, toList_small, List.flatMap_map]
  simp only [upperChar_toLower]
  rfl

theorem trimBy_map {p : Char → Bool} (h : ∀ c, p c.toLower = p c) (cs : List Char) :
    trimBy p (cs.map Char.toLower) = (trimBy p cs).map Char.toLower := by
  have hp : p ∘ Char.toLower = p := funext h
  simp only [trimBy, List.dropWhile_map, ← List.map_reverse, hp]

theorem trim_small (s : String) : trim (small s) = small (trim s) := by
  rw [trim, toList_small, trimBy_map isBlank_toLower, small, trim, String.toList_ofList]

namespace SameLetters

variable {s t : String} (h : SameLetters s t)

include h

theorem isEmpty : s.isEmpty = t.isEmpty := by rw [← isEmpty_small s, h, isEmpty_small]

theorem lower : Text.lower s = Text.lower t := by rw [← lower_small s, h, lower_small]

theorem upper : Text.upper s = Text.upper t := by rw [← upper_small s, h, upper_small]

theorem trim : SameLetters (Text.trim s) (Text.trim t) := by
  rw [SameLetters, ← trim_small, h, trim_small]

end SameLetters

/-! ### Quotes -/

theorem quoteFor_map (cs : List Char) :
    Quoted.quoteFor (cs.map Char.toLower) = Quoted.quoteFor cs := by
  have hcontains {x : Char}
      (h : ∀ n < 26, (Char.ofNat (n + 97) == x) = (Char.ofNat (n + 65) == x)) :
      (cs.map Char.toLower).contains x = cs.contains x := by
    rw [List.contains_eq_any_beq, List.contains_eq_any_beq, List.any_map]
    refine congrArg cs.any (funext fun c => ?_)
    show (x == c.toLower) = (x == c)
    rw [BEq.comm, beq_toLower h, BEq.comm]
  rw [Quoted.quoteFor, hcontains (by decide), hcontains (by decide), Quoted.quoteFor]

theorem escape_toLower {quote : Char} (h : quote = '\'' ∨ quote = '"') (c : Char) :
    (Quoted.escape quote c.toLower).map Char.toLower =
      (Quoted.escape quote c).map Char.toLower := by
  refine eq_of_capitals (f := fun c => (Quoted.escape quote c).map Char.toLower) (fun n hn => ?_) c
  have hout : leavesLettersOut Unprintable.ranges = true := by decide +kernel
  have hplain : ∀ n < 26, ∀ first ∈ [97, 65], Char.ofNat (n + first) ≠ '\'' ∧
      Char.ofNat (n + first) ≠ '"' ∧ Char.ofNat (n + first) ≠ '\\' ∧
      Char.ofNat (n + first) ≠ '\t' ∧ Char.ofNat (n + first) ≠ '\n' ∧
      Char.ofNat (n + first) ≠ '\r' ∧
      (Char.ofNat (n + first)).toLower = Char.ofNat (n + 97) := by decide
  -- a letter is written as it is
  have hescape (first : Nat) (hfirst : first ∈ [97, 65]) :
      (Quoted.escape quote (Char.ofNat (n + first))).map Char.toLower = [Char.ofNat (n + 97)] := by
    obtain ⟨hone, htwo, hslash, htab, hline, hreturn, hlower⟩ := hplain n hn first hfirst
    have hquote : Char.ofNat (n + first) ≠ quote := by rcases h with rfl | rfl <;> assumption
    have hprint := inRanges_letter hout hn hfirst
    simp [Quoted.escape, hquote, hslash, htab, hline, hreturn, hprint, hlower]
  rw [hescape 97 (by simp), hescape 65 (by simp)]

theorem small_quoted (s : String) : small (quoted (small s)) = small (quoted s) := by
  have hquote (cs : List Char) : Quoted.quoteFor cs = '\'' ∨ Quoted.quoteFor cs = '"' := by
    unfold Quoted.quoteFor
    split
    · exact .inr rfl
    · exact .inl rfl
  rw [← String.toList_inj]
  simp only [toList_small, quoted, String.toList_ofList, Quoted.encode, quoteFor_map,
    List.map_append, List.map_cons, List.flatMap_map, List.map_flatMap, escape_toLower (hquote _)]

end Bursary.Text
