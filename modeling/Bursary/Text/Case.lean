import Bursary.Text.CaseTable

/-! Lower and upper case of any text. Both work character by character, except that a
capital sigma becomes the final form at the end of a word. -/

namespace Bursary.Text

/-- Whether a code point is in one of the ranges. -/
def inRanges (ranges : List (Nat × Nat)) (n : Nat) : Bool :=
  ranges.any fun (first, last) => first ≤ n && n ≤ last

/-- The code points that a code point becomes under a list of words and of runs. -/
def recase (words : List (Nat × List Nat)) (runs : List (Nat × Nat × Nat × Int)) (c : Char) :
    List Char :=
  match words.find? (·.1 == c.toNat) with
  | some (_, word) => word.map Char.ofNat
  | none =>
    match runs.find? fun (first, last, stride, _) =>
        first ≤ c.toNat && c.toNat ≤ last && (c.toNat - first) % stride == 0 with
    | some (_, _, _, shift) => [Char.ofNat ((c.toNat : Int) + shift).toNat]
    | none => [c]

/-- The lower case of one character, whatever stands around it. -/
def lowerChar (c : Char) : List Char :=
  if c.toNat < 128 then [c.toLower] else recase CaseTable.lowerWords CaseTable.lowerRuns c

/-- The upper case of one character. -/
def upperChar (c : Char) : List Char :=
  if c.toNat < 128 then [c.toUpper] else recase CaseTable.upperWords CaseTable.upperRuns c

def isCaseIgnorable (c : Char) : Bool := inRanges CaseTable.ignorable c.toNat

def isCased (c : Char) : Bool := inRanges CaseTable.cased c.toNat

/-- Whether the first character that case rules do not look past is a cased letter. -/
def startsCased (cs : List Char) : Bool :=
  ((cs.dropWhile isCaseIgnorable).head?.map isCased).getD false

/-- Lower case of `rest`, where `before` are the characters in front of it, nearest first. -/
def lowerFrom (before : List Char) : List Char → List Char
  | [] => []
  | c :: rest =>
    (if c == 'Σ' then [if startsCased before && !startsCased rest then 'ς' else 'σ']
      else lowerChar c) ++ lowerFrom (c :: before) rest

def lowerChars (cs : List Char) : List Char := lowerFrom [] cs

def lower (s : String) : String := String.ofList (lowerChars s.toList)

def upper (s : String) : String := String.ofList (s.toList.flatMap upperChar)

end Bursary.Text
