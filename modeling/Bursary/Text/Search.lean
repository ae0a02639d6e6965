/-! Text inside text. -/

namespace Bursary.Text

/-- Whether `part` stands somewhere in the characters; no characters stand everywhere. -/
def occursInChars (part : List Char) : List Char → Bool
  | [] => part.isEmpty
  | c :: rest => part.isPrefixOf (c :: rest) || occursInChars part rest

def occursIn (part whole : String) : Bool := occursInChars part.toList whole.toList

/-- The stretches between separators; there is one more than there are separators. -/
def splitChars (separator : Char) : List Char → List (List Char)
  | [] => [[]]
  | c :: rest =>
    if c == separator then [] :: splitChars separator rest
    else match splitChars separator rest with
      | [] => [[c]]
      | first :: others => (c :: first) :: others

def split (separator : Char) (s : String) : List String :=
  (splitChars separator s.toList).map String.ofList

end Bursary.Text
