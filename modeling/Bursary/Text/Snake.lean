import Bursary.Text.Case

/-! Names in lower case with underscores between words. -/

namespace Bursary.Text

def isAsciiLower (c : Char) : Bool := 'a' ≤ c && c ≤ 'z'

def isUpperOrDigit (c : Char) : Bool := ('A' ≤ c && c ≤ 'Z') || ('0' ≤ c && c ≤ '9')

/-- Puts an underscore between a small letter and a capital or digit that follows it. -/
def separateWords : List Char → List Char
  | a :: b :: rest =>
    if isAsciiLower a && isUpperOrDigit b then a :: '_' :: separateWords (b :: rest)
    else a :: separateWords (b :: rest)
  | few => few

def snakeCase (s : String) : String := lower (String.ofList (separateWords s.toList))

end Bursary.Text
