import Bursary.Value.Reading

/-! Canonical names of tuition brackets, year levels and colleges. A code, an old name or
the full name, in any letter case and with any blanks around it, becomes the canonical
name; a text that is none of them is kept. -/

namespace Bursary.Canonical

/-- Names in upper case, with the canonical name of each. -/
abbrev Table := List (String × String)

def brackets : Table := [
  ("FULL DISCOUNT WITH STIPEND", "Full Discount with Stipend"),
  ("FULL DISCOUNT", "Full Discount"),
  ("PD80", "PD80"),
  ("PD60", "PD60"),
  ("PD40", "PD40"),
  ("PD20", "PD20"),
  ("NO DISCOUNT", "No Discount"),
  ("FDS", "Full Discount with Stipend"),
  ("FD", "Full Discount"),
  ("ND", "No Discount")]

def yearLevels : Table := [
  ("1ST YEAR", "Freshman"),
  ("2ND YEAR", "Sophomore"),
  ("3RD YEAR", "Junior"),
  ("4TH YEAR", "Senior"),
  ("5TH YEAR", "Senior"),
  ("FIRST YEAR", "Freshman"),
  ("SECOND YEAR", "Sophomore"),
  ("THIRD YEAR", "Junior"),
  ("FOURTH YEAR", "Senior"),
  ("FIFTH YEAR", "Senior"),
  ("FRESHMAN", "Freshman"),
  ("SOPHOMORE", "Sophomore"),
  ("JUNIOR", "Junior"),
  ("SENIOR", "Senior"),
  ("GRADUATE", "Graduate")]

def colleges : Table := [
  ("CAS", "College of Arts and Sciences"),
  ("CAFS", "College of Agriculture and Food Science"),
  ("CEM", "College of Economics and Management"),
  ("CEAT", "College of Engineering and Agro-Industrial Technology"),
  ("CFNR", "College of Forestry and Natural Resources"),
  ("CHE", "College of Human Ecology"),
  ("CVM", "College of Veterinary Medicine"),
  ("CDC", "College of Development Communication"),
  ("CPAF", "College of Public Affairs and Development"),
  ("GS", "Graduate School"),
  ("SESAM", "School of Environmental Science and Management")]

/-- The canonical name that a text stands for, or the text without the blanks around it. -/
def name (table : Table) (s : String) : String :=
  let trimmed := Text.trim s
  (table.lookup (Text.upper trimmed)).getD trimmed

/-- The canonical name of a text; the empty text has none. -/
def nameOfText? (table : Table) (s : String) : Option String :=
  if s.isEmpty then none else some (name table s)

/-- The canonical name of a value, by its text; a value that is not given has none. -/
def nameOf? (table : Table) (v : Value) : Except Failure (Option String) :=
  v.textIfGiven.map fun s => s.map (name table)

end Bursary.Canonical
