import Bursary.Student
import Bursary.Text.Snake

/-! The student's field that a rule asks about. A path names a field of the student, as
written or in snake case, and then entries inside it; a first name that is no field, or a
field without a value, is looked up in the custom fields. -/

namespace Bursary

/-- A field by its name, as written or in snake case. -/
def Record.fieldNamed (fields : Record) (name : String) : Value :=
  match fields.get? name with
  | some v => v
  | none => fields.get (Text.snakeCase name)

/-- The entry of a value under a key; values without entries have none. Paths into a number or a
text, to parts such as `real` that the object itself would show, are left out: they lead nowhere. -/
def Value.entry (v : Value) (key : String) : Value :=
  match v with
  | .form _ fields => Record.fieldNamed fields key
  | .record es => Record.get es key
  | .keyed es => if key == "get" then .null else Record.get es key
  | _ => .null

namespace Student

/-- The value under the first name of a path. -/
def start (s : Student) (name : String) : Value :=
  let field := Record.fieldNamed s.toRecord name
  if field.isNull then Record.get s.customFields name else field

/-- The value at a path; null if the path is empty or leads nowhere. -/
def resolve (s : Student) (path : String) : Value :=
  match Text.split '.' path with
  | [] | [""] => .null
  | first :: rest => rest.foldl Value.entry (s.start first)

end Student

end Bursary
