import Bursary.Binary64.Basic

/-! Loosely shaped data, as students and scholarships arrive. A record keeps its keys in
the order of their first entry. A keyed structure lists entries and looks keys up like a
record, but is not one. A form that has been read, such as a student's, may stand among the
data too; its fields can be asked for by their names. -/

namespace Bursary

inductive Value where
  | null
  | flag (b : Bool)
  | whole (i : Int)
  | real (x : Binary64)
  | text (s : String)
  | list (xs : List Value)
  | record (entries : List (String × Value))
  | keyed (entries : List (String × Value))
  | form (kind : String) (fields : List (String × Value))
  deriving Inhabited

/-- Entries with different keys. -/
abbrev Record := List (String × Value)

namespace Record

def get? (r : Record) (key : String) : Option Value := (r.find? (·.1 == key)).map (·.2)

/-- The value under a key, null if there is none. -/
def get (r : Record) (key : String) : Value := (r.get? key).getD .null

/-- Replaces the value under a key in its place, or adds an entry at the end. -/
def set (r : Record) (key : String) (v : Value) : Record :=
  match r with
  | [] => [(key, v)]
  | (k, w) :: rest => if k == key then (key, v) :: rest else (k, w) :: set rest key v

@[simp] theorem get?_set (r : Record) (key : String) (v : Value) (k : String) :
    (r.set key v).get? k = if k = key then some v else r.get? k := by
  induction r with
  | nil => grind [set, get?]
  | cons e r ih => grind [set, get?]

/-- A record of entries in which a later value for a key replaces an earlier one. -/
def ofEntries (entries : List (String × Value)) : Record :=
  entries.foldl (fun r (k, v) => r.set k v) []

end Record

namespace Value

def isNull : Value → Bool
  | null => true
  | _ => false

/-- Whether a value counts as given: neither null, false, zero nor empty. -/
def isTruthy : Value → Bool
  | null => false
  | flag b => b
  | whole i => i != 0
  | real x => !x.isZero
  | text s => !s.isEmpty
  | list xs => !xs.isEmpty
  | record es => !es.isEmpty
  | keyed _ => true
  | form .. => true

/-- What a value is called in messages. -/
def kindName : Value → String
  | null => "NoneType"
  | flag _ => "bool"
  | whole _ => "int"
  | real _ => "float"
  | text _ => "str"
  | list _ => "list"
  | record _ => "dict"
  | keyed _ => "Keyed"
  | form kind _ => kind

/-- Equality of the numbers among the values; a flag is the number one or zero. -/
def equalNumbers : Value → Value → Bool
  | flag a, flag b => a == b
  | flag a, whole j => (if a then 1 else 0) == j
  | whole i, flag b => i == (if b then 1 else 0)
  | whole i, whole j => i == j
  | real x, real y => x.equals y
  | flag a, real y => y.equals (if a then 1 else 0)
  | real x, flag b => x.equals (if b then 1 else 0)
  | whole i, real y => y.equalsInt i
  | real x, whole j => x.equalsInt j
  | _, _ => false

mutual

/-- Equality of values: numbers by their value, records without regard to order, forms by
their kind and fields. A keyed structure equals nothing.

Values have no identity here, so a NaN equals nothing inside lists and records either, where
one that is the same object as the other would be taken as equal. And values of any depth are
compared, also those beyond the depth limit of texts, for which calls would run out. -/
def equals : Value → Value → Bool
  | null, null => true
  | text s, text t => s == t
  | list xs, list ys => equalLists xs ys
  | record es, record fs => es.length == fs.length && equalEntries es fs
  | form k es, form l fs => k == l && es.length == fs.length && equalEntries es fs
  | a, b => equalNumbers a b

def equalLists : List Value → List Value → Bool
  | [], [] => true
  | x :: xs, y :: ys => x.equals y && equalLists xs ys
  | _, _ => false

def equalEntries : List (String × Value) → Record → Bool
  | [], _ => true
  | (k, v) :: es, fs => ((fs.get? k).map v.equals).getD false && equalEntries es fs

end

end Value

end Bursary
