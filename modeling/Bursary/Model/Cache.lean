import Bursary.Quantity

/-! A cache whose entries live for a fixed time. An entry answers while the clock is before
its expiry; a lookup at any other time removes it. -/

namespace Bursary

/-- A scale of time. -/
class Clock (τ : Type) where
  /-- Whether a time comes before another. -/
  before : τ → τ → Bool

instance : Clock Binary64 := ⟨Binary64.lt⟩

instance : Clock Quantity := ⟨Quantity.lt⟩

structure CacheEntry (τ α : Type) where
  value : α
  expiry : τ

structure Cache (τ α : Type) where
  /-- How long an entry lives. -/
  lifetime : τ
  entries : List (String × CacheEntry τ α) := []

namespace Cache

variable {τ α : Type}

def size (c : Cache τ α) : Nat := c.entries.length

def find? (c : Cache τ α) (key : String) : Option (CacheEntry τ α) := c.entries.lookup key

def erase (c : Cache τ α) (key : String) : Cache τ α :=
  { c with entries := c.entries.filter (·.1 != key) }

/-- The value under a key at a time, and the cache without the entry if it has expired. -/
def get [Clock τ] (c : Cache τ α) (now : τ) (key : String) : Option α × Cache τ α :=
  match c.find? key with
  | none => (none, c)
  | some e => if Clock.before now e.expiry then (some e.value, c) else (none, c.erase key)

/-- Stores a value under a key, in the place of one already there. -/
def put (c : Cache τ α) (key : String) (value : α) (expiry : τ) : Cache τ α :=
  { c.erase key with entries := (key, ⟨value, expiry⟩) :: (c.erase key).entries }

/-- Stores a value that lives from a time on. -/
def set (c : Cache Binary64 α) (now : Binary64) (key : String) (value : α) : Cache Binary64 α :=
  c.put key value (now + c.lifetime)

/-- The same by a clock whose times are quantities; the expiry may be too large for one. -/
def setExact (c : Cache Quantity α) (now : Quantity) (key : String) (value : α) :
    Except Failure (Cache Quantity α) := do
  return c.put key value (← now.plus c.lifetime)

def isCached [Clock τ] (c : Cache τ α) (now : τ) (key : String) : Bool × Cache τ α :=
  let (found, c) := c.get now key
  (found.isSome, c)

def clear (c : Cache τ α) : Cache τ α := { c with entries := [] }

/-! ### What the operations do to the entries -/

theorem lookup_filter_ne {β : Type} (es : List (String × β)) (key k : String) :
    (es.filter (·.1 != key)).lookup k = if k = key then none else es.lookup k := by
  induction es with
  | nil => simp
  | cons e es ih => grind

@[simp] theorem find?_erase (c : Cache τ α) (key k : String) :
    (c.erase key).find? k = if k = key then none else c.find? k :=
  lookup_filter_ne c.entries key k

@[simp] theorem find?_put (c : Cache τ α) (key : String) (v : α) (expiry : τ) (k : String) :
    (c.put key v expiry).find? k = if k = key then some ⟨v, expiry⟩ else c.find? k := by
  have := c.find?_erase key k
  grind [put, find?]

@[simp] theorem find?_clear (c : Cache τ α) (k : String) : c.clear.find? k = none := rfl

@[simp] theorem lifetime_get [Clock τ] (c : Cache τ α) (now : τ) (key : String) :
    (c.get now key).2.lifetime = c.lifetime := by
  unfold get
  split
  · rfl
  · split <;> rfl

end Cache

end Bursary
