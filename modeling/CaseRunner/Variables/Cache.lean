import CaseRunner.Crash
import CaseRunner.Lookup

/-!
# The cache

The tier of variables that lives no longer than the run. An entry may carry a
moment from which on it is expired; expired entries are not seen, and they are
dropped when something is set.
-/

namespace CaseRunner

/-- A value in the cache. -/
structure CacheEntry where
  /-- The value. -/
  value : String
  /-- The moment from which on the entry is expired. -/
  expiry : Option Moment

/-- Is the entry expired at a moment? -/
def CacheEntry.isExpired (e : CacheEntry) (now : Moment) : Bool :=
  match e.expiry with
  | some t => t ≤ now
  | none => false

/-- The entries of a cache, by key; each key has one. -/
structure Cache where
  /-- The keys and their entries. -/
  entries : List (String × CacheEntry)

namespace Cache

/-- The cache without entries. -/
def empty : Cache := ⟨[]⟩

/-- The value of a key, unless it is expired. -/
def get? (c : Cache) (key : String) (now : Moment) : Option String :=
  ((c.entries.lookup key).filter fun e => !e.isExpired now).map (·.value)

/-- The entries that are not expired. -/
def live (c : Cache) (now : Moment) : List (String × CacheEntry) :=
  c.entries.filter fun e => !e.2.isExpired now

/-- The moment at which a time to live, in nanoseconds, will be over. The clock must be
able to show it. -/
def expiryAfter {ε : Type} (now : Moment) (ttl : Nat) : Except (Stop ε) Moment := do
  (Quantity.moment (now + ttl)).check
  return now + ttl

/-- Sets a key, until a moment if one is given. What is expired by now is dropped, so that
the cache holds no more than the keys in use. -/
def set (c : Cache) (key value : String) (expiry : Option Moment) (now : Moment) : Cache :=
  ⟨(key, ⟨value, expiry⟩) :: (c.live now).filter (·.1 != key)⟩

/-- Removes a key. -/
def erase (c : Cache) (key : String) : Cache := ⟨c.entries.filter (·.1 != key)⟩

/-- Is there an entry for a key, expired or not? -/
def holds (c : Cache) (key : String) : Bool := (c.entries.lookup key).isSome

/-! ## How long -/

section Expiry

variable {ε : Type} {now : Moment} {ttl : Nat}

theorem expiryAfter_of_fits (fits : (Quantity.moment (now + ttl)).fits = true) :
    (expiryAfter now ttl : Except (Stop ε) Moment) = .ok (now + ttl) := by
  rw [expiryAfter, Quantity.check_of_fits fits]
  rfl

theorem expiryAfter_of_unfit (unfit : (Quantity.moment (now + ttl)).fits = false) :
    (expiryAfter now ttl : Except (Stop ε) Moment) = .error (.crash _ unfit) := by
  rw [expiryAfter, Quantity.check_of_unfit unfit]
  rfl

end Expiry

/-! ## What is found -/

/-- A key that was set for good is found. -/
theorem get?_set_self (c : Cache) (key value : String) (now later : Moment) :
    (c.set key value none now).get? key later = some value := by
  simp [get?, set, CacheEntry.isExpired, Option.filter]

/-- A key that was set until a moment is found until then. -/
theorem get?_set_self_of_expiry (c : Cache) (key value : String) (expiry : Moment)
    (now later : Moment) :
    (c.set key value (some expiry) now).get? key later =
      if expiry ≤ later then none else some value := by
  by_cases h : expiry ≤ later <;> simp [get?, set, CacheEntry.isExpired, h, Option.filter]

/-- A key that was erased is not found. -/
theorem get?_erase_self (c : Cache) (key : String) (now : Moment) :
    (c.erase key).get? key now = none := by
  simp [get?, erase, lookup_filter_self]

/-- Erasing a key leaves the others as they are. -/
theorem get?_erase_of_ne (c : Cache) {key other : String} (h : other ≠ key) (now : Moment) :
    (c.erase key).get? other now = c.get? other now := by
  simp [get?, erase, lookup_filter_of_ne h]

end Cache

end CaseRunner
