/-!
# Durations

A `Duration` is a length of time in whole nanoseconds.
-/

namespace ObjectStorage

/-- A length of time. -/
structure Duration where
  nanos : Nat
deriving DecidableEq

namespace Duration

/-- No time at all. -/
def zero : Duration := ⟨0⟩

/-- A length of time in seconds and nanoseconds. -/
def ofParts (seconds nanos : Nat) : Duration := ⟨seconds * 1000000000 + nanos⟩

/-- A length of time in milliseconds. -/
def ofMillis (millis : Nat) : Duration := ⟨millis * 1000000⟩

/-- A length of time in years of 365 days. -/
def ofYears (years : Nat) : Duration := ofParts (years * 365 * 86400) 0

/-- The whole seconds. -/
def seconds (d : Duration) : Nat := d.nanos / 1000000000

/-- The nanoseconds beyond the whole seconds. -/
def subsecNanos (d : Duration) : Nat := d.nanos % 1000000000

/-- One length of time is not longer than another. -/
instance : LE Duration where
  le a b := a.nanos ≤ b.nanos

instance (a b : Duration) : Decidable (a ≤ b) :=
  inferInstanceAs (Decidable (a.nanos ≤ b.nanos))

end Duration

end ObjectStorage
