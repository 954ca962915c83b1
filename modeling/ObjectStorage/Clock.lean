import ObjectStorage.Timestamp

/-!
# Clocks

A `Clock` is the sequence of readings that are still to come. A reading is a
time, or the moment at which the clock panics.
-/

namespace ObjectStorage

/-- What a clock shows when it is read. -/
inductive Reading where
  | time (now : Timestamp)
  | panic

/-- The readings that are still to come, the next one first. -/
abbrev Clock := Nat → Reading

namespace Clock

/-- A clock that always shows the same time. -/
def fixed (now : Timestamp) : Clock := fun _ => .time now

/-- The next reading. -/
def now (clock : Clock) : Reading := clock 0

/-- The clock after its next reading. -/
def tick (clock : Clock) : Clock := fun n => clock (n + 1)

/-- The clock set to a time; it still panics when it would have panicked. -/
def setTime (clock : Clock) (now : Timestamp) : Clock := fun n =>
  match clock n with
  | .time _ => .time now
  | .panic => .panic

/-- The clock with a panic before its next reading. -/
def panicNext (clock : Clock) : Clock
  | 0 => .panic
  | n + 1 => clock n

@[simp]
theorem now_fixed (time : Timestamp) : (fixed time).now = .time time := rfl

@[simp]
theorem tick_fixed (time : Timestamp) : (fixed time).tick = fixed time := rfl

@[simp]
theorem tick_panicNext (clock : Clock) : clock.panicNext.tick = clock := rfl

end Clock

end ObjectStorage
