/-!
# Timestamps

A `Timestamp` is an instant in universal time: whole seconds since the start of
1970 and nanoseconds within the second. A count of nanoseconds past one
thousand million lies in a leap second, which shares the number of the second
before it.
-/

namespace ObjectStorage

/-- An instant between the start of the year -262143 and the end of the year 262142. -/
structure Timestamp where
  seconds : Int
  nanos : Nat
  seconds_ge : -8334601228800 ≤ seconds := by omega
  seconds_le : seconds ≤ 8210266876799 := by omega
  nanos_lt : nanos < 2000000000 := by omega
deriving DecidableEq

namespace Timestamp

/-- The start of 1970. -/
def epoch : Timestamp := { seconds := 0, nanos := 0 }

instance : Inhabited Timestamp := ⟨epoch⟩

/-- The instant with these seconds and nanoseconds, when it is within the range of the type. -/
def ofUnix? (seconds : Int) (nanos : Nat) : Option Timestamp :=
  if h : (-8334601228800 ≤ seconds ∧ seconds ≤ 8210266876799) ∧ nanos < 2000000000 then
    some ⟨seconds, nanos, h.1.1, h.1.2, h.2⟩
  else none

/-- One instant is not after another. -/
instance : LE Timestamp where
  le a b := a.seconds < b.seconds ∨ a.seconds = b.seconds ∧ a.nanos ≤ b.nanos

instance (a b : Timestamp) : Decidable (a ≤ b) :=
  inferInstanceAs (Decidable (_ ∨ _))

theorem ofUnix?_self (t : Timestamp) : ofUnix? t.seconds t.nanos = some t := by
  simp [ofUnix?, t.seconds_ge, t.seconds_le, t.nanos_lt]

end Timestamp

end ObjectStorage
