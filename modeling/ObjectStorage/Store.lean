import ObjectStorage.Buckets
import ObjectStorage.Clock

/-!
# The store

A `Store` keeps buckets in memory behind a lock. `Store.read` and `Store.write`
take the lock: a closed store and a poisoned lock refuse it, and a change that
breaks off while it writes poisons it for good, with what it had already
changed left in place.
-/

namespace ObjectStorage

/-- Buckets behind a lock, a clock that stamps them, and whether the store is still open. A panic
while the lock is held for writing leaves it poisoned. -/
structure Store where
  buckets : Buckets := ∅
  clock : Clock
  poisoned : Bool := false
  closed : Bool := false

namespace Store

/-- A new store with no buckets. -/
def empty (clock : Clock) : Store := { clock }

/-- Says whether the lock can be taken: a closed store is reported before a poisoned lock. -/
def available (store : Store) : Except Error Unit :=
  if store.closed then .error StorageError.closed
  else if store.poisoned then .error StorageError.lockPoisoned
  else .ok ()

/-- Answers a question about the buckets under the lock. -/
def read {α : Type} (store : Store) (question : Buckets → Except Error α) : Outcome α × Store :=
  match store.available with
  | .error cause => (.failed cause, store)
  | .ok () =>
    match question store.buckets with
    | .error cause => (.failed cause, store)
    | .ok answer => (.ok answer, store)

/-- Changes the store under the lock, which is poisoned when the change breaks off. -/
def write {α : Type} (store : Store) (change : Store → Outcome α × Store) : Outcome α × Store :=
  match store.available with
  | .error cause => (.failed cause, store)
  | .ok () =>
    let result := change store
    (result.1, { result.2 with poisoned := result.1.isPanic })

/-- Reads the clock and goes on with the time, or breaks off with it. -/
def stamp {α : Type} (store : Store) (change : Timestamp → Store → Outcome α × Store) :
    Outcome α × Store :=
  match store.clock.now with
  | .time now => change now { store with clock := store.clock.tick }
  | .panic => (.panicked .clock, { store with clock := store.clock.tick })

/-- How many buckets there are. -/
def bucketCount (store : Store) : Outcome Nat :=
  (store.read fun buckets => .ok buckets.size).1

/-- How many objects a bucket has. -/
def objectCount (store : Store) (bucketName : String) : Outcome Nat :=
  (store.read fun buckets => do return (← buckets.require bucketName).objects.size).1

end Store

end ObjectStorage
