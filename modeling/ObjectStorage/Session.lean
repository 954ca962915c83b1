import ObjectStorage.Bridge
import ObjectStorage.Cached
import ObjectStorage.Config
import ObjectStorage.Fixture
import ObjectStorage.Interposer
import ObjectStorage.Store.Dump

/-!
# Sessions

A `Session` is a whole stack to try things out with: a store, a recorder around
it, an interposer around that, and two caches in front of it, `top` and its
`twin`. Operations enter it by a `Route`, and other steps look into it or arm
what it should do next. Its bridge words a failed task as the panic.
-/

namespace ObjectStorage

/-- A store behind a recorder behind an interposer. -/
abbrev Delegate := Interposer (Recorder Store)

/-- How a delegate carries out operations. -/
def Delegate.backend : Backend Delegate :=
  Interposer.backend (Recorder.backend Store.backend)

/-- Two caches in front of one delegate, and whether the clock of the store can be set. -/
structure Session where
  top : ItemCache
  twin : ItemCache
  delegate : Delegate
  clockIsSettable : Bool := true

/-- Where an operation enters the stack: at the store itself, at the delegate, at one of the
caches, or at a bridge over the top one. -/
inductive Route where
  | inner
  | delegate
  | top
  | twin
  | bridge
deriving DecidableEq

/-- Which kind of cache a session has. -/
inductive CacheKind where
  | plain
  | validated
  | unvalidated
  | default

namespace CacheKind

/-- The policy of a cache of this kind; a plain cache has no settings, and an unvalidated one takes
any that a cache can be set up with. -/
def policy (kind : CacheKind) (config : CacheConfig) : Except Failure CachePolicy :=
  match kind with
  | plain => .ok .plain
  | validated => config.policy
  | unvalidated => (CachePolicy.limited config.maxEntryAge config.maxEntries).mapError .panic
  | default => CacheConfig.default.policy

end CacheKind

namespace Session

/-- A session over an empty store, with empty caches of one policy. -/
def start (policy : CachePolicy) (clock : Clock) : Session where
  top := { policy }
  twin := { policy }
  delegate := { inner := { inner := Store.empty clock } }

/-- A session over the fixture, which has a clock of its own. -/
def ofFixture (policy : CachePolicy) : Session where
  top := { policy }
  twin := { policy }
  delegate := { inner := Fixture.populated (.fixed .epoch) }
  clockIsSettable := false

/-- The recorder of the session. -/
def recorder (session : Session) : Recorder Store := session.delegate.inner

/-- The session with its recorder changed. -/
def mapRecorder (change : Recorder Store → Recorder Store) (session : Session) : Session :=
  { session with delegate := { session.delegate with inner := change session.delegate.inner } }

/-- The store of the session. -/
def store (session : Session) : Store := session.recorder.inner

/-- The session with its store changed. -/
def mapStore (change : Store → Store) (session : Session) : Session :=
  session.mapRecorder fun recorder => { recorder with inner := change recorder.inner }

/-- The session after a cached backend took its steps with the top cache. -/
def withTop (session : Session) (state : Cached Delegate) : Session :=
  { session with top := state.cache, delegate := state.delegate }

/-- The session after a cached backend took its steps with the twin's cache. -/
def withTwin (session : Session) (state : Cached Delegate) : Session :=
  { session with twin := state.cache, delegate := state.delegate }

/-- Carries out one operation that enters by a route. -/
def run (route : Route) {α : Type} (operation : Operation α) (session : Session) :
    Outcome α × Session :=
  match route with
  | .inner =>
    let result := session.store.run operation
    (result.1, session.mapStore fun _ => result.2)
  | .delegate =>
    let result := Delegate.backend.run operation session.delegate
    (result.1, { session with delegate := result.2 })
  | .top =>
    let result := Cached.run Delegate.backend operation ⟨session.top, session.delegate⟩
    (result.1, session.withTop result.2)
  | .twin =>
    let result := Cached.run Delegate.backend operation ⟨session.twin, session.delegate⟩
    (result.1, session.withTwin result.2)
  | .bridge =>
    let result := Bridge.run Panic.message (Cached.backend Delegate.backend) operation
      ⟨session.top, session.delegate⟩
    (result.1, session.withTop result.2)

/-- The cache that steps about a cache are on: the twin's by its own route, else the top one. -/
def cache (route : Route) (session : Session) : ItemCache :=
  if route = .twin then session.twin else session.top

/-- The session with that cache changed. -/
def mapCache (route : Route) (change : ItemCache → ItemCache) (session : Session) : Session :=
  if route = .twin then { session with twin := change session.twin }
  else { session with top := change session.top }

/-- Probes that cache for ids one after another. -/
def probe (route : Route) (ids : List ResourceId) (session : Session) :
    List (Option ItemInfo) × Session :=
  let result := (session.cache route).probeAll ids
  (result.1, session.mapCache route fun _ => result.2)

/-- Asserts that an id is cached, or that it is not, by a probe. -/
def assertCached (route : Route) (expected : Bool) (id : ResourceId) (session : Session) :
    Outcome Unit × Session :=
  let result := session.probe route [id]
  if result.1.all (·.isSome) = expected then (.ok (), result.2)
  else (.panicked (if expected then .notCached id else .cached id), result.2)

/-- The session with the clock of its store changed, if it can be set. -/
def mapClock (change : Clock → Clock) (session : Session) : Session :=
  if session.clockIsSettable then
    session.mapStore fun store => { store with clock := change store.clock }
  else session

/-- Sets the clock of the store. -/
def setClock (now : Timestamp) (session : Session) : Session :=
  session.mapClock (·.setTime now)

/-- Arms a panic of the clock. -/
def panicClock (session : Session) : Session :=
  session.mapClock (·.panicNext)

/-- Arms a panic of the delegate. -/
def panicDelegate (session : Session) : Session :=
  { session with delegate := { session.delegate with panicArmed := true } }

/-- Arms a distortion of the delegate's answers. -/
def distort (distortion : Distortion) (session : Session) : Session :=
  { session with delegate := { session.delegate with distortion := some distortion } }

end Session

end ObjectStorage
