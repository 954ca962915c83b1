import Mathlib.Data.List.Forall2
import ObjectStorage.Proofs.Cached.Closing
import ObjectStorage.Proofs.Store.Panics

/-!
# A panic of the clock is contained

A store whose lock a panic has poisoned keeps what the change had done so far, but
nobody gets to see it. `Cached.Broken` says what such a store behind a cache is like
after any further accesses, and `Cached.Broken.access` that each access keeps it so.
`Cached.Contained` is what can be seen of it from outside, and
`Cached.panic_contained` says that a panic at any reading of the clock, in any
operation, comes to this.
-/

namespace ObjectStorage

/-- Says that a lookup is answered with what a cache remembers, and with nothing else. -/
def Operation.AnsweredFrom {α : Type} (operation : Operation α) (cache : ItemCache)
    (outcome : Outcome α) : Prop :=
  match operation with
  | .getItemInfo id => ∃ info, outcome = .ok info ∧ cache.entries[id]? = some info
  | .getItemInfos ids => ∃ infos, outcome = .ok infos ∧
      List.Forall₂ (fun id info => cache.entries[id]? = some info) ids infos
  | _ => False

/-- Says that an access closes the store. -/
def Access.closes : Access → Bool
  | .step (.call _ operation) => operation.isClose
  | .direct operation => operation.isClose
  | .step .invalidateCache | .step (.lose _) => false

/-- The cause for which a store whose lock is poisoned refuses calls after some accesses. -/
def Access.refusal (accesses : List Access) : Error :=
  if accesses.any Access.closes then StorageError.closed else StorageError.lockPoisoned

namespace Cached

variable {α : Type} {operation : Operation α} {cache : ItemCache} {store : Store}
  {state : Cached Store} {closed : Bool} {cause : Error}

/-- What was answered from a cache could be answered from any cache that it is within. -/
theorem answeredFrom_mono {other : ItemCache} (h : cache.Within other) {outcome : Outcome α}
    (hanswer : operation.AnsweredFrom cache outcome) : operation.AnsweredFrom other outcome := by
  cases operation <;> first | exact hanswer.elim | skip
  case getItemInfo id =>
    obtain ⟨info, houtcome, hentry⟩ := hanswer
    exact ⟨info, houtcome, h hentry⟩
  case getItemInfos ids =>
    obtain ⟨infos, houtcome, hentries⟩ := hanswer
    exact ⟨infos, houtcome, hentries.imp fun _ _ hentry => h hentry⟩

/-- When nothing is missing, every id was found. -/
theorem found_forall₂ {ids : List ResourceId} {places : List (ResourceId × Option ItemInfo)}
    (h : cache.Found ids places) (hnone : missing places = []) (f : ResourceId → ItemInfo) :
    List.Forall₂ (fun id info => cache.entries[id]? = some info) ids
      (places.map fun place => place.2.getD (f place.1)) := by
  rw [← h.ids_eq, List.forall₂_map_left_iff, List.forall₂_map_right_iff, List.forall₂_same]
  rintro ⟨id, slot⟩ hplace
  cases slot with
  | none =>
    have hmissing := mem_missing.2 hplace
    rw [hnone] at hmissing
    cases hmissing
  | some info => exact h.entry hplace

/-- A call through the cache of a store that is not available is refused with the store, unless it
is a lookup that the cache answers by itself. -/
theorem run_of_refused (h : state.delegate.available = .error cause)
    (hclose : operation.isClose = false) :
    (∃ error, operation.RefusedWith cause error ∧
        (state.run Store.backend operation).1 = .failed error) ∨
      operation.AnsweredFrom state.cache (state.run Store.backend operation).1 := by
  obtain ⟨error, hrefused, hfailed⟩ := Store.run_refused_fst hclose h
  cases operation
  case getItemInfo id =>
    rcases getItemInfo_fst state id with ⟨info, hentry, hanswer⟩ | hanswer
    · exact .inr ⟨info, hanswer, hentry⟩
    · exact .inl ⟨error, hrefused, hanswer.trans hfailed⟩
  case getItemInfos ids =>
    obtain ⟨places, hfound, ⟨hready, hanswer⟩ | ⟨-, other, hother, hanswer⟩⟩ :=
      getItemInfos_fst state ids
    · have hnone : missing places = [] := hready.resolve_right (by simp [h])
      exact .inr ⟨_, hanswer, found_forall₂ hfound hnone _⟩
    · obtain rfl := Except.error.inj (h.symm.trans hother)
      exact .inl ⟨cause, ⟨fun hbad => hbad.elim, fun _ => rfl⟩, hanswer⟩
  all_goals exact .inl ⟨error, hrefused, (Cached.run_fst rfl).trans hfailed⟩

/-- Says that a store behind a cache has a poisoned lock and the data of another store, and that
its cache remembers no more than another one. -/
structure Broken (cache : ItemCache) (store : Store) (closed : Bool) (state : Cached Store) :
    Prop where
  delegate : state.delegate = { store with poisoned := true, closed }
  entries : state.cache.Within cache

namespace Broken

/-- The store is not available; that it is closed is reported first. -/
theorem available (h : Broken cache store closed state) :
    state.delegate.available =
      .error (if closed = true then StorageError.closed else StorageError.lockPoisoned) := by
  rw [h.delegate]
  cases closed <;> rfl

/-- An operation does nothing to the store but close it. -/
theorem run_snd (h : Broken cache store closed state) (operation : Operation α) :
    (state.delegate.run operation).2 =
      { store with poisoned := true, closed := closed || operation.isClose } := by
  cases hclose : operation.isClose with
  | false =>
    obtain ⟨error, -, hrun⟩ := Store.run_refused hclose h.available
    rw [hrun, h.delegate, Bool.or_false]
  | true =>
    cases operation <;> first | exact absurd hclose Bool.false_ne_true | skip
    case close => rw [Store.run, h.delegate, Bool.or_true]

/-- An access adds nothing to the cache. -/
theorem access_within (h : Broken cache store closed state) (next : Access) :
    (state.access next).cache.Within state.cache := by
  cases next with
  | direct operation => exact .refl state.cache
  | step step =>
    cases step with
    | call manner operation =>
      rw [access, step, frontend_snd]
      exact run_within h.available operation
    | invalidateCache =>
      intro id info hentry
      rw [access, step, invalidateCache, ItemCache.entries_invalidateAll] at hentry
      cases hentry
    | lose ids =>
      intro id info hentry
      exact (ItemCache.foldl_erase hentry).2

/-- An access does nothing to the store but close it. -/
theorem access_delegate (h : Broken cache store closed state) (next : Access) :
    (state.access next).delegate =
      { store with poisoned := true, closed := closed || next.closes } := by
  cases next with
  | direct operation => exact h.run_snd operation
  | step step =>
    rw [Cached.access, step_delegate]
    cases step with
    | call manner operation => exact h.run_snd operation
    | invalidateCache | lose =>
      rw [Store.step, h.delegate, Access.closes, Bool.or_false]

/-- Every access leaves the store broken. -/
theorem access (h : Broken cache store closed state) (next : Access) :
    Broken cache store (closed || next.closes) (state.access next) :=
  ⟨h.access_delegate next, (h.access_within next).trans h.entries⟩

/-- Accesses leave the store broken. -/
theorem afterAll (h : Broken cache store closed state) (accesses : List Access) :
    Broken cache store (closed || accesses.any Access.closes) (state.afterAll accesses) := by
  induction accesses generalizing state closed with
  | nil => simpa [Cached.afterAll] using h
  | cons next rest ih =>
    have hrest := ih (h.access next)
    rwa [Bool.or_assoc, ← List.any_cons] at hrest

end Broken

/-- What can be seen of a store behind a cache since a panic, when calls are refused with `cause`:
its data stay as they are, and no access adds an entry to the cache or changes one. It can be
closed, and all else is refused. Only lookups are answered that need nothing but what was
remembered before. -/
structure Contained (cache : ItemCache) (store : Store) (cause : Error) (state : Cached Store) :
    Prop where
  buckets : state.delegate.buckets = store.buckets
  entries : state.cache.Within cache
  access : ∀ next, (state.access next).cache.Within state.cache
  close : ∀ manner, ((frontend manner).run .close state).1 = .ok ()
  closeDirect : (state.delegate.run .close).1 = .ok ()
  bucketCount : state.delegate.bucketCount = .failed cause
  objectCount : ∀ bucketName, state.delegate.objectCount bucketName = .failed cause
  refused : ∀ {α : Type} (manner : Manner) (operation : Operation α), operation.isClose = false →
    (∃ error, operation.RefusedWith cause error ∧
        ((frontend manner).run operation state).1 = .failed error) ∨
      operation.AnsweredFrom cache ((frontend manner).run operation state).1
  refusedDirect : ∀ {α : Type} (operation : Operation α), operation.isClose = false →
    ∃ error, operation.RefusedWith cause error ∧ (state.delegate.run operation).1 = .failed error

/-- What was answered from a cache is no panic. -/
theorem isPanic_of_answeredFrom {outcome : Outcome α}
    (h : operation.AnsweredFrom cache outcome) : outcome.isPanic = false := by
  cases operation <;> first | exact h.elim | skip
  case getItemInfo id =>
    obtain ⟨info, rfl, -⟩ := h
    rfl
  case getItemInfos ids =>
    obtain ⟨infos, rfl, -⟩ := h
    rfl

/-- A call through the cache of a broken store is refused, or answered from the cache. -/
theorem Broken.refused (h : Broken cache store closed state) (manner : Manner)
    (havailable : state.delegate.available = .error cause) (hclose : operation.isClose = false) :
    (∃ error, operation.RefusedWith cause error ∧
        ((frontend manner).run operation state).1 = .failed error) ∨
      operation.AnsweredFrom cache ((frontend manner).run operation state).1 := by
  rcases run_of_refused havailable hclose with ⟨error, hrefused, hanswer⟩ | hanswer
  · refine .inl ⟨error, hrefused, (frontend_fst ?_).trans hanswer⟩
    rw [hanswer]
    rfl
  · right
    rw [frontend_fst (isPanic_of_answeredFrom hanswer)]
    exact answeredFrom_mono h.entries hanswer

/-- What can be seen of a broken store. -/
theorem Broken.contained (h : Broken cache store closed state) :
    Contained cache store
      (if closed = true then StorageError.closed else StorageError.lockPoisoned) state where
  buckets := by rw [h.delegate]
  entries := h.entries
  access := h.access_within
  close manner := close_fst state manner
  closeDirect := rfl
  bucketCount := by rw [Store.bucketCount, Store.read_of_refused h.available]
  objectCount bucketName := by rw [Store.objectCount, Store.read_of_refused h.available]
  refused manner operation hclose := h.refused manner h.available hclose
  refusedDirect operation hclose := Store.run_refused_fst hclose h.available

/-- An operation during which the clock panics has taken the lock of an open store, is no lookup,
and leaves the lock poisoned. -/
theorem broken_of_panic (cache : ItemCache) (h : .read .panic ∈ store.deeds operation) :
    operation.isLookup = false ∧ (store.run operation).1 = .panicked .clock ∧
      Broken cache (store.run operation).2 false ⟨cache, (store.run operation).2⟩ := by
  have hbroken := (Store.run_panicsWith operation store).broken h
  obtain ⟨-, -, h⟩ := Store.mem_granted.1 h
  obtain ⟨_, havailable, h⟩ := Store.mem_granted.1 h
  have hclose : operation.isClose = false := by
    cases operation <;> first | rfl | cases h
  have hlookup : operation.isLookup = false := by
    cases operation <;> first | rfl | cases h
  have hcarried := Store.run_carried operation store
  have hclosed : (store.run operation).2.closed = false := by
    rw [hcarried.closed, (Store.available_eq_ok.1 havailable).1, hclose]
    rfl
  have hpoisoned : (store.run operation).2.poisoned = true := by
    rw [hcarried.poisoned, hbroken]
    exact Bool.or_true _
  refine ⟨hlookup, hbroken, ?_, .refl cache⟩
  rw [← hclosed, ← hpoisoned]

/-- When the clock panics at a reading that an operation takes, wherever in it, the operation breaks
off, or the task of it fails in whatever wording its runtime has for that. The cache stays as it is,
and the panic is contained whatever is called afterwards, through the cache or past it. -/
theorem panic_contained (hpanic : .read .panic ∈ state.delegate.deeds operation)
    (wording : Panic → String) (later : List Access) :
    let broken : Cached Store := ⟨state.cache, (state.delegate.run operation).2⟩
    (frontend .direct).run operation state = (.panicked .clock, broken) ∧
      (frontend (.task wording)).run operation state =
        (.failed (StorageError.taskFailed (wording .clock)), broken) ∧
      state.delegate.run operation = (.panicked .clock, broken.delegate) ∧
      Contained state.cache broken.delegate (Access.refusal later) (broken.afterAll later) := by
  intro broken
  obtain ⟨hlookup, hbroken, hstate⟩ := broken_of_panic state.cache hpanic
  have hrun : state.delegate.run operation = (.panicked .clock, broken.delegate) :=
    Prod.ext hbroken rfl
  have hforward : state.run Store.backend operation = (.panicked .clock, broken) := by
    rw [run_eq_forward hlookup]
    exact forward_error hrun
  have htask : (frontend (.task wording)).run operation state =
      (Bridge.outcome wording (state.run Store.backend operation).1,
        (state.run Store.backend operation).2) := rfl
  rw [hforward] at htask
  exact ⟨hforward, htask, hrun, (hstate.afterAll later).contained⟩

/-- A clock that panics in the middle of a batch: the first object has been made, the bucket is
remembered, and the panic is contained also when the store is closed afterwards. The runtime words
a failure with the number of the task and the panic. -/
theorem batch_panic_contained :
    let clock : Clock := fun n => if n = 2 then .panic else .time .epoch
    let store := ((Store.empty clock).run (.createBucket "media" {})).2
    let state := ((⟨{ policy := .plain }, store⟩ : Cached Store).run Store.backend
      (.getItemInfo (.bucket "media"))).2
    let operation := Operation.createEmptyObjects [.object "media" "a", .object "media" "b"] {}
    let wording : Panic → String := fun _ => "task 7 panicked with message \"clock panic\""
    let later : List Access :=
      [.direct .close, .step (.call (.task wording) (.getItemInfo (.bucket "media")))]
    let broken : Cached Store := ⟨state.cache, (state.delegate.run operation).2⟩
    .read .panic ∈ state.delegate.deeds operation ∧
      .bucket "media" ∈ state.cache.entries ∧
      (broken.delegate.buckets.object? (.object "media" "a")).isSome = true ∧
      (frontend (.task wording)).run operation state =
        (.failed (StorageError.taskFailed "task 7 panicked with message \"clock panic\""), broken) ∧
      Contained state.cache broken.delegate StorageError.closed (broken.afterAll later) := by
  intro clock store state operation wording later broken
  have hpanic : .read .panic ∈ state.delegate.deeds operation := by
    by_contra hquiet
    have hsound := (Store.run_panicsWith operation state.delegate).sound hquiet
    have hbroken : (state.delegate.run operation).1.isPanic = true := by decide +kernel
    rw [hbroken] at hsound
    cases hsound
  obtain ⟨-, htask, -, hcontained⟩ := panic_contained hpanic wording later
  exact ⟨hpanic, by decide +kernel, by decide +kernel, htask, hcontained⟩

end Cached

end ObjectStorage
