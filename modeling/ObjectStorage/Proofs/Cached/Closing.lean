import ObjectStorage.Proofs.Cached.Steps
import ObjectStorage.Proofs.Store.Refusal

/-!
# Closing is final

A store behind a cache that has been closed through it is `Cached.Shut`: it has the
data of that moment, and the cache is empty. `Cached.Shut.access` says that every
later call through the cache or past it leaves it so, and `Cached.Shut.final` what
such calls are answered. `Cached.closed_for_good` says so of whole runs.
-/

namespace ObjectStorage

/-- Says that an operation looks up no id at all. -/
def Operation.isEmptyLookup {α : Type} : Operation α → Bool
  | .getItemInfos ids => ids.isEmpty
  | _ => false

/-- What can happen to a store behind a cache that is not its own: a step of the cache, or a call
that is made past it. -/
inductive Access : Type 1 where
  | step (step : Step)
  | direct {α : Type} (operation : Operation α)

namespace Store

variable {α : Type} {operation : Operation α} {store : Store}

/-- A closed store reports that it is closed, also with a poisoned lock. -/
theorem available_of_closed (h : store.closed = true) :
    store.available = .error StorageError.closed := by
  rw [available, if_pos h]

/-- A closed store stays as it is. -/
theorem run_snd_of_closed (h : store.closed = true) : (store.run operation).2 = store := by
  cases hclose : operation.isClose with
  | true =>
    obtain ⟨buckets, clock, poisoned, closed⟩ := store
    obtain rfl : closed = true := h
    cases operation <;> first | rfl | cases hclose
  | false =>
    obtain ⟨error, -, hrun⟩ := run_refused hclose (available_of_closed h)
    rw [hrun]

end Store

/-- A cache without entries is empty. -/
theorem ItemCache.entries_eq_empty {cache : ItemCache}
    (h : ∀ (id : ResourceId) (info : ItemInfo), cache.entries[id]? ≠ some info) :
    cache.entries = ∅ := by
  refine Std.ExtTreeMap.ext_getElem? fun id => ?_
  rw [Std.ExtTreeMap.getElem?_empty, Option.eq_none_iff_forall_ne_some]
  exact h id

namespace Cached

variable {α : Type} {operation : Operation α} {state : Cached Store} {store : Store}

/-- The state that an access leaves. -/
def access (access : Access) (state : Cached Store) : Cached Store :=
  match access with
  | .step step => (state.step step).2
  | .direct operation => { state with delegate := (state.delegate.run operation).2 }

/-- The state that some accesses leave, one after another. -/
def afterAll (accesses : List Access) (state : Cached Store) : Cached Store :=
  accesses.foldl (fun state next => state.access next) state

/-- A call through the cache of a store that is not available adds nothing to the cache. -/
theorem run_within {cause : Error} (h : state.delegate.available = .error cause)
    (operation : Operation α) : (state.run Store.backend operation).2.cache.Within state.cache := by
  intro id info hentry
  rcases (run_passes Store.backend operation state).entries hentry with
      ⟨β, asked, answer, -, hrun, hlast⟩ | ⟨hold, -⟩
  · -- What is remembered was reported, but such a store reports nothing.
    have hmem := (ItemInfo.lastKept_eq_some hlast).1
    have hclose : asked.isClose = false := by
      cases asked <;> first | rfl | cases hmem
    have havailable := Store.run_available hclose hrun
    rw [h] at havailable
    cases havailable
  · exact hold

/-- Closing through the cache always succeeds. -/
theorem close_fst (state : Cached Store) (manner : Manner) :
    ((frontend manner).run .close state).1 = .ok () := by
  cases manner <;> rfl

/-- Says that a store behind a cache is closed, with the data of another store, and that the cache
is empty. -/
structure Shut (store : Store) (state : Cached Store) : Prop where
  delegate : state.delegate = { store with closed := true }
  entries : state.cache.entries = ∅

/-- What a closed store behind a cache is like: its data are those of the moment of closing and the
cache is empty. It can be closed again, and all else is refused: the store is closed, whatever state
its lock is in, unless the arguments are bad in themselves. Only a lookup of no ids through the
cache is answered, for it asks nothing of the store. -/
structure Final (store : Store) (state : Cached Store) : Prop where
  shut : Shut store state
  close : ∀ manner, ((frontend manner).run .close state).1 = .ok ()
  closeDirect : (state.delegate.run .close).1 = .ok ()
  bucketCount : state.delegate.bucketCount = .failed StorageError.closed
  objectCount : ∀ bucketName, state.delegate.objectCount bucketName = .failed StorageError.closed
  refused : ∀ {α : Type} (manner : Manner) (operation : Operation α),
    operation.isClose = false → operation.isEmptyLookup = false →
      ∃ error, operation.RefusedWith StorageError.closed error ∧
        ((frontend manner).run operation state).1 = .failed error
  refusedDirect : ∀ {α : Type} (operation : Operation α), operation.isClose = false →
    ∃ error, operation.RefusedWith StorageError.closed error ∧
      (state.delegate.run operation).1 = .failed error
  emptyLookup : ∀ manner, ((frontend manner).run (.getItemInfos []) state).1 = .ok []

namespace Shut

/-- A store that is shut is closed. -/
theorem closed (h : Shut store state) : state.delegate.closed = true := by
  rw [h.delegate]

/-- Nothing is remembered. -/
theorem getElem?_eq_none (h : Shut store state) (id : ResourceId) :
    state.cache.entries[id]? = none := by
  rw [h.entries, Std.ExtTreeMap.getElem?_empty]

/-- A call through the cache leaves the store shut. -/
theorem run (h : Shut store state) (operation : Operation α) :
    Shut store (state.run Store.backend operation).2 where
  delegate := by rw [run_delegate, Store.run_snd_of_closed h.closed, h.delegate]
  entries := by
    refine ItemCache.entries_eq_empty fun id info hentry => ?_
    have hold := run_within (Store.available_of_closed h.closed) operation hentry
    rw [h.getElem?_eq_none] at hold
    cases hold

/-- Every access leaves the store shut. -/
theorem access (h : Shut store state) (next : Access) : Shut store (state.access next) := by
  cases next with
  | direct operation =>
    refine ⟨?_, h.entries⟩
    rw [Cached.access, Store.run_snd_of_closed h.closed, h.delegate]
  | step step =>
    cases step with
    | call manner operation =>
      rw [Cached.access, step, frontend_snd]
      exact h.run operation
    | invalidateCache => exact ⟨h.delegate, rfl⟩
    | lose ids =>
      refine ⟨h.delegate, ItemCache.entries_eq_empty fun id info hentry => ?_⟩
      have hold := (ItemCache.foldl_erase hentry).2
      rw [h.getElem?_eq_none] at hold
      cases hold

/-- Accesses leave the store shut. -/
theorem afterAll (h : Shut store state) (accesses : List Access) :
    Shut store (state.afterAll accesses) := by
  induction accesses generalizing state with
  | nil => exact h
  | cons next rest ih => exact ih (h.access next)

/-- Closing through the cache shuts the store. -/
theorem of_close (state : Cached Store) (manner : Manner) :
    Shut state.delegate ((frontend manner).run .close state).2 := by
  rw [frontend_snd]
  exact ⟨rfl, rfl⟩

/-- A call through the cache of a store that is shut is answered by the store. -/
theorem run_fst (h : Shut store state) (hempty : operation.isEmptyLookup = false) :
    (state.run Store.backend operation).1 = (state.delegate.run operation).1 := by
  cases operation
  case getItemInfo id =>
    rcases getItemInfo_fst state id with ⟨info, hentry, -⟩ | hrun
    · rw [h.getElem?_eq_none] at hentry
      cases hentry
    · exact hrun
  case getItemInfos ids =>
    obtain ⟨places, hfound, ⟨hready, -⟩ | ⟨-, cause, hrefused, hrun⟩⟩ := getItemInfos_fst state ids
    · rw [Store.available_of_closed h.closed] at hready
      have hids : ids ≠ [] := List.isEmpty_eq_false_iff.1 hempty
      obtain ⟨id, info, hentry⟩ := hfound.exists_entry (hready.resolve_right (by simp)) hids
      rw [h.getElem?_eq_none] at hentry
      cases hentry
    · rw [hrun, Store.run, Store.read_of_refused hrefused]
  all_goals exact Cached.run_fst rfl

/-- What a store that is shut is like. -/
theorem final (h : Shut store state) : Final store state where
  shut := h
  close manner := close_fst state manner
  closeDirect := rfl
  bucketCount := by
    rw [Store.bucketCount, Store.read_of_refused (Store.available_of_closed h.closed)]
  objectCount bucketName := by
    rw [Store.objectCount, Store.read_of_refused (Store.available_of_closed h.closed)]
  refused manner operation hclose hempty := by
    obtain ⟨error, hrefused, hfailed⟩ :=
      Store.run_refused_fst hclose (Store.available_of_closed h.closed)
    have hanswer : (state.run Store.backend operation).1 = .failed error :=
      (h.run_fst hempty).trans hfailed
    refine ⟨error, hrefused, (frontend_fst ?_).trans hanswer⟩
    rw [hanswer]
    rfl
  refusedDirect operation hclose :=
    Store.run_refused_fst hclose (Store.available_of_closed h.closed)
  emptyLookup manner := by cases manner <;> rfl

end Shut

/-- Closing through the cache is final: it succeeds, and whatever is called afterwards, through the
cache or past it, finds the data as they were at that moment, an empty cache, and a store that
refuses everything but closing. -/
theorem closed_for_good (state : Cached Store) (manner : Manner) (later : List Access) :
    ((frontend manner).run .close state).1 = .ok () ∧
      Final state.delegate (((frontend manner).run .close state).2.afterAll later) :=
  ⟨close_fst state manner, ((Shut.of_close state manner).afterAll later).final⟩

/-- A remembered object is deleted past the cache and looked up through it after the close: it is
neither found nor gone. -/
theorem nested_closed_for_good :
    let id := ResourceId.object "media" "a/x"
    let state := ((⟨{ policy := .plain }, Store.nested⟩ : Cached Store).run Store.backend
      (.getItemInfo id)).2
    let later : List Access := [.direct (.deleteObjects [id]), .step (.call .direct .close)]
    let last := ((frontend (.task Panic.message)).run .close state).2.afterAll later
    id ∈ state.cache.entries ∧ Final Store.nested last ∧ last.cache.entries = ∅ ∧
      (last.run Store.backend (.getItemInfo id)).1 = .failed StorageError.closed ∧
      (last.delegate.buckets.object? id).isSome = true := by
  intro id state later last
  obtain ⟨-, hfinal⟩ := closed_for_good state (.task Panic.message) later
  refine ⟨by decide +kernel, hfinal, hfinal.shut.entries, ?_, ?_⟩
  · obtain ⟨error, herror, hrun⟩ := hfinal.refused .direct (.getItemInfo id) rfl rfl
    obtain rfl := herror.wellFormed not_false
    exact hrun
  · rw [hfinal.shut.delegate]
    decide +kernel

end Cached

end ObjectStorage
