import Mathlib.Data.List.Forall2
import ObjectStorage.Proofs.Cached.Steps

/-!
# Reads through a cache

Reads do not change a store, but they fill the cache in front of it.
`Cached.reads_shown` says what later reads are answered then: what the store
answers, except that a directory that an earlier listing has inferred is still
seen by lookups, and that a lookup of no ids needs no lock.
`Cached.reads_not_transparent` shows that both exceptions occur.
-/

namespace ObjectStorage

/-- Says that a step makes no call, or one that only reads. -/
def Step.Reads (step : Step) : Prop :=
  match step with
  | .call _ operation => operation.isRead = true
  | .invalidateCache | .lose _ => True

/-- Says that one of the calls lists an inferred directory under an id. -/
def Store.ListsDirectory (store : Store) (steps : List Step) (id : ResourceId) : Prop :=
  ∃ manner bucketName options infos,
    Step.call manner (.listObjectInfo bucketName options) ∈ steps ∧
      (store.run (.listObjectInfo bucketName options)).1 = .ok infos ∧
      .inferredDirectory id ∈ infos

/-- What may be shown of an id after these reads: what the store looks up, or a directory that was
listed although nothing is found there. -/
def Store.Shows (store : Store) (reads : List Step) (id : ResourceId) (info : ItemInfo) : Prop :=
  info = store.buckets.lookup id ∨
    info = .inferredDirectory id ∧ store.buckets.lookup id = .notFound id ∧
      store.ListsDirectory reads id

/-- What may be answered after these reads: what the store answers, where lookups may show listed
directories, and where a lookup of no ids is answered although the lock is poisoned. -/
def Operation.Shown {α : Type} (operation : Operation α) (reads : List Step) (store : Store)
    (outcome : Outcome α) : Prop :=
  match operation with
  | .getItemInfo id =>
    outcome = (store.run (.getItemInfo id)).1 ∨ ∃ info, outcome = .ok info ∧
      store.available = .ok () ∧ store.Shows reads id info
  | .getItemInfos ids =>
    outcome = (store.run (.getItemInfos ids)).1 ∨
      (∃ infos, outcome = .ok infos ∧ store.available = .ok () ∧
        List.Forall₂ (store.Shows reads) ids infos) ∨
      ids = [] ∧ store.poisoned = true ∧ outcome = .ok []
  | operation => outcome = (store.run operation).1

/-- An open store whose first change broke off. -/
def Store.brokenOff : Store :=
  ((Store.empty (Clock.fixed .epoch).panicNext).run (.createBucket "media" {})).2

namespace Cached

variable {α : Type} {operation : Operation α} {store : Store} {reads : List Step}
  {id : ResourceId} {info : ItemInfo}

/-- A step that only reads leaves the store behind the cache alone. -/
theorem step_reads {step : Step} (h : step.Reads) (state : Cached Store) :
    (state.step step).2.delegate = state.delegate := by
  rw [step_delegate]
  cases step with
  | call manner operation => exact Store.run_snd_of_isRead h
  | invalidateCache | lose => rfl

/-- Reads leave the store behind the cache alone. -/
theorem after_reads {cache : ItemCache} (h : ∀ step ∈ reads, step.Reads) :
    (after reads ⟨cache, store⟩).delegate = store := by
  induction reads using List.reverseRecOn with
  | nil => rfl
  | append_singleton reads step ih =>
    rw [after_append_singleton, step_reads (h step (by simp))]
    exact ih fun other hother => h other (List.mem_append_left _ hother)

/-- What may be shown after some reads may be shown after more. -/
theorem shows_append (h : store.Shows reads id info) (later : List Step) :
    store.Shows (reads ++ later) id info := by
  rcases h with hlookup | ⟨hinfo, hfree, manner, bucketName, options, infos, hmem, hlisted⟩
  · exact .inl hlookup
  · exact .inr ⟨hinfo, hfree, manner, bucketName, options, infos,
      List.mem_append_left _ hmem, hlisted⟩

/-- A directory that a call infers is one that it lists. -/
theorem shows_of_infers (hinfers : Store.Infers operation store.buckets id info) {answer : α}
    (hanswer : (store.run operation).1 = .ok answer) (hinfo : info ∈ operation.reported answer)
    (manner : Manner) : store.Shows (reads ++ [.call manner operation]) id info := by
  obtain ⟨rfl, hfree, name, delimiter, hname, hdelimiter, -⟩ := hinfers
  cases operation <;> first | cases hdelimiter | skip
  case listObjectInfo bucketName options =>
    have hobject : id.isObject = true := by simp [ResourceId.isObject, hname]
    exact .inr ⟨rfl, Buckets.lookup_eq_notFound hobject hfree, manner, bucketName, options, answer,
      by simp, hanswer, hinfo⟩

/-- After reads, an entry is what may be shown, and the store is available. -/
theorem entries_after_reads {clock : Clock} (hreach : Store.Reachable clock store)
    {cache : ItemCache} (hempty : cache.entries = ∅) (hreads : ∀ step ∈ reads, step.Reads)
    (hentry : (after reads ⟨cache, store⟩).cache.entries[id]? = some info) :
    store.available = .ok () ∧ store.Shows reads id info := by
  induction reads using List.reverseRecOn generalizing id info with
  | nil => simp [after, hempty] at hentry
  | append_singleton reads step ih =>
    have hbefore : ∀ other ∈ reads, other.Reads :=
      fun other hother => hreads other (List.mem_append_left _ hother)
    have hstep := hreads step (by simp)
    have hsame : (after reads ⟨cache, store⟩).delegate = store := after_reads hbefore
    rw [after_append_singleton] at hentry
    cases step with
    | call manner operation =>
      have hwf : (after reads ⟨cache, store⟩).delegate.buckets.WellFormed := by
        rw [hsame]
        exact hreach.wellFormed
      simp only [step, frontend_snd] at hentry
      have hcases := run_entries hwf hentry
      rw [hsame, Store.run_snd_of_isRead hstep] at hcases
      rcases hcases with ⟨havailable, -, -, hlookup | ⟨hinfers, answer, hanswer, hmem⟩⟩ | ⟨hold, -⟩
      · exact ⟨havailable, .inl hlookup.symm⟩
      · exact ⟨havailable, shows_of_infers hinfers hanswer hmem manner⟩
      · obtain ⟨havailable, hshows⟩ := ih hbefore hold
        exact ⟨havailable, shows_append hshows _⟩
    | invalidateCache =>
      rw [step, invalidateCache, ItemCache.entries_invalidateAll] at hentry
      cases hentry
    | lose ids =>
      obtain ⟨havailable, hshows⟩ := ih hbefore (ItemCache.foldl_erase hentry).2
      exact ⟨havailable, shows_append hshows _⟩

/-- A read through a cache does not break off. -/
theorem read_isPanic (hread : operation.isRead = true) (state : Cached Store) :
    (state.run Store.backend operation).1.isPanic = false := by
  cases operation <;> cases hread
  case getItemInfo id =>
    rcases getItemInfo_fst state id with ⟨info, -, hanswer⟩ | hanswer
    · rw [hanswer]
      rfl
    · rw [hanswer]
      exact Store.read_isPanic _
  case getItemInfos ids =>
    obtain ⟨places, -, ⟨-, hanswer⟩ | ⟨-, cause, -, hanswer⟩⟩ := getItemInfos_fst state ids
    · rw [hanswer]
      rfl
    · rw [hanswer]
      rfl
  all_goals
    rw [run_fst rfl]
    exact Store.read_isPanic _

/-- A read is answered as the store answers it, or with what may be shown, when the entries are. -/
theorem run_shown {state : Cached Store} (hopen : state.delegate.closed = false)
    (hentries : ∀ {id info}, state.cache.entries[id]? = some info →
      state.delegate.available = .ok () ∧ state.delegate.Shows reads id info) :
    operation.Shown reads state.delegate (state.run Store.backend operation).1 := by
  cases operation
  case getItemInfo id =>
    rcases getItemInfo_fst state id with ⟨info, hentry, hanswer⟩ | hanswer
    · exact .inr ⟨info, hanswer, hentries hentry⟩
    · exact .inl hanswer
  case getItemInfos ids =>
    obtain ⟨places, hfound, ⟨hreach, hanswer⟩ | ⟨-, cause, hrefused, hanswer⟩⟩ :=
      getItemInfos_fst state ids
    · by_cases havailable : state.delegate.available = .ok ()
      · refine .inr (.inl ⟨_, hanswer, havailable, ?_⟩)
        rw [← hfound.ids_eq, List.forall₂_map_left_iff, List.forall₂_map_right_iff,
          List.forall₂_same]
        rintro ⟨id, slot⟩ hplace
        cases slot with
        | none => exact .inl rfl
        | some info => exact (hentries (hfound.entry hplace)).2
      · -- Nothing can have been cached, so no ids were asked for.
        have hnone : missing places = [] := hreach.resolve_right havailable
        have hids : ids = [] := by
          by_contra hids
          obtain ⟨id, info, hentry⟩ := hfound.exists_entry hnone hids
          exact havailable (hentries hentry).1
        have hpoisoned : state.delegate.poisoned = true := by
          by_contra hsound
          exact havailable (Store.available_eq_ok.2 ⟨hopen, by simpa using hsound⟩)
        have hplaces : places = [] := List.map_eq_nil_iff.1 (hfound.ids_eq.trans hids)
        exact .inr (.inr ⟨hids, hpoisoned, by rw [hanswer, hplaces]; rfl⟩)
    · left
      rw [hanswer, Store.run, Store.read_of_refused hrefused]
  all_goals exact run_fst rfl

/-- After reads that started with an empty cache, a read of an open store is answered as the store
answers it, or with listed directories. -/
theorem reads_shown {clock : Clock} (hreach : Store.Reachable clock store)
    (hopen : store.closed = false) {cache : ItemCache} (hempty : cache.entries = ∅)
    (hreads : ∀ step ∈ reads, step.Reads) (hread : operation.isRead = true) (manner : Manner) :
    operation.Shown reads store
      ((frontend manner).run operation (after reads ⟨cache, store⟩)).1 := by
  have hsame : (after reads ⟨cache, store⟩).delegate = store := after_reads hreads
  have hshown : operation.Shown reads (after reads ⟨cache, store⟩).delegate
      ((after reads ⟨cache, store⟩).run Store.backend operation).1 := by
    refine run_shown (by rw [hsame, hopen]) ?_
    intro id info hentry
    rw [hsame]
    exact entries_after_reads hreach hempty hreads hentry
  rw [hsame] at hshown
  rwa [frontend_fst (read_isPanic hread _)]

/-- A lookup after a listing with a delimiter is one of these reads. -/
theorem nested_directory_shown :
    (Operation.getItemInfo (.object "media" "a/")).Shown [.listing] Store.nested
      ((frontend (.task Panic.message)).run (.getItemInfo (.object "media" "a/"))
        (after [.listing] ⟨{ policy := .plain }, Store.nested⟩)).1 :=
  reads_shown Store.reachable_nested (by decide +kernel) rfl
    (by simp [Step.listing, Step.Reads, Operation.isRead]) rfl (.task Panic.message)

/-- Reads through a cache can be answered differently than by an open store: a lookup after a
listing with a delimiter shows the directory, and a lookup of no ids does not notice a poisoned
lock. -/
theorem reads_not_transparent :
    (Store.Reachable (.fixed .epoch) Store.nested ∧ Store.nested.closed = false ∧
      Step.listing.Reads ∧
      ((after [.listing] ⟨{ policy := .plain }, Store.nested⟩).run Store.backend
        (.getItemInfo (.object "media" "a/"))).1 =
          .ok (.inferredDirectory (.object "media" "a/")) ∧
      (Store.nested.run (.getItemInfo (.object "media" "a/"))).1 =
        .ok (.notFound (.object "media" "a/"))) ∧
    (Store.Reachable (Clock.fixed .epoch).panicNext Store.brokenOff ∧
      Store.brokenOff.closed = false ∧
      ((after [] ⟨{ policy := .plain }, Store.brokenOff⟩).run Store.backend
        (.getItemInfos [])).1 = .ok [] ∧
      (Store.brokenOff.run (.getItemInfos [])).1 = .failed StorageError.lockPoisoned) := by
  refine ⟨⟨Store.reachable_nested, by decide +kernel, rfl, by decide +kernel, by decide +kernel⟩,
    .run (.createBucket "media" {}) .empty, ?_⟩
  decide +kernel

end Cached

end ObjectStorage
