import ObjectStorage.Proofs.Cached.Steps
import ObjectStorage.Proofs.Store.Failure

/-!
# What a cache can hold

`Cached.entries_accounted` says what the entries of a cache in front of a store
are after any run that starts with an empty cache: each is found and about its
own id, which is not the root, and the store holds that id, unless the entry is
a directory that an earlier listing with a delimiter has inferred.
-/

namespace ObjectStorage

namespace Cached

variable {id : ResourceId} {info : ItemInfo}

/-- Says that a run has listed infos with a non-empty delimiter at which the name ends. -/
def Delimited (steps : List Step) (name : String) : Prop :=
  ∃ manner bucketName options delimiter,
    Step.call manner (.listObjectInfo bucketName options) ∈ steps ∧
      options.delimiter = some delimiter ∧ delimiter ≠ "" ∧ delimiter.toList <:+ name.toList

/-- What an entry of a cache is after a run that has left these buckets. -/
structure Accounted (steps : List Step) (buckets : Buckets) (id : ResourceId) (info : ItemInfo) :
    Prop where
  resourceId : info.resourceId = id
  found : info.found = true
  notRoot : id.isRoot = false
  held : buckets.Holds id ∨
    info = .inferredDirectory id ∧ ∃ name, id.objectName = some name ∧ Delimited steps name

/-- A longer run has listed no less. -/
theorem Delimited.append {steps : List Step} {name : String} (h : Delimited steps name)
    (later : List Step) : Delimited (steps ++ later) name := by
  obtain ⟨manner, bucketName, options, delimiter, hmem, h⟩ := h
  exact ⟨manner, bucketName, options, delimiter, List.mem_append_left later hmem, h⟩

/-- What is accounted for after a run is so after a longer one that leaves these buckets. -/
theorem Accounted.append {steps : List Step} {buckets : Buckets}
    (h : Accounted steps buckets id info) (later : List Step) :
    Accounted (steps ++ later) buckets id info := by
  obtain ⟨hid, hfound, hroot, hheld⟩ := h
  refine ⟨hid, hfound, hroot, ?_⟩
  rcases hheld with hheld | ⟨hinfo, name, hname, hdelimited⟩
  · exact .inl hheld
  · exact .inr ⟨hinfo, name, hname, hdelimited.append later⟩

/-- A call that infers a directory is a listing with a delimiter. -/
theorem delimited_of_infers {α : Type} {operation : Operation α} {buckets : Buckets}
    (h : Store.Infers operation buckets id info) (steps : List Step) (manner : Manner) :
    info = .inferredDirectory id ∧ ∃ name, id.objectName = some name ∧
      Delimited (steps ++ [.call manner operation]) name := by
  obtain ⟨hinfo, -, name, delimiter, hname, hdelimiter, hnonempty, hsuffix⟩ := h
  cases operation <;> first | cases hdelimiter | skip
  case listObjectInfo bucketName options =>
    exact ⟨hinfo, name, hname, manner, bucketName, options, delimiter, by simp, hdelimiter,
      hnonempty, hsuffix⟩

/-- What an operation removes is dropped from the cache. -/
theorem drops_of_removes {α : Type} {operation : Operation α} (hroot : id.isRoot = false)
    (h : operation.Removes id) : operation.Drops id := by
  cases operation <;> first | exact h.elim | skip
  case deleteBuckets => exact ⟨id.bucketName, h, by simp [ResourceId.belongsTo, hroot]⟩
  case deleteObjects => exact h

/-- After a call, an entry is accounted for if the entries were before it. -/
theorem Accounted.call {α : Type} {operation : Operation α} {state : Cached Store}
    {steps : List Step} {manner : Manner} (hwf : state.delegate.buckets.WellFormed)
    (h : ∀ {id info}, state.cache.entries[id]? = some info →
      Accounted steps state.delegate.buckets id info)
    (hentry : (state.run Store.backend operation).2.cache.entries[id]? = some info) :
    Accounted (steps ++ [.call manner operation])
      (state.run Store.backend operation).2.delegate.buckets id info := by
  have hwfAfter : (state.delegate.run operation).2.buckets.WellFormed := by
    obtain ⟨_, hedits, -⟩ := (Store.run_carried operation state.delegate).edits
    exact hedits.wellFormed hwf
  rw [run_delegate]
  rcases run_entries hwf hentry with ⟨-, hfound, hroot, hlookup | ⟨hinfers, -⟩⟩ | ⟨hold, hkeep⟩
  · refine ⟨hlookup ▸ hwfAfter.lookup_resourceId, hfound, hroot, .inl ?_⟩
    exact (hwfAfter.lookup_found hroot).1 (hlookup ▸ hfound)
  · obtain ⟨rfl, hdelimited⟩ := delimited_of_infers hinfers steps manner
    exact ⟨rfl, hfound, hroot, .inr ⟨rfl, hdelimited⟩⟩
  · obtain ⟨hid, hfound, hroot, hheld⟩ := h hold
    refine ⟨hid, hfound, hroot, ?_⟩
    rcases hheld with hheld | ⟨hinfo, name, hname, hdelimited⟩
    · left
      -- What was there is only removed by a call that succeeds, and that drops the entry too.
      refine Store.run_holds hheld ?_
      intro hremoves
      rcases hrun : state.delegate.run operation with ⟨failure | answer, last⟩
      · exact ⟨failure, rfl⟩
      · exact ((hkeep answer last hrun).1 (drops_of_removes hroot hremoves)).elim
    · exact .inr ⟨hinfo, name, hname, hdelimited.append _⟩

/-- After a step, an entry is accounted for if the entries were before it. -/
theorem Accounted.step {state : Cached Store} {steps : List Step} {step : Step}
    (hwf : state.delegate.buckets.WellFormed)
    (h : ∀ {id info}, state.cache.entries[id]? = some info →
      Accounted steps state.delegate.buckets id info)
    (hentry : (state.step step).2.cache.entries[id]? = some info) :
    Accounted (steps ++ [step]) (state.step step).2.delegate.buckets id info := by
  cases step with
  | call manner operation =>
    simp only [Cached.step, frontend_snd] at hentry ⊢
    exact .call hwf h hentry
  | invalidateCache =>
    rw [Cached.step, invalidateCache, ItemCache.entries_invalidateAll] at hentry
    cases hentry
  | lose ids =>
    exact (h (ItemCache.foldl_erase hentry).2).append _

/-- After any run that starts with an empty cache, every entry is accounted for. -/
theorem entries_accounted {clock : Clock} {store : Store} (hreach : Store.Reachable clock store)
    {cache : ItemCache} (hempty : cache.entries = ∅) (steps : List Step)
    (hentry : (after steps ⟨cache, store⟩).cache.entries[id]? = some info) :
    Accounted steps (after steps ⟨cache, store⟩).delegate.buckets id info := by
  induction steps using List.reverseRecOn generalizing id info with
  | nil => simp [after, hempty] at hentry
  | append_singleton steps step ih =>
    rw [after_append_singleton] at hentry ⊢
    exact .step (reachable_after hreach steps).wellFormed ih hentry

/-- The directory that a listing infers is cached, and it is accounted for. -/
theorem nested_directory_accounted :
    (after [.listing] ⟨{ policy := .plain }, Store.nested⟩).cache.entries[
        ResourceId.object "media" "a/"]? = some (.inferredDirectory (.object "media" "a/")) ∧
      Accounted [.listing] (after [.listing] ⟨{ policy := .plain }, Store.nested⟩).delegate.buckets
        (.object "media" "a/") (.inferredDirectory (.object "media" "a/")) := by
  have hentry : (after [.listing] ⟨{ policy := .plain }, Store.nested⟩).cache.entries[
      ResourceId.object "media" "a/"]? = some (.inferredDirectory (.object "media" "a/")) := by
    decide +kernel
  exact ⟨hentry, entries_accounted Store.reachable_nested rfl [.listing] hentry⟩

end Cached

end ObjectStorage
