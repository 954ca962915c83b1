import ObjectStorage.Proofs.Cached.Steps
import ObjectStorage.Proofs.Store.Copies

/-!
# Failed copies through a cache

A copy makes a cache forget its targets once it was carried out, and one that fails
leaves the cache alone. `Cached.failed_copy` says when that is good enough: a copy
that changes nothing when it fails leaves every entry in agreement with the store,
and one that stops at a target without a name leaves those in agreement that are
not about the targets before it.
-/

namespace ObjectStorage.Cached

variable {state after : Cached Store} {failure : Failure} {sourceBucket targetBucket : String}
  {sources targets : List String} {id : ResourceId}

/-- Says that what is remembered about an id, if anything, is what the store reports about it. -/
def AgreesAt (state : Cached Store) (id : ResourceId) : Prop :=
  ∀ info, state.cache.entries[id]? = some info → state.delegate.buckets.lookup id = info

/-- Entries stay in agreement where neither the cache nor what the store reports changes. -/
theorem AgreesAt.of_eq (h : state.AgreesAt id) (hcache : after.cache = state.cache)
    (hlookup : after.delegate.buckets.lookup id = state.delegate.buckets.lookup id) :
    after.AgreesAt id := by
  intro info hentry
  rw [hcache] at hentry
  rw [hlookup]
  exact h info hentry

/-- A copy that fails through a cache fails in the store and leaves the cache alone. -/
theorem copy_eq_error
    (h : state.run Store.backend (.copy sourceBucket sources targetBucket targets) =
      (.error failure, after)) :
    state.delegate.run (.copy sourceBucket sources targetBucket targets) =
        (.error failure, after.delegate) ∧
      after.cache = state.cache := by
  rw [run_eq_forward rfl] at h
  rcases hrun : Store.backend.run (.copy sourceBucket sources targetBucket targets)
    state.delegate with ⟨cause | answer, last⟩
  · rw [forward_error hrun] at h
    cases h
    exact ⟨hrun, rfl⟩
  · rw [forward_ok hrun] at h
    cases h

/-- A copy changes nothing that is reported about other ids than its targets. -/
theorem lookup_of_stopsUnnamed {done : List (String × String)} {store last : Store}
    (h : Store.StopsUnnamed done sourceBucket sources targetBucket targets store failure last)
    (hid : ∀ pair ∈ done, id ≠ .object targetBucket pair.2) :
    last.buckets.lookup id = store.buckets.lookup id := by
  have htouch : ¬ (Operation.copy sourceBucket (done.map (·.1)) targetBucket
      (done.map (·.2))).Touches id := by
    rintro ⟨name, hname, rfl⟩
    obtain ⟨pair, hpair, rfl⟩ := List.mem_map.1 hname
    exact hid pair hpair rfl
  rw [← congrArg (·.2.buckets.lookup id) h.run_done]
  exact Store.run_lookup htouch

/-- A copy that fails, on a reachable store whose clock does not panic, leaves the cache alone and
the store as the same copy without a cache does. Either it leaves the store alone too, so that
entries stay in agreement with it, or it stops at a target without a name behind others and leaves
what a copy to those makes, so that entries stay in agreement that are not about them. -/
theorem failed_copy {clock : Clock} (hreach : Store.Reachable clock state.delegate)
    (hclock : clock.NeverPanics)
    (h : state.run Store.backend (.copy sourceBucket sources targetBucket targets) =
      (.error failure, after)) :
    state.delegate.run (.copy sourceBucket sources targetBucket targets) =
        (.error failure, after.delegate) ∧
      after.cache = state.cache ∧
      (after.delegate = state.delegate ∧ (∀ id, state.AgreesAt id → after.AgreesAt id) ∨
        ∃ done, Store.StopsUnnamed done sourceBucket sources targetBucket targets state.delegate
            failure after.delegate ∧
          ∀ id, (∀ pair ∈ done, id ≠ .object targetBucket pair.2) →
            state.AgreesAt id → after.AgreesAt id) := by
  obtain ⟨hrun, hcache⟩ := copy_eq_error h
  refine ⟨hrun, hcache, ?_⟩
  rcases Store.copy_failed_cases (hreach.neverPanics hclock) hrun with hsame | ⟨done, hstops⟩
  · exact .inl ⟨hsame, fun id hagrees => hagrees.of_eq hcache (by rw [hsame])⟩
  · refine .inr ⟨done, hstops, ?_⟩
    intro id hid hagrees
    exact hagrees.of_eq hcache (lookup_of_stopsUnnamed hstops hid)

/-- Of three copies of one object the second has no name: the copy stops there, and the first is
left. -/
theorem nested_copy_stops :
    let state : Cached Store := ⟨{ policy := .plain }, .nested⟩
    let sources := ["a/x", "a/x", "a/x"]
    let targets := ["b", "", "c"]
    ∃ failure after,
      state.run Store.backend (.copy "media" sources "media" targets) = (.error failure, after) ∧
        ∃ done, Store.StopsUnnamed done "media" sources "media" targets state.delegate failure
          after.delegate := by
  intro state sources targets
  obtain ⟨failure, after, hrun⟩ : ∃ failure after,
    state.run Store.backend (.copy "media" sources "media" targets) = (.error failure, after) :=
      ⟨_, _, rfl⟩
  have hstored : ((state.run Store.backend
      (.copy "media" sources "media" targets)).2.delegate.buckets.object?
        (.object "media" "b")).isSome = true := by decide +kernel
  refine ⟨failure, after, hrun, ?_⟩
  obtain ⟨-, -, ⟨hsame, -⟩ | ⟨done, hstops, -⟩⟩ :=
    failed_copy Store.reachable_nested (fun _ => ⟨.epoch, rfl⟩) hrun
  · -- The first target is there now, and was not before.
    have hfree : (state.delegate.buckets.object? (.object "media" "b")).isSome = false := by
      decide +kernel
    rw [hrun, hsame, hfree] at hstored
    cases hstored
  · exact ⟨done, hstops⟩

/-- An object that is remembered is overwritten by a copy that fails behind it: the store is not as
it was, and what is remembered is not what the store reports any more. -/
theorem unnamed_target_leaves_stale_entry :
    let store := (Store.nested.run (.writeObject (.object "media" "b") [2] {})).2
    let state : Cached Store := ((⟨{ policy := .plain }, store⟩ : Cached Store).run Store.backend
      (.getItemInfo (.object "media" "b"))).2
    let result := state.run Store.backend (.copy "media" ["a/x", "a/x"] "media" ["b", ""])
    Store.Reachable (.fixed .epoch) state.delegate ∧ (Clock.fixed .epoch).NeverPanics ∧
      result.1 = .error Store.unnamedFailure ∧ result.2.delegate ≠ state.delegate ∧
        state.AgreesAt (.object "media" "b") ∧ ¬ result.2.AgreesAt (.object "media" "b") := by
  intro store state result
  have hreach : Store.Reachable (.fixed .epoch) state.delegate := .run _ Store.reachable_nested
  have hentry : state.cache.entries[ResourceId.object "media" "b"]? =
      some (state.delegate.buckets.lookup (.object "media" "b")) := by decide +kernel
  have hkept : result.2.cache.entries[ResourceId.object "media" "b"]? =
      some (state.delegate.buckets.lookup (.object "media" "b")) := by decide +kernel
  have hchanged : result.2.delegate.buckets.lookup (.object "media" "b") ≠
      state.delegate.buckets.lookup (.object "media" "b") := by decide +kernel
  refine ⟨hreach, fun _ => ⟨.epoch, rfl⟩, rfl, ?_, ?_, ?_⟩
  · intro hsame
    exact hchanged (by rw [hsame])
  · intro info hinfo
    rw [hentry] at hinfo
    exact Option.some.inj hinfo
  · intro hagrees
    exact hchanged (hagrees _ hkept)

end ObjectStorage.Cached
