import ObjectStorage.Proofs.Store.Atomicity

/-!
# Failed copies

A copy reads all its sources before it stores the first target, but it looks at the
names of the targets only as it stores them. `Store.copy_failed_cases` says what
comes of that: a copy that fails leaves the store as it was, unless it stops at a
target without a name behind others (`Store.StopsUnnamed`). Then it leaves what a
copy to those others makes.
-/

namespace ObjectStorage.Store

variable {store after : Store} {failure : Failure} {sourceBucket targetBucket : String}
  {sources targets : List String} {pairs : List (String × String)} {bucket : StoredBucket}
  {copies : List (ResourceId × StoredObject)}

/-- The failure at a target without a name. -/
def unnamedFailure : Failure :=
  .error (ValidationError.invalidName "" "object name must not be empty")

/-- Says that a copy fails at a target without a name, and leaves what a copy of the pairs before
it makes. -/
structure StopsUnnamed (done : List (String × String)) (sourceBucket : String)
    (sources : List String) (targetBucket : String) (targets : List String) (store : Store)
    (failure : Failure) (after : Store) : Prop where
  done_ne_nil : done ≠ []
  pairs_eq : ∃ source rest, sources.zip targets = done ++ (source, "") :: rest
  failure_eq : failure = unnamedFailure
  run_done : store.run (.copy sourceBucket (done.map (·.1)) targetBucket (done.map (·.2))) =
    (.ok (), after)

/-- Copies into a bucket that is there are stored up to the first that has no name. -/
theorem storeCopies_error (hclock : store.clock.NeverPanics)
    (hbucket : targetBucket ∈ store.buckets)
    (htargets : ∀ copy ∈ copies, ∃ name, copy.1 = .object targetBucket name)
    (h : store.storeCopies copies = (.error failure, after)) :
    ∃ done object rest, copies = done ++ (.object targetBucket "", object) :: rest ∧
      failure = unnamedFailure ∧ store.storeCopies done = (.ok (), after) := by
  induction copies generalizing store with
  | nil => cases h
  | cons copy rest ih =>
    obtain ⟨id, object⟩ := copy
    obtain ⟨⟨name, rfl⟩, hrest⟩ := List.forall_mem_cons.1 htargets
    by_cases hname : name = ""
    · subst hname
      cases h
      exact ⟨[], object, rest, rfl, rfl, rfl⟩
    · have hgood : (ResourceId.object targetBucket name).objectName ≠ some "" := by
        simpa [ResourceId.object] using hname
      obtain ⟨info, middle, hstore, hmiddle, hmem⟩ := storeObject_overwrite object.content
        object.info.contentType object.info.metadata hclock rfl hgood hbucket
      simp only [storeCopies, hstore] at h
      obtain ⟨done, unnamed, others, rfl, hfailure, hdone⟩ :=
        ih hmiddle ((hmem targetBucket).2 hbucket) hrest h
      refine ⟨(.object targetBucket name, object) :: done, unnamed, others, rfl, hfailure, ?_⟩
      simp only [storeCopies, hstore, hdone]

/-- A pair is staged in front of others if it does not name one object twice and its source is
there. -/
theorem stageCopies_cons_eq_ok {source target : String} :
    stageCopies bucket sourceBucket targetBucket ((source, target) :: pairs) = .ok copies ↔
      ¬ (sourceBucket = targetBucket ∧ source = target) ∧
        ∃ object others, bucket.objects[source]? = some object ∧
          stageCopies bucket sourceBucket targetBucket pairs = .ok others ∧
            copies = (.object targetBucket target, object) :: others := by
  rw [stageCopies]
  split
  · next hself => exact ⟨nofun, fun h => (h.1 hself).elim⟩
  · next hself =>
    rw [and_iff_right hself]
    cases bucket.objects[source]? with
    | none => exact ⟨nofun, fun ⟨_, _, h, _⟩ => by cases h⟩
    | some object =>
      cases hothers : stageCopies bucket sourceBucket targetBucket pairs with
      | error cause => exact ⟨nofun, fun ⟨_, _, _, h, _⟩ => by cases h⟩
      | ok others =>
        constructor
        · rintro ⟨⟩
          exact ⟨object, others, rfl, rfl, rfl⟩
        · rintro ⟨_, _, ⟨⟩, ⟨⟩, rfl⟩
          rfl

/-- What is staged lies at objects of the target bucket. -/
theorem stageCopies_objects
    (h : stageCopies bucket sourceBucket targetBucket pairs = .ok copies) :
    ∀ copy ∈ copies, ∃ name, copy.1 = .object targetBucket name := by
  intro copy hcopy
  have hid : copy.1 ∈ copies.map (·.1) := List.mem_map.2 ⟨copy, hcopy, rfl⟩
  rw [stageCopies_targets h] at hid
  obtain ⟨pair, -, hpair⟩ := List.mem_map.1 hid
  exact ⟨pair.2, hpair.symm⟩

/-- What is staged without a name is staged for a target without one. -/
theorem stageCopies_unnamed {object : StoredObject}
    (h : stageCopies bucket sourceBucket targetBucket pairs =
      .ok ((.object targetBucket "", object) :: copies)) :
    ∃ source rest, pairs = (source, "") :: rest := by
  cases pairs with
  | nil => cases h
  | cons pair rest =>
    obtain ⟨source, target⟩ := pair
    obtain ⟨-, _, _, -, -, hcopies⟩ := stageCopies_cons_eq_ok.1 h
    cases hcopies
    exact ⟨source, rest, rfl⟩

/-- The first part of what is staged is what is staged for the first pairs. -/
theorem stageCopies_append {done rest : List (ResourceId × StoredObject)}
    (h : stageCopies bucket sourceBucket targetBucket pairs = .ok (done ++ rest)) :
    ∃ first later, pairs = first ++ later ∧
      stageCopies bucket sourceBucket targetBucket first = .ok done ∧
        stageCopies bucket sourceBucket targetBucket later = .ok rest := by
  induction done generalizing pairs with
  | nil => exact ⟨[], pairs, rfl, rfl, h⟩
  | cons copy done ih =>
    cases pairs with
    | nil => cases h
    | cons pair pairs =>
      obtain ⟨source, target⟩ := pair
      obtain ⟨hself, object, others, hobject, hothers, hcopies⟩ := stageCopies_cons_eq_ok.1 h
      obtain ⟨rfl, rfl⟩ := List.cons.inj hcopies
      obtain ⟨first, later, rfl, hfirst, hlater⟩ := ih hothers
      exact ⟨(source, target) :: first, later, rfl,
        stageCopies_cons_eq_ok.2 ⟨hself, object, done, hobject, hfirst, rfl⟩, hlater⟩

/-- A copy between buckets that are there stores what it has staged. -/
theorem copy_of_staged (hsource : store.buckets[sourceBucket]? = some bucket)
    (htarget : targetBucket ∈ store.buckets)
    (hstaged : stageCopies bucket sourceBucket targetBucket (sources.zip targets) = .ok copies) :
    store.copy sourceBucket sources targetBucket targets = store.storeCopies copies := by
  obtain ⟨target, htarget⟩ := Option.isSome_iff_exists.1
    (Std.ExtTreeMap.mem_iff_isSome_getElem?.1 htarget)
  have hall : store.staged sourceBucket sources targetBucket targets = .ok copies := by
    simp only [staged, bind_eq_ok_iff, discard_eq_ok_iff, Buckets.require_eq_ok]
    exact ⟨(), ⟨target, htarget⟩, bucket, hsource, hstaged⟩
  rw [copy_eq, hall, storeCopies_eq_each]

/-- A copy of pairs between buckets that are there, behind a lock that can be taken, stores what it
has staged. -/
theorem run_copy_pairs (hclock : store.clock.NeverPanics) (havailable : store.available = .ok ())
    (hsource : store.buckets[sourceBucket]? = some bucket)
    (htarget : targetBucket ∈ store.buckets)
    (hstaged : stageCopies bucket sourceBucket targetBucket pairs = .ok copies) :
    store.run (.copy sourceBucket (pairs.map (·.1)) targetBucket (pairs.map (·.2))) =
      store.storeCopies copies := by
  have hpairs : (pairs.map (·.1)).zip (pairs.map (·.2)) = pairs := by
    rw [List.zip_map', List.map_id']
  have hlength : checkCopy (pairs.map (·.1)) (pairs.map (·.2)) = .ok () := by
    rw [checkCopy, if_pos (by rw [List.length_map, List.length_map])]
  rw [run]
  unfold checked
  rw [hlength]
  dsimp only
  rw [write_of_evolves havailable hclock copy_evolves]
  exact copy_of_staged hsource htarget (hpairs.symm ▸ hstaged)

/-- Copying behind a lock that was taken fails before anything is stored, or at a target without a
name. -/
theorem copy_error (hclock : store.clock.NeverPanics) (havailable : store.available = .ok ())
    (h : store.copy sourceBucket sources targetBucket targets = (.error failure, after)) :
    after = store ∨
      ∃ done, StopsUnnamed done sourceBucket sources targetBucket targets store failure after := by
  rcases copy_cases sourceBucket sources targetBucket targets store with
    ⟨cause, hcopy⟩ | ⟨bucket, copies, hsource, htarget, hstaged, hcopy⟩
  · rw [hcopy] at h
    cases h
    exact .inl rfl
  · rw [hcopy] at h
    obtain ⟨stored, object, others, rfl, hfailure, hstored⟩ :=
      storeCopies_error hclock htarget (stageCopies_objects hstaged) h
    -- What was stored was staged for the pairs before the one whose target has no name.
    obtain ⟨done, later, hpairs, hdone, hlater⟩ := stageCopies_append hstaged
    obtain ⟨source, rest, rfl⟩ := stageCopies_unnamed hlater
    cases done with
    | nil =>
      cases hdone
      cases hstored
      exact .inl rfl
    | cons first more =>
      have hrun := run_copy_pairs hclock havailable hsource htarget hdone
      exact .inr ⟨first :: more, List.cons_ne_nil _ _, ⟨source, rest, hpairs⟩, hfailure,
        hrun.trans hstored⟩

/-- With a clock that does not panic, a copy that fails leaves the store as it was, unless it stops
at a target without a name behind others. -/
theorem copy_failed_cases (hclock : store.clock.NeverPanics)
    (h : store.run (.copy sourceBucket sources targetBucket targets) = (.error failure, after)) :
    after = store ∨
      ∃ done, StopsUnnamed done sourceBucket sources targetBucket targets store failure after := by
  rw [run] at h
  unfold checked at h
  split at h
  · cases h
    exact .inl rfl
  · dsimp only at h
    rcases write_cases (copy sourceBucket sources targetBucket targets) with
      ⟨cause, -, hwrite⟩ | ⟨havailable, -⟩
    · rw [hwrite] at h
      cases h
      exact .inl rfl
    · rw [write_of_evolves havailable hclock copy_evolves] at h
      exact copy_error hclock havailable h

end ObjectStorage.Store
