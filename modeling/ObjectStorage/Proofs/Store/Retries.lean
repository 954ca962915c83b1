import ObjectStorage.Proofs.Store.Atomicity
import ObjectStorage.Proofs.Store.Refusal

/-!
# Creating markers again

Markers are empty objects that are accepted when they are there already and never
overwritten. A creation that succeeds leaves a marker that is accepted from then on
(`Store.createEmptyObject_accepted`), and no later creation takes it away
(`Store.accepts_createEmptyObject`). `Store.creation_retried` concludes that a batch of
such creations can be repeated, whether it has succeeded or stopped in its middle.
-/

namespace ObjectStorage

variable {options : ObjectOptions}

/-- A marker is accepted as it was stored. -/
theorem ObjectOptions.accepts_version (hmatch : options.ensureMatch = true)
    (hkeep : options.overwrite = false) (id : ResourceId) (previous : Int) (now : Timestamp) :
    options.accepts
      (some (.version id [] options.contentType options.metadata previous now)) = true := by
  simp [accepts, hmatch, hkeep, StoredObject.version, ItemInfo.object]

/-- Nothing is accepted where no object is. -/
theorem ObjectOptions.ne_none_of_accepts {existing? : Option StoredObject}
    (h : options.accepts existing? = true) : existing? ≠ none := by
  rintro rfl
  simp [accepts] at h

namespace Store

variable {clock : Clock} {store after : Store} {id other : ResourceId} {ids : List ResourceId}

/-- A marker that is accepted is not stored again. -/
theorem createEmptyObject_of_accepts (h : options.accepts (store.buckets.object? id) = true) :
    store.createEmptyObject id options = (.ok (), store) := by
  rw [createEmptyObject, if_pos h]

/-- A creation that succeeds finds a marker that is accepted, or stores one in a free place. -/
theorem createEmptyObject_cases (hkeep : options.overwrite = false)
    (h : store.createEmptyObject id options = (.ok (), after)) :
    options.accepts (store.buckets.object? id) = true ∧ after = store ∨
      store.buckets.object? id = none ∧ ∃ previous now, ∀ other, after.buckets.object? other =
        if id = other then
          some (.version id [] options.contentType options.metadata previous now)
        else store.buckets.object? other := by
  unfold createEmptyObject at h
  split at h
  · next haccepts =>
    cases h
    exact .inl ⟨haccepts, rfl⟩
  · obtain ⟨⟨hobject, -, hbucket, hfree⟩, now, hput⟩ := writeObject_eq_ok h
    refine .inr ⟨hfree hkeep, store.buckets.generation id, now, fun other => ?_⟩
    rw [hput, Buckets.object?_put hbucket hobject]

/-- A creation that succeeds leaves a marker that is accepted. -/
theorem createEmptyObject_accepted (hmatch : options.ensureMatch = true)
    (hkeep : options.overwrite = false)
    (h : store.createEmptyObject id options = (.ok (), after)) :
    options.accepts (after.buckets.object? id) = true := by
  rcases createEmptyObject_cases hkeep h with ⟨haccepts, rfl⟩ | ⟨-, previous, now, hafter⟩
  · exact haccepts
  · rw [hafter, if_pos rfl]
    exact ObjectOptions.accepts_version hmatch hkeep id previous now

/-- A marker that is accepted stays so when others are created. -/
theorem accepts_createEmptyObject (hkeep : options.overwrite = false)
    (haccepts : options.accepts (store.buckets.object? other) = true)
    (h : store.createEmptyObject id options = (.ok (), after)) :
    options.accepts (after.buckets.object? other) = true := by
  rcases createEmptyObject_cases hkeep h with ⟨-, rfl⟩ | ⟨hfree, previous, now, hafter⟩
  · exact haccepts
  · -- The new marker lies in a place that was free, and so it is another one.
    have hne : id ≠ other := by
      rintro rfl
      exact ObjectOptions.ne_none_of_accepts haccepts hfree
    rwa [hafter, if_neg hne]

/-- Behind a series of creations all markers are accepted that were accepted before or are created
by it. -/
theorem Completes.accepts (hmatch : options.ensureMatch = true) (hkeep : options.overwrite = false)
    (h : Completes (createEmptyObject · options) ids store after)
    (hid : options.accepts (store.buckets.object? id) = true ∨ id ∈ ids) :
    options.accepts (after.buckets.object? id) = true := by
  induction h with
  | nil => simpa using hid
  | @cons first rest store middle after hcall _ ih =>
    refine ih ?_
    rcases hid with haccepts | hmem
    · exact .inl (accepts_createEmptyObject hkeep haccepts hcall)
    · rcases List.mem_cons.1 hmem with rfl | hlater
      · exact .inl (createEmptyObject_accepted hmatch hkeep hcall)
      · exact .inr hlater

/-- Markers that are all accepted are created without any change. -/
theorem completes_of_accepts
    (h : ∀ id ∈ ids, options.accepts (store.buckets.object? id) = true) :
    Completes (createEmptyObject · options) ids store store := by
  induction ids with
  | nil => exact .nil store
  | cons id rest ih =>
    exact .cons (createEmptyObject_of_accepts (h id (.head _)))
      (ih fun other hother => h other (.tail _ hother))

/-- Creations that succeed leave the clock without panics. -/
theorem Completes.neverPanics (h : Completes (createEmptyObject · options) ids store after)
    (hclock : store.clock.NeverPanics) : after.clock.NeverPanics := by
  induction h with
  | nil => exact hclock
  | @cons id rest store middle after hcall _ ih =>
    have hevolves : Evolves _ store (store.createEmptyObject id options) :=
      createEmptyObject_evolves
    rw [hcall] at hevolves
    exact ih (hevolves.neverPanics hclock)

/-- A batch of creations that is made again ends as before and changes nothing more. -/
theorem createEmptyObjects_again (hclock : store.clock.NeverPanics)
    (hmatch : options.ensureMatch = true) (hkeep : options.overwrite = false)
    {outcome : Outcome Unit} (h : store.createEmptyObjects options ids = (outcome, after)) :
    after.createEmptyObjects options ids = (outcome, after) := by
  rw [createEmptyObjects_eq_each] at h ⊢
  cases outcome with
  | ok _ =>
    have hdone := each_eq_ok.1 h
    exact each_eq_ok.2 (completes_of_accepts fun id hid => hdone.accepts hmatch hkeep (.inr hid))
  | error failure =>
    obtain ⟨done, id, rest, prior, rfl, hdone, hfail⟩ := each_eq_error.1 h
    -- The creation that fails changes nothing itself, and fails again behind those before it.
    obtain rfl : after = prior := by
      have hsame := createEmptyObject_failed (hdone.neverPanics hclock) (congrArg Prod.fst hfail)
      rwa [hfail] at hsame
    exact each_eq_error.2 ⟨done, id, rest, after, rfl,
      completes_of_accepts fun id hid => hdone.accepts hmatch hkeep (.inr hid), hfail⟩

/-- With a clock that does not panic, creating markers once more ends as the first time, with
success or with the same error, and leaves the store exactly as the first time has left it. -/
theorem creation_retried (hreach : Reachable clock store) (hclock : clock.NeverPanics)
    (hmatch : options.ensureMatch = true) (hkeep : options.overwrite = false)
    (ids : List ResourceId) :
    (store.run (.createEmptyObjects ids options)).2.run (.createEmptyObjects ids options) =
      store.run (.createEmptyObjects ids options) := by
  have hnever := hreach.neverPanics hclock
  cases havailable : store.available with
  | error cause =>
    have hrefused : store.run (.createEmptyObjects ids options) = (.failed cause, store) :=
      run_of_refused rfl rfl havailable
    rw [hrefused]
    exact hrefused
  | ok _ =>
    have hevolves : Evolves _ store (store.createEmptyObjects options ids) :=
      createEmptyObjects_evolves
    have hrun : store.run (.createEmptyObjects ids options) =
        store.createEmptyObjects options ids :=
      write_of_evolves havailable hnever hevolves
    rcases hfirst : store.createEmptyObjects options ids with ⟨outcome, after⟩
    rw [hfirst] at hevolves hrun
    have hagain : after.run (.createEmptyObjects ids options) =
        after.createEmptyObjects options ids :=
      write_of_evolves (hevolves.available havailable) (hevolves.neverPanics hnever)
        createEmptyObjects_evolves
    rw [hrun, hagain]
    exact createEmptyObjects_again hnever hmatch hkeep hfirst

/-- A batch that stops at the id of a bucket, behind a marker that it names twice, is repeated under
a clock that moves. -/
theorem stopped_creation_retried :
    let later : Timestamp := ⟨60, 0, by decide, by decide, by decide⟩
    let clock : Clock := fun n => .time (if n % 2 = 0 then .epoch else later)
    let store := ((empty clock).run (.createBucket "media" {})).2
    let options : ObjectOptions := { overwrite := false, ensureMatch := true }
    let ids : List ResourceId := [.object "media" "a/", .object "media" "a/", .bucket "media"]
    let result := store.run (.createEmptyObjects ids options)
    Reachable clock store ∧ clock.NeverPanics ∧ options.ensureMatch = true ∧
      options.overwrite = false ∧ result.1.isOk = false ∧
      result.2.buckets.generation (.object "media" "a/") = 1 ∧
      result.2.run (.createEmptyObjects ids options) = result := by
  intro later clock store options ids result
  have hreach : Reachable clock store := .run _ .empty
  have hclock : clock.NeverPanics := fun _ => ⟨_, rfl⟩
  exact ⟨hreach, hclock, rfl, rfl, by decide +kernel, by decide +kernel,
    creation_retried hreach hclock rfl rfl ids⟩

end Store

end ObjectStorage
