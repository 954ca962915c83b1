import ObjectStorage.Store.Change

/-!
# What the checks of an operation establish

An operation checks its arguments against the buckets before it changes
anything. Each lemma says what a passed check means for the view of the buckets:
`forM_requireObject` that all objects are there, `admit_eq_ok` that an object can
be stored, `copy_cases` what a copy has staged before its first target.
-/

namespace ObjectStorage

/-- A call that goes on after a good answer succeeds when both parts do. -/
theorem bind_eq_ok_iff {ε α β : Type} {x : Except ε α} {f : α → Except ε β} {b : β} :
    (x >>= f) = .ok b ↔ ∃ a, x = .ok a ∧ f a = .ok b := by
  cases x <;> simp [bind, Except.bind]

/-- Discarding an answer keeps the success. -/
theorem discard_eq_ok_iff {ε α : Type} {x : Except ε α} {u : Unit} :
    discard x = .ok u ↔ ∃ a, x = .ok a := by
  cases x <;> simp [discard, Functor.discard, Functor.mapConst, Except.map]

/-- A check of a list passes when it passes for each entry. -/
theorem forM_eq_ok_iff {ε α : Type} {f : α → Except ε Unit} {xs : List α} {u : Unit} :
    xs.forM f = .ok u ↔ ∀ x ∈ xs, f x = .ok () := by
  induction xs with
  | nil => exact ⟨fun _ _ hx => (List.not_mem_nil hx).elim, fun _ => rfl⟩
  | cons x rest ih =>
    show (f x >>= fun _ => rest.forM f) = .ok u ↔ _
    rw [bind_eq_ok_iff, List.forall_mem_cons, ← ih]
    exact ⟨fun ⟨_, hx, hrest⟩ => ⟨hx, hrest⟩, fun ⟨hx, hrest⟩ => ⟨(), hx, hrest⟩⟩

/-- The id of an object is not the root. -/
theorem ResourceId.isRoot_of_isObject {id : ResourceId} (h : id.isObject = true) :
    id.isRoot = false := by
  obtain ⟨bucketName, objectName⟩ := id
  cases objectName <;> simp_all [isObject, isRoot]

namespace Buckets

variable {buckets : Buckets} {bucketName : String} {id : ResourceId}

/-- The content generation of the object at an id; zero when there is none. -/
def generation (buckets : Buckets) (id : ResourceId) : Int :=
  ((buckets.object? id).map (·.info.contentGeneration)).getD 0

/-- The content generation of an object that is there. -/
theorem generation_of_object? {object : StoredObject} (h : buckets.object? id = some object) :
    buckets.generation id = object.info.contentGeneration := by
  rw [generation, h]
  rfl

/-- An object lies in a bucket that is there. -/
theorem mem_of_object? {object : StoredObject} (h : buckets.object? id = some object) :
    id.bucketName ∈ buckets := by
  obtain ⟨name, -, h⟩ := Option.bind_eq_some_iff.1 h
  obtain ⟨bucket, hbucket, -⟩ := Option.bind_eq_some_iff.1 h
  exact Std.ExtTreeMap.mem_iff_isSome_getElem?.2 (by simp [hbucket])

/-- Only ids of objects have an object. -/
theorem isObject_of_object? {object : StoredObject} (h : buckets.object? id = some object) :
    id.isObject = true := by
  obtain ⟨name, hname, -⟩ := Option.bind_eq_some_iff.1 h
  simp [ResourceId.isObject, hname]

/-- A required bucket is one that is there. -/
theorem require_eq_ok {bucket : StoredBucket} :
    buckets.require bucketName = .ok bucket ↔ buckets[bucketName]? = some bucket := by
  unfold require
  split <;> simp_all

/-- A required object is one that is there. -/
theorem requireObject_eq_ok {object : StoredObject} :
    buckets.requireObject id = .ok object ↔ buckets.object? id = some object := by
  unfold requireObject
  split <;> simp_all

/-- Required objects are all there. -/
theorem forM_requireObject {α : Type} {xs : List α} {f : α → ResourceId} {u : Unit} :
    (xs.forM fun x => discard (buckets.requireObject (f x))) = .ok u ↔
      ∀ x ∈ xs, ∃ object, buckets.object? (f x) = some object := by
  rw [forM_eq_ok_iff]
  simp only [discard_eq_ok_iff, requireObject_eq_ok]

/-- Only the id of an object has an object name to require. -/
theorem requireObjectName_eq_ok {name : String} :
    id.requireObjectName = .ok name ↔ id.objectName = some name := by
  unfold ResourceId.requireObjectName
  split <;> simp_all

/-- A good object name is one that is not empty. -/
theorem checkObjectName_eq_ok {name : String} {u : Unit} :
    checkObjectName name = .ok u ↔ name ≠ "" := by
  unfold checkObjectName
  split <;> simp_all

/-- An object can be stored at exactly the ids that name one in a bucket that is there; without
leave to overwrite, the place has to be free. -/
theorem admit_eq_ok {overwrite : Bool} {previous : Int} :
    buckets.admit id overwrite = .ok previous ↔
      id.isObject = true ∧ id.objectName ≠ some "" ∧ id.bucketName ∈ buckets ∧
        (overwrite = false → buckets.object? id = none) ∧ buckets.generation id = previous := by
  obtain ⟨ownBucket, objectName⟩ := id
  unfold Buckets.admit
  simp only [bind_eq_ok_iff, requireObjectName_eq_ok, checkObjectName_eq_ok, require_eq_ok]
  cases objectName with
  | none => simp [ResourceId.isObject]
  | some name =>
    cases hbucket : buckets[ownBucket]? with
    | none =>
      have hmem : ownBucket ∉ buckets := by
        rw [Std.ExtTreeMap.mem_iff_isSome_getElem?, hbucket]
        exact Bool.false_ne_true
      simp [hmem]
    | some bucket =>
      have hmem : ownBucket ∈ buckets :=
        Std.ExtTreeMap.mem_iff_isSome_getElem?.2 (by simp [hbucket])
      have hget : buckets.object? ⟨ownBucket, some name⟩ = bucket.objects[name]? := by
        simp [object?, hbucket]
      rw [generation, hget]
      cases hobject : bucket.objects[name]? <;> cases overwrite <;>
        simp [ResourceId.isObject, hmem, hobject]

end Buckets

namespace Store

variable {store after : Store}

/-- An object that is stored lies in a good place, which was free if it may not be overwritten, as
the next version of what was there. -/
theorem storeObject_eq_ok {id : ResourceId} {content : Bytes} {contentType : Option String}
    {metadata : Metadata} {overwrite : Bool} {info : ItemInfo}
    (h : store.storeObject id content contentType metadata overwrite = (.ok info, after)) :
    (id.isObject = true ∧ id.objectName ≠ some "" ∧ id.bucketName ∈ store.buckets ∧
      (overwrite = false → store.buckets.object? id = none)) ∧
    ∃ object now,
      object = .version id content contentType metadata (store.buckets.generation id) now ∧
      info = object.info ∧
      after = { store with buckets := store.buckets.put id object, clock := store.clock.tick } := by
  unfold storeObject at h
  split at h
  · cases h
  · next previous hplace =>
    obtain ⟨hobject, hname, hbucket, hfree, rfl⟩ := Buckets.admit_eq_ok.1 hplace
    unfold stamp at h
    split at h
    · next now _ =>
      cases h
      exact ⟨⟨hobject, hname, hbucket, hfree⟩, _, now, rfl, rfl, rfl⟩
    · cases h

/-- An object that is stored without an answer lies in a good place, like any that is stored. -/
theorem writeObject_eq_ok {id : ResourceId} {content : Bytes} {options : ObjectOptions}
    (h : store.writeObject id content options = (.ok (), after)) :
    (id.isObject = true ∧ id.objectName ≠ some "" ∧ id.bucketName ∈ store.buckets ∧
      (options.overwrite = false → store.buckets.object? id = none)) ∧
    ∃ now, after.buckets = store.buckets.put id (.version id content options.contentType
      options.metadata (store.buckets.generation id) now) := by
  rcases hstore : store.storeObject id content options.contentType options.metadata
    options.overwrite with ⟨failure | info, stored⟩
  · simp [writeObject, hstore, Except.map] at h
  · obtain ⟨hplace, _, now, rfl, -, rfl⟩ := storeObject_eq_ok hstore
    rw [writeObject, hstore] at h
    obtain ⟨-, rfl⟩ := Prod.mk.inj h
    exact ⟨hplace, now, rfl⟩

/-- The targets of staged copies are those that were asked for. -/
theorem stageCopies_targets {bucket : StoredBucket} {sourceBucket targetBucket : String}
    {pairs : List (String × String)} {copies : List (ResourceId × StoredObject)}
    (h : stageCopies bucket sourceBucket targetBucket pairs = .ok copies) :
    copies.map (·.1) = pairs.map fun pair => .object targetBucket pair.2 := by
  induction pairs generalizing copies with
  | nil =>
    cases h
    rfl
  | cons pair rest ih =>
    unfold stageCopies at h
    split at h
    · cases h
    · split at h
      · cases h
      · cases hrest : stageCopies bucket sourceBucket targetBucket rest with
        | error cause => simp [hrest, Except.map] at h
        | ok staged =>
          obtain rfl := Except.ok.inj (by simpa only [hrest, Except.map] using h)
          simp [ih hrest]

/-- A copy is refused as a whole, or it stores what it has staged at the targets, in a bucket that
is there. -/
theorem copy_cases (sourceBucket : String) (sources : List String) (targetBucket : String)
    (targets : List String) (store : Store) :
    (∃ cause, store.copy sourceBucket sources targetBucket targets = (.failed cause, store)) ∨
      ∃ source copies, store.buckets[sourceBucket]? = some source ∧
        targetBucket ∈ store.buckets ∧
        stageCopies source sourceBucket targetBucket (sources.zip targets) = .ok copies ∧
        store.copy sourceBucket sources targetBucket targets = store.storeCopies copies := by
  unfold copy
  dsimp only
  split
  · next cause hstaged => exact .inl ⟨cause, rfl⟩
  · next copies hstaged =>
    simp only [bind_eq_ok_iff, discard_eq_ok_iff, Buckets.require_eq_ok] at hstaged
    obtain ⟨-, ⟨target, htarget⟩, source, hsource, hstaged⟩ := hstaged
    exact .inr ⟨source, copies, hsource,
      Std.ExtTreeMap.mem_iff_isSome_getElem?.2 (by simp [htarget]), hstaged, rfl⟩

end Store

end ObjectStorage
