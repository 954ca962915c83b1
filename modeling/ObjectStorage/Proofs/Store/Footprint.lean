import ObjectStorage.Proofs.Store.Journal
import ObjectStorage.Proofs.Store.Reports

/-!
# What an operation looks at

`Operation.names` are the ids that a change names. `Store.run_alike` says that a
change looks at nothing else: between stores whose clocks show the same and
whose buckets agree at the named ids, its answers do not differ, and neither do
its deeds, whether it succeeds, fails or stops halfway.
-/

namespace ObjectStorage

/-- The ids that a change names: buckets, and objects as sources or targets. -/
def Operation.names {α : Type} : Operation α → List ResourceId
  | .createBucket bucketName _ => [.bucket bucketName]
  | .createEmptyObject id _ | .writeObject id _ _ => [id]
  | .createEmptyObjects ids _ | .deleteObjects ids => ids
  | .copy sourceBucket sources targetBucket targets =>
    .bucket sourceBucket :: .bucket targetBucket ::
      (sources.map (.object sourceBucket ·) ++ targets.map (.object targetBucket ·))
  | .deleteBuckets bucketNames => bucketNames.map .bucket
  | .updateItems updates => updates.map (·.resourceId)
  | .composeObjects sources target _ => target :: sources
  | _ => []

namespace Operation

variable {sourceBucket targetBucket name : String} {sources targets : List String}

/-- A copy names its sources. -/
theorem source_mem_names (h : name ∈ sources) :
    .object sourceBucket name ∈ (copy sourceBucket sources targetBucket targets).names :=
  .tail _ (.tail _ (List.mem_append_left _ (List.mem_map_of_mem h)))

/-- A copy names its targets. -/
theorem target_mem_names (h : name ∈ targets) :
    .object targetBucket name ∈ (copy sourceBucket sources targetBucket targets).names :=
  .tail _ (.tail _ (List.mem_append_right _ (List.mem_map_of_mem h)))

end Operation

/-- Calls that do not differ on the entries of a list pass or fail the same check of it. -/
theorem forM_congr {ε α : Type} {f g : α → Except ε Unit} {xs : List α}
    (h : ∀ x ∈ xs, f x = g x) : xs.forM f = xs.forM g := by
  induction xs with
  | nil => rfl
  | cons x rest ih =>
    show (f x >>= fun _ => rest.forM f) = (g x >>= fun _ => rest.forM g)
    rw [h x (.head _), ih fun y hy => h y (.tail _ hy)]

/-- Calls that do not differ on the entries of a list collect the same answers. -/
theorem mapM_congr {ε α β : Type} {f g : α → Except ε β} {xs : List α}
    (h : ∀ x ∈ xs, f x = g x) : xs.mapM f = xs.mapM g := by
  induction xs with
  | nil => rfl
  | cons x rest ih =>
    rw [List.mapM_cons, List.mapM_cons, h x (.head _), ih fun y hy => h y (.tail _ hy)]

namespace Buckets

variable {buckets other : Buckets} {bucketName : String} {id : ResourceId}

/-- Says that buckets hold the same object at an id, in buckets of which the same is reported. -/
structure AgreeAt (id : ResourceId) (buckets other : Buckets) : Prop where
  object? : other.object? id = buckets.object? id
  bucketInfo? : other.bucketInfo? id.bucketName = buckets.bucketInfo? id.bucketName

/-- Where the same is reported about a bucket, it is there or missing alike. -/
theorem mem_congr (h : other.bucketInfo? bucketName = buckets.bucketInfo? bucketName) :
    bucketName ∈ other ↔ bucketName ∈ buckets := by
  rw [mem_iff_bucketInfo?, mem_iff_bucketInfo?, h]

/-- Where the same is reported about a bucket, it is missing in both or there in both. -/
theorem getElem?_cases (h : other.bucketInfo? bucketName = buckets.bucketInfo? bucketName) :
    (buckets[bucketName]? = none ∧ other[bucketName]? = none) ∨
      ∃ bucket found, buckets[bucketName]? = some bucket ∧ other[bucketName]? = some found := by
  unfold bucketInfo? at h
  cases hbucket : buckets[bucketName]? <;> cases hfound : other[bucketName]? <;> simp_all

/-- A bucket is required alike where the same is reported about it. -/
theorem require_congr (h : other.bucketInfo? bucketName = buckets.bucketInfo? bucketName) :
    discard (other.require bucketName) = discard (buckets.require bucketName) := by
  rcases getElem?_cases h with ⟨hbucket, hfound⟩ | ⟨bucket, found, hbucket, hfound⟩
  · rw [require, require, hbucket, hfound]
  · rw [require, require, hbucket, hfound]
    rfl

/-- An object is required alike where buckets hold the same one. -/
theorem requireObject_congr (h : other.object? id = buckets.object? id) :
    other.requireObject id = buckets.requireObject id := by
  rw [requireObject, requireObject, h]

/-- An object is admitted alike at an id where buckets agree. -/
theorem admit_congr (h : buckets.AgreeAt id other) (overwrite : Bool) :
    other.admit id overwrite = buckets.admit id overwrite := by
  obtain ⟨bucketName, objectName⟩ := id
  obtain ⟨hobject, hinfo⟩ := h
  cases objectName with
  | none => rfl
  | some name =>
    unfold Buckets.admit
    rcases getElem?_cases hinfo with ⟨hbucket, hfound⟩ | ⟨bucket, found, hbucket, hfound⟩
    · rw [require, require, hbucket, hfound]
    · have hplace : found.objects[name]? = bucket.objects[name]? := by
        simpa [object?, hbucket, hfound] using hobject
      rw [require_eq_ok.2 hbucket, require_eq_ok.2 hfound]
      simp only [ResourceId.requireObjectName, bind, Except.bind, hplace]

end Buckets

/-- The object at an id after an edit depends only on the one before it. -/
theorem Edit.object?_congr {edit : Edit} {buckets other : Buckets} {id : ResourceId}
    (hadm : edit.Admissible buckets) (hother : edit.Admissible other)
    (h : other.object? id = buckets.object? id) :
    (edit.apply other).object? id = (edit.apply buckets).object? id := by
  cases edit with
  | addBucket bucketName options now =>
    rw [apply, apply, Buckets.object?_addBucket hadm.2, Buckets.object?_addBucket hother.2, h]
  | store place content contentType metadata overwrite now =>
    rw [apply, apply, Buckets.object?_put hadm.2.2.1 hadm.1,
      Buckets.object?_put hother.2.2.1 hother.1]
    split
    · next heq => rw [Buckets.generation, Buckets.generation, heq, h]
    · exact h
  | patch update now =>
    obtain ⟨object, hobject⟩ := hadm
    obtain ⟨found, hfound⟩ := hother
    simp only [apply, hobject, hfound]
    rw [Buckets.object?_put_over hobject, Buckets.object?_put_over hfound]
    split
    · next heq =>
      obtain rfl : found = object := by
        rw [← heq, hobject, hfound] at h
        exact Option.some.inj h
      rfl
    · exact h
  | remove place => rw [apply, apply, Buckets.object?_remove, Buckets.object?_remove, h]
  | dropBucket bucketName => rw [apply, apply, Buckets.object?_erase, Buckets.object?_erase, h]

/-- Says that an edit adds or drops the bucket with this name. -/
def Edit.AddsOrDrops (edit : Edit) (bucketName : String) : Prop :=
  match edit with
  | addBucket other _ _ | dropBucket other => other = bucketName
  | store _ _ _ _ _ _ | patch _ _ | remove _ => False

/-- Only an edit that adds or drops a bucket changes what is reported about it. -/
theorem Edit.bucketInfo?_eq {edit : Edit} {buckets : Buckets} {bucketName : String}
    (h : ¬ edit.AddsOrDrops bucketName) :
    (edit.apply buckets).bucketInfo? bucketName = buckets.bucketInfo? bucketName := by
  cases edit with
  | addBucket other options now =>
    have hne : other ≠ bucketName := h
    rw [apply, Buckets.bucketInfo?_insert, if_neg hne]
  | dropBucket other =>
    have hne : other ≠ bucketName := h
    rw [apply, Buckets.bucketInfo?_erase, if_neg hne]
  | store place content contentType metadata overwrite now => exact Buckets.bucketInfo?_put
  | remove place => exact Buckets.bucketInfo?_remove
  | patch update now =>
    rw [apply]
    split
    · exact Buckets.bucketInfo?_put
    · rfl

/-- What is reported about a bucket after an edit depends only on what was before it. -/
theorem Edit.bucketInfo?_congr {edit : Edit} {buckets other : Buckets} {bucketName : String}
    (h : other.bucketInfo? bucketName = buckets.bucketInfo? bucketName) :
    (edit.apply other).bucketInfo? bucketName = (edit.apply buckets).bucketInfo? bucketName := by
  by_cases hchange : edit.AddsOrDrops bucketName
  · cases edit with
    | addBucket added options now =>
      rw [apply, apply, Buckets.bucketInfo?_insert, Buckets.bucketInfo?_insert, h]
    | dropBucket dropped =>
      rw [apply, apply, Buckets.bucketInfo?_erase, Buckets.bucketInfo?_erase, h]
    | store | patch | remove => exact hchange.elim
  · rw [bucketInfo?_eq hchange, bucketInfo?_eq hchange, h]

/-- The object at an id after some edits depends only on the one before them. -/
theorem Edits.object?_congr {edits : List Edit} {buckets after other otherAfter : Buckets}
    {id : ResourceId} (hedits : Edits edits buckets after) (hother : Edits edits other otherAfter)
    (h : other.object? id = buckets.object? id) : otherAfter.object? id = after.object? id := by
  induction hedits generalizing other with
  | nil =>
    cases hother
    exact h
  | cons hadm _ ih =>
    cases hother with
    | cons hadm' hrest => exact ih hrest (Edit.object?_congr hadm hadm' h)

/-- What is reported about a bucket after some edits depends only on what was before them. -/
theorem Edits.bucketInfo?_congr {edits : List Edit} {buckets after other otherAfter : Buckets}
    {bucketName : String} (hedits : Edits edits buckets after)
    (hother : Edits edits other otherAfter)
    (h : other.bucketInfo? bucketName = buckets.bucketInfo? bucketName) :
    otherAfter.bucketInfo? bucketName = after.bucketInfo? bucketName := by
  induction hedits generalizing other with
  | nil =>
    cases hother
    exact h
  | cons _ _ ih =>
    cases hother with
    | cons _ hrest => exact ih hrest (Edit.bucketInfo?_congr h)

namespace Store

variable {α β : Type} {names : List ResourceId} {store other after otherAfter : Store}

/-- Says that stores agree at some ids, and that their clocks show the same. -/
structure AgreeOn (names : List ResourceId) (store other : Store) : Prop where
  clock : other.clock = store.clock
  buckets : ∀ id ∈ names, store.buckets.AgreeAt id other.buckets

/-- Says that a call answers the same to two stores, and does the same to them. -/
structure Alike (call : Store → Outcome α × Store) (deeds : Store → List Deed)
    (store other : Store) : Prop where
  answer : (call other).1 = (call store).1
  deeds : deeds other = deeds store

namespace AgreeOn

/-- Stores agree at fewer ids if they agree at more. -/
theorem mono {fewer : List ResourceId} (h : AgreeOn names store other)
    (hfewer : ∀ id ∈ fewer, id ∈ names) : AgreeOn fewer store other :=
  ⟨h.clock, fun id hid => h.buckets id (hfewer id hid)⟩

/-- Stores that agree still do when the same deeds have been done to both. -/
theorem records {deeds : List Deed} (h : AgreeOn names store other)
    (hstore : Records deeds store after) (hother : Records deeds other otherAfter) :
    AgreeOn names after otherAfter := by
  obtain ⟨_, hdeeds⟩ := hstore none
  obtain ⟨_, hsame⟩ := hother none
  refine ⟨?_, fun id hid => ⟨?_, ?_⟩⟩
  · funext n
    exact (hsame.clock.1 n).trans ((congrFun h.clock _).trans (hdeeds.clock.1 n).symm)
  · exact hdeeds.edits.object?_congr hsame.edits (h.buckets id hid).object?
  · exact hdeeds.edits.bucketInfo?_congr hsame.edits (h.buckets id hid).bucketInfo?

end AgreeOn

/-- The deeds behind a reading of the clock do not differ where the clocks show the same. -/
theorem stampedDeeds_congr (hclock : other.clock = store.clock) (edits : Timestamp → List Edit) :
    other.stampedDeeds edits = store.stampedDeeds edits := by
  rw [stampedDeeds, stampedDeeds, hclock]

/-- The answer behind a reading of the clock does not differ where the clocks show the same. -/
theorem stamp_congr (hclock : other.clock = store.clock)
    {change otherChange : Timestamp → Store → Outcome α × Store}
    (h : ∀ now, (otherChange now { other with clock := other.clock.tick }).1 =
      (change now { store with clock := store.clock.tick }).1) :
    (other.stamp otherChange).1 = (store.stamp change).1 := by
  rw [stamp, stamp, hclock]
  rw [hclock] at h
  cases store.clock.now with
  | panic => rfl
  | time now => exact h now

/-- Making a bucket. -/
theorem createBucket_alike {bucketName : String} (options : BucketOptions)
    (h : AgreeOn [.bucket bucketName] store other) :
    Alike (createBucket bucketName options) (createBucketDeeds bucketName options) store other := by
  have hmem : bucketName ∈ other.buckets ↔ bucketName ∈ store.buckets :=
    Buckets.mem_congr (h.buckets _ (.head _)).bucketInfo?
  by_cases hbucket : bucketName ∈ store.buckets
  · constructor
    · rw [createBucket, createBucket, if_pos hbucket, if_pos (hmem.2 hbucket)]
    · rw [createBucketDeeds, createBucketDeeds, if_pos hbucket, if_pos (hmem.2 hbucket)]
  · constructor
    · rw [createBucket, createBucket, if_neg hbucket, if_neg (mt hmem.1 hbucket)]
      exact stamp_congr h.clock fun now => rfl
    · rw [createBucketDeeds, createBucketDeeds, if_neg hbucket, if_neg (mt hmem.1 hbucket)]
      exact stampedDeeds_congr h.clock _

/-- Storing an object. -/
theorem storeObject_alike {id : ResourceId} (content : Bytes) (contentType : Option String)
    (metadata : Metadata) (overwrite : Bool) (h : AgreeOn [id] store other) :
    Alike (storeObject id content contentType metadata overwrite)
      (storeObjectDeeds id content contentType metadata overwrite) store other := by
  have hplace := Buckets.admit_congr (h.buckets id (.head _)) overwrite
  constructor
  · rw [storeObject, storeObject, hplace]
    cases store.buckets.admit id overwrite with
    | error cause => rfl
    | ok previous => exact stamp_congr h.clock fun now => rfl
  · rw [storeObjectDeeds, storeObjectDeeds, hplace, stampedDeeds_congr h.clock]

/-- Writing an object. -/
theorem writeObject_alike {id : ResourceId} (content : Bytes) (options : ObjectOptions)
    (h : AgreeOn [id] store other) :
    Alike (writeObject id content options)
      (storeObjectDeeds id content options.contentType options.metadata options.overwrite)
      store other := by
  have hstore := storeObject_alike content options.contentType options.metadata options.overwrite h
  exact ⟨congrArg (·.map fun _ => ()) hstore.answer, hstore.deeds⟩

/-- Creating an object. -/
theorem createEmptyObject_alike {id : ResourceId} (options : ObjectOptions)
    (h : AgreeOn [id] store other) :
    Alike (createEmptyObject id options) (createEmptyObjectDeeds options id) store other := by
  have hobject := (h.buckets id (.head _)).object?
  have hwrite := writeObject_alike [] options h
  constructor
  · rw [createEmptyObject, createEmptyObject, hobject]
    split
    · rfl
    · exact hwrite.answer
  · rw [createEmptyObjectDeeds, createEmptyObjectDeeds, hobject]
    split
    · rfl
    · exact hwrite.deeds

/-- A batch of calls that look at nothing but the named ids looks at nothing else either. -/
theorem each_alike {call : β → Store → Outcome Unit × Store} {deeds : β → Store → List Deed}
    {entries : List β}
    (hrecords : ∀ entry store, Records (deeds entry store) store (call entry store).2)
    (halike : ∀ entry ∈ entries, ∀ {store other}, AgreeOn names store other →
      Alike (call entry) (deeds entry) store other)
    (h : AgreeOn names store other) :
    Alike (each call entries) (eachDeeds call deeds entries) store other := by
  induction entries generalizing store other with
  | nil => exact ⟨rfl, rfl⟩
  | cons entry rest ih =>
    obtain ⟨hanswer, hdeeds⟩ := halike entry (.head _) h
    -- The stores still agree when the call for the first entry is over.
    have hafter : AgreeOn names (call entry store).2 (call entry other).2 :=
      h.records (hrecords entry store) (hdeeds ▸ hrecords entry other)
    have hrest := ih (fun later hlater => halike later (.tail _ hlater)) hafter
    rcases hcall : call entry store with ⟨failure | _, after⟩ <;>
      rcases hother : call entry other with ⟨failure' | _, otherAfter⟩ <;>
      rw [hcall, hother] at hanswer hrest <;> cases hanswer
    · constructor
      · rw [each_cons_error hcall, each_cons_error hother]
      · rw [eachDeeds, eachDeeds, hdeeds, hcall, hother]
    · constructor
      · rw [each_cons_ok hcall, each_cons_ok hother, hrest.answer]
      · rw [eachDeeds, eachDeeds, hdeeds, hcall, hother]
        exact congrArg (_ ++ ·) hrest.deeds

/-- Creating objects. -/
theorem createEmptyObjects_alike {ids : List ResourceId} (options : ObjectOptions)
    (h : AgreeOn ids store other) :
    Alike (createEmptyObjects options ids)
      (eachDeeds (createEmptyObject · options) (createEmptyObjectDeeds options) ids)
      store other := by
  have heach : createEmptyObjects options ids = each (createEmptyObject · options) ids :=
    funext (createEmptyObjects_eq_each options ids)
  rw [heach]
  refine each_alike (createEmptyObject_records options) ?_ h
  intro id hid store other hagree
  exact createEmptyObject_alike options (hagree.mono (by simpa using hid))

namespace Alike

variable {call : Store → Outcome α × Store} {deeds : Store → List Deed}

/-- A change behind the lock. -/
theorem write (havailable : other.available = store.available) (h : Alike call deeds store other) :
    Alike (·.write call) (fun store => granted store.available fun _ => deeds store)
      store other := by
  constructor
  · rw [Store.write, Store.write, havailable]
    cases store.available with
    | error cause => rfl
    | ok _ => exact h.answer
  · rw [havailable, h.deeds]

/-- A call behind a check of its arguments. -/
theorem checked (check : Except Error Unit) (h : Alike call deeds store other) :
    Alike (·.checked check call) (fun store => granted check fun _ => deeds store)
      store other := by
  constructor
  · unfold Store.checked
    cases check with
    | error cause => rfl
    | ok _ => exact h.answer
  · rw [h.deeds]

end Alike

/-- Where the objects at some ids agree, a check that they are all there passes or fails alike. -/
theorem forM_requireObject_congr {entries : List β} {place : β → ResourceId}
    (h : ∀ entry ∈ entries, store.buckets.AgreeAt (place entry) other.buckets) :
    (entries.forM fun entry => discard (other.buckets.requireObject (place entry))) =
      entries.forM fun entry => discard (store.buckets.requireObject (place entry)) :=
  forM_congr fun entry hentry => by rw [Buckets.requireObject_congr (h entry hentry).object?]

/-- Deleting buckets. -/
theorem deleteBuckets_alike {bucketNames : List String}
    (h : AgreeOn (bucketNames.map .bucket) store other) :
    Alike (deleteBuckets bucketNames)
      (fun store =>
        granted (bucketNames.forM fun name => discard (store.buckets.require name)) fun _ =>
          bucketNames.map fun name => .edit (.dropBucket name)) store other := by
  have hcheck : (bucketNames.forM fun name => discard (other.buckets.require name)) =
      bucketNames.forM fun name => discard (store.buckets.require name) :=
    forM_congr fun name hname =>
      Buckets.require_congr (h.buckets _ (List.mem_map_of_mem hname)).bucketInfo?
  constructor
  · rw [deleteBuckets, deleteBuckets, hcheck]
    split <;> rfl
  · rw [hcheck]

/-- Deleting objects. -/
theorem deleteObjects_alike {ids : List ResourceId} (h : AgreeOn ids store other) :
    Alike (deleteObjects ids)
      (fun store => granted (ids.forM fun id => discard (store.buckets.requireObject id)) fun _ =>
        ids.map fun id => .edit (.remove id)) store other := by
  have hcheck := forM_requireObject_congr h.buckets
  constructor
  · rw [deleteObjects, deleteObjects, hcheck]
    split <;> rfl
  · rw [hcheck]

/-- Patching items answers the same where the same objects lie at their ids. -/
theorem patchItems_answer {updates : List ItemUpdate} (now : Timestamp)
    (h : ∀ update ∈ updates, other.buckets.object? update.resourceId =
      store.buckets.object? update.resourceId) :
    (other.patchItems now updates).1 = (store.patchItems now updates).1 := by
  induction updates generalizing store other with
  | nil => rfl
  | cons update rest ih =>
    have hsame := h update (.head _)
    cases hobject : store.buckets.object? update.resourceId with
    | none =>
      rw [patchItems, patchItems, Buckets.requireObject, Buckets.requireObject, hsame, hobject]
    | some object =>
      have hfound := hsame.trans hobject
      have hrest : (patchItems now rest { other with
            buckets := other.buckets.put update.resourceId (object.patched update now) }).1 =
          (patchItems now rest { store with
            buckets := store.buckets.put update.resourceId (object.patched update now) }).1 := by
        refine ih fun later hlater => ?_
        rw [Buckets.object?_put_over hobject, Buckets.object?_put_over hfound,
          h later (.tail _ hlater)]
      rw [patchItems_cons hobject, patchItems_cons hfound]
      dsimp only
      rw [hrest]

/-- Updating items. -/
theorem updateItems_alike {updates : List ItemUpdate}
    (h : AgreeOn (updates.map (·.resourceId)) store other) :
    Alike (updateItems updates)
      (fun store =>
        granted (updates.forM fun update =>
          discard (store.buckets.requireObject update.resourceId)) fun _ =>
            store.stampedDeeds fun now => updates.map (.patch · now)) store other := by
  have hat : ∀ update ∈ updates, store.buckets.AgreeAt update.resourceId other.buckets :=
    fun update hupdate => h.buckets _ (List.mem_map_of_mem hupdate)
  have hcheck := forM_requireObject_congr hat
  constructor
  · rw [updateItems, updateItems, hcheck]
    split
    · rfl
    · exact stamp_congr h.clock fun now =>
        patchItems_answer now fun update hupdate => (hat update hupdate).object?
  · rw [hcheck, stampedDeeds_congr h.clock]

/-- Composing objects. -/
theorem composeObjects_alike {sources : List ResourceId} {target : ResourceId}
    (options : ComposeOptions) (h : AgreeOn (target :: sources) store other) :
    Alike (composeObjects sources target options)
      (fun store =>
        granted (sources.mapM store.buckets.requireObject) fun objects =>
          store.storeObjectDeeds target (objects.flatMap (·.content)) options.contentType
            options.metadata true) store other := by
  have hfound : sources.mapM other.buckets.requireObject =
      sources.mapM store.buckets.requireObject :=
    mapM_congr fun id hid => Buckets.requireObject_congr (h.buckets id (.tail _ hid)).object?
  have hplace : AgreeOn [target] store other := h.mono (by simp)
  have hstore := fun content =>
    storeObject_alike content options.contentType options.metadata true hplace
  constructor
  · rw [composeObjects, composeObjects, hfound]
    split
    · rfl
    · exact (hstore _).answer
  · rw [hfound]
    simp only [(hstore _).deeds]

/-- What is staged from a bucket depends only on the sources in it. -/
theorem stageCopies_congr {bucket found : StoredBucket} {sourceBucket targetBucket : String}
    {pairs : List (String × String)}
    (h : ∀ pair ∈ pairs, found.objects[pair.1]? = bucket.objects[pair.1]?) :
    stageCopies found sourceBucket targetBucket pairs =
      stageCopies bucket sourceBucket targetBucket pairs := by
  induction pairs with
  | nil => rfl
  | cons pair rest ih =>
    rw [stageCopies, stageCopies, h pair (.head _), ih fun later hlater => h later (.tail _ hlater)]

/-- What a copy stages depends only on its sources and on the buckets it names. -/
theorem staged_congr {sourceBucket targetBucket : String} {sources targets : List String}
    (h : AgreeOn (Operation.copy sourceBucket sources targetBucket targets).names store other) :
    other.staged sourceBucket sources targetBucket targets =
      store.staged sourceBucket sources targetBucket targets := by
  have hsource : other.buckets.bucketInfo? sourceBucket = store.buckets.bucketInfo? sourceBucket :=
    (h.buckets (.bucket sourceBucket) (.head _)).bucketInfo?
  have htarget : other.buckets.bucketInfo? targetBucket = store.buckets.bucketInfo? targetBucket :=
    (h.buckets (.bucket targetBucket) (.tail _ (.head _))).bucketInfo?
  rw [staged, staged, Buckets.require_congr htarget]
  rcases Buckets.getElem?_cases hsource with ⟨hbucket, hfound⟩ | ⟨bucket, found, hbucket, hfound⟩
  · have hmissing : other.buckets.require sourceBucket = store.buckets.require sourceBucket := by
      rw [Buckets.require, Buckets.require, hbucket, hfound]
    rw [hmissing]
  · have hobjects : ∀ pair ∈ sources.zip targets,
        found.objects[pair.1]? = bucket.objects[pair.1]? := by
      intro pair hpair
      have hobject := (h.buckets (.object sourceBucket pair.1)
        (Operation.source_mem_names (List.of_mem_zip hpair).1)).object?
      simpa [Buckets.object?, ResourceId.object, hbucket, hfound] using hobject
    rw [Buckets.require_eq_ok.2 hbucket, Buckets.require_eq_ok.2 hfound]
    simp only [bind, Except.bind, stageCopies_congr hobjects]

/-- Copying objects. -/
theorem copy_alike {sourceBucket targetBucket : String} {sources targets : List String}
    (h : AgreeOn (Operation.copy sourceBucket sources targetBucket targets).names store other) :
    Alike (copy sourceBucket sources targetBucket targets)
      (fun store =>
        granted (store.staged sourceBucket sources targetBucket targets) fun copies =>
          store.eachDeeds storeCopy storeCopyDeeds copies) store other := by
  have hstaged := staged_congr h
  have hbatch : ∀ copies, store.staged sourceBucket sources targetBucket targets = .ok copies →
      Alike (each storeCopy copies) (eachDeeds storeCopy storeCopyDeeds copies) store other := by
    intro copies hcopies
    refine each_alike (fun copy store => storeObject_records _ _ _ _ _ store) ?_ h
    intro copy hcopy store other hagree
    obtain ⟨name, hname, hplace⟩ := mem_staged hcopies hcopy
    have hagree : AgreeOn [copy.1] store other :=
      hagree.mono (by simpa [hplace] using Operation.target_mem_names hname)
    exact writeObject_alike _ _ hagree
  cases hcopies : store.staged sourceBucket sources targetBucket targets with
  | error cause =>
    constructor
    · rw [copy_eq, copy_eq, hstaged, hcopies]
    · rw [hstaged, hcopies]
      rfl
  | ok copies =>
    obtain ⟨hanswer, hdeeds⟩ := hbatch copies hcopies
    constructor
    · rw [copy_eq, copy_eq, hstaged, hcopies]
      exact hanswer
    · rw [hstaged, hcopies]
      exact hdeeds

/-- A change looks at nothing but the ids that it names, the clock and the lock. -/
theorem run_alike {operation : Operation α} (hread : operation.isRead = false)
    (hclose : operation.isClose = false) (havailable : other.available = store.available)
    (h : AgreeOn operation.names store other) :
    Alike (run operation) (deeds operation) store other := by
  cases operation
  case createBucket bucketName options =>
    exact .checked _ (.write havailable (createBucket_alike options h))
  case createEmptyObject id options =>
    exact .write havailable (createEmptyObject_alike options h)
  case createEmptyObjects ids options =>
    exact .write havailable (createEmptyObjects_alike options h)
  case writeObject id content options =>
    exact .write havailable (writeObject_alike content options h)
  case copy sourceBucket sources targetBucket targets =>
    exact .checked _ (.write havailable (copy_alike h))
  case deleteBuckets bucketNames => exact .write havailable (deleteBuckets_alike h)
  case deleteObjects ids => exact .write havailable (deleteObjects_alike h)
  case updateItems updates => exact .write havailable (updateItems_alike h)
  case composeObjects sources target options =>
    exact .checked _ (.write havailable (composeObjects_alike options h))
  case close => cases hclose
  all_goals cases hread

end Store

end ObjectStorage
