import ObjectStorage.Proofs.Cached.Steps

/-!
# What calls do to a cache that loses nothing

A cache that loses nothing is a map from ids to infos. `Operation.remembered` is the map that an
operation leaves once the delegate has carried it out, and `Operation.asked` is the call that
reaches the delegate when some ids are known. `Cached.run_effect` says that a call through the
cache, whatever the delegate is, does to the map exactly what these say, and nothing when the
delegate fails.
-/

namespace ObjectStorage

namespace Operation

variable {α : Type}

/-- The call that reaches the delegate when these ids are known: a lookup asks for what is not
known, if there is any, and all else is passed on as it is. -/
def asked (known : ResourceId → Bool) : Operation α → Option (Σ β : Type, Operation β)
  | .getItemInfo id => if known id then none else some ⟨_, .getItemInfo id⟩
  | .getItemInfos ids =>
    let unknown := ids.filter fun id => !known id
    if unknown = [] then none else some ⟨_, .getItemInfos unknown⟩
  | operation => some ⟨_, operation⟩

/-- What is remembered about an id once an operation was carried out with this answer, when `old`
was remembered before. Listings of infos, lookups and updates answer with infos, and the last one
about the id takes its place. -/
def remembered (operation : Operation α) (answer : α) (old : ResourceId → Option ItemInfo)
    (id : ResourceId) : Option ItemInfo :=
  match operation, answer with
  | .createBucket _ _, _ | .createEmptyObject _ _, _ | .createEmptyObjects _ _, _
  | .writeObject _ _ _, _ | .readObject _, _ | .listBucketNames, _ | .listObjectNames _ _, _
  | .waitForBucketEmpty _, _ => old id
  | .deleteObjects ids, _ => if id ∈ ids then none else old id
  | .copy _ _ targetBucket targets, _ =>
    if id ∈ targets.map (.object targetBucket ·) then none else old id
  | .deleteBuckets bucketNames, _ =>
    if id.isRoot = false ∧ id.bucketName ∈ bucketNames then none else old id
  | .close, _ => none
  | .listBucketInfo, infos | .listObjectInfo _ _, infos | .getItemInfos _, infos
  | .updateItems _, infos => (ItemInfo.lastKept infos id).or (old id)
  | .getItemInfo _, info | .composeObjects _ _ _, info =>
    (ItemInfo.lastKept [info] id).or (old id)

end Operation

/-- What belongs to one of some buckets is not the root and has its bucket among them. -/
theorem ResourceId.exists_belongsTo {id : ResourceId} {bucketNames : List String} :
    (∃ name ∈ bucketNames, id.belongsTo name = true) ↔
      id.isRoot = false ∧ id.bucketName ∈ bucketNames := by
  simp only [belongsTo, Bool.and_eq_true, Bool.not_eq_true', beq_iff_eq]
  constructor
  · rintro ⟨name, hname, hroot, rfl⟩
    exact ⟨hroot, hname⟩
  · rintro ⟨hroot, hname⟩
    exact ⟨_, hname, hroot, rfl⟩

namespace ItemCache

variable {cache : ItemCache} {id : ResourceId} {info : ItemInfo} {count : Nat}

/-- Says that a cache has room for so many more entries. -/
def HasRoomFor (cache : ItemCache) (count : Nat) : Prop :=
  ∀ size, size < cache.entries.size + count → cache.policy.hasRoom size = true

/-- Says that the entries of a cache do not expire and are not lost otherwise. -/
structure Lossless (cache : ItemCache) : Prop where
  losses : cache.losses = .none
  retains : cache.policy.retains = true

/-- Ageing leaves a lossless cache as it is. -/
theorem Lossless.elapse_eq (h : cache.Lossless) : cache.elapse = cache := by
  obtain ⟨policy, entries, losses, hits, misses⟩ := cache
  obtain ⟨rfl, hretains⟩ := h
  rfl

/-- A put into a lossless cache with room is an insertion into its map. -/
theorem Lossless.put_eq (h : cache.Lossless) (hroom : cache.HasRoomFor (count + 1)) :
    cache.put id info = { cache with entries := cache.entries.insert id info } := by
  have hspace : cache.policy.hasRoom cache.entries.size = true := hroom _ (by omega)
  unfold put
  rw [h.elapse_eq]
  exact if_pos (by simp [h.retains, hspace])

/-- After infos were reported to a lossless cache with room, it has the last one about each id that
is remembered, and its old entries about the others. -/
theorem Lossless.entries_populate (h : cache.Lossless) {infos : List ItemInfo}
    (hroom : cache.HasRoomFor infos.length) :
    (cache.populate infos).entries[id]? = (ItemInfo.lastKept infos id).or cache.entries[id]? := by
  induction infos generalizing cache with
  | nil => rfl
  | cons first rest ih =>
    show (populate rest (if first.isKept then cache.put first.resourceId first
      else cache)).entries[id]? = _
    rw [ItemInfo.lastKept_cons, Option.or_assoc]
    cases hkept : first.isKept with
    | false =>
      have hrest : cache.HasRoomFor rest.length := by
        intro size hsize
        exact hroom size (Nat.lt_succ_of_lt hsize)
      simpa using ih h hrest
    | true =>
      rw [if_pos rfl, h.put_eq hroom, ih]
      · rw [Std.ExtTreeMap.getElem?_insert]
        by_cases hid : first.resourceId = id <;> simp [hid]
      · exact ⟨h.losses, h.retains⟩
      · -- The insertion takes at most one of the places that are still free.
        intro size hsize
        have hgrow : (cache.entries.insert first.resourceId first).size ≤ cache.entries.size + 1 :=
          Std.ExtTreeMap.size_insert_le
        refine hroom size ?_
        rw [List.length_cons]
        dsimp only at hsize
        omega

/-- A lossless cache remembers of an operation that was carried out what there is to remember. -/
theorem Lossless.entries_settle {α : Type} (h : cache.Lossless) (operation : Operation α)
    {answer : α} (hroom : cache.HasRoomFor (operation.reported answer).length) (id : ResourceId) :
    (cache.settle operation answer).entries[id]? =
      operation.remembered answer (cache.entries[·]?) id := by
  cases operation
  case copy sourceBucket sources targetBucket targets =>
    exact getElem?_foldl_invalidate targets (.object targetBucket ·)
  case deleteBuckets bucketNames =>
    rw [settle, getElem?_foldl_invalidateBucket, Operation.remembered]
    simp only [ResourceId.exists_belongsTo]
  case deleteObjects ids =>
    rw [settle, getElem?_foldl_invalidate ids fun id => id, List.map_id']
    rfl
  case close => exact entries_invalidateAll
  case listBucketInfo | listObjectInfo | getItemInfo | getItemInfos | updateItems |
    composeObjects => exact h.entries_populate hroom
  all_goals rfl

/-- A probe of a lossless cache finds what its map has, and leaves the map as it is. -/
theorem Lossless.probe_eq (h : cache.Lossless) (id : ResourceId) :
    (cache.probe id).1 = cache.entries[id]? ∧ (cache.probe id).2.entries = cache.entries ∧
      (cache.probe id).2.policy = cache.policy ∧ (cache.probe id).2.Lossless := by
  unfold probe
  rw [h.elapse_eq]
  dsimp only
  split
  · next info hentry => exact ⟨hentry.symm, rfl, rfl, h.losses, h.retains⟩
  · next hentry => exact ⟨hentry.symm, rfl, rfl, h.losses, h.retains⟩

/-- Probes of a lossless cache find what its map has, and leave the map as it is. -/
theorem Lossless.probeAll_eq (h : cache.Lossless) (ids : List ResourceId) :
    (probeAll ids cache).1 = ids.map (cache.entries[·]?) ∧
      (probeAll ids cache).2.entries = cache.entries ∧
      (probeAll ids cache).2.policy = cache.policy ∧ (probeAll ids cache).2.Lossless := by
  induction ids generalizing cache with
  | nil => exact ⟨rfl, rfl, rfl, h⟩
  | cons first rest ih =>
    obtain ⟨hfound, hentries, hpolicy, hlossless⟩ := h.probe_eq first
    obtain ⟨hothers, hlast, hpolicyLast, hlosslessLast⟩ := ih hlossless
    refine ⟨?_, hlast.trans hentries, hpolicyLast.trans hpolicy, hlosslessLast⟩
    rw [probeAll, List.map_cons, hfound, hothers, hentries]

end ItemCache

/-- The ids for which a map has nothing are those that it does not contain. -/
theorem missing_zip (entries : Std.ExtTreeMap ResourceId ItemInfo) (ids : List ResourceId) :
    missing (ids.zip (ids.map (entries[·]?))) = ids.filter fun id => !entries.contains id := by
  induction ids with
  | nil => rfl
  | cons first rest ih =>
    rw [List.map_cons, List.zip_cons_cons, List.filter_cons, ← ih]
    cases hentry : entries[first]? with
    | none => simp [missing, hentry, Std.ExtTreeMap.contains_eq_isSome_getElem?]
    | some info => simp [missing, hentry, Std.ExtTreeMap.contains_eq_isSome_getElem?]

namespace Cached

variable {σ α : Type}

/-- What a call through a cache leaves of the map of the cache and of the delegate, and whether it
succeeds. A call that the map answers changes nothing. One that the delegate fails is answered with
its failure and changes nothing in the map. One that it carries out leaves what is to be remembered
of its answer, as long as there is room for it. -/
structure Effect (delegate : Backend σ) (operation : Operation α) (before : Cached σ)
    (result : Outcome α × Cached σ) : Prop where
  unasked : operation.asked before.cache.entries.contains = none →
    (∃ reply, result.1 = .ok reply) ∧ result.2.cache.entries = before.cache.entries ∧
      result.2.delegate = before.delegate
  failed : ∀ {β : Type} {call : Operation β} {failure : Failure} {after : σ},
    operation.asked before.cache.entries.contains = some ⟨β, call⟩ →
      delegate.run call before.delegate = (.error failure, after) →
        result.1 = .error failure ∧ result.2.cache.entries = before.cache.entries ∧
          result.2.delegate = after
  carriedOut : ∀ {β : Type} {call : Operation β} {answer : β} {after : σ},
    operation.asked before.cache.entries.contains = some ⟨β, call⟩ →
      delegate.run call before.delegate = (.ok answer, after) →
        (∃ reply, result.1 = .ok reply) ∧ result.2.delegate = after ∧
          (before.cache.HasRoomFor (call.reported answer).length →
            ∀ id, result.2.cache.entries[id]? =
              call.remembered answer (before.cache.entries[·]?) id)

variable {delegate : Backend σ} {operation : Operation α} {state : Cached σ} {cache : ItemCache}

/-- A call that changes nothing and succeeds has the effect of one that the map answers. -/
theorem Effect.of_unasked {result : Outcome α × Cached σ}
    (hasked : operation.asked state.cache.entries.contains = none)
    (hreply : ∃ reply, result.1 = .ok reply)
    (hentries : result.2.cache.entries = state.cache.entries)
    (hdelegate : result.2.delegate = state.delegate) :
    Effect delegate operation state result where
  unasked _ := ⟨hreply, hentries, hdelegate⟩
  failed h := by
    rw [hasked] at h
    cases h
  carriedOut h := by
    rw [hasked] at h
    cases h

/-- Passing one call on from a cache with the same map has the effect of that call, whatever is made
of a good answer. -/
theorem Effect.of_forward (delegate : Backend σ) {β : Type} {call : Operation β} (f : β → α)
    (hasked : operation.asked state.cache.entries.contains = some ⟨β, call⟩)
    (hlossless : cache.Lossless) (hentries : cache.entries = state.cache.entries)
    (hpolicy : cache.policy = state.cache.policy) :
    Effect delegate operation state
      ((forward delegate call ⟨cache, state.delegate⟩).1.map f,
        (forward delegate call ⟨cache, state.delegate⟩).2) where
  unasked h := by
    rw [hasked] at h
    cases h
  failed {_ other failure after} h hrun := by
    rw [hasked] at h
    cases h
    rw [forward_error hrun]
    exact ⟨rfl, hentries, rfl⟩
  carriedOut {_ other answer after} h hrun := by
    rw [hasked] at h
    cases h
    rw [forward_ok hrun]
    refine ⟨⟨f answer, rfl⟩, rfl, ?_⟩
    intro hroom id
    rw [← hentries]
    refine hlossless.entries_settle _ ?_ id
    intro size hsize
    rw [hpolicy]
    exact hroom size (hentries ▸ hsize)

/-- A call that is passed on as it is has its effect. -/
theorem Effect.forward (hasked : operation.asked state.cache.entries.contains = some ⟨α, operation⟩)
    (hlossless : cache.Lossless) (hentries : cache.entries = state.cache.entries)
    (hpolicy : cache.policy = state.cache.policy) :
    Effect delegate operation state
      (Cached.forward delegate operation ⟨cache, state.delegate⟩) := by
  have h := of_forward delegate id hasked hlossless hentries hpolicy
  generalize Cached.forward delegate operation ⟨cache, state.delegate⟩ = result at h ⊢
  obtain ⟨outcome, after⟩ := result
  cases outcome <;> exact h

/-- A lookup of one id has its effect. -/
theorem getItemInfo_effect (hlossless : state.cache.Lossless) (id : ResourceId) :
    Effect delegate (.getItemInfo id) state (state.getItemInfo delegate id) := by
  obtain ⟨hfound, hentries, hpolicy, hlast⟩ := hlossless.probe_eq id
  have hknown : state.cache.entries.contains id = (state.cache.probe id).1.isSome := by
    rw [Std.ExtTreeMap.contains_eq_isSome_getElem?, hfound]
  unfold getItemInfo
  split
  · next info cache hprobe =>
    rw [hprobe] at hknown hentries
    exact .of_unasked (if_pos hknown) ⟨info, rfl⟩ hentries rfl
  · next cache hprobe =>
    rw [hprobe] at hknown hentries hpolicy hlast
    have hasked : (Operation.getItemInfo id).asked state.cache.entries.contains =
        some ⟨_, .getItemInfo id⟩ := if_neg (by simp [hknown])
    exact .forward hasked hlast hentries hpolicy

/-- A lookup of several ids has its effect. -/
theorem getItemInfos_effect (hlossless : state.cache.Lossless) (ids : List ResourceId) :
    Effect delegate (.getItemInfos ids) state (state.getItemInfos delegate ids) := by
  obtain ⟨hfound, hentries, hpolicy, hlast⟩ := hlossless.probeAll_eq ids
  have hmissing := missing_zip state.cache.entries ids
  rw [← hfound] at hmissing
  rw [getItemInfos_eq]
  dsimp only
  split
  · next hnone =>
    refine .of_unasked (if_pos ?_) ⟨_, rfl⟩ hentries rfl
    rw [← hmissing, hnone]
  · next hsome =>
    refine .of_forward delegate _ ?_ hlast hentries hpolicy
    rw [hmissing] at hsome ⊢
    exact if_neg hsome

/-- A call through a cache that loses nothing has its effect, whatever the delegate is. -/
theorem run_effect (hlossless : state.cache.Lossless) (delegate : Backend σ)
    (operation : Operation α) :
    Effect delegate operation state (state.run delegate operation) := by
  cases operation
  case getItemInfo id => exact getItemInfo_effect hlossless id
  case getItemInfos ids => exact getItemInfos_effect hlossless ids
  all_goals exact .forward rfl hlossless rfl rfl

/-- Two updates of one object, through a cache with room for two entries, leave the info that the
second one reports, and nothing about the bucket. -/
theorem nested_update_effect :
    let id := ResourceId.object "media" "a/x"
    let updates : List ItemUpdate :=
      [⟨id, (∅ : MetadataPatch).insert "color" (some [1])⟩,
        ⟨id, (∅ : MetadataPatch).insert "color" (some [2])⟩]
    let state : Cached Store := ⟨{ policy := .bounded (.ofYears 1) 2 }, Store.nested⟩
    let after := (state.run Store.backend (.updateItems updates)).2
    state.cache.Lossless ∧ state.cache.HasRoomFor 2 ∧
      after.cache.entries[id]? = some { Store.nested.buckets.lookup id with
        metadata := (∅ : Metadata).insert "color" [2]
        metaGeneration := 3 } ∧
      after.cache.entries[ResourceId.bucket "media"]? = none := by
  intro id updates state after
  have hlossless : state.cache.Lossless := ⟨rfl, by decide⟩
  have hroom : state.cache.HasRoomFor 2 := by
    intro size hsize
    exact decide_eq_true hsize
  -- The infos after either update, as the store reports them.
  let once := { Store.nested.buckets.lookup id with
    metadata := (∅ : Metadata).insert "color" [1]
    metaGeneration := 2 }
  let twice := { Store.nested.buckets.lookup id with
    metadata := (∅ : Metadata).insert "color" [2]
    metaGeneration := 3 }
  have hanswer : (Store.nested.run (.updateItems updates)).1 = .ok [once, twice] := by
    decide +kernel
  have heffect := run_effect hlossless Store.backend (.updateItems updates)
  obtain ⟨-, -, hremembered⟩ := heffect.carriedOut rfl (Prod.ext hanswer rfl)
  refine ⟨hlossless, hroom, (hremembered hroom id).trans ?_,
    (hremembered hroom (.bucket "media")).trans ?_⟩
  · decide +kernel
  · decide +kernel

end Cached

end ObjectStorage
