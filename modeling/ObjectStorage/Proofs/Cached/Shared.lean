import ObjectStorage.Proofs.Cached.Steps

/-!
# Two caches over one store

A `Shared` store has two caches in front of it and is used directly as well. An
`Event` is a call on one of these three ways or a request to a cache to forget
everything, and the `Moment` at which it happens says what the store reported
then, what the first cache answered about which ids, and for which ids it made
older reports obsolete. `Shared.step_explained` relates the entries of the first
cache before and after an event to what is said of its moment.
-/

namespace ObjectStorage

/-- A store and the infos that it has reported. -/
structure Reporter where
  store : Store
  reported : List ItemInfo := []

namespace Reporter

/-- The infos that the outcome of an operation reports. -/
def infos {α : Type} (operation : Operation α) : Outcome α → List ItemInfo
  | .ok answer => operation.reported answer
  | .error _ => []

/-- Carries out one operation and keeps what it reports. -/
def run {α : Type} (operation : Operation α) (reporter : Reporter) : Outcome α × Reporter :=
  let result := reporter.store.run operation
  (result.1, ⟨result.2, reporter.reported ++ infos operation result.1⟩)

/-- A store that keeps what it reports. -/
def backend : Backend Reporter := ⟨run⟩

end Reporter

/-- The ids that a lookup was about, with what it answered, in order. -/
def Operation.answered {α : Type} : Operation α → Outcome α → List (ResourceId × ItemInfo)
  | .getItemInfo id, .ok info => [(id, info)]
  | .getItemInfos ids, .ok infos => ids.zip infos
  | _, _ => []

/-- Two caches in front of one store. -/
structure Shared where
  own : ItemCache
  peer : ItemCache
  store : Store

/-- What can happen to a store with two caches in front of it. -/
inductive Event : Type 1 where
  | own {α : Type} (operation : Operation α)
  | peer {α : Type} (operation : Operation α)
  | direct {α : Type} (operation : Operation α)
  | invalidateOwn
  | invalidatePeer

/-- What the store reported at a moment, which ids the first cache was asked for and with what
answers, and for which ids it let older reports be forgotten or replaced. -/
structure Moment where
  reported : List ItemInfo := []
  answered : List (ResourceId × ItemInfo) := []
  Refreshes : ResourceId → Prop := fun _ => False

namespace Shared

/-- What happens at an event, and what it leaves. -/
def step (event : Event) (shared : Shared) : Moment × Shared :=
  match event with
  | .own operation =>
    let result := Cached.run Reporter.backend operation ⟨shared.own, { store := shared.store }⟩
    ({ reported := result.2.delegate.reported
       answered := operation.answered result.1
       Refreshes := fun id =>
         (∃ answer, result.1 = .ok answer) ∧ (operation.Drops id ∨ operation.Renews id) },
      { shared with own := result.2.cache, store := result.2.delegate.store })
  | .peer operation =>
    let result := Cached.run Reporter.backend operation ⟨shared.peer, { store := shared.store }⟩
    ({ reported := result.2.delegate.reported },
      { shared with peer := result.2.cache, store := result.2.delegate.store })
  | .direct operation =>
    let result := Reporter.run operation { store := shared.store }
    ({ reported := result.2.reported }, { shared with store := result.2.store })
  | .invalidateOwn =>
    ({ Refreshes := fun _ => True }, { shared with own := shared.own.invalidateAll })
  | .invalidatePeer => ({}, { shared with peer := shared.peer.invalidateAll })

/-- What happens at the events of a run, one after another. -/
def course : List Event → Shared → List Moment
  | [], _ => []
  | event :: rest, shared => (shared.step event).1 :: course rest (shared.step event).2

/-- What a run leaves. -/
def after (events : List Event) (shared : Shared) : Shared :=
  events.foldl (fun shared event => (shared.step event).2) shared

/-- The moments of a run with one more event. -/
theorem course_append_singleton {events : List Event} {event : Event} {shared : Shared} :
    course (events ++ [event]) shared =
      course events shared ++ [((after events shared).step event).1] := by
  induction events generalizing shared with
  | nil => rfl
  | cons first rest ih => exact congrArg ((shared.step first).1 :: ·) ih

/-- What a run with one more event leaves. -/
theorem after_append_singleton {events : List Event} {event : Event} {shared : Shared} :
    after (events ++ [event]) shared = ((after events shared).step event).2 := by
  simp [after]

end Shared

namespace Reporter

variable {α : Type} {operation : Operation α} {store : Store} {after : Reporter} {answer : α}

/-- An answer of a store that has reported nothing yet is all that it has reported. -/
theorem run_eq_ok (h : run operation { store } = (.ok answer, after)) :
    store.run operation = (.ok answer, after.store) ∧
      after.reported = operation.reported answer := by
  obtain ⟨houtcome, rfl⟩ := Prod.mk.inj h
  refine ⟨Prod.ext houtcome rfl, ?_⟩
  simp [houtcome, infos]

/-- What is remembered of an answer is the last that the store has reported about the id. -/
theorem lastAbout_reported (hwf : store.buckets.WellFormed)
    (h : run operation { store } = (.ok answer, after)) {id : ResourceId} {info : ItemInfo}
    (hlast : ItemInfo.lastKept (operation.reported answer) id = some info) :
    ItemInfo.lastAbout after.reported id = some info := by
  obtain ⟨hrun, hreported⟩ := run_eq_ok h
  rw [hreported]
  exact (Store.run_kept hwf hrun hlast).1

/-- After a call that was passed on, what was not remembered before is what was just reported. -/
theorem lastAbout_settled (hwf : store.buckets.WellFormed)
    (h : run operation { store } = (.ok answer, after)) {cache : ItemCache} {id : ResourceId}
    {info : ItemInfo} (hnone : cache.entries[id]? = none)
    (hentry : (cache.settle operation answer).entries[id]? = some info) :
    ItemInfo.lastAbout after.reported id = some info := by
  rcases ItemCache.entries_settle hentry with hlast | ⟨-, -, hold⟩
  · exact lastAbout_reported hwf h hlast
  · rw [hnone] at hold
    cases hold

/-- A lookup of one id reports what is looked up. -/
theorem reported_lookup {id : ResourceId} {info : ItemInfo}
    (h : run (.getItemInfo id) { store } = (.ok info, after)) :
    info = store.buckets.lookup id ∧ after.reported = [id].map store.buckets.lookup := by
  obtain ⟨hrun, hreported⟩ := run_eq_ok h
  rw [Store.run, Store.read_eq_ok] at hrun
  obtain rfl := Except.ok.inj hrun.2.1
  exact ⟨rfl, hreported⟩

/-- A lookup of several ids reports what is looked up. -/
theorem reported_lookups {ids : List ResourceId} {infos : List ItemInfo}
    (h : run (.getItemInfos ids) { store } = (.ok infos, after)) :
    infos = ids.map store.buckets.lookup ∧ after.reported = ids.map store.buckets.lookup := by
  obtain ⟨hrun, hreported⟩ := run_eq_ok h
  rw [Store.run, Store.read_eq_ok] at hrun
  obtain rfl := Except.ok.inj hrun.2.1
  exact ⟨rfl, hreported⟩

/-- What looking ids up reports about each of them. -/
theorem lastAbout_lookups (hwf : store.buckets.WellFormed) {ids : List ResourceId}
    {id : ResourceId} (hid : id ∈ ids) :
    ItemInfo.lastAbout (ids.map store.buckets.lookup) id = some (store.buckets.lookup id) := by
  cases hlast : ItemInfo.lastAbout (ids.map store.buckets.lookup) id with
  | none =>
    have hother := ItemInfo.lastAbout_eq_none.1 hlast _ (List.mem_map_of_mem hid)
    exact (hother hwf.lookup_resourceId).elim
  | some info =>
    obtain ⟨hmem, rfl⟩ := ItemInfo.lastAbout_eq_some hlast
    obtain ⟨other, -, rfl⟩ := List.mem_map.1 hmem
    rw [hwf.lookup_resourceId]

end Reporter

/-- What relates the entries of the first cache before and after a moment: the ids that it was asked
for, with what it found of them in the cache, and what the others were answered. -/
structure Moment.Explains (moment : Moment) (before after : ItemCache)
    (places : List (ResourceId × Option ItemInfo)) (lookup : ResourceId → ItemInfo) : Prop where
  found : before.Found (places.map (·.1)) places
  answered : moment.answered =
    places.map fun place => (place.1, place.2.getD (lookup place.1))
  asked : ∀ {id}, (id, none) ∈ places →
    ItemInfo.lastAbout moment.reported id = some (lookup id)
  entries : ∀ {id info}, after.entries[id]? = some info →
    ItemInfo.lastAbout moment.reported id = some info ∨
      before.entries[id]? = some info ∧ ¬ moment.Refreshes id ∧ (id, none) ∉ places

namespace Shared

variable {α : Type} {operation : Operation α} {shared : Shared} {id : ResourceId}
  {info : ItemInfo}

/-- An entry after a call is what the store has just reported, or an older one that the call does
not let be forgotten or replaced. -/
theorem own_entries (hwf : shared.store.buckets.WellFormed)
    (hentry : (shared.step (.own operation)).2.own.entries[id]? = some info) :
    ItemInfo.lastAbout (shared.step (.own operation)).1.reported id = some info ∨
      shared.own.entries[id]? = some info ∧
        ¬ (shared.step (.own operation)).1.Refreshes id := by
  have hpasses := Cached.run_passes Reporter.backend operation
    ⟨shared.own, { store := shared.store }⟩
  rcases hpasses.entries hentry with
      ⟨β, asked, answer, -, hrun, hlast⟩ | ⟨hold, hkeep⟩
  · exact .inl (Reporter.lastAbout_reported hwf hrun hlast)
  · refine .inr ⟨hold, ?_⟩
    rintro ⟨⟨answer, hanswer⟩, hrefresh⟩
    cases hlookup : operation.isLookup with
    | true =>
      obtain ⟨hdrop, hrenew⟩ := Cached.lookup_quiet hlookup
      exact hrefresh.elim hdrop hrenew
    | false =>
      rw [Cached.run_eq_forward hlookup, Cached.forward_fst] at hanswer
      have hrun : Reporter.run operation { store := shared.store } =
          (.ok answer, (Reporter.run operation { store := shared.store }).2) :=
        Prod.ext hanswer rfl
      -- The call was passed on as it is, so it did not drop the entry and said nothing about it.
      obtain ⟨hdrop, hnone⟩ := (hkeep.resolve_left (by simp [hlookup])) answer _ hrun
      refine hrefresh.elim hdrop ?_
      intro hrenew
      obtain ⟨other, hother⟩ := Store.run_renews hwf (Reporter.run_eq_ok hrun).1 hrenew
      rw [hnone] at hother
      cases hother

/-- A call is explained by what it found and asked, if what it did not find is not there afterwards
unless it was just reported. -/
theorem own_explained (hwf : shared.store.buckets.WellFormed)
    {places : List (ResourceId × Option ItemInfo)} {lookup : ResourceId → ItemInfo}
    (hfound : shared.own.Found (places.map (·.1)) places)
    (hanswered : (shared.step (.own operation)).1.answered =
      places.map fun place => (place.1, place.2.getD (lookup place.1)))
    (hasked : ∀ {id}, (id, none) ∈ places →
      ItemInfo.lastAbout (shared.step (.own operation)).1.reported id = some (lookup id))
    (hmissed : ∀ {id info}, (id, none) ∈ places →
      (shared.step (.own operation)).2.own.entries[id]? = some info →
      ItemInfo.lastAbout (shared.step (.own operation)).1.reported id = some info) :
    (shared.step (.own operation)).1.Explains shared.own (shared.step (.own operation)).2.own
      places lookup where
  found := hfound
  answered := hanswered
  asked := hasked
  entries {id info} hentry := by
    by_cases hmem : (id, none) ∈ places
    · exact .inl (hmissed hmem hentry)
    · exact (own_entries hwf hentry).imp_right fun ⟨hold, hkeep⟩ => ⟨hold, hkeep, hmem⟩

/-- A call that answers no lookup is explained by what it leaves. -/
theorem own_explained_nil (hwf : shared.store.buckets.WellFormed)
    (hanswered : (shared.step (.own operation)).1.answered = []) :
    (shared.step (.own operation)).1.Explains shared.own (shared.step (.own operation)).2.own
      [] .notFound := by
  refine own_explained hwf ⟨rfl, ?_, .nil⟩ hanswered ?_ ?_ <;> simp

/-- A lookup of one id is explained. -/
theorem getItemInfo_explained (hwf : shared.store.buckets.WellFormed) :
    ∃ places lookup, (shared.step (.own (.getItemInfo id))).1.Explains shared.own
      (shared.step (.own (.getItemInfo id))).2.own places lookup := by
  obtain ⟨cache, hwithin, ⟨info, hentry, hrun⟩ | ⟨hnone, hrun⟩⟩ := Cached.getItemInfo_cases
    Reporter.backend id ⟨shared.own, { store := shared.store }⟩
  · refine ⟨[(id, some info)], .notFound, own_explained hwf ⟨rfl, ?_, by simp⟩ ?_ ?_ ?_⟩
    · intro other found hmem
      obtain ⟨rfl, rfl⟩ : other = id ∧ found = info := by simpa using hmem
      exact hentry
    · simp [step, Cached.run, hrun, Operation.answered]
    · simp
    · simp
  · -- The id is missing, and a good answer is what the store has just reported about it.
    rcases hstore : Reporter.run (.getItemInfo id) { store := shared.store } with
      ⟨failure | info, last⟩
    · rw [Cached.forward_error hstore] at hrun
      exact ⟨[], .notFound, own_explained_nil hwf (by
        simp [step, Cached.run, hrun, Operation.answered])⟩
    · rw [Cached.forward_ok hstore] at hrun
      have hreported := Reporter.reported_lookup hstore
      refine ⟨[(id, none)], shared.store.buckets.lookup, own_explained hwf ⟨rfl, ?_, by simp⟩ ?_
        ?_ ?_⟩
      · simp
      · simp [step, Cached.run, hrun, Operation.answered, hreported.1]
      · intro other hmem
        simp only [step, Cached.run, hrun, hreported.2]
        exact Reporter.lastAbout_lookups hwf (by simpa using hmem)
      · intro other found hmem hentry
        obtain rfl : other = id := by simpa using hmem
        simp only [step, Cached.run, hrun] at hentry ⊢
        exact Reporter.lastAbout_settled hwf hstore hnone hentry

/-- A lookup of several ids is explained. -/
theorem getItemInfos_explained (hwf : shared.store.buckets.WellFormed) {ids : List ResourceId} :
    ∃ places lookup, (shared.step (.own (.getItemInfos ids))).1.Explains shared.own
      (shared.step (.own (.getItemInfos ids))).2.own places lookup := by
  obtain ⟨cache, places, hwithin, hfound, hgone, ⟨hnone, hrun⟩ | ⟨hsome, hrun⟩⟩ :=
    Cached.getItemInfos_cases Reporter.backend ids ⟨shared.own, { store := shared.store }⟩
  · -- All ids are found, and nothing is asked.
    have hmiss : ∀ {id}, (id, none) ∉ places := by
      intro id hmem
      have hmissing := mem_missing.2 hmem
      rw [hnone] at hmissing
      cases hmissing
    refine ⟨places, .notFound, own_explained hwf (hfound.ids_eq ▸ hfound) ?_
      (fun hmem => (hmiss hmem).elim) (fun hmem => (hmiss hmem).elim)⟩
    simp only [step, Cached.run, hrun, Operation.answered, hits_map ItemInfo.notFound hnone]
    rw [← hfound.ids_eq, List.zip_map']
  · -- The missing ids are asked for in one call, in their order.
    rcases hstore : Reporter.run (.getItemInfos (missing places)) { store := shared.store } with
      ⟨failure | infos, last⟩
    · rw [Cached.forward_error hstore] at hrun
      exact ⟨[], .notFound, own_explained_nil hwf (by
        simp [step, Cached.run, hrun, Operation.answered, Except.map])⟩
    · rw [Cached.forward_ok hstore] at hrun
      have hreported := Reporter.reported_lookups hstore
      refine ⟨places, shared.store.buckets.lookup, own_explained hwf (hfound.ids_eq ▸ hfound) ?_
        ?_ ?_⟩
      · simp only [step, Cached.run, hrun, Operation.answered, Except.map, hreported.1,
          alignInfos_map, fillMisses_map]
        rw [← hfound.ids_eq, List.zip_map']
      · intro id hmem
        simp only [step, Cached.run, hrun, hreported.2]
        exact Reporter.lastAbout_lookups hwf (mem_missing.2 hmem)
      · intro id info hmem hentry
        simp only [step, Cached.run, hrun] at hentry ⊢
        exact Reporter.lastAbout_settled hwf hstore (hgone hmem) hentry

/-- Every event is explained by what it leaves of the first cache. -/
theorem step_explained (hwf : shared.store.buckets.WellFormed) (event : Event) :
    ∃ places lookup, (shared.step event).1.Explains shared.own (shared.step event).2.own places
      lookup := by
  cases event with
  | own operation =>
    cases operation
    case getItemInfo id => exact getItemInfo_explained hwf
    case getItemInfos ids => exact getItemInfos_explained hwf
    all_goals exact ⟨[], .notFound, own_explained_nil hwf rfl⟩
  | invalidateOwn =>
    refine ⟨[], .notFound, ⟨rfl, by simp, .nil⟩, rfl, by simp, ?_⟩
    intro id info hentry
    rw [step, ItemCache.entries_invalidateAll] at hentry
    cases hentry
  | peer | direct | invalidatePeer =>
    exact ⟨[], .notFound, ⟨rfl, by simp, .nil⟩, rfl, by simp,
      fun hentry => .inr ⟨hentry, not_false, by simp⟩⟩

/-- A call through a cache leaves a store that calls lead to. -/
theorem reachable_run {clock : Clock} {cache : ItemCache} {store : Store}
    (h : Store.Reachable clock store) :
    Store.Reachable clock
      (Cached.run Reporter.backend operation ⟨cache, { store }⟩).2.delegate.store := by
  have hpasses := Cached.run_passes Reporter.backend operation ⟨cache, { store }⟩
  generalize (Cached.run Reporter.backend operation ⟨cache, { store }⟩).2 = last at hpasses
  cases hpasses with
  | hit => exact h
  | @ask _ asked =>
    rw [Cached.forward_delegate]
    exact h.run asked

/-- An event leaves a store that calls lead to. -/
theorem reachable_step {clock : Clock} (h : Store.Reachable clock shared.store) (event : Event) :
    Store.Reachable clock (shared.step event).2.store := by
  cases event with
  | own | peer => exact reachable_run h
  | direct operation => exact h.run operation
  | invalidateOwn | invalidatePeer => exact h

end Shared

end ObjectStorage
