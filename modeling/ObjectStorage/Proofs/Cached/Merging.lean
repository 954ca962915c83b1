import ObjectStorage.Proofs.Cached.Effect
import ObjectStorage.Recorder

/-!
# What a lookup of several ids is answered

A lookup of several ids probes the cache for all of them first and asks the
delegate for those that are missing in one call. `Cached.getItemInfos_merges` says
what is asked and how the answer is put together, whatever the delegate returns
and whatever is lost on the way: what was found stays in its place
(`Merged.hit`), and the other places get what was fetched, in order if it is as
much as was asked for (`Merged.inOrder`) and by id otherwise (`Merged.byId`).
-/

namespace ObjectStorage

/-- What is remembered under an id when some accesses have been made: the entry, unless it is lost
before one of them. -/
def ItemCache.entryAfter (accesses : Nat) (cache : ItemCache) (id : ResourceId) : Option ItemInfo :=
  if ∃ n < accesses, id ∈ cache.losses n then none else cache.entries[id]?

/-- What is found at each place of a list of ids when they are looked up in order. -/
def ItemCache.findings (cache : ItemCache) (ids : List ResourceId) : List (Option ItemInfo) :=
  ids.mapIdx fun place id => cache.entryAfter (place + 1) id

/-- The ids that are not found when some are looked up in order. -/
def ItemCache.absent (cache : ItemCache) (ids : List ResourceId) : List ResourceId :=
  missing (ids.zip (cache.findings ids))

/-- How an answer is put together from what was found for some ids and what was fetched for the
missing ones. -/
structure Merged (ids : List ResourceId) (found : List (Option ItemInfo))
    (fetched answer : List ItemInfo) : Prop where
  length_eq : answer.length = ids.length
  hit {place : Nat} {info : ItemInfo} (h : found[place]? = some (some info)) :
    answer[place]? = some info
  inOrder {place : Nat} (hlength : fetched.length = (missing (ids.zip found)).length)
    (h : found[place]? = some none) : answer[place]? = fetched[(found.take place).count none]?
  byId {place : Nat} {id : ResourceId} (hlength : fetched.length ≠ (missing (ids.zip found)).length)
    (h : found[place]? = some none) (hid : ids[place]? = some id) :
    answer[place]? = some ((ItemInfo.lastAbout fetched id).getD (.notFound id))

namespace ItemCache

variable {cache : ItemCache}

/-- A probe finds what is remembered at the next access. -/
theorem probe_fst (id : ResourceId) (cache : ItemCache) :
    (cache.probe id).1 = cache.entryAfter 1 id := by
  have hlost : (∃ n < 1, id ∈ cache.losses n) ↔ id ∈ cache.losses 0 := by simp
  have helapse : cache.elapse.entries[id]? = cache.entryAfter 1 id := by
    rw [elapse, entryAfter, getElem?_foldl_erase]
    simp only [hlost]
  unfold probe
  dsimp only
  rw [helapse]
  cases cache.entryAfter 1 id <;> rfl

/-- What is remembered after a probe is remembered one access later. -/
theorem entryAfter_probe (accesses : Nat) (probed id : ResourceId) :
    (cache.probe probed).2.entryAfter accesses id = cache.entryAfter (accesses + 1) id := by
  have hstate : (cache.probe probed).2.entries = cache.elapse.entries ∧
      (cache.probe probed).2.losses = fun n => cache.losses (n + 1) := by
    unfold probe
    dsimp only
    cases cache.elapse.entries[probed]? <;> exact ⟨rfl, rfl⟩
  rw [entryAfter, hstate.1, hstate.2, elapse, getElem?_foldl_erase, entryAfter]
  simp only [Nat.exists_lt_succ_left]
  by_cases hnow : id ∈ cache.losses 0
  · simp [hnow]
  · simp [hnow]

/-- Probes find what is remembered at each of them. -/
theorem probeAll_fst (ids : List ResourceId) (cache : ItemCache) :
    (cache.probeAll ids).1 = cache.findings ids := by
  induction ids generalizing cache with
  | nil => rfl
  | cons first rest ih =>
    rw [probeAll, findings, List.mapIdx_cons]
    dsimp only
    rw [ih, probe_fst, findings]
    simp only [entryAfter_probe]

/-- There is one finding for each id. -/
theorem length_findings (ids : List ResourceId) : (cache.findings ids).length = ids.length :=
  List.length_mapIdx

/-- When no access loses one of the ids, what is found are the entries. -/
theorem findings_eq_map {ids : List ResourceId}
    (h : ∀ n < ids.length, ∀ id ∈ ids, id ∉ cache.losses n) :
    cache.findings ids = ids.map (cache.entries[·]?) := by
  apply List.ext_getElem?
  intro place
  rw [findings, List.getElem?_mapIdx, List.getElem?_map]
  cases hid : ids[place]? with
  | none => rfl
  | some id =>
    obtain ⟨hplace, rfl⟩ := List.getElem?_eq_some_iff.1 hid
    rw [Option.map_some, Option.map_some, entryAfter, if_neg]
    rintro ⟨n, hn, hlost⟩
    exact h n (by omega) _ (List.getElem_mem hplace) hlost

end ItemCache

/-! ## Filling the missing places -/

variable {places : List (ResourceId × Option ItemInfo)} {infos : List ItemInfo} {place : Nat}

/-- Every place is filled. -/
theorem length_fillMisses (places : List (ResourceId × Option ItemInfo)) (infos : List ItemInfo) :
    (fillMisses places infos).length = places.length := by
  fun_induction fillMisses places infos with
  | case1 => rfl
  | case2 _ hit rest infos ih => rw [List.length_cons, ih, List.length_cons]
  | case3 _ rest info infos ih => rw [List.length_cons, ih, List.length_cons]
  | case4 id rest ih => rw [List.length_cons, ih, List.length_cons]

/-- What was found stays in its place. -/
theorem getElem?_fillMisses_hit {id : ResourceId} {info : ItemInfo}
    (h : places[place]? = some (id, some info)) :
    (fillMisses places infos)[place]? = some info := by
  induction places, infos using fillMisses.induct generalizing place with
  | case1 => cases h
  | case2 first hit rest infos ih =>
    cases place with
    | zero =>
      cases h
      rfl
    | succ place => exact ih h
  | case3 first rest other infos ih =>
    cases place with
    | zero => cases h
    | succ place => exact ih h
  | case4 first rest ih =>
    cases place with
    | zero => cases h
    | succ place => exact ih h

/-- The missing places get infos in order. -/
theorem getElem?_fillMisses_miss {id : ResourceId}
    (hlength : infos.length = (missing places).length)
    (h : places[place]? = some (id, none)) :
    (fillMisses places infos)[place]? = infos[((places.map (·.2)).take place).count none]? := by
  induction places, infos using fillMisses.induct generalizing place with
  | case1 => cases h
  | case2 first hit rest infos ih =>
    cases place with
    | zero => cases h
    | succ place =>
      have hrest := ih (by simpa [missing] using hlength) h
      simpa [fillMisses] using hrest
  | case3 first rest other infos ih =>
    cases place with
    | zero => rfl
    | succ place =>
      have hrest := ih (by simpa [missing] using hlength) h
      simpa [fillMisses] using hrest
  | case4 first rest ih => simp [missing] at hlength

/-- Places that are filled with infos lined up with the missing ids hold what is put together. -/
theorem merged_fillMisses {ids : List ResourceId} {found : List (Option ItemInfo)}
    (hfound : found.length = ids.length) (fetched : List ItemInfo) :
    Merged ids found fetched
      (fillMisses (ids.zip found) (alignInfos (missing (ids.zip found)) fetched)) := by
  have hplace {place : Nat} {slot : Option ItemInfo} (h : found[place]? = some slot) :
      ∃ id, (ids.zip found)[place]? = some (id, slot) := by
    obtain ⟨hlt, -⟩ := List.getElem?_eq_some_iff.1 h
    exact ⟨ids[place], List.getElem?_zip_eq_some.2 ⟨List.getElem?_eq_getElem (hfound ▸ hlt), h⟩⟩
  refine ⟨?_, ?_, ?_, ?_⟩
  · rw [length_fillMisses, List.length_zip, hfound, Nat.min_self]
  · intro place info h
    obtain ⟨id, hid⟩ := hplace h
    exact getElem?_fillMisses_hit hid
  · intro place hlength h
    obtain ⟨id, hid⟩ := hplace h
    rw [alignInfos, if_pos hlength, getElem?_fillMisses_miss hlength hid,
      List.map_snd_zip (Nat.le_of_eq hfound)]
  · intro place id hlength h hid
    have hmissed : (ids.zip found)[place]? = some (id, none) :=
      List.getElem?_zip_eq_some.2 ⟨hid, h⟩
    rw [alignInfos, if_neg hlength, fillMisses_map fun id =>
      (fetched.reverse.find? (·.resourceId = id)).getD (.notFound id), List.getElem?_map, hmissed,
      ItemInfo.lastAbout, List.findRev?_eq_find?_reverse]
    rfl

/-- When nothing is missing, the findings are the places that nothing is filled in. -/
theorem hits_eq_fillMisses (h : missing places = []) :
    places.filterMap (·.2) = fillMisses places (alignInfos (missing places) []) := by
  have hfill := fillMisses_map .notFound places
  rw [h] at hfill ⊢
  exact (hits_map .notFound h).trans hfill.symm

namespace Cached

variable {σ : Type}

/-- How a lookup of several ids ends: the places where nothing was found are filled with what the
delegate is asked for, if it is asked for anything. -/
theorem run_getItemInfos_fst (delegate : Backend σ) (ids : List ResourceId) (state : Cached σ) :
    (state.run delegate (.getItemInfos ids)).1 =
      (if state.cache.absent ids = [] then .ok []
        else (delegate.run (.getItemInfos (state.cache.absent ids)) state.delegate).1).map
          fun fetched => fillMisses (ids.zip (state.cache.findings ids))
            (alignInfos (state.cache.absent ids) fetched) := by
  rw [run, getItemInfos_eq, ItemCache.absent]
  dsimp only
  rw [ItemCache.probeAll_fst]
  split
  · next hnone =>
    rw [hits_eq_fillMisses hnone]
    rfl
  · exact congrArg (Except.map _) forward_fst

/-- A lookup of several ids leaves the delegate as what it is asked does. -/
theorem run_getItemInfos_delegate (delegate : Backend σ) (ids : List ResourceId)
    (state : Cached σ) :
    (state.run delegate (.getItemInfos ids)).2.delegate =
      if state.cache.absent ids = [] then state.delegate
      else (delegate.run (.getItemInfos (state.cache.absent ids)) state.delegate).2 := by
  rw [run, getItemInfos_eq, ItemCache.absent]
  dsimp only
  rw [ItemCache.probeAll_fst]
  split
  · rfl
  · exact forward_delegate

/-- A lookup of several ids asks the delegate only for those that are missing, in the order of the
request and in one call, and for none if all are found. Its failure is passed on, and its answer,
whatever it is, is merged with what was found. Unless one of the ids is lost during the call, what
is found and what is missing is decided by the entries at its start. -/
theorem getItemInfos_merges (delegate : Backend σ) (ids : List ResourceId) (state : Cached σ) :
    let found := state.cache.findings ids
    let misses := state.cache.absent ids
    let asked := delegate.run (.getItemInfos misses) state.delegate
    let result := state.run delegate (.getItemInfos ids)
    ((∀ n < ids.length, ∀ id ∈ ids, id ∉ state.cache.losses n) →
        found = ids.map (state.cache.entries[·]?) ∧
          misses = ids.filter fun id => !state.cache.entries.contains id) ∧
      (misses = [] → result.2.delegate = state.delegate ∧
        ∃ answer, result.1 = .ok answer ∧ Merged ids found [] answer) ∧
      (misses ≠ [] → result.2.delegate = asked.2 ∧
        (∀ failure, asked.1 = .error failure → result.1 = .error failure) ∧
        ∀ fetched, asked.1 = .ok fetched →
          ∃ answer, result.1 = .ok answer ∧ Merged ids found fetched answer) := by
  intro found misses asked result
  have hmerged (fetched : List ItemInfo) :
      Merged ids found fetched (fillMisses (ids.zip found) (alignInfos misses fetched)) :=
    merged_fillMisses (ItemCache.length_findings ids) fetched
  have houtcome := run_getItemInfos_fst delegate ids state
  have hdelegate := run_getItemInfos_delegate delegate ids state
  refine ⟨?_, ?_, ?_⟩
  · intro hkept
    have hfound : found = ids.map (state.cache.entries[·]?) := ItemCache.findings_eq_map hkept
    refine ⟨hfound, ?_⟩
    show missing (ids.zip found) = _
    rw [hfound, missing_zip]
  · intro hnone
    rw [if_pos hnone] at houtcome hdelegate
    exact ⟨hdelegate, _, houtcome, hmerged []⟩
  · intro hsome
    rw [if_neg hsome] at houtcome hdelegate
    refine ⟨hdelegate, ?_, ?_⟩
    · intro failure hfailed
      exact houtcome.trans (congrArg (Except.map _) hfailed)
    · intro fetched hok
      exact ⟨_, houtcome.trans (congrArg (Except.map _) hok), hmerged fetched⟩

/-- An object with an entry, between one without that is asked for twice and a bucket: three ids are
asked for in one call, and what is fetched takes the three other places. -/
theorem nested_lookups_merge :
    let kept : ResourceId := .object "media" "b"
    let hit : ItemInfo := .inferredDirectory kept
    let lost : ResourceId := .object "media" "a/x"
    let state : Cached (Recorder Store) := ⟨{
      policy := .plain
      entries := (∅ : Std.ExtTreeMap ResourceId ItemInfo).insert kept hit }, { inner := .nested }⟩
    let ids : List ResourceId := [lost, kept, lost, .bucket "media"]
    let result := state.run (Recorder.backend Store.backend) (.getItemInfos ids)
    result.2.delegate.calls = [.getItemInfos [lost, lost, .bucket "media"]] ∧
      ∃ fetched answer, fetched.length = 3 ∧ result.1 = .ok answer ∧
        Merged ids [none, some hit, none, none] fetched answer := by
  intro kept hit lost state ids result
  obtain ⟨-, -, hasked⟩ := getItemInfos_merges (Recorder.backend Store.backend) ids state
  have hfound : state.cache.findings ids = [none, some hit, none, none] := by decide +kernel
  have habsent : state.cache.absent ids = [lost, lost, .bucket "media"] := by
    rw [ItemCache.absent, hfound]
    rfl
  rw [hfound, habsent] at hasked
  obtain ⟨hdelegate, -, hmerged⟩ := hasked (List.cons_ne_nil _ _)
  refine ⟨?_, ?_⟩
  · rw [hdelegate]
    rfl
  · obtain ⟨answer, hanswer, hmerge⟩ := hmerged _ rfl
    exact ⟨_, answer, rfl, hanswer, hmerge⟩

end Cached

end ObjectStorage
