import ObjectStorage.Interposer
import ObjectStorage.Proofs.Cached.Merging

/-!
# Answers and the ids they belong to

An answer belongs to its request when its infos are about the ids that were asked
for, place by place. What the delegate returns is lined up by id only if it is not
as much as was asked for, so a list of the right length has to be in order itself:
`Cached.answer_belongs_iff` says that nothing else is needed.
-/

namespace ObjectStorage

/-- Says that every entry of a cache is about the id under which it is remembered. -/
def ItemCache.Labelled (cache : ItemCache) : Prop :=
  ∀ ⦃id : ResourceId⦄ ⦃info : ItemInfo⦄, cache.entries[id]? = some info → info.resourceId = id

/-- The last info about an id is about it, and so is the report that there is none. -/
theorem ItemInfo.resourceId_lastAbout (infos : List ItemInfo) (id : ResourceId) :
    ((lastAbout infos id).getD (.notFound id)).resourceId = id := by
  cases h : lastAbout infos id with
  | none => rfl
  | some info => exact (lastAbout_eq_some h).2

/-- What a cache whose entries are about their ids finds at a place is about the id of the place. -/
theorem ItemCache.Labelled.resourceId_eq {cache : ItemCache} (h : cache.Labelled)
    {ids : List ResourceId} {id : ResourceId} {info : ItemInfo}
    (hfound : (id, some info) ∈ ids.zip (cache.findings ids)) : info.resourceId = id := by
  rw [← probeAll_fst] at hfound
  exact h (probeAll_eq_some hfound)

/-- As many infos as ids are lined up. -/
theorem length_alignInfos (ids : List ResourceId) (infos : List ItemInfo) :
    (alignInfos ids infos).length = ids.length := by
  unfold alignInfos
  split
  · next hlength => exact hlength
  · exact List.length_map _

/-- Infos that are lined up with ids are about them, unless there are as many and they are not. -/
theorem resourceIds_alignInfos_iff (ids : List ResourceId) (infos : List ItemInfo) :
    (alignInfos ids infos).map (·.resourceId) = ids ↔
      (infos.length = ids.length → infos.map (·.resourceId) = ids) := by
  unfold alignInfos
  split
  · next hlength => exact ⟨fun h _ => h, fun h => h hlength⟩
  · next hlength =>
    refine ⟨fun _ h => (hlength h).elim, fun _ => ?_⟩
    rw [List.map_map]
    refine (List.map_congr_left fun id _ => ?_).trans (List.map_id' ids)
    have hid := ItemInfo.resourceId_lastAbout infos id
    rw [ItemInfo.lastAbout, List.findRev?_eq_find?_reverse] at hid
    exact hid

/-- Filled places are about their ids exactly if what fills them is about the missing ids. -/
theorem resourceIds_fillMisses_iff {places : List (ResourceId × Option ItemInfo)}
    {infos : List ItemInfo} (hplaces : ∀ id info, (id, some info) ∈ places → info.resourceId = id)
    (hlength : infos.length = (missing places).length) :
    (fillMisses places infos).map (·.resourceId) = places.map (·.1) ↔
      infos.map (·.resourceId) = missing places := by
  induction places, infos using fillMisses.induct with
  | case1 infos =>
    obtain rfl : infos = [] := List.length_eq_zero_iff.1 hlength
    exact Iff.rfl
  | case2 id hit rest infos ih =>
    have hid : hit.resourceId = id := hplaces id hit (.head _)
    have hrest := ih (fun id info h => hplaces id info (.tail _ h)) hlength
    show hit.resourceId :: _ = id :: _ ↔ _
    rw [hid, List.cons.injEq, and_iff_right rfl]
    exact hrest
  | case3 id rest info infos ih =>
    have hrest := ih (fun id info h => hplaces id info (.tail _ h)) (Nat.succ.inj hlength)
    show info.resourceId :: _ = id :: _ ↔ info.resourceId :: _ = id :: _
    rw [List.cons.injEq, List.cons.injEq]
    exact and_congr_right fun _ => hrest
  | case4 id rest ih => cases hlength

namespace Cached

variable {σ : Type}

/-- An answer to a lookup of several ids, through a cache whose entries are about their ids, is
about the ids that were asked for, place by place, exactly if what the delegate returns is about
the missing ids whenever it is as much as they are. -/
theorem answer_belongs_iff {delegate : Backend σ} {ids : List ResourceId} {state : Cached σ}
    {answer : List ItemInfo} (hlabelled : state.cache.Labelled)
    (h : (state.run delegate (.getItemInfos ids)).1 = .ok answer) :
    answer.map (·.resourceId) = ids ↔
      ∀ fetched, (delegate.run (.getItemInfos (state.cache.absent ids)) state.delegate).1 =
        .ok fetched → fetched.length = (state.cache.absent ids).length →
          fetched.map (·.resourceId) = state.cache.absent ids := by
  rw [run_getItemInfos_fst] at h
  have hids : (ids.zip (state.cache.findings ids)).map (·.1) = ids :=
    List.map_fst_zip (Nat.le_of_eq (ItemCache.length_findings ids).symm)
  have hbelongs (fetched : List ItemInfo) :
      (fillMisses (ids.zip (state.cache.findings ids))
        (alignInfos (state.cache.absent ids) fetched)).map (·.resourceId) = ids ↔
        (fetched.length = (state.cache.absent ids).length →
          fetched.map (·.resourceId) = state.cache.absent ids) := by
    have hfill := resourceIds_fillMisses_iff (fun _ _ hfound => hlabelled.resourceId_eq hfound)
      (length_alignInfos (state.cache.absent ids) fetched)
    rw [hids] at hfill
    exact hfill.trans (resourceIds_alignInfos_iff _ fetched)
  split at h
  · next hnone =>
    cases h
    rw [hbelongs, hnone]
    refine ⟨fun _ fetched _ hlength => ?_, fun _ _ => rfl⟩
    rw [List.length_eq_zero_iff.1 hlength, List.map_nil]
  · cases hasked : (delegate.run (.getItemInfos (state.cache.absent ids)) state.delegate).1 with
    | error failure =>
      rw [hasked] at h
      cases h
    | ok fetched =>
      rw [hasked] at h
      cases h
      rw [hbelongs]
      constructor
      · rintro hfetched _ ⟨⟩
        exact hfetched
      · intro hfetched
        exact hfetched fetched rfl

/-- What is asked for a bucket and an object is returned in the wrong order, with an info about
something else behind: there is one info too many, so that the answer belongs to its request. -/
theorem excess_answer_belongs :
    let ids : List ResourceId := [.bucket "media", .object "media" "a/x"]
    let state : Cached (Interposer Store) := ⟨{ policy := .plain },
      { inner := .nested, distortion := some { kept := some [1, 0], extra := [.notFound .root] } }⟩
    state.cache.Labelled ∧
      ∃ answer, (state.run (Interposer.backend Store.backend) (.getItemInfos ids)).1 = .ok answer ∧
        answer.map (·.resourceId) = ids := by
  intro ids state
  have hlabelled : state.cache.Labelled := by
    intro id info h
    simp [state] at h
  obtain ⟨answer, hanswer⟩ : ∃ answer,
      (state.run (Interposer.backend Store.backend) (.getItemInfos ids)).1 = .ok answer := ⟨_, rfl⟩
  have habsent : state.cache.absent ids = ids := by decide +kernel
  refine ⟨hlabelled, answer, hanswer, (answer_belongs_iff hlabelled hanswer).2 ?_⟩
  rw [habsent]
  rintro fetched ⟨⟩ hlength
  cases hlength

/-- What is asked for a bucket and an object is returned in the wrong order: there are as many infos
as ids, so that the answer to each is about the other. -/
theorem swapped_answer_misplaced :
    let ids : List ResourceId := [.bucket "media", .object "media" "a/x"]
    let state : Cached (Interposer Store) := ⟨{ policy := .plain },
      { inner := .nested, distortion := some { kept := some [1, 0] } }⟩
    state.cache.Labelled ∧
      ∃ answer, (state.run (Interposer.backend Store.backend) (.getItemInfos ids)).1 = .ok answer ∧
        answer.map (·.resourceId) = ids.reverse ∧ answer.map (·.resourceId) ≠ ids := by
  refine ⟨?_, _, rfl, by decide +kernel, by decide +kernel⟩
  intro id info h
  simp at h

end Cached

end ObjectStorage
