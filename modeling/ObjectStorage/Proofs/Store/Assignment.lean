import Mathlib.Data.List.Count
import ObjectStorage.Proofs.Store.Copies
import ObjectStorage.Proofs.Store.Reports

/-!
# Copies as simultaneous assignments

A copy reads all its sources before it stores the first target, so that targets may
be sources as well. `Store.copy_assigns` says what a copy that succeeds makes of the
store: each target has what the source has held before the copy that is paired with
its last occurrence, and all else is as it was. `Store.Completes.object?_eq` says
what a series of stores leaves alone, `Store.Completes.generation_eq` counts them.
-/

namespace ObjectStorage

/-- Says that an object is a new version, under this content generation, of what another one
holds. -/
structure StoredObject.IsCopy (copied source : StoredObject) (generation : Int) : Prop where
  content : copied.content = source.content
  contentType : copied.info.contentType = source.info.contentType
  metadata : copied.info.metadata = source.info.metadata
  contentGeneration : copied.info.contentGeneration = generation
  metaGeneration : copied.info.metaGeneration = 1
  size : copied.info.size = copied.content.length
  contentHash : copied.info.contentHash = some (Bytes.sha256 copied.content)

/-- A version with the content and the attributes of another object is a copy of it. -/
theorem StoredObject.version_isCopy (id : ResourceId) (source : StoredObject) (previous : Int)
    (now : Timestamp) :
    (version id source.content source.info.contentType source.info.metadata previous now).IsCopy
      source (previous + 1) where
  content := rfl
  contentType := rfl
  metadata := rfl
  contentGeneration := rfl
  metaGeneration := rfl
  size := rfl
  contentHash := rfl

/-- Says that a source is paired with the last occurrence of a target. -/
def LastPaired (sources targets : List String) (source target : String) : Prop :=
  ∃ n : Nat, sources[n]? = some source ∧ targets[n]? = some target ∧
    ∀ later, n < later → targets[later]? ≠ some target

/-- Only one source is paired with the last occurrence of a target. -/
theorem LastPaired.unique {sources targets : List String} {source other target : String}
    (h : LastPaired sources targets source target)
    (hother : LastPaired sources targets other target) : source = other := by
  obtain ⟨n, hsource, htarget, hlast⟩ := h
  obtain ⟨m, hsource', htarget', hlast'⟩ := hother
  obtain rfl : n = m := by
    rcases Nat.lt_trichotomy n m with hlt | heq | hgt
    · exact (hlast m hlt htarget').elim
    · exact heq
    · exact (hlast' n hgt htarget).elim
  exact Option.some.inj (hsource.symm.trans hsource')

/-- A pair behind which the target does not occur any more pairs its last occurrence. -/
theorem LastPaired.of_zip {sources targets : List String} {source target : String}
    {earlier later : List (String × String)} (hlength : sources.length = targets.length)
    (hpairs : sources.zip targets = earlier ++ (source, target) :: later)
    (hlast : ∀ pair ∈ later, pair.2 ≠ target) : LastPaired sources targets source target := by
  have hpair : (sources.zip targets)[earlier.length]? = some (source, target) := by
    rw [hpairs, List.getElem?_append_right (Nat.le_refl _), Nat.sub_self, List.getElem?_cons_zero]
  obtain ⟨hsource, htarget⟩ := List.getElem?_zip_eq_some.1 hpair
  refine ⟨earlier.length, hsource, htarget, ?_⟩
  intro n hn hagain
  obtain ⟨hbound, -⟩ := List.getElem?_eq_some_iff.1 hagain
  obtain ⟨other, hother⟩ : ∃ other, sources[n]? = some other :=
    ⟨_, List.getElem?_eq_getElem (hlength ▸ hbound)⟩
  have hzip : (sources.zip targets)[n]? = some (other, target) :=
    List.getElem?_zip_eq_some.2 ⟨hother, hagain⟩
  rw [hpairs, List.getElem?_append_right (by omega)] at hzip
  obtain ⟨k, hk⟩ : ∃ k, n - earlier.length = k + 1 := ⟨n - earlier.length - 1, by omega⟩
  rw [hk, List.getElem?_cons_succ] at hzip
  exact hlast _ (List.mem_of_getElem? hzip) rfl

/-- What is in a list has a last occurrence there. -/
theorem exists_last_occurrence {α β : Type} {f : α → β} {entries : List α} {key : β}
    (h : key ∈ entries.map f) :
    ∃ earlier entry later, entries = earlier ++ entry :: later ∧ f entry = key ∧
      key ∉ later.map f := by
  induction entries with
  | nil => cases h
  | cons first rest ih =>
    by_cases hrest : key ∈ rest.map f
    · obtain ⟨earlier, entry, later, rfl, hentry, hlater⟩ := ih hrest
      exact ⟨first :: earlier, entry, later, rfl, hentry, hlater⟩
    · refine ⟨[], first, rest, rfl, ?_, hrest⟩
      rcases List.mem_cons.1 h with heq | hmem
      · exact heq.symm
      · exact (hrest hmem).elim

namespace Store

variable {store after : Store} {copy : ResourceId × StoredObject}
  {copies : List (ResourceId × StoredObject)} {id : ResourceId}

/-- Storing a copy that succeeds puts the next version of its target, and nothing else. -/
theorem storeCopy_eq_ok (h : storeCopy copy store = (.ok (), after)) :
    copy.1.isObject = true ∧ copy.1.bucketName ∈ store.buckets ∧ ∃ now,
      after.buckets = store.buckets.put copy.1 (.version copy.1 copy.2.content
        copy.2.info.contentType copy.2.info.metadata (store.buckets.generation copy.1) now) := by
  obtain ⟨⟨hobject, -, hbucket, -⟩, hput⟩ := writeObject_eq_ok h
  exact ⟨hobject, hbucket, hput⟩

namespace Completes

/-- Objects at which nothing is stored stay as they are. -/
theorem object?_eq (h : Completes storeCopy copies store after) (hid : id ∉ copies.map (·.1)) :
    after.buckets.object? id = store.buckets.object? id := by
  induction h with
  | nil store => rfl
  | cons hcall _ ih =>
    obtain ⟨hfirst, hrest⟩ := not_or.1 (mt List.mem_cons.2 hid)
    obtain ⟨hobject, hbucket, now, hput⟩ := storeCopy_eq_ok hcall
    rw [ih hrest, hput, Buckets.object?_put hbucket hobject, if_neg (Ne.symm hfirst)]

/-- Infos about buckets stay as they are. -/
theorem bucketInfo?_eq (h : Completes storeCopy copies store after) (bucketName : String) :
    after.buckets.bucketInfo? bucketName = store.buckets.bucketInfo? bucketName := by
  induction h with
  | nil store => rfl
  | cons hcall _ ih =>
    obtain ⟨-, -, now, hput⟩ := storeCopy_eq_ok hcall
    rw [ih, hput, Buckets.bucketInfo?_put]

/-- The content generation of an object grows by the number of times that it is stored. -/
theorem generation_eq (h : Completes storeCopy copies store after) (id : ResourceId) :
    after.buckets.generation id = store.buckets.generation id + (copies.map (·.1)).count id := by
  induction h with
  | nil store => simp
  | @cons copy rest store middle after hcall _ ih =>
    obtain ⟨hobject, hbucket, now, hput⟩ := storeCopy_eq_ok hcall
    have hmiddle : middle.buckets.generation id =
        if copy.1 = id then store.buckets.generation id + 1 else store.buckets.generation id := by
      rw [Buckets.generation, hput, Buckets.object?_put hbucket hobject]
      by_cases heq : copy.1 = id
      · subst heq
        simp [StoredObject.version]
      · rw [if_neg heq, if_neg heq, Buckets.generation]
    rw [ih, hmiddle, List.map_cons, List.count_cons]
    by_cases heq : copy.1 = id
    · simp only [heq, if_true, beq_self_eq_true]
      omega
    · simp [heq]

/-- What is stored last at an id is there in the end, under a generation that counts the stores. -/
theorem isCopy_last {earlier later : List (ResourceId × StoredObject)}
    (h : Completes storeCopy (earlier ++ copy :: later) store after)
    (hlast : copy.1 ∉ later.map (·.1)) :
    ∃ copied, after.buckets.object? copy.1 = some copied ∧
      copied.IsCopy copy.2 (store.buckets.generation copy.1 +
        ((earlier ++ copy :: later).map (·.1)).count copy.1) := by
  have hgeneration := h.generation_eq copy.1
  obtain ⟨prior, -, hrest⟩ := h.append_cases
  cases hrest with
  | cons hcall hlater =>
    obtain ⟨hobject, hbucket, now, hput⟩ := storeCopy_eq_ok hcall
    have hcopied := hlater.object?_eq hlast
    rw [hput, Buckets.object?_put hbucket hobject, if_pos rfl] at hcopied
    have hcopy := StoredObject.version_isCopy copy.1 copy.2 (prior.buckets.generation copy.1) now
    refine ⟨_, hcopied, ?_⟩
    rwa [← hgeneration, Buckets.generation_of_object? hcopied]

end Completes

/-- A copy that succeeds has as many targets as sources, and stores what it has staged. -/
theorem copy_eq_ok {sourceBucket targetBucket : String} {sources targets : List String}
    (h : store.run (.copy sourceBucket sources targetBucket targets) = (.ok (), after)) :
    sources.length = targets.length ∧ ∃ bucket copies changed,
      store.buckets[sourceBucket]? = some bucket ∧
        stageCopies bucket sourceBucket targetBucket (sources.zip targets) = .ok copies ∧
        Completes storeCopy copies store changed ∧ after.buckets = changed.buckets := by
  rw [run] at h
  obtain ⟨hcheck, hwrite⟩ := checked_eq_ok h
  obtain ⟨-, changed, hcopy, hafter⟩ := write_eq_ok hwrite
  refine ⟨?_, ?_⟩
  · unfold checkCopy at hcheck
    split at hcheck
    · next hlength => exact hlength
    · cases hcheck
  · rcases copy_cases sourceBucket sources targetBucket targets store with
      ⟨cause, hrefused⟩ | ⟨bucket, copies, hsource, -, hstaged, hstored⟩
    · rw [hrefused] at hcopy
      cases hcopy
    · rw [hstored, storeCopies_eq_each] at hcopy
      exact ⟨bucket, copies, changed, hsource, hstaged, each_eq_ok.1 hcopy, hafter⟩

/-- The ids of what a copy stages are those of its targets, in order. -/
theorem stageCopies_ids {bucket : StoredBucket} {sourceBucket targetBucket : String}
    {sources targets : List String} (hlength : sources.length = targets.length)
    (hstaged : stageCopies bucket sourceBucket targetBucket (sources.zip targets) = .ok copies) :
    copies.map (·.1) = targets.map (.object targetBucket ·) := by
  rw [stageCopies_targets hstaged]
  calc (sources.zip targets).map (fun pair => ResourceId.object targetBucket pair.2)
      = ((sources.zip targets).map Prod.snd).map (.object targetBucket ·) := by
        rw [List.map_map, Function.comp_def]
    _ = targets.map (.object targetBucket ·) := by
        rw [List.map_snd_zip (Nat.le_of_eq hlength.symm)]

/-- What is staged last for a target is the object that the source paired with its last occurrence
names. -/
theorem lastPaired_of_staged {bucket : StoredBucket} {sourceBucket targetBucket : String}
    {sources targets : List String} {target : String} {object : StoredObject}
    {earlier later : List (ResourceId × StoredObject)}
    (hlength : sources.length = targets.length)
    (hstaged : stageCopies bucket sourceBucket targetBucket (sources.zip targets) =
      .ok (earlier ++ (.object targetBucket target, object) :: later))
    (hlast : .object targetBucket target ∉ later.map (·.1)) :
    ∃ source, LastPaired sources targets source target ∧
      bucket.objects[source]? = some object := by
  obtain ⟨first, rest, hpairs, -, hrest⟩ := stageCopies_append hstaged
  cases rest with
  | nil => cases hrest
  | cons pair rest =>
    obtain ⟨source, name⟩ := pair
    obtain ⟨-, found, others, hfound, hothers, hcons⟩ := stageCopies_cons_eq_ok.1 hrest
    obtain ⟨hhead, rfl⟩ := List.cons.inj hcons
    obtain ⟨hid, rfl⟩ := Prod.mk.inj hhead
    obtain rfl : target = name := by simpa [ResourceId.object] using hid
    refine ⟨source, .of_zip hlength hpairs ?_, hfound⟩
    intro pair hpair heq
    rw [stageCopies_targets hothers] at hlast
    exact hlast (List.mem_map.2 ⟨pair, hpair, by rw [heq]⟩)

/-- A copy that succeeds is a simultaneous assignment. Each target has what the source has held
before that is paired with its last occurrence, under a content generation that has grown by the
number of its occurrences. Objects that are no targets and infos about buckets stay as they are. -/
theorem copy_assigns {sourceBucket targetBucket : String} {sources targets : List String}
    (h : store.run (.copy sourceBucket sources targetBucket targets) = (.ok (), after)) :
    (∀ target ∈ targets, ∃ source object copied,
      LastPaired sources targets source target ∧
        store.buckets.object? (.object sourceBucket source) = some object ∧
        after.buckets.object? (.object targetBucket target) = some copied ∧
        copied.IsCopy object
          (store.buckets.generation (.object targetBucket target) + targets.count target)) ∧
    (∀ id, (∀ target ∈ targets, id ≠ .object targetBucket target) →
      after.buckets.object? id = store.buckets.object? id) ∧
    ∀ bucketName, after.buckets.bucketInfo? bucketName = store.buckets.bucketInfo? bucketName := by
  obtain ⟨hlength, bucket, copies, changed, hsource, hstaged, hcompletes, hafter⟩ := copy_eq_ok h
  have hids := stageCopies_ids hlength hstaged
  rw [hafter]
  refine ⟨?_, ?_, hcompletes.bucketInfo?_eq⟩
  · intro target htarget
    have hmem : .object targetBucket target ∈ copies.map (·.1) :=
      hids ▸ List.mem_map.2 ⟨target, htarget, rfl⟩
    obtain ⟨earlier, ⟨id, object⟩, later, rfl, rfl, hlast⟩ := exists_last_occurrence hmem
    obtain ⟨source, hpaired, hobject⟩ := lastPaired_of_staged hlength hstaged hlast
    obtain ⟨copied, hcopied, hcopy⟩ := hcompletes.isCopy_last hlast
    have hinjective : Function.Injective (ResourceId.object targetBucket) := by
      intro a b heq
      simpa [ResourceId.object] using heq
    rw [hids, List.count_map_of_injective _ _ hinjective] at hcopy
    refine ⟨source, object, copied, hpaired, ?_, hcopied, hcopy⟩
    simp [Buckets.object?, ResourceId.object, hsource, hobject]
  · intro id hid
    refine hcompletes.object?_eq ?_
    rw [hids]
    intro hmem
    obtain ⟨target, htarget, heq⟩ := List.mem_map.1 hmem
    exact hid target htarget heq.symm

/-- When two objects are swapped and the first one is a target twice, it ends with what the second
one has held before, though that is overwritten first. -/
theorem swap_assigns :
    let store := ((((empty (.fixed .epoch)).run (.createBucket "media" {})).2.run
      (.writeObject (.object "media" "a") [1] {})).2.run
        (.writeObject (.object "media" "b") [2] {})).2
    let result := store.run (.copy "media" ["a", "b", "b"] "media" ["b", "a", "a"])
    result.1 = .ok () ∧ ∃ object copied,
      store.buckets.object? (.object "media" "b") = some object ∧
        result.2.buckets.object? (.object "media" "a") = some copied ∧ copied.IsCopy object 3 := by
  intro store result
  have hok : result.1 = .ok () := by decide +kernel
  have hrun : store.run (.copy "media" ["a", "b", "b"] "media" ["b", "a", "a"]) =
      (.ok (), result.2) := Prod.ext hok rfl
  obtain ⟨source, object, copied, hpaired, hobject, hcopied, hcopy⟩ :=
    (copy_assigns hrun).1 "a" (by decide)
  have hlast : LastPaired ["a", "b", "b"] ["b", "a", "a"] "b" "a" := by
    refine ⟨2, rfl, rfl, ?_⟩
    intro later hlater
    simp [List.getElem?_eq_none (show ["b", "a", "a"].length ≤ later from hlater)]
  obtain rfl := hpaired.unique hlast
  have hgeneration : store.buckets.generation (.object "media" "a") = 1 := by decide +kernel
  rw [hgeneration] at hcopy
  exact ⟨hok, object, copied, hobject, hcopied, hcopy⟩

end Store

end ObjectStorage
