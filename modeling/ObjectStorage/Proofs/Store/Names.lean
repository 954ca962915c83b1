import ObjectStorage.Proofs.Store.Reports
import ObjectStorage.Proofs.Store.Timeline
import ObjectStorage.Proofs.Uri

/-!
# Names that a store shows

What a store reports as existing, by lookups or by listings, has good names:
buckets and objects are only made under such names, and a directory that a listing
infers ends in a delimiter. `Store.uris_read_back` concludes that the ids of all
of this can be told apart by their URIs and read back from them, and says which
ids and which texts can be read at all.
-/

namespace ObjectStorage

open ResourceId (Named)

namespace Buckets.WellFormed

variable {buckets : Buckets}

/-- The name of a bucket that is there is good. -/
theorem named_of_mem (h : buckets.WellFormed) {bucketName : String} (hmem : bucketName ∈ buckets) :
    bucketName ≠ "" ∧ '/' ∉ bucketName.toList := by
  obtain ⟨info, hinfo⟩ := Option.isSome_iff_exists.1 (mem_iff_bucketInfo?.1 hmem)
  exact checkBucketName_eq_ok.1 (h.bucket hinfo).named

/-- What is there has good names. -/
theorem named_of_holds (h : buckets.WellFormed) {id : ResourceId} (hholds : buckets.Holds id) :
    id.Named := by
  obtain ⟨bucketName, objectName⟩ := id
  cases objectName with
  | none =>
    obtain ⟨hname, hslash⟩ := h.named_of_mem (holds_bucket.1 hholds)
    exact .bucket hname hslash
  | some name =>
    obtain ⟨object, hobject⟩ := Option.isSome_iff_exists.1 hholds
    obtain ⟨hname, hslash⟩ := h.named_of_mem (mem_of_object? hobject)
    refine .object hname hslash ?_
    rintro rfl
    exact (h.object hobject).named rfl

/-- What a lookup reports as found has good names. -/
theorem named_of_found (h : buckets.WellFormed) {id : ResourceId}
    (hfound : (buckets.lookup id).found = true) : id.Named := by
  cases hroot : id.isRoot with
  | true =>
    obtain ⟨bucketName, objectName⟩ := id
    cases objectName <;> simp_all [ResourceId.isRoot]
    exact .root
  | false => exact h.named_of_holds ((h.lookup_found hroot).1 hfound)

/-- What a listing shows lies in a bucket that is there. -/
theorem mem_of_listed {bucketName : String} {options : ListOptions} {entry : Listed}
    (hentry : entry ∈ buckets.entries bucketName options) : bucketName ∈ buckets := by
  obtain ⟨name, stored, hobject, -, -⟩ := exists_listed hentry
  exact mem_of_object? hobject

/-- What a listing shows is about the name that it shows, and that name is good. -/
theorem named_of_listed (h : buckets.WellFormed) {bucketName : String} {options : ListOptions}
    {entry : Listed} (hentry : entry ∈ buckets.entries bucketName options) :
    (entry.info bucketName).resourceId = .object bucketName entry.name ∧
      Named (.object bucketName entry.name) := by
  cases entry with
  | object stored =>
    have hobject := h.object?_listed hentry
    refine ⟨(h.object hobject).resourceId, h.named_of_holds ?_⟩
    simp [Holds, ResourceId.object] at hobject ⊢
    simp [hobject]
  | directory name =>
    refine ⟨rfl, ?_⟩
    rcases h.lookup_listed hentry with
        hlookup | ⟨other, delimiter, heq, -, hdelimiter, hsuffix, -⟩
    · exact h.named_of_found (congrArg (·.found) hlookup)
    · -- The name ends in a delimiter, so it is not empty.
      obtain rfl := Listed.directory.inj heq
      obtain ⟨hname, hslash⟩ := h.named_of_mem (mem_of_listed hentry)
      refine .object hname hslash ?_
      rintro rfl
      exact hdelimiter (by simpa using hsuffix)

end Buckets.WellFormed

namespace Store

variable {α : Type} {store after : Store} {operation : Operation α} {answer : α} {info : ItemInfo}
  {id : ResourceId}

/-- What an answer reports as found has good names. -/
theorem named_of_reported (hwf : store.buckets.WellFormed)
    (h : store.run operation = (.ok answer, after)) (hinfo : info ∈ operation.reported answer)
    (hfound : info.found = true) : info.resourceId.Named := by
  cases hlast : ItemInfo.lastAbout (operation.reported answer) info.resourceId with
  | none => exact (ItemInfo.lastAbout_eq_none.1 hlast info hinfo rfl).elim
  | some last =>
    obtain ⟨hmem, hid⟩ := ItemInfo.lastAbout_eq_some hlast
    rcases run_reported hwf h hlast with hlookup | hinfers
    · have hwfAfter : after.buckets.WellFormed := by
        obtain ⟨_, hedits, -⟩ := (run_carried operation store).edits
        rw [h] at hedits
        exact hedits.wellFormed hwf
      have hlastFound : last.found = true := by
        rw [run_reported_found hwf h hmem hinfo hid, hfound]
      exact hwfAfter.named_of_found (hlookup ▸ hlastFound)
    · -- Only listings of objects infer directories.
      obtain ⟨-, -, name, delimiter, -, hdelimiter, -⟩ := hinfers
      cases operation <;> first | cases hdelimiter | skip
      case listObjectInfo bucketName options =>
        rw [run, read_eq_ok] at h
        obtain rfl := Except.ok.inj h.2.1
        obtain ⟨entry, hentry, rfl⟩ := List.mem_map.1 hinfo
        obtain ⟨hentryId, hnamed⟩ := hwf.named_of_listed hentry
        rw [hentryId]
        exact hnamed

/-- The ids of what a store shows as existing: what an answer reports as found, and what the
listings of names list. -/
inductive Displays (store : Store) : ResourceId → Prop where
  | info {α : Type} {operation : Operation α} {answer : α} {info : ItemInfo}
      (hanswer : (store.run operation).1 = .ok answer)
      (hinfo : info ∈ operation.reported answer) (hfound : info.found = true) :
      Displays store info.resourceId
  | bucket {names : List String} {bucketName : String}
      (hanswer : (store.run .listBucketNames).1 = .ok names) (hname : bucketName ∈ names) :
      Displays store (.bucket bucketName)
  | object {bucketName : String} {options : ListOptions} {names : List String} {name : String}
      (hanswer : (store.run (.listObjectNames bucketName options)).1 = .ok names)
      (hname : name ∈ names) : Displays store (.object bucketName name)

/-- What a store shows as existing has good names. -/
theorem Displays.named (h : store.Displays id) (hwf : store.buckets.WellFormed) : id.Named := by
  cases h with
  | info hanswer hinfo hfound => exact named_of_reported hwf (Prod.ext hanswer rfl) hinfo hfound
  | bucket hanswer hname =>
    have h : store.run .listBucketNames = (.ok _, _) := Prod.ext hanswer rfl
    rw [run, read_eq_ok] at h
    obtain rfl := Except.ok.inj h.2.1
    obtain ⟨hname, hslash⟩ := hwf.named_of_mem (Std.ExtTreeMap.mem_keys.1 hname)
    exact .bucket hname hslash
  | object hanswer hname =>
    have h : store.run (.listObjectNames _ _) = (.ok _, _) := Prod.ext hanswer rfl
    rw [run, read_eq_ok] at h
    obtain rfl := Except.ok.inj h.2.1
    obtain ⟨entry, hentry, rfl⟩ := List.mem_map.1 hname
    exact (hwf.named_of_listed hentry).2

/-- An id is read back from its URI exactly when its names are good. Exactly the texts are read that
start with the scheme and go on without a slash, and what is read is written as the text, but for a
slash behind a bucket, and read back from that. What stores that operations lead to show as existing
is read back from its URI, so that no two such ids have the same one. -/
theorem uris_read_back :
    (∀ id : ResourceId, ResourceId.parse id.toUri = .ok id ↔ id.Named) ∧
    (∀ uri : String, (∃ id, ResourceId.parse uri = .ok id) ↔
      ∃ rest, uri = "gs://" ++ rest ∧ rest.toList.head? ≠ some '/') ∧
    (∀ (uri : String) (id : ResourceId), ResourceId.parse uri = .ok id →
      (id.toUri = uri ∨ id.isBucket = true ∧ id.toUri ++ "/" = uri) ∧
        ResourceId.parse id.toUri = .ok id) ∧
    (∀ (clock : Clock) (store : Store) (id : ResourceId), Reachable clock store →
      store.Displays id → ResourceId.parse id.toUri = .ok id) ∧
    ∀ (clock otherClock : Clock) (store otherStore : Store) (id other : ResourceId),
      Reachable clock store → store.Displays id →
        Reachable otherClock otherStore → otherStore.Displays other →
          id.toUri = other.toUri → id = other := by
  have hback : ∀ (clock : Clock) (store : Store) (id : ResourceId), Reachable clock store →
      store.Displays id → ResourceId.parse id.toUri = .ok id :=
    fun _ _ _ hreach hshown => ResourceId.parse_toUri.2 (hshown.named hreach.wellFormed)
  refine ⟨fun id => ResourceId.parse_toUri, fun uri => ResourceId.exists_parse, ?_, hback, ?_⟩
  · intro uri id h
    obtain ⟨hnamed, huri⟩ := ResourceId.parse_eq_ok.1 h
    refine ⟨?_, ResourceId.parse_toUri.2 hnamed⟩
    exact huri.imp Eq.symm fun ⟨hbucket, huri⟩ => ⟨hbucket, huri.symm⟩
  · intro clock otherClock store otherStore id other hreach hshown hreachOther hshownOther huri
    have h := hback clock store id hreach hshown
    rw [huri, hback otherClock otherStore other hreachOther hshownOther] at h
    exact (Except.ok.inj h).symm

/-- A directory that a listing infers is read back from its URI, as is a bucket with a slash
behind its own. -/
theorem directory_read_back :
    let store := (((empty (.fixed .epoch)).run (.createBucket "media" {})).2.run
      (.writeObject (.object "media" "a/x") [1] {})).2
    let id : ResourceId := .object "media" "a/"
    Reachable (.fixed .epoch) store ∧ store.Displays id ∧
      ResourceId.parse "gs://media/" = .ok (.bucket "media") ∧
      (ResourceId.bucket "media").toUri ++ "/" = "gs://media/" ∧
      ResourceId.parse id.toUri = .ok id ∧
      ∀ other, store.Displays other → id.toUri = other.toUri → id = other := by
  intro store id
  obtain ⟨-, -, hread, hback, hdistinct⟩ := uris_read_back
  have hreach : Reachable (.fixed .epoch) store :=
    .run (.writeObject (.object "media" "a/x") [1] {}) (.run (.createBucket "media" {}) .empty)
  have hlisted : (store.run (.listObjectInfo "media" { delimiter := some "/" })).1 =
      .ok [.inferredDirectory id] := by
    decide +kernel
  have hshown : store.Displays id := .info hlisted (.head _) rfl
  have hparse : ResourceId.parse "gs://media/" = .ok (.bucket "media") := by decide +kernel
  refine ⟨hreach, hshown, hparse, ?_, hback _ _ _ hreach hshown, ?_⟩
  · exact ((hread _ _ hparse).1.resolve_left (by decide +kernel)).2
  · exact fun other hother huri => hdistinct _ _ _ _ _ _ hreach hshown hreach hother huri

end Store

end ObjectStorage
