import Mathlib.Data.List.Infix
import Mathlib.Data.List.Sort
import ObjectStorage.Proofs.Store.Directories
import ObjectStorage.Proofs.Store.Footprint

/-!
# Walking through directories

`Store.walk` lists what lies under a path level by level and goes down into each
directory that it meets. It comes to an end, as a directory has a longer name than
the path under which it is listed and no listing goes beyond the longest name in
the bucket. `Store.walk_finds_all` says that it finds what one listing without a
delimiter shows: each object once, and in order.
-/

namespace ObjectStorage

/-- Says that a delimiter occurs in a name behind a path. -/
def DescendsFrom (delimiter path name : String) : Prop :=
  delimiter.toList <:+: name.toList.drop path.toList.length

instance (delimiter path name : String) : Decidable (DescendsFrom delimiter path name) :=
  inferInstanceAs (Decidable (_ <:+: _))

/-- A name that goes on behind a path is longer than the path. -/
theorem DescendsFrom.length_lt {delimiter path name : String}
    (h : DescendsFrom delimiter path name) (hdelimiter : delimiter ≠ "") :
    path.toList.length < name.toList.length := by
  have hne : delimiter.toList.length ≠ 0 := by simpa using hdelimiter
  have hle := List.IsInfix.length_le h
  rw [List.length_drop] at hle
  omega

namespace ListOptions

variable {options : ListOptions} {delimiter path name directory : String}

/-- What a covered name is shown as is a start of it. -/
theorem representative_prefix (hcovers : options.covers name = true) :
    (options.representative name).toList <+: name.toList := by
  by_cases hsame : options.representative name = name
  · rw [hsame]
  · obtain ⟨-, -, -, -, hstart⟩ :=
      directory?_eq_some hcovers (directory?_of_representative_ne hsame)
    exact hstart

/-- What is not in a directory is only shown for itself. -/
theorem eq_of_directory?_representative
    (h : options.directory? (options.representative name) = none) :
    options.representative name = name := by
  by_contra hne
  rw [directory?_directory (directory?_of_representative_ne hne)] at h
  cases h

/-- What lies in a directory and is shown for a name is the whole directory. -/
theorem directory?_representative
    (h : options.directory? (options.representative name) ≠ none) :
    options.directory? (options.representative name) = some (options.representative name) := by
  obtain ⟨directory, hdirectory⟩ := Option.ne_none_iff_exists'.1 h
  have hself : options.representative (options.representative name) =
      options.representative name := representative_representative
  rw [representative, hdirectory, Option.getD_some] at hself
  rw [hdirectory, hself]

/-- The listing of everything under a path. -/
abbrev under (path : String) : ListOptions := { namePrefix := some path }

/-- The listing of one level under a path. -/
abbrev level (delimiter path : String) : ListOptions :=
  { namePrefix := some path, delimiter := some delimiter }

/-- Both listings cover the names that start with the path. -/
theorem covers_level :
    (level delimiter path).covers name = true ↔ path.toList <+: name.toList := by
  rw [covers]
  exact List.isPrefixOf_iff_prefix

/-- A listing without a delimiter shows names as they are. -/
theorem representative_under : (under path).representative name = name := rfl

/-- Exactly the names that go on behind the delimiter lie in a directory of their level. -/
theorem directory?_level_eq_none (hdelimiter : delimiter ≠ "") :
    (level delimiter path).directory? name = none ↔ ¬ DescendsFrom delimiter path name := by
  have hword : (level delimiter path).delimiterText = some delimiter.toList :=
    delimiterText_eq_some.2 ⟨delimiter, rfl, hdelimiter, rfl⟩
  rw [directory?, hword, Option.bind_some, Option.map_eq_none_iff, Text.throughFirst_eq_none_iff]
  rfl

end ListOptions

namespace Buckets

variable {buckets : Buckets} {bucketName delimiter path name shown : String}

/-- The length of the longest name in a bucket. -/
def longestName (buckets : Buckets) (bucketName : String) : Nat :=
  ((buckets.objectNames bucketName).map fun name => name.toList.length).max?.getD 0

/-- A path under which something is listed is no longer than the longest name in the bucket. -/
theorem length_le_longestName
    (h : name ∈ buckets.listedNames bucketName (.level delimiter path)) :
    path.toList.length ≤ buckets.longestName bucketName := by
  obtain ⟨entry, hentry, -⟩ := List.mem_map.1 h
  obtain ⟨stored, object, hobject, hcovers, -⟩ := exists_listed hentry
  have hmem : stored ∈ buckets.objectNames bucketName := mem_objectNames.2 (by rw [hobject]; rfl)
  exact Nat.le_trans (ListOptions.covers_level.1 hcovers).length_le
    (List.le_max?_getD_of_mem (List.mem_map.2 ⟨stored, hmem, rfl⟩))

/-- What stands in a walk for a name that is listed under a path. -/
def replacement (buckets : Buckets) (bucketName delimiter path name : String) : List String :=
  if DescendsFrom delimiter path name then buckets.listedNames bucketName (.under name) else [name]

namespace WellFormed

/-- A listing without a delimiter shows the objects whose names start with the path. -/
theorem mem_listedNames_under (h : buckets.WellFormed) :
    name ∈ buckets.listedNames bucketName (.under path) ↔
      name ∈ buckets.objectNames bucketName ∧ path.toList <+: name.toList := by
  rw [h.mem_listedNames rfl]
  simp only [ListOptions.representative_under, ListOptions.covers, List.isPrefixOf_iff_prefix]
  constructor
  · rintro ⟨name, hstored, hcovers, rfl⟩
    exact ⟨hstored, hcovers⟩
  · rintro ⟨hstored, hcovers⟩
    exact ⟨name, hstored, hcovers, rfl⟩

/-- What stands for a listed name are the objects that are shown as this name. -/
theorem mem_replacement (h : buckets.WellFormed) (hdelimiter : delimiter ≠ "")
    (hshown : shown ∈ buckets.listedNames bucketName (.level delimiter path)) :
    name ∈ buckets.replacement bucketName delimiter path shown ↔
      name ∈ buckets.objectNames bucketName ∧
        (ListOptions.level delimiter path).covers name = true ∧
          (ListOptions.level delimiter path).representative name = shown := by
  obtain ⟨origin, horigin, hcovers, rfl⟩ := (h.mem_listedNames rfl).1 hshown
  unfold replacement
  split
  · next hbelow =>
    have hdirectory := ListOptions.directory?_representative
      (mt (ListOptions.directory?_level_eq_none hdelimiter).1 (not_not_intro hbelow))
    rw [h.mem_listedNames_under]
    refine and_congr_right fun _ => ⟨fun hstart => ?_, ?_⟩
    · have hcoversShown := ListOptions.covers_directory hdirectory
      have hpath := (ListOptions.covers_level.1 hcoversShown).trans hstart
      exact ⟨ListOptions.covers_level.2 hpath,
        ListOptions.representative_of_directory hcoversShown hdirectory hstart⟩
    · rintro ⟨hcoversName, hsame⟩
      rw [← hsame]
      exact ListOptions.representative_prefix hcoversName
  · next hbelow =>
    have hnone := (ListOptions.directory?_level_eq_none hdelimiter).2 hbelow
    have hself := ListOptions.eq_of_directory?_representative hnone
    rw [List.mem_singleton]
    constructor
    · rintro rfl
      rw [hself]
      exact ⟨horigin, hcovers, hself⟩
    · rintro ⟨-, -, hsame⟩
      rw [← hsame] at hnone
      rw [← hsame, ListOptions.eq_of_directory?_representative hnone]

/-- What stands in a walk for the names of one level is in order, as it is shown in order. -/
theorem sorted_flatMap_replacement (h : buckets.WellFormed) (hdelimiter : delimiter ≠ "") :
    ((buckets.listedNames bucketName (.level delimiter path)).flatMap
      (buckets.replacement bucketName delimiter path)).Pairwise (· < ·) := by
  refine List.pairwise_flatMap.2 ⟨?_, (h.sorted_listedNames rfl).imp_of_mem ?_⟩
  · intro shown _
    unfold replacement
    split
    · exact h.sorted_listedNames rfl
    · exact List.pairwise_singleton _ _
  · intro shown other hshown hother hlt name hname later hlater
    obtain ⟨-, hcovers, rfl⟩ := (h.mem_replacement hdelimiter hshown).1 hname
    obtain ⟨-, hcoversLater, rfl⟩ := (h.mem_replacement hdelimiter hother).1 hlater
    exact ListOptions.lt_of_representative_lt hcovers hcoversLater hlt

/-- What stands in a walk for the names of one level is what lies under the path. -/
theorem flatMap_replacement (h : buckets.WellFormed) (hdelimiter : delimiter ≠ "") :
    (buckets.listedNames bucketName (.level delimiter path)).flatMap
        (buckets.replacement bucketName delimiter path) =
      buckets.listedNames bucketName (.under path) := by
  refine (h.sorted_flatMap_replacement hdelimiter).eq_of_mem_iff (h.sorted_listedNames rfl) ?_
  intro name
  rw [List.mem_flatMap, h.mem_listedNames_under]
  constructor
  · rintro ⟨shown, hshown, hname⟩
    obtain ⟨hstored, hcovers, -⟩ := (h.mem_replacement hdelimiter hshown).1 hname
    exact ⟨hstored, ListOptions.covers_level.1 hcovers⟩
  · rintro ⟨hstored, hstart⟩
    have hcovers : (ListOptions.level delimiter path).covers name = true :=
      ListOptions.covers_level.2 hstart
    have hshown := (h.mem_listedNames rfl).2 ⟨name, hstored, hcovers, rfl⟩
    exact ⟨_, hshown, (h.mem_replacement hdelimiter hshown).2 ⟨hstored, hcovers, rfl⟩⟩

end WellFormed

end Buckets

namespace Store

variable {store : Store} {bucketName delimiter path name : String}

/-- A path under which something is listed is no longer than the longest name in the bucket. -/
theorem length_le_longestName {names : List String}
    (h : (store.run (.listObjectNames bucketName (.level delimiter path))).1 = .ok names)
    (hname : name ∈ names) : path.toList.length ≤ store.buckets.longestName bucketName := by
  obtain ⟨-, hnames, -⟩ := read_eq_ok.1 (Prod.ext h rfl)
  obtain rfl := Except.ok.inj hnames
  exact Buckets.length_le_longestName hname

/-- The names that are found under a path when each listed name that goes on behind a delimiter is
replaced by what is found under it. -/
def walk (store : Store) (bucketName : String) {delimiter : String} (hdelimiter : delimiter ≠ "")
    (path : String) : Outcome (List String) :=
  match _ : (store.run (.listObjectNames bucketName (.level delimiter path))).1 with
  | .error failure => .error failure
  | .ok names => do
    let parts ← names.attach.mapM fun ⟨name, _⟩ =>
      if _ : DescendsFrom delimiter path name then store.walk bucketName hdelimiter name
      else pure [name]
    pure parts.flatten
termination_by store.buckets.longestName bucketName + 1 - path.toList.length
decreasing_by
  have hpath := length_le_longestName ‹_ = Except.ok names› ‹_ ∈ names›
  have hlonger := DescendsFrom.length_lt ‹_› hdelimiter
  omega

/-- A walk lists one level and goes on under each name that goes on behind the delimiter. -/
theorem walk_eq (hdelimiter : delimiter ≠ "") :
    store.walk bucketName hdelimiter path = (do
      let names ← (store.run (.listObjectNames bucketName (.level delimiter path))).1
      let parts ← names.mapM fun name =>
        if DescendsFrom delimiter path name then store.walk bucketName hdelimiter name
        else pure [name]
      pure parts.flatten) := by
  rw [walk]
  split
  · next hlisted =>
    rw [hlisted]
    rfl
  · next names hlisted =>
    rw [hlisted]
    show names.attach.mapM _ >>= _ = names.mapM _ >>= _
    rw [List.mapM_subtype fun name hname => rfl, List.unattach_attach]
    rfl

/-- A walk through an available store finds what one listing of everything under the path shows. -/
theorem walk_of_available (hwf : store.buckets.WellFormed) (havailable : store.available = .ok ())
    (hdelimiter : delimiter ≠ "") (path : String) : store.walk bucketName hdelimiter path =
      pure (store.buckets.listedNames bucketName (.under path)) := by
  have hlisted : (store.run (.listObjectNames bucketName (.level delimiter path))).1 =
      pure (store.buckets.listedNames bucketName (.level delimiter path)) :=
    (read_fst_eq_ok havailable).2 rfl
  have hfound : ∀ name ∈ store.buckets.listedNames bucketName (.level delimiter path),
      (if DescendsFrom delimiter path name then store.walk bucketName hdelimiter name
        else (pure [name] : Outcome (List String))) =
          pure (store.buckets.replacement bucketName delimiter path name) := by
    intro name hname
    unfold Buckets.replacement
    split
    · next hbelow =>
      have hpath := length_le_longestName hlisted hname
      have hlonger := hbelow.length_lt hdelimiter
      exact walk_of_available hwf havailable hdelimiter name
    · rfl
  rw [walk_eq, hlisted, pure_bind, mapM_congr hfound, List.mapM_pure, pure_bind,
    ← hwf.flatMap_replacement hdelimiter, List.flatMap_def]
termination_by store.buckets.longestName bucketName + 1 - path.toList.length

/-- A walk through a store that operations lead to replaces each name of a level that goes on behind
the delimiter by what it finds there. Unless the store refuses to list, it finds the objects whose
names start with the path, each of them once, which is what one listing without a delimiter shows,
in the same order. -/
theorem walk_finds_all {clock : Clock} (hreach : Reachable clock store)
    (hdelimiter : delimiter ≠ "") (bucketName path : String) :
    (store.walk bucketName hdelimiter path = (do
      let names ← (store.run (.listObjectNames bucketName (.level delimiter path))).1
      let parts ← names.mapM fun name =>
        if DescendsFrom delimiter path name then store.walk bucketName hdelimiter name
        else pure [name]
      pure parts.flatten)) ∧
    ∃ names, store.walk bucketName hdelimiter path = (store.read fun _ => .ok names).1 ∧
      (store.run (.listObjectNames bucketName (.under path))).1 =
        (store.read fun _ => .ok names).1 ∧
      names.Nodup ∧ ∀ name, name ∈ names ↔
        name ∈ store.buckets.objectNames bucketName ∧ path.toList <+: name.toList := by
  have hwf := hreach.wellFormed
  refine ⟨walk_eq hdelimiter, store.buckets.listedNames bucketName (.under path), ?_, ?_, ?_, ?_⟩
  · cases havailable : store.available with
    | error cause =>
      rw [walk_eq, run_listObjectNames, read_of_refused havailable, read_of_refused havailable]
      rfl
    | ok _ =>
      rw [walk_of_available hwf havailable, read, havailable]
      rfl
  · rw [run_listObjectNames, read, read]
  · exact (hwf.sorted_listedNames rfl).imp Std.ne_of_lt
  · exact fun name => hwf.mem_listedNames_under

/-- A walk with a delimiter that overlaps with itself finds an object that is named like a directory
only below that directory, though both levels list it. -/
theorem overlapping_walk_finds_all :
    let store := (((empty (.fixed .epoch)).run (.createBucket "media" {})).2.run
      (.createEmptyObjects [.object "media" "p/baaa", .object "media" "p/aaaa",
        .object "media" "p/", .object "media" "p/aa", .object "media" "q"] {})).2
    let hdelimiter : "aa" ≠ "" := by decide
    Reachable (.fixed .epoch) store ∧
      store.walk "media" hdelimiter "p/" = .ok ["p/", "p/aa", "p/aaaa", "p/baaa"] := by
  intro store hdelimiter
  have hreach : Reachable (.fixed .epoch) store := .run _ (.run _ .empty)
  obtain ⟨-, names, hwalk, hlisted, -, -⟩ := walk_finds_all hreach hdelimiter "media" "p/"
  refine ⟨hreach, ?_⟩
  rw [hwalk, ← hlisted]
  decide +kernel

end Store

end ObjectStorage
