import Mathlib.Data.List.Basic
import ObjectStorage.Proofs.Store.Views
import ObjectStorage.Proofs.Text.ByteOrder
import ObjectStorage.Proofs.Text.Cut

/-!
# The names of a listing

`ListOptions.Shows` says as which name a listing shows a stored one: up to the first
delimiter behind the prefix, or as it is. `Store.listing_complete` says that a listing
without a limit shows exactly these names, in strictly ascending order of their bytes,
and about each of them what is stored there or else a directory. It rests on
`ListOptions.lt_of_representative_lt`: names are in the order of what they are shown
as, so that all names of one directory follow upon each other.
-/

namespace ObjectStorage

namespace ListOptions

variable {options : ListOptions} {name other directory : String} {rest kept : List Char}

/-- Says that a listing goes through a name, and as which one it shows it. -/
inductive Shows (options : ListOptions) (name : String) : String → Prop where
  | whole {rest : List Char} :
      name.toList = options.prefixText ++ rest →
      (∀ delimiter, options.delimiter = some delimiter → delimiter ≠ "" →
        ¬ delimiter.toList <:+: rest) →
      Shows options name name
  | cut {delimiter : String} {rest kept : List Char} :
      name.toList = options.prefixText ++ rest →
      options.delimiter = some delimiter → delimiter ≠ "" →
      Text.CutBehindFirst delimiter.toList rest kept →
      Shows options name (String.ofList (options.prefixText ++ kept))

/-- A name is covered when it goes on behind the prefix. -/
theorem covers_iff :
    options.covers name = true ↔ ∃ rest, name.toList = options.prefixText ++ rest := by
  rw [covers, List.isPrefixOf_iff_prefix]
  exact exists_congr fun _ => eq_comm

/-- Only a delimiter that is not empty counts. -/
theorem delimiterText_eq_some {word : List Char} :
    options.delimiterText = some word ↔
      ∃ delimiter, options.delimiter = some delimiter ∧ delimiter ≠ "" ∧
        delimiter.toList = word := by
  rw [delimiterText, Option.filter_eq_some_iff, Option.map_eq_some_iff]
  constructor
  · rintro ⟨⟨delimiter, hdelimiter, rfl⟩, hne⟩
    exact ⟨delimiter, hdelimiter, by simpa using hne, rfl⟩
  · rintro ⟨delimiter, hdelimiter, hne, rfl⟩
    exact ⟨⟨delimiter, hdelimiter, rfl⟩, by simpa using hne⟩

/-- What a listing keeps of the text behind the prefix, if the delimiter occurs there. -/
def kept? (options : ListOptions) (rest : List Char) : Option (List Char) :=
  options.delimiterText.bind (Text.throughFirst · rest)

/-- What is kept is cut right behind the first delimiter. -/
theorem kept?_eq_some_iff : options.kept? rest = some kept ↔
    ∃ delimiter, options.delimiter = some delimiter ∧ delimiter ≠ "" ∧
      Text.CutBehindFirst delimiter.toList rest kept := by
  rw [kept?, Option.bind_eq_some_iff]
  simp only [Text.throughFirst_eq_some_iff, delimiterText_eq_some]
  constructor
  · rintro ⟨word, ⟨delimiter, hdelimiter, hne, rfl⟩, hcut⟩
    exact ⟨delimiter, hdelimiter, hne, hcut⟩
  · rintro ⟨delimiter, hdelimiter, hne, hcut⟩
    exact ⟨_, ⟨delimiter, hdelimiter, hne, rfl⟩, hcut⟩

/-- Everything is kept when no delimiter occurs. -/
theorem kept?_eq_none_iff : options.kept? rest = none ↔
    ∀ delimiter, options.delimiter = some delimiter → delimiter ≠ "" →
      ¬ delimiter.toList <:+: rest := by
  rw [kept?, Option.bind_eq_none_iff]
  simp only [Text.throughFirst_eq_none_iff, delimiterText_eq_some]
  constructor
  · intro h delimiter hdelimiter hne
    exact h _ ⟨delimiter, hdelimiter, hne, rfl⟩
  · rintro h word ⟨delimiter, hdelimiter, hne, rfl⟩
    exact h delimiter hdelimiter hne

/-- What is kept is kept as well when something else follows it. -/
theorem kept?_append (h : options.kept? rest = some kept) (later : List Char) :
    options.kept? (kept ++ later) = some kept := by
  obtain ⟨word, hword, hcut⟩ := Option.bind_eq_some_iff.1 h
  rw [kept?, hword, Option.bind_some,
    Text.throughFirst_append (Text.throughFirst_self hcut) later]

/-- The directory of a covered name is the prefix with what is kept behind it. -/
theorem directory?_eq (hname : name.toList = options.prefixText ++ rest) :
    options.directory? name =
      (options.kept? rest).map fun kept => String.ofList (options.prefixText ++ kept) := by
  rw [directory?, hname, List.drop_left, kept?]
  cases options.delimiterText <;> rfl

/-- What a covered name is shown as starts with the prefix as well. -/
theorem toList_representative (hname : name.toList = options.prefixText ++ rest) :
    (options.representative name).toList =
      options.prefixText ++ (options.kept? rest).getD rest := by
  rw [representative, directory?_eq hname]
  cases options.kept? rest with
  | none => exact hname
  | some kept => exact String.toList_ofList

/-- A listing shows the names that it covers as their representatives. -/
theorem shows_iff {shown : String} :
    options.Shows name shown ↔
      options.covers name = true ∧ options.representative name = shown := by
  constructor
  · intro h
    cases h with
    | whole hname hfree =>
      refine ⟨covers_iff.2 ⟨_, hname⟩, ?_⟩
      rw [representative, directory?_eq hname, kept?_eq_none_iff.2 hfree]
      rfl
    | cut hname hdelimiter hne hcut =>
      refine ⟨covers_iff.2 ⟨_, hname⟩, ?_⟩
      rw [representative, directory?_eq hname,
        kept?_eq_some_iff.2 ⟨_, hdelimiter, hne, hcut⟩]
      rfl
  · rintro ⟨hcovers, rfl⟩
    obtain ⟨rest, hname⟩ := covers_iff.1 hcovers
    rw [representative, directory?_eq hname]
    cases hkept : options.kept? rest with
    | none => exact .whole hname (kept?_eq_none_iff.1 hkept)
    | some kept =>
      obtain ⟨delimiter, hdelimiter, hne, hcut⟩ := kept?_eq_some_iff.1 hkept
      exact .cut hname hdelimiter hne hcut

/-- A name that goes on behind a directory is shown as that directory. -/
theorem representative_of_directory (hcovers : options.covers name = true)
    (hdirectory : options.directory? name = some directory)
    (hbelow : directory.toList <+: other.toList) : options.representative other = directory := by
  obtain ⟨rest, hname⟩ := covers_iff.1 hcovers
  rw [directory?_eq hname] at hdirectory
  obtain ⟨kept, hkept, rfl⟩ := Option.map_eq_some_iff.1 hdirectory
  obtain ⟨later, hother⟩ := hbelow
  rw [String.toList_ofList, List.append_assoc] at hother
  rw [representative, directory?_eq hother.symm, kept?_append hkept]
  rfl

/-- Covered names are in the order of what they are shown as, when that differs. -/
theorem lt_of_representative_lt (hcovers : options.covers name = true)
    (hother : options.covers other = true)
    (h : options.representative name < options.representative other) : name < other := by
  obtain ⟨rest, hname⟩ := covers_iff.1 hcovers
  obtain ⟨others, hothers⟩ := covers_iff.1 hother
  rw [String.lt_iff, toList_representative hname, toList_representative hothers] at h
  have hrest : (options.kept? rest).getD rest < (options.kept? others).getD others := by
    rw [← List.not_le]
    intro hle
    exact List.not_lt.2 (List.append_left_le hle) h
  have hlt : rest < others := by
    unfold kept? at hrest
    cases hword : options.delimiterText with
    | none =>
      rw [hword] at hrest
      exact hrest
    | some word =>
      rw [hword] at hrest
      exact Text.lt_of_cut_lt hrest
  rw [String.lt_iff, hname, hothers]
  exact List.append_left_lt hlt

/-- An entry bears the name that its object is shown as. -/
theorem name_entry {stored : StoredObject}
    (hlabel : stored.info.resourceId.objectName = some name) :
    (if options.representative name = name then Listed.object stored
      else .directory (options.representative name)).name = options.representative name := by
  split
  · next hsame => rw [Listed.name, hlabel, Option.getD_some, hsame]
  · rfl

variable {named : List (String × StoredObject)} {shown : List String}

/-- A listing without a limit shows what any of the names is shown as, unless it was shown
before. -/
theorem mem_names_entriesFrom {listed : String}
    (hlabel : ∀ pair ∈ named, pair.2.info.resourceId.objectName = some pair.1) :
    listed ∈ (options.entriesFrom none shown named).map (·.name) ↔
      listed ∉ shown ∧ ∃ pair ∈ named, options.representative pair.1 = listed := by
  induction named generalizing shown with
  | nil => simp [entriesFrom]
  | cons first rest ih =>
    obtain ⟨name, stored⟩ := first
    have hrest : ∀ pair ∈ rest, pair.2.info.resourceId.objectName = some pair.1 :=
      fun pair hpair => hlabel pair (.tail _ hpair)
    rw [entriesFrom_cons (by simp), Option.map_none, List.exists_mem_cons_iff]
    split
    · next hknown =>
      rw [ih hrest]
      have hnot : listed ∉ shown → options.representative name ≠ listed := by
        rintro hnew rfl
        exact hnew hknown
      exact and_congr_right fun hnew => (or_iff_right (hnot hnew)).symm
    · next hnew =>
      rw [List.map_cons, name_entry (hlabel _ (.head _)), List.mem_cons, ih hrest, List.mem_cons]
      constructor
      · rintro (rfl | ⟨hnot, hlater⟩)
        · exact ⟨hnew, .inl rfl⟩
        · exact ⟨fun hshown => hnot (.inr hshown), .inr hlater⟩
      · rintro ⟨hnot, rfl | hlater⟩
        · exact .inl rfl
        · by_cases heq : listed = options.representative name
          · exact .inl heq
          · exact .inr ⟨fun hmem => hmem.elim heq hnot, hlater⟩

/-- A listing of names in order shows names in order. -/
theorem sorted_names_entriesFrom
    (hlabel : ∀ pair ∈ named, pair.2.info.resourceId.objectName = some pair.1)
    (hcovers : ∀ pair ∈ named, options.covers pair.1 = true)
    (hsorted : named.Pairwise fun a b => a.1 < b.1) :
    ((options.entriesFrom none shown named).map (·.name)).Pairwise (· < ·) := by
  induction named generalizing shown with
  | nil => exact .nil
  | cons first rest ih =>
    obtain ⟨name, stored⟩ := first
    obtain ⟨hfirst, hrest⟩ := List.pairwise_cons.1 hsorted
    have hlabelRest : ∀ pair ∈ rest, pair.2.info.resourceId.objectName = some pair.1 :=
      fun pair hpair => hlabel pair (.tail _ hpair)
    have hcoversRest : ∀ pair ∈ rest, options.covers pair.1 = true :=
      fun pair hpair => hcovers pair (.tail _ hpair)
    rw [entriesFrom_cons (by simp), Option.map_none]
    split
    · exact ih hlabelRest hcoversRest hrest
    · rw [List.map_cons, name_entry (hlabel _ (.head _))]
      refine List.pairwise_cons.2 ⟨?_, ih hlabelRest hcoversRest hrest⟩
      intro listed hlisted
      obtain ⟨hnew, pair, hpair, rfl⟩ := (mem_names_entriesFrom hlabelRest).1 hlisted
      rcases Std.lt_trichotomy (options.representative name) (options.representative pair.1) with
        hlt | heq | hgt
      · exact hlt
      · exact (hnew (heq ▸ .head _)).elim
      · -- The later name would come first, as does what it is shown as.
        have hback := lt_of_representative_lt (hcoversRest pair hpair) (hcovers _ (.head _)) hgt
        exact (String.lt_irrefl name (String.lt_trans (hfirst pair hpair) hback)).elim

end ListOptions

namespace Buckets

variable {buckets : Buckets} {bucketName : String} {options : ListOptions}

/-- The names that a listing of a bucket shows. -/
def listedNames (buckets : Buckets) (bucketName : String) (options : ListOptions) : List String :=
  (buckets.entries bucketName options).map (·.name)

/-- The info that a listing shows for a name: that of the object there, or else a directory. -/
def listedInfo (buckets : Buckets) (bucketName name : String) : ItemInfo :=
  match buckets.object? (.object bucketName name) with
  | some stored => stored.info
  | none => .inferredDirectory (.object bucketName name)

namespace WellFormed

/-- The entries of a listing without a limit come from the covered names of the bucket, in
order. -/
theorem entries_eq (h : buckets.WellFormed) (bucketName : String) (hlimit : options.limit = none) :
    ∃ named : List (String × StoredObject),
      buckets.entries bucketName options = options.entriesFrom none [] named ∧
      (∀ pair ∈ named, pair.2.info.resourceId.objectName = some pair.1) ∧
      (∀ name, (∃ pair ∈ named, pair.1 = name) ↔
        name ∈ buckets.objectNames bucketName ∧ options.covers name = true) ∧
      named.Pairwise fun a b => a.1 < b.1 := by
  unfold entries
  cases hbucket : buckets[bucketName]? with
  | none => exact ⟨[], rfl, by simp, by simp [objectNames, hbucket], .nil⟩
  | some bucket =>
    refine ⟨bucket.objects.toList.filter fun pair => options.covers pair.1, ?_, ?_, ?_, ?_⟩
    · rw [Option.map_some, Option.getD_some, StoredBucket.entries, hlimit]
    · intro pair hpair
      rw [(h.object_of_mem hbucket (List.mem_filter.1 hpair).1).2]
      rfl
    · intro name
      simp only [objectNames, hbucket, Option.map_some, Option.getD_some,
        ← Std.ExtTreeMap.map_fst_toList_eq_keys, List.mem_map, List.mem_filter]
      constructor
      · rintro ⟨pair, ⟨hpair, hcovers⟩, rfl⟩
        exact ⟨⟨pair, hpair, rfl⟩, hcovers⟩
      · rintro ⟨⟨pair, hpair, rfl⟩, hcovers⟩
        exact ⟨pair, ⟨hpair, hcovers⟩, rfl⟩
    · refine List.Pairwise.filter _ (Std.ExtTreeMap.ordered_keys_toList.imp ?_)
      exact compareOfLessAndEq_eq_lt.1

/-- A listing without a limit shows what the covered names of the bucket are shown as. -/
theorem mem_listedNames (h : buckets.WellFormed) (hlimit : options.limit = none) {shown : String} :
    shown ∈ buckets.listedNames bucketName options ↔
      ∃ name ∈ buckets.objectNames bucketName,
        options.covers name = true ∧ options.representative name = shown := by
  obtain ⟨named, hentries, hlabel, hnames, -⟩ := h.entries_eq bucketName hlimit
  rw [listedNames, hentries, ListOptions.mem_names_entriesFrom hlabel]
  constructor
  · rintro ⟨-, pair, hpair, hshown⟩
    obtain ⟨hstored, hcovers⟩ := (hnames pair.1).1 ⟨pair, hpair, rfl⟩
    exact ⟨pair.1, hstored, hcovers, hshown⟩
  · rintro ⟨name, hstored, hcovers, hshown⟩
    obtain ⟨pair, hpair, rfl⟩ := (hnames name).2 ⟨hstored, hcovers⟩
    exact ⟨List.not_mem_nil, pair, hpair, hshown⟩

/-- A listing without a limit shows names in strictly ascending order. -/
theorem sorted_listedNames (h : buckets.WellFormed) (hlimit : options.limit = none) :
    (buckets.listedNames bucketName options).Pairwise (· < ·) := by
  obtain ⟨named, hentries, hlabel, hnames, hsorted⟩ := h.entries_eq bucketName hlimit
  rw [listedNames, hentries]
  refine ListOptions.sorted_names_entriesFrom hlabel ?_ hsorted
  exact fun pair hpair => ((hnames pair.1).1 ⟨pair, hpair, rfl⟩).2

/-- The infos of a listing are about the names of the same listing, one for each of them. -/
theorem map_info_entries (h : buckets.WellFormed) :
    (buckets.entries bucketName options).map (·.info bucketName) =
      (buckets.listedNames bucketName options).map (buckets.listedInfo bucketName) := by
  rw [listedNames, List.map_map]
  refine List.map_congr_left fun entry hentry => ?_
  rw [Function.comp_apply, listedInfo]
  cases entry with
  | object stored =>
    rw [h.object?_listed hentry]
    rfl
  | directory name =>
    rw [show (Listed.directory name).name = name from rfl]
    rcases h.lookup_listed hentry with hlookup | ⟨other, -, heq, -, -, -, hnone⟩
    · cases hobject : buckets.object? (.object bucketName name) with
      | none => rfl
      | some stored => exact hlookup.symm.trans (lookup_of_object? hobject)
    · obtain rfl := Listed.directory.inj heq
      rw [hnone]
      rfl

end WellFormed

end Buckets

namespace Store

/-- Says that the listings of a bucket, unless they are refused, answer with these names and with
the info of each, and that these are what its objects are to be shown as, in the order of their
bytes. -/
structure ListsAs (store : Store) (bucketName : String) (options : ListOptions)
    (names : List String) : Prop where
  sorted : names.Pairwise fun a b => Text.bytes a < Text.bytes b
  complete : ∀ shown, shown ∈ names ↔
    ∃ name ∈ store.buckets.objectNames bucketName, options.Shows name shown
  answersNames : store.run (.listObjectNames bucketName options) = store.read fun _ => .ok names
  answersInfos : store.run (.listObjectInfo bucketName options) =
    store.read fun buckets => .ok (names.map (buckets.listedInfo bucketName))

variable {store : Store} {bucketName : String} {options : ListOptions}

/-- A listing of names answers with the names that are listed. -/
theorem run_listObjectNames : store.run (.listObjectNames bucketName options) =
    store.read fun buckets => .ok (buckets.listedNames bucketName options) := rfl

/-- A listing of infos answers with the info of each name that is listed. -/
theorem run_listObjectInfo (h : store.buckets.WellFormed) :
    store.run (.listObjectInfo bucketName options) = store.read fun buckets =>
      .ok ((buckets.listedNames bucketName options).map (buckets.listedInfo bucketName)) := by
  rw [run, read, read, h.map_info_entries]

/-- In a store that operations lead to, a listing without a limit shows exactly what the objects of
the bucket are to be shown as, each of it once and in order, and about it the object there or else a
directory. -/
theorem listing_complete {clock : Clock} (hreach : Reachable clock store) (bucketName : String)
    (options : ListOptions) (hlimit : options.limit = none) :
    ∃ names, store.ListsAs bucketName options names := by
  have hwf := hreach.wellFormed
  refine ⟨store.buckets.listedNames bucketName options, ?_, ?_, ?_, ?_⟩
  · exact (hwf.sorted_listedNames hlimit).imp Text.bytes_lt_iff.2
  · intro shown
    simp only [hwf.mem_listedNames hlimit, ListOptions.shows_iff]
  · rw [run_listObjectNames, read, read]
  · rw [run_listObjectInfo hwf, read, read]

/-- A delimiter that overlaps with itself cuts behind its first occurrence, and an object that is
named like a directory is shown in its place. -/
theorem overlapping_listing_complete :
    let store := (((empty (.fixed .epoch)).run (.createBucket "media" {})).2.run
      (.createEmptyObjects [.object "media" "p/baaa", .object "media" "p/aaa",
        .object "media" "p/", .object "media" "p/aa", .object "media" "q"] {})).2
    let options : ListOptions := { namePrefix := some "p/", delimiter := some "aa" }
    Reachable (.fixed .epoch) store ∧ options.limit = none ∧
      store.ListsAs "media" options ["p/", "p/aa", "p/baa"] ∧
      (store.buckets.object? (.object "media" "p/aa")).map (·.info) =
        some (store.buckets.listedInfo "media" "p/aa") ∧
      store.buckets.listedInfo "media" "p/baa" =
        .inferredDirectory (.object "media" "p/baa") := by
  intro store options
  have hreach : Reachable (.fixed .epoch) store := .run _ (.run _ .empty)
  obtain ⟨names, hlists⟩ := listing_complete hreach "media" options rfl
  have hrun : (store.run (.listObjectNames "media" options)).1 =
      .ok ["p/", "p/aa", "p/baa"] := by
    decide +kernel
  rw [hlists.answersNames, read_fst_eq_ok (by decide +kernel)] at hrun
  obtain rfl := Except.ok.inj hrun
  exact ⟨hreach, rfl, hlists, by decide +kernel, by decide +kernel⟩

end Store

end ObjectStorage
