import ObjectStorage.Proofs.Store.WellFormed
import ObjectStorage.Store.Listing

/-!
# What a listing shows

`Buckets.WellFormed.lookup_listed` says that each entry of a listing is what a
lookup would answer, or a directory that ends in the delimiter and under whose
name no object lies. The second part rests on the order of the listing: an object
named like a directory comes before all names below it.
-/

namespace ObjectStorage

/-- A text that starts another one and differs from it comes first. -/
theorem compare_of_prefix {a b : String} (hstart : a.toList <+: b.toList) (hne : a ≠ b) :
    compare a b = .lt := by
  cases hcompare : compare a b with
  | lt => rfl
  | eq => exact absurd (Std.LawfulEqOrd.eq_of_compare hcompare) hne
  | gt =>
    have hlt : compare b a = .lt := Std.OrientedCmp.lt_of_gt hcompare
    have hle : ¬ b.toList < a.toList := List.IsPrefix.le hstart
    exact absurd (compareOfLessAndEq_eq_lt.1 hlt) hle

namespace ListOptions

variable {options : ListOptions} {name directory : String}

/-- A directory is what stands before the rest of a covered name, and ends in the delimiter. -/
theorem directory?_eq_some (hcovers : options.covers name = true)
    (h : options.directory? name = some directory) :
    ∃ delimiter, options.delimiter = some delimiter ∧ delimiter ≠ "" ∧
      delimiter.toList <:+ directory.toList ∧ directory.toList <+: name.toList := by
  obtain ⟨word, hword, hkept⟩ := Option.bind_eq_some_iff.1 h
  obtain ⟨kept, hcut, rfl⟩ := Option.map_eq_some_iff.1 hkept
  obtain ⟨hmap, hne⟩ := Option.filter_eq_some_iff.1 hword
  obtain ⟨delimiter, hdelimiter, rfl⟩ := Option.map_eq_some_iff.1 hmap
  obtain ⟨before, after, rfl, hrest⟩ := Text.throughFirst_eq_some hcut
  obtain ⟨rest, hname⟩ := List.isPrefixOf_iff_prefix.1 hcovers
  refine ⟨delimiter, hdelimiter, ?_, ?_, ?_⟩
  · rintro rfl
    simp at hne
  · exact ⟨options.prefixText ++ before, by simp⟩
  · refine ⟨after, ?_⟩
    rw [← hname, List.drop_left] at hrest
    rw [← hname, hrest]
    simp

/-- A directory stands for itself. -/
theorem directory?_directory (h : options.directory? name = some directory) :
    options.directory? directory = some directory := by
  obtain ⟨word, hword, hkept⟩ := Option.bind_eq_some_iff.1 h
  obtain ⟨kept, hcut, rfl⟩ := Option.map_eq_some_iff.1 hkept
  rw [directory?, hword]
  simp [Text.throughFirst_self hcut]

/-- A directory is covered like the names that it stands for. -/
theorem covers_directory (h : options.directory? name = some directory) :
    options.covers directory = true := by
  obtain ⟨word, hword, hkept⟩ := Option.bind_eq_some_iff.1 h
  obtain ⟨kept, hcut, rfl⟩ := Option.map_eq_some_iff.1 hkept
  exact List.isPrefixOf_iff_prefix.2 ⟨kept, by simp⟩

/-- A name that is listed under another one is listed under its directory. -/
theorem directory?_of_representative_ne (h : options.representative name ≠ name) :
    options.directory? name = some (options.representative name) := by
  unfold representative at h ⊢
  cases hdirectory : options.directory? name with
  | none => simp [hdirectory] at h
  | some directory => rfl

/-- The name that a name is listed under is listed under itself. -/
theorem representative_representative :
    options.representative (options.representative name) = options.representative name := by
  by_cases h : options.representative name = name
  · rw [h, h]
  · have hdirectory := directory?_directory (directory?_of_representative_ne h)
    rw [representative, hdirectory]
    rfl

/-- While there is room, a name is left out when it was already shown, and listed otherwise. -/
theorem entriesFrom_cons {room : Option Nat} (hroom : room ≠ some 0) {shown : List String}
    {stored : StoredObject} {named : List (String × StoredObject)} :
    options.entriesFrom room shown ((name, stored) :: named) =
      if options.representative name ∈ shown then options.entriesFrom room shown named
      else
        (if options.representative name = name then .object stored
          else .directory (options.representative name)) ::
          options.entriesFrom (room.map (· - 1)) (options.representative name :: shown) named := by
  rw [entriesFrom, if_neg hroom]
  simp only [List.contains_iff_mem]

/-- Every entry stands for one of the names that the listing goes through, and its own name has
not been shown before. -/
theorem mem_entriesFrom {room : Option Nat} {shown : List String}
    {named : List (String × StoredObject)} {entry : Listed}
    (h : entry ∈ options.entriesFrom room shown named) :
    ∃ name stored, (name, stored) ∈ named ∧ options.representative name ∉ shown ∧
      entry = if options.representative name = name then .object stored
        else .directory (options.representative name) := by
  induction named generalizing room shown with
  | nil => simp [entriesFrom] at h
  | cons first rest ih =>
    obtain ⟨name, stored⟩ := first
    by_cases hroom : room = some 0
    · rw [entriesFrom, if_pos hroom] at h
      cases h
    · rw [entriesFrom_cons hroom] at h
      split at h
      · obtain ⟨other, found, hmem, hnew, heq⟩ := ih h
        exact ⟨other, found, .tail _ hmem, hnew, heq⟩
      · next hnew =>
        rcases List.mem_cons.1 h with rfl | htail
        · exact ⟨name, stored, .head _, hnew, rfl⟩
        · obtain ⟨other, found, hmem, hnew, heq⟩ := ih htail
          exact ⟨other, found, .tail _ hmem, fun hshown => hnew (.tail _ hshown), heq⟩

/-- No object that a listing goes through is named like one of the directories that it shows. -/
theorem directory_not_named {room : Option Nat} {shown : List String}
    {named : List (String × StoredObject)}
    (hsorted : named.Pairwise fun a b => compare a.1 b.1 = .lt)
    (hcovered : ∀ pair ∈ named, options.covers pair.1 = true)
    (h : .directory directory ∈ options.entriesFrom room shown named) :
    directory ∉ named.map (·.1) := by
  induction named generalizing room shown with
  | nil => simp
  | cons first rest ih =>
    obtain ⟨name, stored⟩ := first
    obtain ⟨hfirst, hrest⟩ := List.pairwise_cons.1 hsorted
    have hcoveredRest : ∀ pair ∈ rest, options.covers pair.1 = true :=
      fun pair hpair => hcovered pair (.tail _ hpair)
    -- A directory shown later is new there, so it is not what `name` is listed under.
    have hlater : ∀ {room shown}, options.representative name ∈ shown →
        .directory directory ∈ options.entriesFrom room shown rest →
        directory ∉ (name :: rest.map (·.1)) := by
      intro room shown hshown htail hmem
      rcases List.mem_cons.1 hmem with rfl | hmem
      · obtain ⟨other, found, -, hnew, heq⟩ := mem_entriesFrom htail
        split at heq
        · cases heq
        · obtain rfl := Listed.directory.inj heq
          exact hnew (by simpa [representative_representative] using hshown)
      · exact ih hrest hcoveredRest htail hmem
    by_cases hroom : room = some 0
    · rw [entriesFrom, if_pos hroom] at h
      cases h
    · rw [entriesFrom_cons hroom] at h
      split at h
      · next hshown => exact hlater hshown h
      · rcases List.mem_cons.1 h with heq | htail
        · split at heq
          · cases heq
          · next hne =>
            obtain rfl := Listed.directory.inj heq
            have hdirectory := directory?_of_representative_ne hne
            obtain ⟨-, -, -, -, hstart⟩ :=
              directory?_eq_some (hcovered _ (.head _)) hdirectory
            -- `name` starts with the directory, whose name would thus have come before it.
            have hlt := compare_of_prefix hstart hne
            intro hmem
            rcases List.mem_cons.1 hmem with heq | hmem
            · exact hne heq
            · obtain ⟨pair, hpair, heq⟩ := List.mem_map.1 hmem
              have hback := hfirst pair hpair
              rw [heq] at hback
              have hself := Std.TransCmp.lt_trans hlt hback
              simp at hself
        · exact hlater (.head _) htail

end ListOptions

/-- Every entry of a listing stands for an object of the bucket that the listing covers. -/
theorem Buckets.exists_listed {buckets : Buckets} {bucketName : String} {options : ListOptions}
    {entry : Listed} (h : entry ∈ buckets.entries bucketName options) :
    ∃ name stored, buckets.object? (.object bucketName name) = some stored ∧
      options.covers name = true ∧
        entry = if options.representative name = name then .object stored
          else .directory (options.representative name) := by
  unfold entries at h
  cases hbucket : buckets[bucketName]? with
  | none => simp [hbucket] at h
  | some bucket =>
    simp only [hbucket, Option.map_some, Option.getD_some, StoredBucket.entries] at h
    obtain ⟨name, stored, hmem, -, heq⟩ := ListOptions.mem_entriesFrom h
    obtain ⟨hstored, hcovers⟩ := List.mem_filter.1 hmem
    have hget := Std.ExtTreeMap.mem_toList_iff_getElem?_eq_some.1 hstored
    exact ⟨name, stored, by simp [object?, ResourceId.object, hbucket, hget], hcovers, heq⟩

/-- An object that a listing shows is the one of the name that is shown for it. -/
theorem Buckets.WellFormed.object?_listed {buckets : Buckets} (hwf : buckets.WellFormed)
    {bucketName : String} {options : ListOptions} {stored : StoredObject}
    (h : .object stored ∈ buckets.entries bucketName options) :
    buckets.object? (.object bucketName (Listed.object stored).name) = some stored := by
  obtain ⟨name, found, hobject, -, heq⟩ := exists_listed h
  split at heq
  · obtain rfl := Listed.object.inj heq
    have hname : (Listed.object stored).name = name := by
      rw [Listed.name, (hwf.object hobject).resourceId]
      rfl
    rw [hname]
    exact hobject
  · cases heq

/-- Every entry of a listing is reported as found. -/
theorem Buckets.WellFormed.found_listed {buckets : Buckets} (hwf : buckets.WellFormed)
    {bucketName : String} {options : ListOptions} {entry : Listed}
    (h : entry ∈ buckets.entries bucketName options) : (entry.info bucketName).found = true := by
  cases entry with
  | directory name => rfl
  | object stored => exact (hwf.object (hwf.object?_listed h)).found

/-- Each entry of a listing is what a lookup answers, or a directory that ends in the delimiter and
under whose name no object lies. -/
theorem Buckets.WellFormed.lookup_listed {buckets : Buckets} (hwf : buckets.WellFormed)
    {bucketName : String} {options : ListOptions} {entry : Listed}
    (h : entry ∈ buckets.entries bucketName options) :
    buckets.lookup (entry.info bucketName).resourceId = entry.info bucketName ∨
      ∃ name delimiter, entry = .directory name ∧ options.delimiter = some delimiter ∧
        delimiter ≠ "" ∧ delimiter.toList <:+ name.toList ∧
        buckets.object? (.object bucketName name) = none := by
  unfold entries at h
  cases hbucket : buckets[bucketName]? with
  | none => simp [hbucket] at h
  | some bucket =>
    have hget : ∀ name, buckets.object? (.object bucketName name) = bucket.objects[name]? := by
      intro name
      simp [object?, ResourceId.object, hbucket]
    simp only [hbucket, Option.map_some, Option.getD_some, StoredBucket.entries] at h
    obtain ⟨name, stored, hmem, -, rfl⟩ := ListOptions.mem_entriesFrom h
    obtain ⟨hstored, hcovers⟩ := List.mem_filter.1 hmem
    have hobject : buckets.object? (.object bucketName name) = some stored := by
      rw [hget]
      exact Std.ExtTreeMap.mem_toList_iff_getElem?_eq_some.1 hstored
    split
    · left
      simp only [Listed.info, (hwf.object hobject).resourceId]
      exact lookup_of_object? hobject
    · next hne =>
      right
      have hdirectory := ListOptions.directory?_of_representative_ne hne
      obtain ⟨delimiter, hdelimiter, hnonempty, hsuffix, -⟩ :=
        ListOptions.directory?_eq_some hcovers hdirectory
      refine ⟨_, delimiter, rfl, hdelimiter, hnonempty, hsuffix, ?_⟩
      rw [if_neg hne] at h
      have hfree := ListOptions.directory_not_named
        (Std.ExtTreeMap.ordered_keys_toList.filter _)
        (fun pair hpair => (List.mem_filter.1 hpair).2) h
      rw [hget]
      cases hfound : bucket.objects[options.representative name]? with
      | none => rfl
      | some found =>
        refine (hfree (List.mem_map.2 ⟨(options.representative name, found), ?_, rfl⟩)).elim
        exact List.mem_filter.2 ⟨Std.ExtTreeMap.mem_toList_iff_getElem?_eq_some.2 hfound,
          ListOptions.covers_directory hdirectory⟩

end ObjectStorage
