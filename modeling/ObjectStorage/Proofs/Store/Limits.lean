import ObjectStorage.Proofs.Store.Directories
import ObjectStorage.Proofs.Store.Names

/-!
# Limits of listings

A limit ends a listing early and changes nothing else: `Store.limits_truncate` says
that what is shown is a start of what is shown without a limit, and that names and
infos are listed alike. Names that add nothing to a listing do not count.
-/

namespace ObjectStorage

namespace ListOptions

/-- A listing with room for so many entries shows the first ones of all. -/
theorem entriesFrom_some (options : ListOptions) (room : Nat) (shown : List String)
    (named : List (String × StoredObject)) : options.entriesFrom (some room) shown named =
      (options.entriesFrom none shown named).take room := by
  induction named generalizing room shown with
  | nil => rw [entriesFrom, entriesFrom, List.take_nil]
  | cons first rest ih =>
    obtain ⟨name, stored⟩ := first
    cases room with
    | zero => rw [entriesFrom, if_pos rfl, List.take_zero]
    | succ room =>
      rw [entriesFrom_cons (by simp), entriesFrom_cons (by simp)]
      split
      · exact ih (room + 1) shown
      · rw [List.take_succ_cons, Option.map_none, ← ih]
        rfl

/-- What a listing shows depends on its options only by what it shows names as. -/
theorem entriesFrom_congr {options other : ListOptions} {room : Option Nat} {shown : List String}
    {named : List (String × StoredObject)}
    (hsame : ∀ name, options.representative name = other.representative name) :
    options.entriesFrom room shown named = other.entriesFrom room shown named := by
  induction named generalizing room shown with
  | nil => rfl
  | cons first rest ih =>
    obtain ⟨name, stored⟩ := first
    by_cases hroom : room = some 0
    · rw [entriesFrom, entriesFrom, if_pos hroom, if_pos hroom]
    · rw [entriesFrom_cons hroom, entriesFrom_cons hroom, hsame, ih, ih]

end ListOptions

namespace Buckets

variable {buckets : Buckets} {bucketName : String} {options : ListOptions}

/-- A limit keeps the first entries of a listing. -/
theorem entries_limited {limit : Nat} (hlimit : limit ≠ 0) :
    buckets.entries bucketName { options with maxResults := some limit } =
      (buckets.entries bucketName { options with maxResults := none }).take limit := by
  unfold entries
  cases hbucket : buckets[bucketName]? with
  | none => exact List.take_nil.symm
  | some bucket =>
    have hroom : ({ options with maxResults := some limit } : ListOptions).limit = some limit := by
      simp [ListOptions.limit, hlimit]
    show bucket.entries _ = (bucket.entries _).take limit
    rw [StoredBucket.entries, hroom, ListOptions.entriesFrom_some]
    exact congrArg (List.take limit) (ListOptions.entriesFrom_congr fun _ => rfl)

/-- A limit of zero is none. -/
theorem entries_zero : buckets.entries bucketName { options with maxResults := some 0 } =
    buckets.entries bucketName { options with maxResults := none } := by
  unfold entries
  cases hbucket : buckets[bucketName]? with
  | none => rfl
  | some bucket =>
    show bucket.entries _ = bucket.entries _
    exact ListOptions.entriesFrom_congr fun _ => rfl

/-- What a listing shows about a name has the id of the object of that name. -/
theorem WellFormed.ids_entries (h : buckets.WellFormed) :
    ((buckets.entries bucketName options).map (·.info bucketName)).map (·.resourceId) =
      ((buckets.entries bucketName options).map (·.name)).map (.object bucketName ·) := by
  rw [List.map_map, List.map_map]
  exact List.map_congr_left fun entry hentry => (h.named_of_listed hentry).1

end Buckets

/-- Says that an answer that depends on a limit is cut to it: it starts the answer without a limit,
and the answers with greater ones. A limit of zero is none. -/
structure Truncates {β : Type} (answer : Option Nat → Outcome (List β)) : Prop where
  limited : ∀ limit, 0 < limit → answer (some limit) = (answer none).map (·.take limit)
  zero : answer (some 0) = answer none
  nested : ∀ {limit greater shorter longer}, 0 < limit → limit ≤ greater →
    answer (some limit) = .ok shorter → answer (some greater) = .ok longer → shorter <+: longer

/-- What is cut to its limit starts what is cut to a greater one. -/
theorem Truncates.of_limited {β : Type} {answer : Option Nat → Outcome (List β)}
    (limited : ∀ limit, 0 < limit → answer (some limit) = (answer none).map (·.take limit))
    (zero : answer (some 0) = answer none) : Truncates answer where
  limited := limited
  zero := zero
  nested := by
    intro limit greater shorter longer hpos hle hshorter hlonger
    rw [limited _ hpos] at hshorter
    rw [limited _ (Nat.lt_of_lt_of_le hpos hle)] at hlonger
    cases hall : answer none with
    | error failure =>
      rw [hall] at hshorter
      cases hshorter
    | ok all =>
      rw [hall] at hshorter hlonger
      obtain rfl := Except.ok.inj hshorter
      obtain rfl := Except.ok.inj hlonger
      exact List.take_prefix_take_left hle

namespace Store

variable {store : Store} {bucketName : String} {options : ListOptions}

/-- A change of what a question answers is one of the answer. -/
theorem read_map {α β : Type} (f : α → β) (question : Buckets → α) :
    (store.read fun buckets => .ok (f (question buckets))).1 =
      (store.read fun buckets => .ok (question buckets)).1.map f := by
  unfold read
  cases store.available <;> rfl

/-- What a listing shows of its entries is cut to its limit. -/
theorem truncates_entries {β : Type} (f : Listed → β) (bucketName : String)
    (options : ListOptions) : Truncates fun limit => (store.read fun buckets =>
      .ok ((buckets.entries bucketName { options with maxResults := limit }).map f)).1 := by
  refine .of_limited (fun limit hpos => ?_) ?_
  · simp only [Buckets.entries_limited (Nat.ne_of_gt hpos), List.map_take]
    exact read_map _ _
  · simp only [Buckets.entries_zero]

/-- In a store that operations lead to, listings are cut to their limits, and names and infos are
listed alike. -/
theorem limits_truncate {clock : Clock} (hreach : Reachable clock store) (bucketName : String)
    (options : ListOptions) :
    (Truncates fun limit =>
      (store.run (.listObjectNames bucketName { options with maxResults := limit })).1) ∧
    (Truncates fun limit =>
      (store.run (.listObjectInfo bucketName { options with maxResults := limit })).1) ∧
    (store.run (.listObjectInfo bucketName options)).1.map (·.map (·.resourceId)) =
      (store.run (.listObjectNames bucketName options)).1.map
        (·.map (.object bucketName ·)) := by
  refine ⟨truncates_entries _ bucketName options, truncates_entries _ bucketName options, ?_⟩
  rw [run, run, ← read_map, ← read_map, read, read, hreach.wellFormed.ids_entries]

/-- A limit counts a directory once, however many names lie in it. -/
theorem limit_counts_directories :
    let store := (((empty (.fixed .epoch)).run (.createBucket "media" {})).2.run
      (.createEmptyObjects [.object "media" "c", .object "media" "b/y", .object "media" "a",
        .object "media" "b/x"] {})).2
    let listed := fun limit => (store.run
      (.listObjectNames "media" { delimiter := some "/", maxResults := limit })).1
    Reachable (.fixed .epoch) store ∧ listed none = .ok ["a", "b/", "c"] ∧
      listed (some 2) = .ok ["a", "b/"] ∧ listed (some 0) = .ok ["a", "b/", "c"] := by
  intro store listed
  have hreach : Reachable (.fixed .epoch) store := .run _ (.run _ .empty)
  obtain ⟨hnames, -, -⟩ := limits_truncate hreach "media" { delimiter := some "/" }
  have hall : listed none = .ok ["a", "b/", "c"] := by decide +kernel
  refine ⟨hreach, hall, ?_, hnames.zero.trans hall⟩
  exact (hnames.limited 2 (by decide)).trans (congrArg _ hall)

end Store

end ObjectStorage
