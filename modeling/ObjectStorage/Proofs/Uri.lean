import Mathlib.Data.List.Basic
import ObjectStorage.Naming

/-!
# URIs of resources

`ResourceId.Named` says which ids have good names. `ResourceId.parse_eq_ok` says
which texts are read, and as which id: the URI of an id with good names is read
as that id, a slash behind the URI of a bucket is skipped, and no other text is
read.
-/

namespace ObjectStorage.ResourceId

/-- Says that an id is the root, a bucket whose name is not empty and has no slash, or an object
in such a bucket whose own name is not empty. -/
inductive Named : ResourceId → Prop where
  | root : Named .root
  | bucket {bucketName : String} (hname : bucketName ≠ "") (hslash : '/' ∉ bucketName.toList) :
      Named (.bucket bucketName)
  | object {bucketName objectName : String} (hname : bucketName ≠ "")
      (hslash : '/' ∉ bucketName.toList) (hobject : objectName ≠ "") :
      Named (.object bucketName objectName)

/-- What follows the scheme in the URI of an id. -/
def path (id : ResourceId) : List Char :=
  match id.objectName with
  | some name => id.bucketName.toList ++ '/' :: name.toList
  | none => id.bucketName.toList

@[simp]
theorem path_root : root.path = [] := rfl

@[simp]
theorem path_bucket (bucketName : String) : (bucket bucketName).path = bucketName.toList := rfl

@[simp]
theorem path_object (bucketName objectName : String) :
    (object bucketName objectName).path = bucketName.toList ++ '/' :: objectName.toList := rfl

/-- A URI is the scheme and what follows it. -/
theorem toList_toUri (id : ResourceId) :
    id.toUri.toList = (scheme ++ "://").toList ++ id.path := by
  obtain ⟨bucketName, objectName⟩ := id
  cases objectName <;> simp [toUri, path]

variable {id : ResourceId} {path : List Char}

/-- A path without a slash is a bucket, or the root when it is empty. -/
theorem ofPath?_of_not_mem (h : '/' ∉ path) :
    ofPath? path = some (bucket (String.ofList path)) := by
  rw [ofPath?, Text.splitFirst_eq_none.2 h]

/-- A path that is a bucket and a slash is the bucket. -/
theorem ofPath?_bucket (hslash : '/' ∉ path) (hname : path ≠ []) :
    ofPath? (path ++ ['/']) = some (bucket (String.ofList path)) := by
  rw [ofPath?, Text.splitFirst_append hslash]
  cases path with
  | nil => exact (hname rfl).elim
  | cons first rest => rfl

/-- A path with something behind a bucket and a slash is an object. -/
theorem ofPath?_object {rest : List Char} (hslash : '/' ∉ path) (hname : path ≠ [])
    (hrest : rest ≠ []) :
    ofPath? (path ++ '/' :: rest) =
      some (object (String.ofList path) (String.ofList rest)) := by
  rw [ofPath?, Text.splitFirst_append hslash]
  cases path with
  | nil => exact (hname rfl).elim
  | cons first others =>
    cases rest with
    | nil => exact (hrest rfl).elim
    | cons next last => rfl

/-- A path that starts with a slash has no bucket. -/
theorem ofPath?_slash (rest : List Char) : ofPath? ('/' :: rest) = none := by
  simp [ofPath?, Text.splitFirst]

/-- The four kinds of paths: one without a slash, a slash in front, a bucket and a slash, and a
bucket and a slash with an object behind. -/
theorem path_cases (path : List Char) :
    '/' ∉ path ∨ (∃ rest, path = '/' :: rest) ∨
      (∃ name, '/' ∉ name ∧ name ≠ [] ∧ path = name ++ ['/']) ∨
      ∃ name rest, '/' ∉ name ∧ name ≠ [] ∧ rest ≠ [] ∧ path = name ++ '/' :: rest := by
  cases hcut : Text.splitFirst '/' path with
  | none => exact .inl (Text.splitFirst_eq_none.1 hcut)
  | some pieces =>
    obtain ⟨before, after⟩ := pieces
    obtain ⟨rfl, hslash⟩ := Text.splitFirst_eq_some hcut
    by_cases hname : before = []
    · exact .inr (.inl ⟨after, by rw [hname, List.nil_append]⟩)
    · by_cases hrest : after = []
      · exact .inr (.inr (.inl ⟨before, hslash, hname, by rw [hrest]⟩))
      · exact .inr (.inr (.inr ⟨before, after, hslash, hname, hrest, rfl⟩))

/-- A path is read as the id with good names that it is the path of; a slash behind a bucket is
skipped. -/
theorem ofPath?_eq_some :
    ofPath? path = some id ↔
      id.Named ∧ (path = id.path ∨ id.isBucket = true ∧ path = id.path ++ ['/']) := by
  constructor
  · intro h
    rcases path_cases path with hslash | ⟨rest, rfl⟩ | ⟨name, hslash, hname, rfl⟩ |
        ⟨name, rest, hslash, hname, hrest, rfl⟩
    · rw [ofPath?_of_not_mem hslash] at h
      obtain rfl := Option.some.inj h
      refine ⟨?_, .inl (by simp)⟩
      by_cases hname : path = []
      · subst hname
        exact .root
      · exact .bucket (by simpa using hname) (by simpa using hslash)
    · rw [ofPath?_slash] at h
      cases h
    · rw [ofPath?_bucket hslash hname] at h
      obtain rfl := Option.some.inj h
      refine ⟨.bucket (by simpa using hname) (by simpa using hslash), .inr ⟨?_, by simp⟩⟩
      simpa [isBucket, bucket] using hname
    · rw [ofPath?_object hslash hname hrest] at h
      obtain rfl := Option.some.inj h
      exact ⟨.object (by simpa using hname) (by simpa using hslash) (by simpa using hrest),
        .inl (by simp)⟩
  · rintro ⟨hnamed, rfl | ⟨hbucket, rfl⟩⟩
    · cases hnamed with
      | root => rfl
      | bucket hname hslash => simp [ofPath?_of_not_mem hslash]
      | object hname hslash hobject =>
        rw [path_object, ofPath?_object hslash (by simpa using hname) (by simpa using hobject)]
        simp
    · cases hnamed with
      | root => cases hbucket
      | bucket hname hslash =>
        rw [path_bucket, ofPath?_bucket hslash (by simpa using hname)]
        simp
      | object => simp [isBucket, object] at hbucket

/-- A path is read as some id unless it starts with a slash. -/
theorem exists_ofPath? : (∃ id, ofPath? path = some id) ↔ path.head? ≠ some '/' := by
  rcases path_cases path with hslash | ⟨rest, rfl⟩ | ⟨name, hslash, hname, rfl⟩ |
      ⟨name, rest, hslash, hname, hrest, rfl⟩
  · refine iff_of_true ⟨_, ofPath?_of_not_mem hslash⟩ ?_
    exact fun hhead => hslash (List.mem_of_head? hhead)
  · simp [ofPath?_slash]
  · refine iff_of_true ⟨_, ofPath?_bucket hslash hname⟩ ?_
    rw [List.head?_append_of_ne_nil _ hname]
    exact fun hhead => hslash (List.mem_of_head? hhead)
  · refine iff_of_true ⟨_, ofPath?_object hslash hname hrest⟩ ?_
    rw [List.head?_append_of_ne_nil _ hname]
    exact fun hhead => hslash (List.mem_of_head? hhead)

/-- A text is read exactly when what follows the scheme is a path. -/
theorem parse_eq_ok_iff_path {uri : String} :
    parse uri = .ok id ↔
      ∃ path, uri.toList = (scheme ++ "://").toList ++ path ∧ ofPath? path = some id := by
  unfold parse
  cases hscheme : (scheme ++ "://").toList.isPrefixOf? uri.toList with
  | none =>
    constructor
    · intro h
      cases h
    · rintro ⟨path, huri, -⟩
      rw [List.isPrefixOf?_eq_some_iff_append_eq.2 huri.symm] at hscheme
      cases hscheme
  | some path =>
    have huri := List.isPrefixOf?_eq_some_iff_append_eq.1 hscheme
    simp only [← huri, List.append_cancel_left_eq, exists_eq_left']
    cases ofPath? path <;> simp

/-- A text is read as an id with good names when it is the URI of that id, or when the id is a
bucket and the text is its URI with a slash behind. No other text is read. -/
theorem parse_eq_ok {uri : String} :
    parse uri = .ok id ↔
      id.Named ∧ (uri = id.toUri ∨ id.isBucket = true ∧ uri = id.toUri ++ "/") := by
  simp only [parse_eq_ok_iff_path, ofPath?_eq_some, ← String.toList_inj, String.toList_append,
    toList_toUri]
  constructor
  · rintro ⟨path, huri, hnamed, rfl | ⟨hbucket, rfl⟩⟩
    · exact ⟨hnamed, .inl huri⟩
    · exact ⟨hnamed, .inr ⟨hbucket, by rw [huri]; simp⟩⟩
  · rintro ⟨hnamed, huri | ⟨hbucket, huri⟩⟩
    · exact ⟨id.path, huri, hnamed, .inl rfl⟩
    · exact ⟨id.path ++ ['/'], by rw [huri]; simp, hnamed, .inr ⟨hbucket, rfl⟩⟩

/-- Exactly the texts are read that start with the scheme and go on without a slash. -/
theorem exists_parse {uri : String} :
    (∃ id, parse uri = .ok id) ↔
      ∃ rest, uri = scheme ++ "://" ++ rest ∧ rest.toList.head? ≠ some '/' := by
  constructor
  · rintro ⟨id, h⟩
    obtain ⟨path, huri, hpath⟩ := parse_eq_ok_iff_path.1 h
    refine ⟨String.ofList path, String.toList_inj.1 ?_, ?_⟩
    · simp only [huri, String.toList_append, String.toList_ofList]
    · rw [String.toList_ofList]
      exact exists_ofPath?.1 ⟨id, hpath⟩
  · rintro ⟨rest, rfl, hhead⟩
    obtain ⟨id, hpath⟩ := exists_ofPath?.2 hhead
    exact ⟨id, parse_eq_ok_iff_path.2 ⟨rest.toList, String.toList_append, hpath⟩⟩

/-- An id is read back from its URI exactly when its names are good. -/
theorem parse_toUri : parse id.toUri = .ok id ↔ id.Named := by
  rw [parse_eq_ok]
  exact and_iff_left (.inl rfl)

end ObjectStorage.ResourceId
