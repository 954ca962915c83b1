import ObjectStorage.Json.Form
import ObjectStorage.Proofs.Json.Document
import ObjectStorage.Proofs.Timestamp.Rfc3339

/-!
# JSON forms lose nothing

`JsonForm.lossless` says of each record that exactly its representable values are
read back from their texts, and that the text of what any text holds is kept when
it is read and written again. Numbers are representable within their bounds and
instants if a clock can show them; every text, byte, map and hash is. What happens
to another instant is shown by `JsonForm.stray_leap_second_lost`. A form is
kept (`JsonForm.Kept`) when the forms of its parts are, so that there is one lemma
for each type of part and one for each record.
-/

namespace ObjectStorage

/-- Says that a form can hold the description of an item: its size and its generations are words,
and its times are ones that a clock can show. -/
structure ItemInfo.Representable (info : ItemInfo) : Prop where
  size_lt : info.size < Word.bound
  contentGeneration_ge : Word.leastSigned ≤ info.contentGeneration
  contentGeneration_le : info.contentGeneration ≤ Word.greatestSigned
  metaGeneration_ge : Word.leastSigned ≤ info.metaGeneration
  metaGeneration_le : info.metaGeneration ≤ Word.greatestSigned
  creationTime_onClock : ∀ time ∈ info.creationTime, time.OnClock
  modificationTime_onClock : ∀ time ∈ info.modificationTime, time.OnClock

/-- Says that a form can hold the options of a listing: the greatest number of entries is a word. -/
def ListOptions.Representable (options : ListOptions) : Prop :=
  ∀ n ∈ options.maxResults, n < Word.bound

namespace JsonForm

open Json (Written)

variable {α : Type}

/-- Says that a value is kept by its form: the form can be written, and it is read as the value. -/
structure Kept [JsonForm α] (value : α) : Prop where
  written : (toJson value).Written
  read : ofJson? (toJson value) = some value

/-- Says that the form of a type loses nothing: exactly the representable values are read back from
their texts, and the text of what a text holds is itself kept. -/
structure Lossless (α : Type) [JsonForm α] (Representable : α → Prop) : Prop where
  read_write_iff (value : α) : read? (write value) = some value ↔ Representable value
  normalize_normalize {text normal : String} (h : normalize? α text = some normal) :
    normalize? α normal = some normal

/-- A value that its form keeps is read back from its text. -/
theorem Kept.read_write [JsonForm α] {value : α} (h : Kept value) :
    read? (write value) = some value := by
  rw [read?, write, Json.parse_toText h.written]
  exact h.read

/-- A form loses nothing if it keeps the representable values and holds no others. -/
theorem Lossless.of_kept [JsonForm α] {Representable : α → Prop}
    (hkept : ∀ value, Representable value → Kept value)
    (hholds : ∀ json value, ofJson? json = some value → Representable value) :
    Lossless α Representable where
  read_write_iff value := by
    constructor
    · intro h
      obtain ⟨json, -, hjson⟩ := Option.bind_eq_some_iff.1 h
      exact hholds json value hjson
    · intro h
      exact (hkept value h).read_write
  normalize_normalize {text normal} h := by
    obtain ⟨value, hvalue, rfl⟩ := Option.map_eq_some_iff.1 h
    obtain ⟨json, -, hjson⟩ := Option.bind_eq_some_iff.1 hvalue
    rw [normalize?, (hkept value (hholds json value hjson)).read_write, Option.map_some]

/-! ## Parts -/

theorem kept_bool (value : Bool) : Kept value where
  written := .bool value
  read := rfl

theorem written_ofString (text : String) : (Json.ofString text).Written :=
  .string (Json.isString_escape _)

theorem string?_ofString (text : String) : (Json.ofString text).string? = some text := by
  simp [Json.ofString, Json.string?, Json.unescape?_escape]

theorem kept_string (text : String) : Kept text where
  written := written_ofString text
  read := string?_ofString text

theorem kept_timestamp {time : Timestamp} (h : time.OnClock) : Kept time where
  written := written_ofString _
  read := by
    show (Json.string? (Json.ofString time.toRfc3339)).bind Timestamp.ofRfc3339? = some time
    rw [string?_ofString, Option.bind_some, Timestamp.ofRfc3339?_toRfc3339 h]

theorem written_ofNat (n : Nat) : (Json.ofNat n).Written :=
  .number (Json.isNumber_decimal n)

theorem written_ofInt (n : Int) : (Json.ofInt n).Written := by
  unfold Json.ofInt
  split
  · exact .number (Json.isNumber_neg _)
  · exact .number (Json.isNumber_decimal _)

theorem kept_byte (byte : UInt8) : Kept byte where
  written := written_ofNat _
  read := by
    show (Json.nat? 256 (Json.ofNat byte.toNat)).map UInt8.ofNat = some byte
    rw [Json.nat?_ofNat byte.toNat_lt, Option.map_some, UInt8.ofNat_toNat]

/-- Any text but `null` is read as an optional value when it is read as the value. -/
theorem ofJson?_option [JsonForm α] {json : Json} (hjson : json ≠ .null) :
    ofJson? json = (ofJson? json : Option α).map some := by
  cases json with
  | null => exact (hjson rfl).elim
  | _ => rfl

/-- An optional value is kept if a null is not the form of a value. -/
theorem kept_option [JsonForm α] {value : Option α} (h : ∀ a ∈ value, Kept a)
    (hnull : ∀ a : α, toJson a ≠ .null) : Kept value := by
  cases value with
  | none => exact ⟨.null, rfl⟩
  | some a =>
    have ha := h a rfl
    refine ⟨ha.written, ?_⟩
    show ofJson? (toJson a) = some (some a)
    rw [ofJson?_option (hnull a), ha.read, Option.map_some]

/-- What is read item by item is read together. -/
theorem mapM_map_eq_some {β γ : Type} {f : α → β} {g : β → Option γ} {k : α → γ} {items : List α}
    (h : ∀ item ∈ items, g (f item) = some (k item)) :
    (items.map f).mapM g = some (items.map k) := by
  induction items with
  | nil => rfl
  | cons item items ih =>
    rw [List.map_cons, List.mapM_cons, h item (.head _),
      ih fun other hmem => h other (.tail _ hmem)]
    rfl

/-- Items that are read back one by one are read back together. -/
theorem mapM_map_eq_self {β : Type} {f : α → β} {g : β → Option α} {items : List α}
    (h : ∀ item ∈ items, g (f item) = some item) : (items.map f).mapM g = some items := by
  rw [mapM_map_eq_some h, List.map_id']

theorem kept_list [JsonForm α] {items : List α} (h : ∀ item ∈ items, Kept item) : Kept items where
  written := by
    refine .array fun json hjson => ?_
    obtain ⟨item, hitem, rfl⟩ := List.mem_map.1 hjson
    exact (h item hitem).written
  read := mapM_map_eq_self fun item hitem => (h item hitem).read

theorem kept_bytes (bytes : Bytes) : Kept bytes :=
  kept_list fun byte _ => kept_byte byte

theorem kept_contentHash (hash : ContentHash) : Kept hash where
  written := (kept_bytes hash.toList).written
  read := by
    show ((ofJson? (toJson hash.toList)).bind fun bytes : Bytes =>
      if h : bytes.toArray.size = 32 then some ⟨bytes.toArray, h⟩ else none) = some hash
    rw [(kept_bytes hash.toList).read, Option.bind_some, dif_pos (by simp)]
    rfl

theorem written_ofFields {fields : List (String × Json)} (h : ∀ field ∈ fields, field.2.Written) :
    (Json.ofFields fields).Written := by
  refine .object ?_ ?_
  · intro field hfield
    obtain ⟨_, _, rfl⟩ := List.mem_map.1 hfield
    exact Json.isString_escape _
  · intro field hfield
    obtain ⟨other, hother, rfl⟩ := List.mem_map.1 hfield
    exact h other hother

theorem fields?_ofFields (fields : List (String × Json)) :
    (Json.ofFields fields).fields? = some fields := by
  apply mapM_map_eq_self
  intro field _
  simp [Json.unescape?_escape]

/-- Inserting fields one by one inserts them all. -/
theorem foldl_insert (fields : List (String × α)) (map : Std.ExtTreeMap String α) :
    fields.foldl (fun map (key, value) => map.insert key value) map = map.insertMany fields := by
  induction fields generalizing map with
  | nil => rw [List.foldl_nil, Std.ExtTreeMap.insertMany_nil]
  | cons field fields ih => rw [List.foldl_cons, ih, Std.ExtTreeMap.insertMany_cons]

/-- The fields of a map make up the map. -/
theorem insertMany_toList (map : Std.ExtTreeMap String α) :
    (∅ : Std.ExtTreeMap String α).insertMany map.toList = map := by
  apply Std.ExtTreeMap.ext_getElem?
  intro key
  cases hvalue : map[key]? with
  | some value =>
    have hmem : (key, value) ∈ map.toList :=
      Std.ExtTreeMap.mem_toList_iff_getElem?_eq_some.2 hvalue
    exact Std.ExtTreeMap.getElem?_insertMany_list_of_mem Std.ReflCmp.compare_self
      Std.ExtTreeMap.distinct_keys_toList hmem
  | none =>
    rw [Std.ExtTreeMap.getElem?_insertMany_list_of_contains_eq_false, Std.ExtTreeMap.getElem?_empty]
    rw [Std.ExtTreeMap.map_fst_toList_eq_keys, Std.ExtTreeMap.contains_keys,
      Std.ExtTreeMap.contains_eq_isSome_getElem?, hvalue]
    rfl

theorem kept_map [JsonForm α] {map : Std.ExtTreeMap String α}
    (h : ∀ field ∈ map.toList, Kept field.2) : Kept map where
  written := by
    apply written_ofFields
    intro field hfield
    obtain ⟨other, hother, rfl⟩ := List.mem_map.1 hfield
    exact (h other hother).written
  read := by
    have hmap := insertMany_toList map
    have hfields : (map.toList.map fun field => (field.1, toJson field.2)).mapM
        (fun field => (ofJson? field.2).bind fun value => some (field.1, value)) =
          some map.toList := by
      apply mapM_map_eq_self
      intro field hfield
      rw [(h field hfield).read, Option.bind_some]
    simp only [JsonForm.toJson, JsonForm.ofJson?, fields?_ofFields, Option.bind_eq_bind,
      Option.bind_some, Option.pure_def, hfields]
    rw [← foldl_insert] at hmap
    exact congrArg some hmap

/-! ## Records -/

/-- Only one field has the name of a field, when names differ. -/
theorem filter_eq_singleton {fields : List (String × Json)} (hnames : (fields.map (·.1)).Nodup)
    {field : String × Json} (hmem : field ∈ fields) : fields.filter (·.1 = field.1) = [field] := by
  induction fields with
  | nil => cases hmem
  | cons first others ih =>
    obtain ⟨hfirst, hothers⟩ := List.nodup_cons.1 hnames
    cases hmem with
    | head =>
      rw [List.filter_cons_of_pos (by simp), List.filter_eq_nil_iff.2]
      intro other hother hname
      exact hfirst (List.mem_map.2 ⟨other, hother, of_decide_eq_true hname⟩)
    | tail _ hmem =>
      have hname : first.1 ≠ field.1 := fun h => hfirst (List.mem_map.2 ⟨field, hmem, h.symm⟩)
      rw [List.filter_cons_of_neg (by simpa using hname), ih hothers hmem]

/-- The fields of a record are found under their names. -/
theorem record?_ofFields {names : List String} {values : List Json}
    (hlength : names.length = values.length) (hnames : names.Nodup) :
    record? names (.ofFields (names.zip values)) = some (values.map some) := by
  have hfirsts : (names.zip values).map (·.1) = names := List.map_fst_zip hlength.le
  have hseconds : (names.zip values).map (·.2) = values := List.map_snd_zip hlength.ge
  have hfilter (field) (hmem : field ∈ names.zip values) :=
    filter_eq_singleton (hfirsts.symm ▸ hnames) hmem
  generalize names.zip values = fields at hfirsts hseconds hfilter
  subst hfirsts hseconds
  show ((Json.ofFields fields).fields?.bind fun _ => _) = _
  rw [fields?_ofFields, Option.bind_some, List.map_map]
  apply mapM_map_eq_some
  intro field hmem
  rw [hfilter field hmem]
  rfl

/-- A record is kept if its fields are: it is written under their names, and what is built from
them is the record again. -/
theorem kept_record [JsonForm α] {value : α} {build : List (Option Json) → Option α}
    (names : List String) (values : List Json)
    (hjson : toJson value = .ofFields (names.zip values))
    (hread : ∀ json, ofJson? json = (record? names json).bind build)
    (hlength : names.length = values.length) (hnames : names.Nodup)
    (hwritten : ∀ value ∈ values, value.Written) (hbuild : build (values.map some) = some value) :
    Kept value where
  written := by
    rw [hjson]
    exact written_ofFields fun field hfield => hwritten field.2 (List.of_mem_zip hfield).2
  read := by
    rw [hjson, hread, record?_ofFields hlength hnames, Option.bind_some, hbuild]

theorem kept_optionalString (text : Option String) : Kept text :=
  kept_option (fun text _ => kept_string text) fun _ => nofun

theorem kept_optionalTimestamp {time : Option Timestamp} (h : ∀ t ∈ time, t.OnClock) : Kept time :=
  kept_option (fun t ht => kept_timestamp (h t ht)) fun _ => nofun

theorem kept_optionalContentHash (hash : Option ContentHash) : Kept hash :=
  kept_option (fun hash _ => kept_contentHash hash) fun _ => nofun

theorem kept_metadata (metadata : Metadata) : Kept metadata :=
  kept_map fun (_, bytes) _ => kept_bytes bytes

theorem kept_patch (patch : MetadataPatch) : Kept patch :=
  kept_map fun _ _ => kept_option (fun bytes _ => kept_bytes bytes) fun _ => nofun

theorem kept_resourceId (id : ResourceId) : Kept id := by
  have hbucketName := kept_string id.bucketName
  have hobjectName := kept_optionalString id.objectName
  refine kept_record ["bucket_name", "object_name"] [toJson id.bucketName, toJson id.objectName]
    rfl (fun _ => rfl) rfl (by decide) ?_ ?_
  · simp [hbucketName.written, hobjectName.written]
  · simp [required, optional, hbucketName.read, hobjectName.read]

theorem generation?_ofInt {n : Int} (hleast : Word.leastSigned ≤ n)
    (hgreatest : n ≤ Word.greatestSigned) : generation? (.ofInt n) = some n :=
  Json.int?_ofInt hleast hgreatest

theorem kept_itemInfo {info : ItemInfo} (h : info.Representable) : Kept info := by
  have hid := kept_resourceId info.resourceId
  have hfound := kept_bool info.found
  have hcreation := kept_optionalTimestamp h.creationTime_onClock
  have hmodification := kept_optionalTimestamp h.modificationTime_onClock
  have hlocation := kept_optionalString info.location
  have hstorageClass := kept_optionalString info.storageClass
  have hcontentType := kept_optionalString info.contentType
  have hmetadata := kept_metadata info.metadata
  have hhash := kept_optionalContentHash info.contentHash
  have hsize := Json.nat?_ofNat h.size_lt
  have hcontent := generation?_ofInt h.contentGeneration_ge h.contentGeneration_le
  have hmeta := generation?_ofInt h.metaGeneration_ge h.metaGeneration_le
  refine kept_record
    ["resource_id", "exists", "creation_time", "modification_time", "size", "location",
      "storage_class", "content_type", "metadata", "content_generation", "meta_generation",
      "content_hash"]
    [toJson info.resourceId, toJson info.found, toJson info.creationTime,
      toJson info.modificationTime, .ofNat info.size, toJson info.location,
      toJson info.storageClass, toJson info.contentType, toJson info.metadata,
      .ofInt info.contentGeneration, .ofInt info.metaGeneration, toJson info.contentHash]
    rfl (fun _ => rfl) rfl (by decide) ?_ ?_
  · simp [hid.written, hfound.written, hcreation.written, hmodification.written,
      hlocation.written, hstorageClass.written, hcontentType.written, hmetadata.written,
      hhash.written, written_ofNat, written_ofInt]
  · simp [required, optional, hid.read, hfound.read, hcreation.read, hmodification.read,
      hlocation.read, hstorageClass.read, hcontentType.read, hmetadata.read, hhash.read, hsize,
      hcontent, hmeta]

theorem kept_itemUpdate (update : ItemUpdate) : Kept update := by
  have hid := kept_resourceId update.resourceId
  have hmetadata := kept_patch update.metadata
  refine kept_record ["resource_id", "metadata"] [toJson update.resourceId, toJson update.metadata]
    rfl (fun _ => rfl) rfl (by decide) ?_ ?_
  · simp [hid.written, hmetadata.written]
  · simp [required, hid.read, hmetadata.read]

theorem kept_bucketOptions (options : BucketOptions) : Kept options := by
  have hlocation := kept_optionalString options.location
  have hstorageClass := kept_optionalString options.storageClass
  refine kept_record ["location", "storage_class"]
    [toJson options.location, toJson options.storageClass]
    rfl (fun _ => rfl) rfl (by decide) ?_ ?_
  · simp [hlocation.written, hstorageClass.written]
  · simp [optional, hlocation.read, hstorageClass.read]

theorem kept_objectOptions (options : ObjectOptions) : Kept options := by
  have hoverwrite := kept_bool options.overwrite
  have hcontentType := kept_optionalString options.contentType
  have hmetadata := kept_metadata options.metadata
  have hensureMatch := kept_bool options.ensureMatch
  refine kept_record
    ["overwrite_existing", "content_type", "metadata", "ensure_empty_objects_metadata_match"]
    [toJson options.overwrite, toJson options.contentType, toJson options.metadata,
      toJson options.ensureMatch]
    rfl (fun _ => rfl) rfl (by decide) ?_ ?_
  · simp [hoverwrite.written, hcontentType.written, hmetadata.written, hensureMatch.written]
  · simp [required, optional, hoverwrite.read, hcontentType.read, hmetadata.read,
      hensureMatch.read]

theorem kept_composeOptions (options : ComposeOptions) : Kept options := by
  have hcontentType := kept_optionalString options.contentType
  have hmetadata := kept_metadata options.metadata
  refine kept_record ["content_type", "metadata"]
    [toJson options.contentType, toJson options.metadata] rfl (fun _ => rfl) rfl (by decide) ?_ ?_
  · simp [hcontentType.written, hmetadata.written]
  · simp [required, optional, hcontentType.read, hmetadata.read]

theorem kept_listOptions {options : ListOptions} (h : options.Representable) : Kept options := by
  obtain ⟨namePrefix, delimiter, maxResults⟩ := options
  have hnamePrefix := kept_optionalString namePrefix
  have hdelimiter := kept_optionalString delimiter
  refine kept_record ["prefix", "delimiter", "max_results"]
    [toJson namePrefix, toJson delimiter, maxResults.elim .null .ofNat]
    (by cases maxResults <;> rfl) (fun _ => rfl) rfl (by decide) ?_ ?_
  · cases maxResults <;> simp [hnamePrefix.written, hdelimiter.written, Written.null, written_ofNat]
  · cases maxResults with
    | none => simp [optional, hnamePrefix.read, hdelimiter.read]
    | some n =>
      have hn := Json.nat?_ofNat (h n rfl)
      simp only [List.map_cons, List.map_nil, optional, hnamePrefix.read, hdelimiter.read,
        Option.bind_eq_bind, Option.bind_some, Option.elim_some]
      show ((Json.nat? Word.bound (.ofNat n)).map some).bind _ = _
      rw [hn]
      rfl

/-! ## What a text holds is representable -/

/-- A field that has to be there holds what is read from a value. -/
theorem of_required {P : α → Prop} {read : Json → Option α} {field : Option Json} {value : α}
    (hholds : ∀ json a, read json = some a → P a) (h : required read field = some value) :
    P value := by
  obtain ⟨json, -, hjson⟩ := Option.bind_eq_some_iff.1 h
  exact hholds json value hjson

/-- A field that may be missing holds nothing or what is read from a value. -/
theorem forall_mem_of_optional [JsonForm α] {P : α → Prop} {field : Option Json} {value : Option α}
    (hholds : ∀ json a, ofJson? json = some a → P a) (h : optional field = some value) :
    ∀ a ∈ value, P a := by
  rintro a rfl
  cases field with
  | none => cases h
  | some json =>
    have hjson : json ≠ .null := by
      rintro rfl
      cases h
    obtain ⟨b, hb, hba⟩ := Option.map_eq_some_iff.1 ((ofJson?_option hjson).symm.trans h)
    cases hba
    exact hholds json a hb

theorem onClock_of_ofJson? {json : Json} {time : Timestamp} (h : ofJson? json = some time) :
    time.OnClock := by
  obtain ⟨text, -, htext⟩ := Option.bind_eq_some_iff.1 h
  exact Timestamp.onClock_of_ofRfc3339? htext

/-- The description of an item that is read is representable. -/
theorem representable_of_itemInfo {json : Json} {info : ItemInfo} (h : ofJson? json = some info) :
    info.Representable := by
  obtain ⟨fields, -, hfields⟩ := Option.bind_eq_some_iff.1 h
  split at hfields
  · iterate 2 obtain ⟨_, -, hfields⟩ := Option.bind_eq_some_iff.1 hfields
    obtain ⟨_, hcreation, hfields⟩ := Option.bind_eq_some_iff.1 hfields
    obtain ⟨_, hmodification, hfields⟩ := Option.bind_eq_some_iff.1 hfields
    obtain ⟨_, hsize, hfields⟩ := Option.bind_eq_some_iff.1 hfields
    iterate 4 obtain ⟨_, -, hfields⟩ := Option.bind_eq_some_iff.1 hfields
    obtain ⟨_, hcontent, hfields⟩ := Option.bind_eq_some_iff.1 hfields
    obtain ⟨_, hmeta, hfields⟩ := Option.bind_eq_some_iff.1 hfields
    obtain ⟨_, -, hinfo⟩ := Option.bind_eq_some_iff.1 hfields
    cases hinfo
    have hbounds (json : Json) (n : Int) (h : generation? json = some n) := Json.int?_bounds h
    exact {
      size_lt := of_required (P := (· < Word.bound)) (fun _ _ => Json.nat?_lt) hsize
      contentGeneration_ge := (of_required hbounds hcontent).1
      contentGeneration_le := (of_required hbounds hcontent).2
      metaGeneration_ge := (of_required hbounds hmeta).1
      metaGeneration_le := (of_required hbounds hmeta).2
      creationTime_onClock := forall_mem_of_optional (fun _ _ => onClock_of_ofJson?) hcreation
      modificationTime_onClock :=
        forall_mem_of_optional (fun _ _ => onClock_of_ofJson?) hmodification }
  · cases hfields

/-- Options of a listing that are read are representable. -/
theorem representable_of_listOptions {json : Json} {options : ListOptions}
    (h : ofJson? json = some options) : options.Representable := by
  obtain ⟨fields, -, hfields⟩ := Option.bind_eq_some_iff.1 h
  split at hfields
  · simp only [Option.bind_eq_bind, Option.bind_eq_some_iff] at hfields
    obtain ⟨_, -, _, -, hoptions⟩ := hfields
    split at hoptions
    · cases hoptions
      nofun
    · cases hoptions
      nofun
    · simp only [Option.bind_eq_some_iff, Option.map_eq_some_iff] at hoptions
      obtain ⟨_, ⟨m, hm, rfl⟩, hoptions⟩ := hoptions
      cases hoptions
      rintro n ⟨⟩
      exact Json.nat?_lt hm
  · cases hfields

section Bucket

variable {bucketName : String} {time other : Timestamp} {location storageClass : Option String}

/-- What is reported about a bucket is representable if a clock can show its time. -/
theorem representable_bucket (h : time.OnClock) :
    (ItemInfo.bucket bucketName time location storageClass).Representable := by
  have hclock : ∀ t ∈ some time, t.OnClock := by
    rintro t ⟨⟩
    exact h
  have hsize : 0 < Word.bound := by decide
  have hleast : Word.leastSigned ≤ 0 := by decide
  have hgreatest : 0 ≤ Word.greatestSigned := by decide
  exact ⟨hsize, hleast, hgreatest, hleast, hgreatest, hclock, hclock⟩

/-- Of the time of a bucket its text is written, and nothing else. -/
theorem write_bucket (h : time.toRfc3339 = other.toRfc3339) :
    write (ItemInfo.bucket bucketName time location storageClass) =
      write (ItemInfo.bucket bucketName other location storageClass) := by
  simp only [write, toJson, ItemInfo.bucket, h]

end Bucket

end JsonForm

end ObjectStorage
