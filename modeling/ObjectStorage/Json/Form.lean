import ObjectStorage.Json.Literal
import ObjectStorage.Options
import ObjectStorage.Timestamp.Rfc3339
import ObjectStorage.Word

/-!
# JSON forms

A type with a `JsonForm` is written as a JSON value and read back. A record is
written as an object with its fields in order. It is read from such an object
with its fields in any order, where unknown fields are skipped and an optional
field may be missing, or from an array of all its fields in order.
-/

namespace ObjectStorage

/-- A type that is written as JSON and read from it. -/
class JsonForm (α : Type) where
  toJson : α → Json
  ofJson? : Json → Option α

namespace JsonForm

variable {α : Type}

/-- The JSON text of a value. -/
def write [JsonForm α] (value : α) : String :=
  (toJson value).toText

/-- The value that a JSON text holds. -/
def read? [JsonForm α] (text : String) : Option α :=
  (Json.parse text).bind ofJson?

/-- The text of the value that a JSON text holds. -/
def normalize? (α : Type) [JsonForm α] (text : String) : Option String :=
  (read? (α := α) text).map write

instance : JsonForm Bool where
  toJson := .bool
  ofJson? := Json.bool?

instance : JsonForm String where
  toJson := .ofString
  ofJson? := Json.string?

/-- A value that may be null. -/
instance [JsonForm α] : JsonForm (Option α) where
  toJson
    | none => .null
    | some value => toJson value
  ofJson?
    | .null => some none
    | json => (ofJson? json).map some

/-- A list is an array of its items. -/
instance [JsonForm α] : JsonForm (List α) where
  toJson items := .array (items.map toJson)
  ofJson? json := json.items?.bind fun items => items.mapM ofJson?

instance : JsonForm UInt8 where
  toJson byte := .ofNat byte.toNat
  ofJson? json := (json.nat? 256).map UInt8.ofNat

/-- A content hash is an array of exactly its bytes. -/
instance : JsonForm ContentHash where
  toJson hash := toJson hash.toList
  ofJson? json := do
    let bytes : Bytes ← ofJson? json
    if h : bytes.toArray.size = 32 then some ⟨bytes.toArray, h⟩ else none

/-- A map from texts is an object; of equal keys the last one counts. -/
instance [JsonForm α] : JsonForm (Std.ExtTreeMap String α) where
  toJson map := .ofFields (map.toList.map fun (key, value) => (key, toJson value))
  ofJson? json := do
    let fields ← (← json.fields?).mapM fun (key, value) => return (key, ← ofJson? value)
    return fields.foldl (fun map (key, value) => map.insert key value) ∅

instance : JsonForm Timestamp where
  toJson time := .ofString time.toRfc3339
  ofJson? json := json.string?.bind Timestamp.ofRfc3339?

/-- The values of the named fields of a record, in order, each unless it is missing. A named field
that occurs twice, or an array that is not as long as the names, is refused. -/
def record? (names : List String) : Json → Option (List (Option Json))
  | .array items => if items.length = names.length then some (items.map some) else none
  | json => do
    let fields ← json.fields?
    names.mapM fun name =>
      match fields.filter (·.1 = name) with
      | [] => some none
      | [(_, value)] => some (some value)
      | _ => none

/-- The value of a field that has to be there. -/
def required (read : Json → Option α) (field : Option Json) : Option α :=
  field.bind read

/-- The value of a field that may be missing. -/
def optional [JsonForm α] : Option Json → Option (Option α)
  | none => some none
  | some json => ofJson? json

instance : JsonForm ResourceId where
  toJson id := .ofFields [
    ("bucket_name", toJson id.bucketName),
    ("object_name", toJson id.objectName)]
  ofJson? json := do
    match ← record? ["bucket_name", "object_name"] json with
    | [bucketName, objectName] =>
      return {
        bucketName := ← required ofJson? bucketName
        objectName := ← optional objectName }
    | _ => none

/-- The bounds of a generation. -/
def generation? : Json → Option Int :=
  Json.int? Word.leastSigned Word.greatestSigned

instance : JsonForm ItemInfo where
  toJson info := .ofFields [
    ("resource_id", toJson info.resourceId),
    ("exists", toJson info.found),
    ("creation_time", toJson info.creationTime),
    ("modification_time", toJson info.modificationTime),
    ("size", .ofNat info.size),
    ("location", toJson info.location),
    ("storage_class", toJson info.storageClass),
    ("content_type", toJson info.contentType),
    ("metadata", toJson info.metadata),
    ("content_generation", .ofInt info.contentGeneration),
    ("meta_generation", .ofInt info.metaGeneration),
    ("content_hash", toJson info.contentHash)]
  ofJson? json := do
    match ← record? ["resource_id", "exists", "creation_time", "modification_time", "size",
      "location", "storage_class", "content_type", "metadata", "content_generation",
      "meta_generation", "content_hash"] json with
    | [resourceId, found, creationTime, modificationTime, size, location, storageClass,
      contentType, metadata, contentGeneration, metaGeneration, contentHash] =>
      return {
        resourceId := ← required ofJson? resourceId
        found := ← required ofJson? found
        creationTime := ← optional creationTime
        modificationTime := ← optional modificationTime
        size := ← required (Json.nat? Word.bound) size
        location := ← optional location
        storageClass := ← optional storageClass
        contentType := ← optional contentType
        metadata := ← required ofJson? metadata
        contentGeneration := ← required generation? contentGeneration
        metaGeneration := ← required generation? metaGeneration
        contentHash := ← optional contentHash }
    | _ => none

instance : JsonForm ItemUpdate where
  toJson update := .ofFields [
    ("resource_id", toJson update.resourceId),
    ("metadata", toJson update.metadata)]
  ofJson? json := do
    match ← record? ["resource_id", "metadata"] json with
    | [resourceId, metadata] =>
      return {
        resourceId := ← required ofJson? resourceId
        metadata := ← required ofJson? metadata }
    | _ => none

instance : JsonForm BucketOptions where
  toJson options := .ofFields [
    ("location", toJson options.location),
    ("storage_class", toJson options.storageClass)]
  ofJson? json := do
    match ← record? ["location", "storage_class"] json with
    | [location, storageClass] =>
      return { location := ← optional location, storageClass := ← optional storageClass }
    | _ => none

instance : JsonForm ObjectOptions where
  toJson options := .ofFields [
    ("overwrite_existing", toJson options.overwrite),
    ("content_type", toJson options.contentType),
    ("metadata", toJson options.metadata),
    ("ensure_empty_objects_metadata_match", toJson options.ensureMatch)]
  ofJson? json := do
    match ← record? ["overwrite_existing", "content_type", "metadata",
      "ensure_empty_objects_metadata_match"] json with
    | [overwrite, contentType, metadata, ensureMatch] =>
      return {
        overwrite := ← required ofJson? overwrite
        contentType := ← optional contentType
        metadata := ← required ofJson? metadata
        ensureMatch := ← required ofJson? ensureMatch }
    | _ => none

instance : JsonForm ComposeOptions where
  toJson options := .ofFields [
    ("content_type", toJson options.contentType),
    ("metadata", toJson options.metadata)]
  ofJson? json := do
    match ← record? ["content_type", "metadata"] json with
    | [contentType, metadata] =>
      return {
        contentType := ← optional contentType
        metadata := ← required ofJson? metadata }
    | _ => none

instance : JsonForm ListOptions where
  toJson options := .ofFields [
    ("prefix", toJson options.namePrefix),
    ("delimiter", toJson options.delimiter),
    ("max_results", match options.maxResults with
      | none => .null
      | some n => .ofNat n)]
  ofJson? json := do
    match ← record? ["prefix", "delimiter", "max_results"] json with
    | [namePrefix, delimiter, maxResults] =>
      return {
        namePrefix := ← optional namePrefix
        delimiter := ← optional delimiter
        maxResults := ← match maxResults with
          | none | some .null => some none
          | some json => (json.nat? Word.bound).map some }
    | _ => none

end JsonForm

end ObjectStorage
