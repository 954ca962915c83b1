import Std.Data.ExtTreeMap
import ObjectStorage.Bytes.Sha256
import ObjectStorage.ResourceId
import ObjectStorage.Timestamp

/-!
# Item infos

An `ItemInfo` is what a backend reports about a bucket, an object or a name:
a snapshot of its attributes. A resource that does not exist is reported by
`ItemInfo.notFound`, which has no attributes.
-/

namespace ObjectStorage

/-- The user's own attributes of an object, by key. -/
abbrev Metadata := Std.ExtTreeMap String Bytes

instance : DecidableEq Metadata := inferInstance

/-- The secure hash of a content. -/
abbrev ContentHash := Vector UInt8 32

/-- A snapshot of the attributes of a resource. -/
structure ItemInfo where
  resourceId : ResourceId
  found : Bool := false
  creationTime : Option Timestamp := none
  modificationTime : Option Timestamp := none
  size : Nat := 0
  location : Option String := none
  storageClass : Option String := none
  contentType : Option String := none
  metadata : Metadata := ∅
  contentGeneration : Int := 0
  metaGeneration : Int := 0
  contentHash : Option ContentHash := none
deriving DecidableEq

namespace ItemInfo

/-- What is reported about a resource that does not exist. -/
def notFound (id : ResourceId) : ItemInfo where
  resourceId := id

/-- What is reported about a bucket. -/
def bucket (bucketName : String) (created : Timestamp) (location storageClass : Option String) :
    ItemInfo where
  resourceId := .bucket bucketName
  found := true
  creationTime := some created
  modificationTime := some created
  location := location
  storageClass := storageClass

/-- What is reported about the first version of an object. -/
def object (id : ResourceId) (created modified : Timestamp) (size : Nat)
    (contentType : Option String) (metadata : Metadata) : ItemInfo where
  resourceId := id
  found := true
  creationTime := some created
  modificationTime := some modified
  size := size
  contentType := contentType
  metadata := metadata
  contentGeneration := 1
  metaGeneration := 1

/-- What is reported about a directory that exists only because objects lie below it. -/
def inferredDirectory (id : ResourceId) : ItemInfo where
  resourceId := id
  found := true

/-- Says that the info is about a bucket. -/
def isBucket (info : ItemInfo) : Bool :=
  info.resourceId.isBucket

/-- Says that the info is about an object. -/
def isObject (info : ItemInfo) : Bool :=
  info.resourceId.isObject

/-- Says that the info is about an object whose name ends in a slash. -/
def isDirectory (info : ItemInfo) : Bool :=
  info.resourceId.objectName.any fun name => name.toList.getLast? = some '/'

/-- The content hash in hexadecimal. -/
def contentHashHex (info : ItemInfo) : Option String :=
  info.contentHash.map fun hash => Bytes.toHex hash.toList

/-- Says that the attributes of the user are exactly `metadata`. -/
def metadataEquals (info : ItemInfo) (metadata : Metadata) : Bool :=
  info.metadata = metadata

/-- Says that two snapshots agree on all that the user decides. Size, times, generations and hash
are given by the backend and do not count. -/
def isEquivalent (a b : ItemInfo) : Bool :=
  a.resourceId = b.resourceId && a.location = b.location && a.storageClass = b.storageClass &&
    a.contentType = b.contentType && a.metadataEquals b.metadata

end ItemInfo

/-- Changes to metadata, by key: a value to set, or none to remove the key. -/
abbrev MetadataPatch := Std.ExtTreeMap String (Option Bytes)

instance : DecidableEq MetadataPatch := inferInstance

/-- The metadata after a patch: each key of the patch is set or removed. -/
def Metadata.patch (metadata : Metadata) (changes : MetadataPatch) : Metadata :=
  changes.foldl (fun result key change =>
    match change with
    | some value => result.insert key value
    | none => result.erase key) metadata

/-- Changes to the metadata of one object. -/
structure ItemUpdate where
  resourceId : ResourceId
  metadata : MetadataPatch
deriving DecidableEq

/-- The update that sets every key of `metadata` and removes none. -/
def ItemUpdate.setting (id : ResourceId) (metadata : Metadata) : ItemUpdate where
  resourceId := id
  metadata := metadata.map fun _ value => some value

end ObjectStorage
