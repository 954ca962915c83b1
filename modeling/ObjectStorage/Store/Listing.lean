import ObjectStorage.Buckets
import ObjectStorage.Text.Cut

/-!
# Listings

A listing goes through the objects of a bucket in the order of their names. It
shows a name as it is, or, when the delimiter occurs behind the prefix, the
directory that ends at its first occurrence there. A directory is shown once,
and an object that bears its name is shown in its place.
-/

namespace ObjectStorage

/-- One entry of a listing. -/
inductive Listed where
  | object (stored : StoredObject)
  | directory (name : String)

namespace Listed

/-- The name that a listing shows for an entry. -/
def name : Listed → String
  | object stored => stored.info.resourceId.objectName.getD ""
  | directory name => name

/-- The info that a listing shows for an entry of a bucket. -/
def info (bucketName : String) : Listed → ItemInfo
  | object stored => stored.info
  | directory name => .inferredDirectory (.object bucketName name)

end Listed

namespace ListOptions

/-- Says that a listing covers this name. -/
def covers (options : ListOptions) (name : String) : Bool :=
  options.prefixText.isPrefixOf name.toList

/-- The directory that stands for a covered name, if the delimiter occurs behind the prefix. -/
def directory? (options : ListOptions) (name : String) : Option String :=
  options.delimiterText.bind fun delimiter =>
    (Text.throughFirst delimiter (name.toList.drop options.prefixText.length)).map fun kept =>
      String.ofList (options.prefixText ++ kept)

/-- The name under which a covered name is listed. -/
def representative (options : ListOptions) (name : String) : String :=
  (options.directory? name).getD name

/-- Goes through named objects with room for so many more entries, leaving out the names that were
already shown. -/
def entriesFrom (options : ListOptions) :
    Option Nat → List String → List (String × StoredObject) → List Listed
  | _, _, [] => []
  | room, shown, (name, stored) :: rest =>
    if room = some 0 then []
    else
      let shownAs := options.representative name
      if shown.contains shownAs then options.entriesFrom room shown rest
      else
        (if shownAs = name then .object stored else .directory shownAs) ::
          options.entriesFrom (room.map (· - 1)) (shownAs :: shown) rest

end ListOptions

/-- The entries of a listing of a bucket. -/
def StoredBucket.entries (bucket : StoredBucket) (options : ListOptions) : List Listed :=
  options.entriesFrom options.limit []
    (bucket.objects.toList.filter fun (name, _) => options.covers name)

/-- The entries of a listing of the bucket with this name; a missing bucket has none. -/
def Buckets.entries (buckets : Buckets) (bucketName : String) (options : ListOptions) :
    List Listed :=
  (buckets[bucketName]?.map fun bucket => bucket.entries options).getD []

end ObjectStorage
