import ObjectStorage.ItemInfo

/-!
# Options of storage calls

What a caller can ask for when it creates a bucket or an object, composes
objects, or lists a bucket.
-/

namespace ObjectStorage

/-- Attributes of a new bucket. -/
structure BucketOptions where
  location : Option String := none
  storageClass : Option String := none
deriving DecidableEq

/-- Attributes of an object that is created or overwritten. With `ensureMatch`, an empty object
that already has these attributes is accepted as it is. -/
structure ObjectOptions where
  overwrite : Bool := true
  contentType : Option String := none
  metadata : Metadata := ∅
  ensureMatch : Bool := false
deriving DecidableEq

/-- Attributes of the result of a composition. -/
structure ComposeOptions where
  contentType : Option String := none
  metadata : Metadata := ∅
deriving DecidableEq

/-- Which names a listing shows: those that start with `namePrefix`, cut after the first
`delimiter` behind it, and at most `maxResults` of them. -/
structure ListOptions where
  namePrefix : Option String := none
  delimiter : Option String := none
  maxResults : Option Nat := none
deriving DecidableEq

/-- The greatest number of entries; zero asks for all of them, as does leaving it out. -/
def ListOptions.limit (options : ListOptions) : Option Nat :=
  options.maxResults.filter (· ≠ 0)

/-- The delimiter, when it is one that can occur. -/
def ListOptions.delimiterText (options : ListOptions) : Option (List Char) :=
  (options.delimiter.map String.toList).filter (· ≠ [])

/-- The text that listed names start with. -/
def ListOptions.prefixText (options : ListOptions) : List Char :=
  (options.namePrefix.getD "").toList

end ObjectStorage
