import ObjectStorage.Error
import ObjectStorage.Text.Cut

/-!
# Names and URIs

`ResourceId.parse` reads the URI of a resource, and `checkBucketName` and
`checkObjectName` say which names can be created.
-/

namespace ObjectStorage

namespace ResourceId

/-- Reads what follows the scheme: nothing is the root, and a slash divides the bucket from the
object; `none` when the bucket is missing. -/
def ofPath? (path : List Char) : Option ResourceId :=
  match Text.splitFirst '/' path with
  | none => some (bucket (String.ofList path))
  | some ([], _) => none
  | some (bucketName, []) => some (bucket (String.ofList bucketName))
  | some (bucketName, objectName) =>
    some (object (String.ofList bucketName) (String.ofList objectName))

/-- Reads a URI; a slash after the bucket and nothing behind it names the bucket. -/
def parse (uri : String) : Except Error ResourceId :=
  match (scheme ++ "://").toList.isPrefixOf? uri.toList with
  | none => .error (ValidationError.invalidResourceUri uri s!"scheme must be {scheme}")
  | some path =>
    match ofPath? path with
    | none =>
      .error (ValidationError.invalidResourceUri uri "object name given without a bucket")
    | some id => .ok id

end ResourceId

/-- A bucket name is not empty and has no slash. -/
def checkBucketName (name : String) : Except Error Unit :=
  if name.isEmpty then
    .error (ValidationError.invalidName name "bucket name must not be empty")
  else if name.toList.contains '/' then
    .error (ValidationError.invalidName name "bucket name must not contain '/'")
  else .ok ()

/-- An object name is not empty. -/
def checkObjectName (name : String) : Except Error Unit :=
  if name.isEmpty then
    .error (ValidationError.invalidName name "object name must not be empty")
  else .ok ()

end ObjectStorage
