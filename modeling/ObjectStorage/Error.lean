import ObjectStorage.ResourceId
import ObjectStorage.Text.Quoted

/-!
# Errors

A storage call fails for a cause that a caller can act on (`Error`), or breaks
off without an answer (`Panic`). `message` gives the wording of each.
-/

namespace ObjectStorage

/-- What can go wrong inside a backend. -/
inductive StorageError where
  | notFound (resource : ResourceId)
  | alreadyExists (resource : ResourceId)
  | bucketNotEmpty (bucketName : String)
  | invalidArgument (reason : String)
  | lockPoisoned
  | closed
  | taskFailed (reason : String)
  | backend (reason : String)
deriving DecidableEq

/-- What can be wrong with a name or a URI. -/
inductive ValidationError where
  | invalidResourceUri (uri reason : String)
  | invalidName (name reason : String)
deriving DecidableEq

/-- What can be wrong with a configuration. -/
inductive ConfigError where
  | invalidValue (field value reason : String)
  | parse (reason : String)
deriving DecidableEq

/-- The cause of a failed call. -/
inductive Error where
  | storage (error : StorageError)
  | validation (error : ValidationError)
  | config (error : ConfigError)
deriving DecidableEq

/-- The wording of a storage error. -/
def StorageError.message : StorageError → String
  | .notFound resource => s!"Resource not found: {resource}"
  | .alreadyExists resource => s!"Resource already exists: {resource}"
  | .bucketNotEmpty bucketName => s!"Bucket not empty: {bucketName}"
  | .invalidArgument reason => s!"Invalid argument: {reason}"
  | .lockPoisoned => "Storage lock poisoned"
  | .closed => "Storage has been closed"
  | .taskFailed reason => s!"Blocking task failed: {reason}"
  | .backend reason => s!"Backend error: {reason}"

/-- The wording of a validation error; a name is shown quoted. -/
def ValidationError.message : ValidationError → String
  | .invalidResourceUri uri reason => s!"Invalid resource URI {uri}: {reason}"
  | .invalidName name reason => s!"Invalid name {Text.quoted name}: {reason}"

/-- The wording of a configuration error. -/
def ConfigError.message : ConfigError → String
  | .invalidValue field value reason => s!"Invalid value for {field}: {value} - {reason}"
  | .parse reason => s!"Failed to parse configuration: {reason}"

/-- The parts of a configuration error by name, each quoted. -/
def ConfigError.parts : ConfigError → String
  | .invalidValue field value reason =>
    s!"InvalidValue \x7b field: {Text.quoted field}, value: {Text.quoted value}, " ++
      s!"reason: {Text.quoted reason} \x7d"
  | .parse reason => s!"Parse \x7b reason: {Text.quoted reason} \x7d"

/-- The wording of an error, led by the part of the library that raised it. -/
def Error.message : Error → String
  | .storage error => s!"Storage error: {error.message}"
  | .validation error => s!"Validation error: {error.message}"
  | .config error => s!"Config error: {error.message}"

/-- The wording of an error without its lead. -/
def Error.bareMessage : Error → String
  | .storage error => error.message
  | .validation error => error.message
  | .config error => error.message

/-- Why a call broke off without an answer. -/
inductive Panic where
  | clock
  | backend
  | lifetimeTooLong
  | unusableFixture (error : ConfigError)
  | notCached (id : ResourceId)
  | cached (id : ResourceId)
deriving DecidableEq

/-- The wording of a panic. -/
def Panic.message : Panic → String
  | .clock => "clock panic"
  | .backend => "backend panic"
  | .lifetimeTooLong => "time_to_live is longer than 1000 years"
  | .unusableFixture error => s!"invalid cache config for fixture: Config({error.parts})"
  | .notCached id => s!"Expected {id} to be cached"
  | .cached id => s!"Expected {id} not to be cached"

/-- How a call ends when it gives no answer. -/
inductive Failure where
  | error (cause : Error)
  | panic (reason : Panic)
deriving DecidableEq

/-- Says that the call broke off. -/
def Failure.isPanic : Failure → Bool
  | .error _ => false
  | .panic _ => true

instance : Coe StorageError Error := ⟨.storage⟩
instance : Coe ValidationError Error := ⟨.validation⟩
instance : Coe ConfigError Error := ⟨.config⟩

end ObjectStorage
