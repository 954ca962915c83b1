import ObjectStorage.Duration
import ObjectStorage.ItemCache
import ObjectStorage.Text.Decimal
import ObjectStorage.Word

/-!
# Cache configuration

A `CacheConfig` says how long entries of an item cache live and how many there
may be. `CacheConfig.validate` refuses zero for either, and
`CacheConfig.ofEnvironment` takes what it can from environment variables and
the defaults for the rest.
-/

namespace ObjectStorage

/-- The settings of an item cache. -/
structure CacheConfig where
  maxEntryAge : Duration
  maxEntries : Nat
deriving DecidableEq

namespace CacheConfig

/-- The default lifetime of an entry in milliseconds. -/
def defaultMaxEntryAgeMillis : Nat := 5000

/-- The default number of entries. -/
def defaultMaxEntries : Nat := 5000

/-- Settings in which each value may be left out. -/
def ofOptions (maxEntryAgeMillis maxEntries : Option Nat) : CacheConfig where
  maxEntryAge := .ofMillis (maxEntryAgeMillis.getD defaultMaxEntryAgeMillis)
  maxEntries := maxEntries.getD defaultMaxEntries

/-- The settings of a cache that was not configured. -/
def default : CacheConfig := ofOptions none none

instance : Inhabited CacheConfig := ⟨default⟩

/-- The settings with another lifetime of an entry. -/
def withMaxEntryAge (config : CacheConfig) (age : Duration) : CacheConfig :=
  { config with maxEntryAge := age }

/-- The settings with another number of entries. -/
def withMaxEntries (config : CacheConfig) (count : Nat) : CacheConfig :=
  { config with maxEntries := count }

/-- Refuses settings under which nothing could be cached; the lifetime is judged first. -/
def validate (config : CacheConfig) : Except Error Unit :=
  if config.maxEntryAge = .zero then
    .error (ConfigError.invalidValue "max_entry_age" "0ns" "max_entry_age must be positive")
  else if config.maxEntries = 0 then
    .error (ConfigError.invalidValue "max_entries" "0" "max_entries must be greater than 0")
  else .ok ()

/-- Reads a count: an optional plus sign and decimal digits, for a number of 64 bits. -/
def count? (text : String) : Option Nat :=
  let digits := match text.toList with
    | '+' :: rest => rest
    | all => all
  if digits ≠ [] ∧ digits.all Char.isDigit then
    let value := Text.digitsValue digits
    if value < Word.bound then some value else none
  else none

/-- The variable that holds the lifetime of an entry in milliseconds. -/
def maxEntryAgeVariable : String := "BUCKETCACHE_MAX_ENTRY_AGE_MS"

/-- The variable that holds the number of entries. -/
def maxEntriesVariable : String := "BUCKETCACHE_MAX_ENTRIES"

/-- The settings that environment variables give; a variable that is unset or is no count leaves
the default. -/
def ofEnvironment (lookup : String → Option String) : CacheConfig :=
  ofOptions ((lookup maxEntryAgeVariable).bind count?) ((lookup maxEntriesVariable).bind count?)

/-- The policy of a cache with these settings, which have to be valid. -/
def policy (config : CacheConfig) : Except Failure CachePolicy :=
  match config.validate with
  | .error cause => .error (.error cause)
  | .ok () => (CachePolicy.limited config.maxEntryAge config.maxEntries).mapError .panic

end CacheConfig

end ObjectStorage
