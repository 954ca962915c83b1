import ObjectStorage.Assertion
import ObjectStorage.Bridge
import ObjectStorage.Buckets
import ObjectStorage.Bytes
import ObjectStorage.Bytes.Sha256
import ObjectStorage.Cached
import ObjectStorage.Clock
import ObjectStorage.Config
import ObjectStorage.Config.Toml
import ObjectStorage.Duration
import ObjectStorage.Error
import ObjectStorage.Fixture
import ObjectStorage.Interposer
import ObjectStorage.ItemCache
import ObjectStorage.ItemInfo
import ObjectStorage.Json
import ObjectStorage.Json.Form
import ObjectStorage.Json.Literal
import ObjectStorage.Naming
import ObjectStorage.Operation
import ObjectStorage.Options
import ObjectStorage.Proofs.Cached.Alignment
import ObjectStorage.Proofs.Cached.Calls
import ObjectStorage.Proofs.Cached.Closing
import ObjectStorage.Proofs.Cached.Containment
import ObjectStorage.Proofs.Cached.Contents
import ObjectStorage.Proofs.Cached.Copying
import ObjectStorage.Proofs.Cached.Effect
import ObjectStorage.Proofs.Cached.Entries
import ObjectStorage.Proofs.Cached.Freshness
import ObjectStorage.Proofs.Cached.Injection
import ObjectStorage.Proofs.Cached.Lookups
import ObjectStorage.Proofs.Cached.Merging
import ObjectStorage.Proofs.Cached.Plan
import ObjectStorage.Proofs.Cached.Reads
import ObjectStorage.Proofs.Cached.Recorded
import ObjectStorage.Proofs.Cached.Setup
import ObjectStorage.Proofs.Cached.Shared
import ObjectStorage.Proofs.Cached.Steps
import ObjectStorage.Proofs.Cached.Traffic
import ObjectStorage.Proofs.Cached.Transparency
import ObjectStorage.Proofs.Config.Agreement
import ObjectStorage.Proofs.Config.Document
import ObjectStorage.Proofs.Config.Settings
import ObjectStorage.Proofs.Decimal
import ObjectStorage.Proofs.Json.Document
import ObjectStorage.Proofs.Json.Form
import ObjectStorage.Proofs.Json.Literal
import ObjectStorage.Proofs.LastInfo
import ObjectStorage.Proofs.Matching
import ObjectStorage.Proofs.Store.Assignment
import ObjectStorage.Proofs.Store.Atomicity
import ObjectStorage.Proofs.Store.Batch
import ObjectStorage.Proofs.Store.Checks
import ObjectStorage.Proofs.Store.Compositions
import ObjectStorage.Proofs.Store.Copies
import ObjectStorage.Proofs.Store.Deeds
import ObjectStorage.Proofs.Store.Directories
import ObjectStorage.Proofs.Store.Edits
import ObjectStorage.Proofs.Store.Evolution
import ObjectStorage.Proofs.Store.Failure
import ObjectStorage.Proofs.Store.Footprint
import ObjectStorage.Proofs.Store.Generations
import ObjectStorage.Proofs.Store.Independence
import ObjectStorage.Proofs.Store.Journal
import ObjectStorage.Proofs.Store.Limits
import ObjectStorage.Proofs.Store.Listing
import ObjectStorage.Proofs.Store.Names
import ObjectStorage.Proofs.Store.Panics
import ObjectStorage.Proofs.Store.Refusal
import ObjectStorage.Proofs.Store.Reports
import ObjectStorage.Proofs.Store.Retries
import ObjectStorage.Proofs.Store.Timeline
import ObjectStorage.Proofs.Store.Updates
import ObjectStorage.Proofs.Store.Views
import ObjectStorage.Proofs.Store.Walk
import ObjectStorage.Proofs.Store.WellFormed
import ObjectStorage.Proofs.Text.ByteOrder
import ObjectStorage.Proofs.Text.Cut
import ObjectStorage.Proofs.Timestamp.Calendar
import ObjectStorage.Proofs.Timestamp.Rfc3339
import ObjectStorage.Proofs.Uri
import ObjectStorage.Recorder
import ObjectStorage.ResourceId
import ObjectStorage.Session
import ObjectStorage.Store
import ObjectStorage.Store.Change
import ObjectStorage.Store.Dump
import ObjectStorage.Store.Listing
import ObjectStorage.Store.Run
import ObjectStorage.Text.Cut
import ObjectStorage.Text.Decimal
import ObjectStorage.Text.EscapeLetter
import ObjectStorage.Text.EscapedRanges
import ObjectStorage.Text.Quoted
import ObjectStorage.Timestamp
import ObjectStorage.Timestamp.Calendar
import ObjectStorage.Timestamp.Rfc3339
import ObjectStorage.Word
