import Mathlib.Order.Defs.PartialOrder
import ObjectStorage.Proofs.Store.Journal

/-!
# The times of what is stored

A bucket and an object bear the time at which they were made and the time of
their last change. `Buckets.Dated` says that these are in order and not behind the
latest time that the clock has shown, and `Deeds.dated` that deeds keep it as long
as the times that the clock shows do not decrease. `Store.runAll_consistent` puts
this together with what infos state of what they lie under, for every run.
-/

namespace ObjectStorage

/-- Being not after another instant is a preorder. -/
instance : Preorder Timestamp where
  le_refl _ := .inr ⟨rfl, Nat.le_refl _⟩
  le_trans a b c hab hbc := by
    show a.seconds < c.seconds ∨ a.seconds = c.seconds ∧ a.nanos ≤ c.nanos
    rcases hab with hab | ⟨hab, hnanos⟩ <;> rcases hbc with hbc | ⟨hbc, hnanos'⟩ <;> omega

/-- The times that readings show, in order. -/
def timesOf (readings : List Reading) : List Timestamp := readings.filterMap Reading.time?

/-- A good bucket name is one that is not empty and has no slash. -/
theorem checkBucketName_eq_ok {name : String} {u : Unit} :
    checkBucketName name = .ok u ↔ name ≠ "" ∧ '/' ∉ name.toList := by
  unfold checkBucketName
  split
  · simp_all
  · split <;> simp_all

/-- Says that the times of an info are in order, and not behind the latest time. -/
def ItemInfo.Dated (info : ItemInfo) (latest : Option Timestamp) : Prop :=
  ∃ created modified last, info.creationTime = some created ∧
    info.modificationTime = some modified ∧ latest = some last ∧
    created ≤ modified ∧ modified ≤ last

/-- Says that all that is stored was made and changed by the latest time. -/
structure Buckets.Dated (buckets : Buckets) (latest : Option Timestamp) : Prop where
  bucket : ∀ {bucketName info}, buckets.bucketInfo? bucketName = some info → info.Dated latest
  object : ∀ {id object}, buckets.object? id = some object → object.info.Dated latest

/-- What is stored by a time is stored by a later one. -/
theorem ItemInfo.Dated.mono {info : ItemInfo} {latest : Option Timestamp} {now : Timestamp}
    (h : info.Dated latest) (hnow : ∀ last, latest = some last → last ≤ now) :
    info.Dated (some now) := by
  obtain ⟨created, modified, last, hcreated, hmodified, hlatest, hle, hlast⟩ := h
  exact ⟨created, modified, now, hcreated, hmodified, rfl, hle, le_trans hlast (hnow last hlatest)⟩

/-- An edit that bears the latest time keeps the times of what is stored in order. -/
theorem Edit.dated_apply {edit : Edit} {buckets : Buckets} {latest : Option Timestamp}
    (hadm : edit.Admissible buckets) (hstamp : ∀ now, edit.stamp? = some now → latest = some now)
    (h : buckets.Dated latest) : (edit.apply buckets).Dated latest where
  bucket hinfo := by
    rcases bucket_origin hinfo with hbefore | ⟨options, now, rfl, rfl⟩
    · exact h.bucket hbefore
    · exact ⟨now, now, now, rfl, rfl, hstamp now rfl, le_rfl, le_rfl⟩
  object hobject := by
    rcases object_origin hadm hobject with hbefore |
        ⟨content, contentType, metadata, overwrite, now, rfl, rfl⟩ |
        ⟨update, now, old, rfl, rfl, hold, rfl⟩
    · exact h.object hbefore
    · exact ⟨now, now, now, rfl, rfl, hstamp now rfl, le_rfl, le_rfl⟩
    · -- A patch keeps the time of creation, and that is not behind the latest time.
      obtain ⟨created, modified, last, hcreated, -, hlatest, hle, hlast⟩ := h.object hold
      obtain rfl : last = now := Option.some.inj (hlatest.symm.trans (hstamp now rfl))
      exact ⟨created, last, last, hcreated, rfl, hlatest, le_trans hle hlast, le_rfl⟩

/-- Deeds keep the times of what is stored in order, when the times that the clock shows do not
decrease; the latest time is the last one of these. -/
theorem Deeds.dated {deeds : List Deed} {before after : Situation} (h : Deeds deeds before after)
    (hsorted : (before.latest.toList ++ timesOf (readingsOf deeds)).Pairwise (· ≤ ·))
    (hdated : before.buckets.Dated before.latest) :
    after.latest = (before.latest.toList ++ timesOf (readingsOf deeds)).getLast? ∧
      after.buckets.Dated after.latest := by
  induction h with
  | nil situation =>
    refine ⟨?_, hdated⟩
    cases situation.latest <;> rfl
  | @cons deed rest before after hadm hrest ih =>
    cases deed with
    | edit made => exact ih hsorted (Edit.dated_apply hadm.1 hadm.2 hdated)
    | read reading =>
      cases reading with
      | panic => exact ih hsorted hdated
      | time now =>
        have htimes : timesOf (readingsOf (.read (.time now) :: rest)) =
            now :: timesOf (readingsOf rest) := rfl
        rw [htimes] at hsorted ⊢
        obtain ⟨-, hlater, hbelow⟩ := List.pairwise_append.1 hsorted
        have hnow : ∀ last, before.latest = some last → last ≤ now := by
          intro last hlast
          exact hbelow last (by simp [hlast]) now (.head _)
        obtain ⟨hlatest, hafter⟩ := ih hlater
          ⟨fun hinfo => (hdated.bucket hinfo).mono hnow,
            fun hobject => (hdated.object hobject).mono hnow⟩
        refine ⟨hlatest.trans ?_, hafter⟩
        show (now :: timesOf (readingsOf rest)).getLast? = _
        rw [List.getLast?_append, List.getLast?_cons]
        rfl

namespace Store

/-- After every run of an empty store, whether its operations succeed, fail or break off, all
buckets and objects are as their infos say, under good names. The clock has gone on by the readings
that were taken, and if their times do not decrease, the times of all infos are in order and not
behind the last of them. -/
theorem runAll_consistent (clock : Clock) (requests : List Request) :
    let store := (empty clock).runAll requests
    let readings := readingsOf ((empty clock).journal requests)
    store.buckets.WellFormed ∧
      (∀ bucketName ∈ store.buckets, bucketName ≠ "" ∧ '/' ∉ bucketName.toList) ∧
      ((∀ n, store.clock n = clock (n + readings.length)) ∧
        readings = (List.range readings.length).map clock) ∧
      ((timesOf readings).Pairwise (· ≤ ·) → store.buckets.Dated (timesOf readings).getLast?) := by
  intro store readings
  obtain ⟨last, hdeeds⟩ := runAll_records requests (empty clock) none
  have hwf : store.buckets.WellFormed := hdeeds.edits.wellFormed .empty
  refine ⟨hwf, ?_, hdeeds.clock, ?_⟩
  · intro bucketName hmem
    obtain ⟨info, hinfo⟩ := Option.isSome_iff_exists.1 (Buckets.mem_iff_bucketInfo?.1 hmem)
    exact checkBucketName_eq_ok.1 (hwf.bucket hinfo).named
  · intro hsorted
    have hempty : Buckets.Dated ∅ none := ⟨fun hinfo => by simp at hinfo, fun h => by simp at h⟩
    obtain ⟨rfl, hdated⟩ := hdeeds.dated hsorted hempty
    exact hdated

end Store

end ObjectStorage
