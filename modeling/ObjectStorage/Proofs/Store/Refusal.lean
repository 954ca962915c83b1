import ObjectStorage.Proofs.Store.Journal

/-!
# Refusals

A store that is closed or whose lock is poisoned refuses everything but closing.
`Store.run_refused` says with which error, and that the store stays as it is. Bad
arguments are reported before the lock is tried; `Store.demand_cases` says which
arguments are bad.
-/

namespace ObjectStorage

namespace Operation

variable {α : Type}

/-- Says that the arguments of an operation are bad in themselves. -/
def Malformed : Operation α → Prop
  | .createBucket bucketName _ => bucketName = "" ∨ '/' ∈ bucketName.toList
  | .copy _ sources _ targets => sources.length ≠ targets.length
  | .composeObjects sources target _ =>
    sources.length < 1 ∨ 32 < sources.length ∨ target.isObject = false ∨
      ∃ source ∈ sources, source.bucketName ≠ target.bucketName
  | _ => False

/-- Says that an error is about the arguments of an operation. -/
def Blames : Operation α → Error → Prop
  | .createBucket bucketName _, .validation (.invalidName name _) => name = bucketName
  | .copy _ _ _ _, .storage (.invalidArgument _) => True
  | .composeObjects _ _ _, .storage (.invalidArgument _) => True
  | _, _ => False

/-- Says that an operation is refused with an error when `cause` keeps it from the lock: bad
arguments are blamed first. -/
structure RefusedWith (operation : Operation α) (cause error : Error) : Prop where
  malformed : operation.Malformed → operation.Blames error
  wellFormed : ¬ operation.Malformed → error = cause

end Operation

/-- A bucket name is refused exactly when it is empty or has a slash, and the error names it. -/
theorem checkBucketName_cases (bucketName : String) (options : BucketOptions) :
    (Operation.createBucket bucketName options).Malformed ∧
        (∃ reason, checkBucketName bucketName =
          .error (ValidationError.invalidName bucketName reason)) ∨
      ¬ (Operation.createBucket bucketName options).Malformed ∧
        checkBucketName bucketName = .ok () := by
  unfold checkBucketName
  split
  · next hempty => exact .inl ⟨.inl (String.isEmpty_iff.1 hempty), _, rfl⟩
  · next hempty =>
    split
    · next hslash => exact .inl ⟨.inr (by simpa using hslash), _, rfl⟩
    · next hslash =>
      refine .inr ⟨?_, rfl⟩
      rintro (rfl | hmem)
      · exact hempty rfl
      · exact hslash (by simpa using hmem)

namespace Store

variable {α : Type} {operation : Operation α} {store : Store} {cause : Error}

/-- A copy is refused exactly when it has not as many targets as sources. -/
theorem checkCopy_cases (sourceBucket : String) (sources : List String) (targetBucket : String)
    (targets : List String) :
    (Operation.copy sourceBucket sources targetBucket targets).Malformed ∧
        (∃ reason, checkCopy sources targets = .error (StorageError.invalidArgument reason)) ∨
      ¬ (Operation.copy sourceBucket sources targetBucket targets).Malformed ∧
        checkCopy sources targets = .ok () := by
  unfold checkCopy
  split
  · next hlength => exact .inr ⟨fun hbad => hbad hlength, rfl⟩
  · next hlength => exact .inl ⟨hlength, _, rfl⟩

/-- A composition is refused exactly when it has too few or too many sources, when its target names
no object, or when a source lies in another bucket. -/
theorem checkCompose_cases (sources : List ResourceId) (target : ResourceId)
    (options : ComposeOptions) :
    (Operation.composeObjects sources target options).Malformed ∧
        (∃ reason, checkCompose sources target = .error (StorageError.invalidArgument reason)) ∨
      ¬ (Operation.composeObjects sources target options).Malformed ∧
        checkCompose sources target = .ok () := by
  have hcount : (sources.isEmpty || decide (sources.length > maxComposeSources)) = true ↔
      sources.length < 1 ∨ 32 < sources.length := by
    cases sources <;> simp [maxComposeSources]
  unfold checkCompose
  split
  · next hbad => exact .inl ⟨(hcount.1 hbad).imp_right .inl, _, rfl⟩
  · next hgood =>
    rw [hcount] at hgood
    cases hname : target.objectName with
    | none =>
      rw [ResourceId.requireObjectName, hname]
      exact .inl ⟨.inr (.inr (.inl (by simp [ResourceId.isObject, hname]))), _, rfl⟩
    | some name =>
      rw [Buckets.requireObjectName_eq_ok.2 hname]
      cases hstray : sources.find? (·.bucketName ≠ target.bucketName) with
      | some stray =>
        have hother : stray.bucketName ≠ target.bucketName := by
          simpa using List.find?_some hstray
        exact .inl ⟨.inr (.inr (.inr ⟨stray, List.mem_of_find?_eq_some hstray, hother⟩)), _, rfl⟩
      | none =>
        refine .inr ⟨?_, rfl⟩
        have hsame : ∀ source ∈ sources, source.bucketName = target.bucketName := by
          simpa using hstray
        rintro (hfew | hmany | hobject | ⟨source, hsource, hother⟩)
        · exact hgood (.inl hfew)
        · exact hgood (.inr hmany)
        · simp [ResourceId.isObject, hname] at hobject
        · exact hother (hsame source hsource)

/-- What an operation demands of its arguments is not met exactly when they are bad, and then the
error blames them. -/
theorem demand_cases (operation : Operation α) :
    (operation.Malformed ∧ ∃ error, demand operation = .error error ∧ operation.Blames error) ∨
      ¬ operation.Malformed ∧ demand operation = .ok () := by
  cases operation
  case createBucket bucketName options =>
    rcases checkBucketName_cases bucketName options with ⟨hbad, reason, hcheck⟩ | ⟨hgood, hcheck⟩
    · exact .inl ⟨hbad, _, hcheck, rfl⟩
    · exact .inr ⟨hgood, hcheck⟩
  case copy sourceBucket sources targetBucket targets =>
    rcases checkCopy_cases sourceBucket sources targetBucket targets with
        ⟨hbad, reason, hcheck⟩ | ⟨hgood, hcheck⟩
    · exact .inl ⟨hbad, _, hcheck, trivial⟩
    · exact .inr ⟨hgood, hcheck⟩
  case composeObjects sources target options =>
    rcases checkCompose_cases sources target options with ⟨hbad, reason, hcheck⟩ | ⟨hgood, hcheck⟩
    · exact .inl ⟨hbad, _, hcheck, trivial⟩
    · exact .inr ⟨hgood, hcheck⟩
  all_goals exact .inr ⟨not_false, rfl⟩

/-- Bad arguments are refused by every store, before it tries the lock. -/
theorem run_of_demand {error : Error} (h : demand operation = .error error) :
    store.run operation = (.failed error, store) := by
  cases operation
  case createBucket | copy | composeObjects =>
    dsimp only [demand] at h
    rw [run]
    unfold checked
    rw [h]
  all_goals cases h

/-- A change is refused with the lock. -/
theorem write_of_refused (h : store.available = .error cause)
    (change : Store → Outcome α × Store) : store.write change = (.failed cause, store) := by
  rw [write, h]

/-- An operation with good arguments is refused with the lock. -/
theorem run_of_refused (hclose : operation.isClose = false) (hdemand : demand operation = .ok ())
    (h : store.available = .error cause) : store.run operation = (.failed cause, store) := by
  cases operation <;> rw [run]
  case createBucket | copy | composeObjects =>
    dsimp only [demand] at hdemand
    unfold checked
    rw [hdemand]
    exact write_of_refused h _
  case createEmptyObject | createEmptyObjects | writeObject | deleteBuckets | deleteObjects |
    updateItems => exact write_of_refused h _
  case close => cases hclose
  all_goals exact read_of_refused h _

/-- An operation on a store that is not available is refused, and the store stays as it is. -/
theorem run_refused (hclose : operation.isClose = false) (h : store.available = .error cause) :
    ∃ error, operation.RefusedWith cause error ∧ store.run operation = (.failed error, store) := by
  rcases demand_cases operation with ⟨hbad, error, hdemand, hblames⟩ | ⟨hgood, hdemand⟩
  · exact ⟨error, ⟨fun _ => hblames, fun hgood => (hgood hbad).elim⟩, run_of_demand hdemand⟩
  · exact ⟨cause, ⟨fun hbad => (hgood hbad).elim, fun _ => rfl⟩,
      run_of_refused hclose hdemand h⟩

/-- How an operation on a store that is not available ends. -/
theorem run_refused_fst (hclose : operation.isClose = false)
    (h : store.available = .error cause) :
    ∃ error, operation.RefusedWith cause error ∧ (store.run operation).1 = .failed error := by
  obtain ⟨error, hrefused, hrun⟩ := run_refused hclose h
  exact ⟨error, hrefused, congrArg (·.1) hrun⟩

end Store

end ObjectStorage
