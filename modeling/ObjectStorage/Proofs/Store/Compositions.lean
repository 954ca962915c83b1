import Mathlib.Algebra.GroupWithZero.Nat
import Mathlib.Data.List.Basic
import ObjectStorage.Proofs.Store.Atomicity
import ObjectStorage.Proofs.Store.Refusal
import ObjectStorage.Proofs.Store.Reports

/-!
# Compositions

Composing objects stores the contents of the sources, one behind the other, at the
target. `Buckets.Composable` says when that can be done, and `Store.Composes` what it
makes of a store; a source may be named several times and may be the target itself.
`Store.composition_concatenates` puts the two together, and concludes that sources can
be composed in two stages by way of a temporary object.
-/

namespace ObjectStorage

namespace Buckets

variable {buckets : Buckets} {id target : ResourceId} {sources : List ResourceId}
  {objects : List StoredObject}

/-- The content of the object at an id; empty when there is none. -/
def content (buckets : Buckets) (id : ResourceId) : Bytes :=
  ((buckets.object? id).map (·.content)).getD []

/-- The content of an object that is there. -/
theorem content_of_object? {object : StoredObject} (h : buckets.object? id = some object) :
    buckets.content id = object.content := by
  rw [content, h]
  rfl

/-- Required objects are all there, and are the ones that are found. -/
theorem mapM_requireObject :
    sources.mapM buckets.requireObject = .ok objects ↔
      (∀ source ∈ sources, ∃ object, buckets.object? source = some object) ∧
        objects = sources.filterMap buckets.object? := by
  induction sources generalizing objects with
  | nil => simp [pure, Except.pure, eq_comm]
  | cons source rest ih =>
    simp only [List.mapM_cons, bind_eq_ok_iff, requireObject_eq_ok, ih, List.forall_mem_cons]
    constructor
    · rintro ⟨object, hobject, _, ⟨hrest, rfl⟩, hobjects⟩
      obtain rfl := Except.ok.inj hobjects
      exact ⟨⟨⟨object, hobject⟩, hrest⟩, by rw [List.filterMap_cons_some hobject]⟩
    · rintro ⟨⟨⟨object, hobject⟩, hrest⟩, rfl⟩
      exact ⟨object, hobject, _, ⟨hrest, rfl⟩, by rw [List.filterMap_cons_some hobject]; rfl⟩

/-- The contents of the objects that are found, one behind the other. -/
theorem flatMap_content (sources : List ResourceId) :
    (sources.filterMap buckets.object?).flatMap (·.content) = sources.flatMap buckets.content := by
  induction sources with
  | nil => rfl
  | cons source rest ih =>
    rw [List.flatMap_cons, content]
    cases hsource : buckets.object? source with
    | none => rw [List.filterMap_cons_none hsource, ih]; rfl
    | some object => rw [List.filterMap_cons_some hsource, List.flatMap_cons, ih]; rfl

/-- The contents of several objects are as long as the sizes that are reported say together. -/
theorem WellFormed.length_flatMap_content (hwf : buckets.WellFormed)
    (hfound : ∀ source ∈ sources, ∃ object, buckets.object? source = some object) :
    (sources.flatMap buckets.content).length =
      (sources.map fun source => (buckets.lookup source).size).sum := by
  rw [List.length_flatMap]
  refine congrArg List.sum (List.map_congr_left fun source hsource => ?_)
  obtain ⟨object, hobject⟩ := hfound source hsource
  rw [content_of_object? hobject, lookup_of_object? hobject, (hwf.object hobject).size]

/-- Says that sources can be composed into an object at a target. -/
structure Composable (buckets : Buckets) (sources : List ResourceId) (target : ResourceId) :
    Prop where
  nonempty : 1 ≤ sources.length
  bounded : sources.length ≤ 32
  found : ∀ source ∈ sources, ∃ object, buckets.object? source = some object
  together : ∀ source ∈ sources, source.bucketName = target.bucketName
  isObject : target.isObject = true
  named : target.objectName ≠ some ""

/-- Sources that can be composed lie in a bucket that is there. -/
theorem Composable.mem (h : buckets.Composable sources target) :
    target.bucketName ∈ buckets := by
  obtain ⟨source, hsource⟩ := List.exists_mem_of_length_pos h.nonempty
  obtain ⟨object, hobject⟩ := h.found source hsource
  exact h.together source hsource ▸ mem_of_object? hobject

end Buckets

namespace Store

variable {clock : Clock} {store after : Store} {sources : List ResourceId} {target : ResourceId}
  {options : ComposeOptions} {info : ItemInfo}

/-- The arguments of a composition are good when there are 1 to 32 sources in the bucket of a target
that names an object. -/
theorem checkCompose_eq_ok :
    checkCompose sources target = .ok () ↔
      (1 ≤ sources.length ∧ sources.length ≤ 32) ∧ target.isObject = true ∧
        ∀ source ∈ sources, source.bucketName = target.bucketName := by
  have hgood : ¬ (Operation.composeObjects sources target {}).Malformed ↔
      (1 ≤ sources.length ∧ sources.length ≤ 32) ∧ target.isObject = true ∧
        ∀ source ∈ sources, source.bucketName = target.bucketName := by
    simp [Operation.Malformed, Nat.one_le_iff_ne_zero, and_assoc]
  rw [← hgood]
  rcases checkCompose_cases sources target {} with ⟨hbad, reason, hrefused⟩ | ⟨hgood, hcheck⟩
  · rw [hrefused]
    exact ⟨nofun, fun hgood => (hgood hbad).elim⟩
  · exact ⟨fun _ => hgood, fun _ => hcheck⟩

/-- What a composition makes of a store: the contents that the sources have had before, one behind
the other, are at the target, and all else is as it was. -/
structure Composes (store : Store) (sources : List ResourceId) (target : ResourceId)
    (options : ComposeOptions) (info : ItemInfo) (after : Store) : Prop where
  stored : ∃ object, after.buckets.object? target = some object ∧ object.info = info ∧
    object.content = sources.flatMap store.buckets.content
  contentType : info.contentType = options.contentType
  metadata : info.metadata = options.metadata
  size : info.size = (sources.map fun source => (store.buckets.lookup source).size).sum
  contentGeneration : info.contentGeneration = store.buckets.generation target + 1
  reported : (after.run (.getItemInfo target)).1 = .ok info
  other : ∀ {id}, id ≠ target → after.buckets.object? id = store.buckets.object? id
  bucket : ∀ bucketName, after.buckets.bucketInfo? bucketName = store.buckets.bucketInfo? bucketName
  rest : after = { store with buckets := after.buckets, clock := store.clock.tick }

/-- The content at the target of a composition. -/
theorem Composes.content_eq (h : store.Composes sources target options info after) :
    after.buckets.content target = sources.flatMap store.buckets.content := by
  obtain ⟨object, hobject, -, hcontent⟩ := h.stored
  rw [Buckets.content_of_object? hobject, hcontent]

/-- The content of an object that is not the target of a composition stays as it is. -/
theorem Composes.content_other (h : store.Composes sources target options info after)
    {id : ResourceId} (hid : id ≠ target) :
    after.buckets.content id = store.buckets.content id := by
  rw [Buckets.content, h.other hid, Buckets.content]

/-- With good arguments and behind a lock that can be taken, a composition is the change itself. -/
theorem run_composeObjects (havailable : store.available = .ok ())
    (hclock : store.clock.NeverPanics) (hcheck : checkCompose sources target = .ok ()) :
    store.run (.composeObjects sources target options) =
      store.composeObjects sources target options := by
  rw [run]
  unfold checked
  rw [hcheck]
  exact write_of_evolves havailable hclock composeObjects_evolves

/-- Sources that can be composed are composed. -/
theorem composes_of_composable (havailable : store.available = .ok ())
    (hclock : store.clock.NeverPanics) (h : store.buckets.Composable sources target)
    (options : ComposeOptions) :
    ∃ info after, store.run (.composeObjects sources target options) = (.ok info, after) := by
  have hcheck := checkCompose_eq_ok.2 ⟨⟨h.nonempty, h.bounded⟩, h.isObject, h.together⟩
  have hobjects := Buckets.mapM_requireObject.2 ⟨h.found, rfl⟩
  obtain ⟨info, after, hstored, -⟩ := storeObject_overwrite
    ((sources.filterMap store.buckets.object?).flatMap (·.content)) options.contentType
    options.metadata hclock h.isObject h.named h.mem
  refine ⟨info, after, ?_⟩
  rw [run_composeObjects havailable hclock hcheck, composeObjects, hobjects]
  exact hstored

/-- A composition that succeeds has been given sources that can be composed, and composes them. -/
theorem composable_of_composes (hwf : store.buckets.WellFormed)
    (havailable : store.available = .ok ()) (hclock : store.clock.NeverPanics)
    (h : store.run (.composeObjects sources target options) = (.ok info, after)) :
    store.buckets.Composable sources target ∧ store.Composes sources target options info after := by
  have hcheck : checkCompose sources target = .ok () := by
    rw [run] at h
    exact (checked_eq_ok h).1
  rw [run_composeObjects havailable hclock hcheck, composeObjects] at h
  split at h
  · cases h
  · next objects hobjects =>
    obtain ⟨⟨hnonempty, hbounded⟩, -, htogether⟩ := checkCompose_eq_ok.1 hcheck
    obtain ⟨hfound, rfl⟩ := Buckets.mapM_requireObject.1 hobjects
    rw [Buckets.flatMap_content] at h
    obtain ⟨⟨hobject, hname, hbucket, -⟩, object, now, hversion, rfl, rfl⟩ := storeObject_eq_ok h
    have hput : ∀ id, (store.buckets.put target object).object? id =
        if target = id then some object else store.buckets.object? id :=
      fun id => Buckets.object?_put hbucket hobject
    have hlookup : (store.buckets.put target object).lookup target = object.info :=
      Buckets.lookup_of_object? (by rw [hput, if_pos rfl])
    refine ⟨⟨hnonempty, hbounded, hfound, htogether, hobject, hname⟩, ?_⟩
    constructor
    case stored => exact ⟨object, by rw [hput, if_pos rfl], rfl, by rw [hversion]; rfl⟩
    case size =>
      rw [hversion]
      exact hwf.length_flatMap_content hfound
    case reported =>
      rw [run, read_of_available (by exact havailable), hlookup]
    case other =>
      intro id hid
      rw [hput, if_neg (Ne.symm hid)]
    case bucket => exact fun bucketName => Buckets.bucketInfo?_put
    all_goals first | rfl | (rw [hversion]; rfl)

/-- A composition leaves the store with a lock that can be taken, and the same readings to come. -/
theorem Composes.available (h : store.Composes sources target options info after)
    (havailable : store.available = .ok ()) : after.available = .ok () := by
  rw [h.rest]
  exact havailable

/-- What composing in two stages comes to: the target has the content that composing all of the
sources at once gives it. -/
structure StagesCompose (store : Store) (leading rest : List ResourceId) (target : ResourceId)
    (after : Store) : Prop where
  content : after.buckets.content target = (leading ++ rest).flatMap store.buckets.content
  atOnce : (leading ++ rest).length ≤ 32 → ∀ options, ∃ info direct,
    store.run (.composeObjects (leading ++ rest) target options) = (.ok info, direct) ∧
      direct.buckets.content target = after.buckets.content target

/-- Sources can be composed in two stages, the leading ones into a temporary object that is not
among the rest. -/
theorem stagesCompose {middle : Store} {leading rest : List ResourceId} {temporary : ResourceId}
    {first second : ComposeOptions} {leadingInfo : ItemInfo}
    (hreach : Reachable clock store) (hclock : clock.NeverPanics) (hopen : store.closed = false)
    (hfirst : store.run (.composeObjects leading temporary first) = (.ok leadingInfo, middle))
    (hsecond : middle.run (.composeObjects (temporary :: rest) target second) = (.ok info, after))
    (htemporary : temporary ∉ rest) : store.StagesCompose leading rest target after := by
  have havailable := hreach.available hclock hopen
  have hnever := hreach.neverPanics hclock
  have hmiddle : Reachable clock middle := by
    have hrun := hreach.run (.composeObjects leading temporary first)
    rwa [hfirst] at hrun
  obtain ⟨hleading, hcomposes⟩ :=
    composable_of_composes hreach.wellFormed havailable hnever hfirst
  obtain ⟨hrest, hcomposed⟩ := composable_of_composes hmiddle.wellFormed
    (hcomposes.available havailable) (hmiddle.neverPanics hclock) hsecond
  -- The first stage touches the temporary object alone, so the rest is as it was before it.
  have hkept : ∀ source ∈ rest, source ≠ temporary :=
    fun source hsource heq => htemporary (heq ▸ hsource)
  have hcontent : after.buckets.content target =
      (leading ++ rest).flatMap store.buckets.content := by
    have hsame : rest.flatMap middle.buckets.content = rest.flatMap store.buckets.content :=
      List.flatMap_congr fun source hsource => hcomposes.content_other (hkept source hsource)
    rw [hcomposed.content_eq, List.flatMap_cons, hcomposes.content_eq, hsame, List.flatMap_append]
  refine ⟨hcontent, fun hbounded options => ?_⟩
  have hcomposable : store.buckets.Composable (leading ++ rest) target := by
    obtain ⟨htogether, htogetherRest⟩ := List.forall_mem_cons.1 hrest.together
    refine ⟨?nonempty, hbounded, ?found, ?together, hrest.isObject, hrest.named⟩
    case nonempty =>
      rw [List.length_append]
      exact Nat.le_add_right_of_le hleading.nonempty
    case found =>
      refine List.forall_mem_append.2 ⟨hleading.found, fun source hsource => ?_⟩
      rw [← hcomposes.other (hkept source hsource)]
      exact hrest.found source (List.mem_cons_of_mem _ hsource)
    case together =>
      refine List.forall_mem_append.2 ⟨fun source hsource => ?_, htogetherRest⟩
      exact (hleading.together source hsource).trans htogether
  obtain ⟨directInfo, direct, hdirect⟩ :=
    composes_of_composable havailable hnever hcomposable options
  obtain ⟨-, hcomposesDirect⟩ :=
    composable_of_composes hreach.wellFormed havailable hnever hdirect
  exact ⟨directInfo, direct, hdirect, hcomposesDirect.content_eq.trans hcontent.symm⟩

/-- On a reachable store that is open and whose clock does not panic, exactly the sources that can
be composed are composed, and composing them in two stages gives the same content. -/
theorem composition_concatenates (hreach : Reachable clock store) (hclock : clock.NeverPanics)
    (hopen : store.closed = false) :
    (∀ sources target options,
      (∃ info after, store.run (.composeObjects sources target options) = (.ok info, after)) ↔
        store.buckets.Composable sources target) ∧
    (∀ sources target options info after,
      store.run (.composeObjects sources target options) = (.ok info, after) →
        store.Composes sources target options info after) ∧
    ∀ leading rest temporary target first second leadingInfo middle info after,
      store.run (.composeObjects leading temporary first) = (.ok leadingInfo, middle) →
      middle.run (.composeObjects (temporary :: rest) target second) = (.ok info, after) →
      temporary ∉ rest → store.StagesCompose leading rest target after := by
  have havailable := hreach.available hclock hopen
  have hnever := hreach.neverPanics hclock
  refine ⟨fun _ _ options =>
      ⟨?_, fun hcomposable => composes_of_composable havailable hnever hcomposable options⟩,
    fun _ _ _ _ _ h => (composable_of_composes hreach.wellFormed havailable hnever h).2,
    fun _ _ _ _ _ _ _ _ _ _ hfirst hsecond htemporary =>
      stagesCompose hreach hclock hopen hfirst hsecond htemporary⟩
  rintro ⟨info, after, h⟩
  exact (composable_of_composes hreach.wellFormed havailable hnever h).1

/-- Two objects are composed in two stages: each target is itself a source, and the temporary object
is one of the sources that it replaces. -/
theorem aliased_stages_concatenate :
    let a : ResourceId := .object "media" "a"
    let b : ResourceId := .object "media" "b"
    let store := ((((empty (.fixed .epoch)).run (.createBucket "media" {})).2.run
      (.writeObject a [1] {})).2.run (.writeObject b [2, 3] {})).2
    let first : Outcome ItemInfo × Store := store.run (.composeObjects [a, b, a] b {})
    let second : Outcome ItemInfo × Store := first.2.run (.composeObjects [b, a] a {})
    Reachable (.fixed .epoch) store ∧ store.closed = false ∧
      store.buckets.Composable [a, b, a] b ∧
      store.Composes [a, b, a] b {} (first.2.buckets.lookup b) first.2 ∧
      store.StagesCompose [a, b, a] [a] a second.2 ∧
      second.2.buckets.content a = [1, 2, 3, 1, 1] := by
  intro a b store first second
  have hreach : Reachable (.fixed .epoch) store := .run _ (.run _ (.run _ .empty))
  have hclock : (Clock.fixed .epoch).NeverPanics := fun _ => ⟨_, rfl⟩
  have hopen : store.closed = false := by decide +kernel
  have hfirst : first.1 = .ok (first.2.buckets.lookup b) := by decide +kernel
  have hsecond : second.1 = .ok (second.2.buckets.lookup a) := by decide +kernel
  obtain ⟨hcomposable, hcomposes, hstages⟩ := composition_concatenates hreach hclock hopen
  exact ⟨hreach, hopen, (hcomposable _ _ _).1 ⟨_, _, Prod.ext hfirst rfl⟩,
    hcomposes _ _ _ _ _ (Prod.ext hfirst rfl),
    hstages _ _ _ _ _ _ _ _ _ _ (Prod.ext hfirst rfl) (Prod.ext hsecond rfl) (by decide),
    by decide +kernel⟩

end Store

end ObjectStorage
