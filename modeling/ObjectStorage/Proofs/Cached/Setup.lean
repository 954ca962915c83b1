import ObjectStorage.Proofs.Cached.Effect
import ObjectStorage.Proofs.Config.Settings
import ObjectStorage.Store.Run

/-!
# Setting a cache up

Settings that are not valid are refused, and with valid ones a cache is usable for as
many entries as they allow, unless the lifetime of an entry is longer than the longest
that a cache can have: validation does not look for that, and setting up panics.
`Cached.setup_panics_iff` says so, and which variables and which documents lead there.
-/

namespace ObjectStorage

namespace CachePolicy

/-- The longest lifetime of an entry in milliseconds: 1000 years of 365 days. -/
def maxLifetimeMillis : Nat := 1000 * 365 * 86400 * 1000

theorem ofMillis_le_maxLifetime_iff {millis : Nat} :
    Duration.ofMillis millis ≤ maxLifetime ↔ millis ≤ maxLifetimeMillis := by
  show millis * 1000000 ≤ 1000 * 365 * 86400 * 1000000000 + 0 ↔ millis ≤ 1000 * 365 * 86400 * 1000
  omega

end CachePolicy

namespace Cached

variable {σ : Type} {config : CacheConfig}

/-- Says that a cached backend is usable: its delegate is as it was, nothing is remembered yet,
there is room for as many entries as the settings allow, and what is put into the cache is found
there. -/
structure Usable (config : CacheConfig) (delegate : σ) (state : Cached σ) : Prop where
  delegate : state.delegate = delegate
  empty : state.cache.entries = ∅
  room : state.cache.HasRoomFor config.maxEntries
  remembers : ∀ id info, ((state.cache.put id info).probe id).1 = some info

/-- Settings that are not valid are refused with the error that validation finds. -/
theorem ofConfig_of_invalid {cause : Error} (h : config.validate = .error cause) (delegate : σ) :
    ofConfig config delegate = .failed cause := by
  rw [ofConfig, CacheConfig.policy, h]
  rfl

/-- With too long a lifetime, valid settings make the setting up panic. -/
theorem ofConfig_of_tooLong (h : config.validate = .ok ())
    (hage : ¬ config.maxEntryAge ≤ CachePolicy.maxLifetime) (delegate : σ) :
    ofConfig config delegate = .panicked .lifetimeTooLong := by
  rw [ofConfig, CacheConfig.policy, h]
  dsimp only
  rw [CachePolicy.limited, if_neg hage]
  rfl

/-- With a lifetime that is allowed, valid settings give a cached backend that is usable. -/
theorem ofConfig_of_valid (h : config.validate = .ok ())
    (hage : config.maxEntryAge ≤ CachePolicy.maxLifetime) (delegate : σ) :
    ∃ state, ofConfig config delegate = .ok state ∧ state.Usable config delegate := by
  obtain ⟨hlifetime, hentries⟩ := CacheConfig.validate_eq_ok_iff.1 h
  let cache : ItemCache := { policy := .bounded config.maxEntryAge config.maxEntries }
  have hlossless : cache.Lossless := ⟨rfl, decide_eq_true hlifetime⟩
  have hroom : cache.HasRoomFor config.maxEntries := by
    intro size hsize
    refine decide_eq_true ?_
    simpa [cache] using hsize
  refine ⟨⟨cache, delegate⟩, ?_, rfl, rfl, hroom, fun id info => ?_⟩
  · rw [ofConfig, CacheConfig.policy, h]
    dsimp only
    rw [CachePolicy.limited, if_pos hage]
    rfl
  · -- The entry takes one of the places, of which there is at least one.
    obtain ⟨count, hcount⟩ := Nat.exists_eq_add_one_of_ne_zero hentries
    rw [hcount] at hroom
    have hput : (cache.put id info).Lossless := by
      rw [hlossless.put_eq hroom]
      exact ⟨hlossless.losses, hlossless.retains⟩
    rw [(hput.probe_eq id).1, hlossless.put_eq hroom]
    exact Std.ExtTreeMap.getElem?_insert_self

/-- Setting up ends in one of three ways. -/
theorem ofConfig_cases (config : CacheConfig) (delegate : σ) :
    (∃ cause, config.validate = .error cause ∧ ofConfig config delegate = .failed cause) ∨
      (config.validate = .ok () ∧ ¬ config.maxEntryAge ≤ CachePolicy.maxLifetime ∧
        ofConfig config delegate = .panicked .lifetimeTooLong) ∨
      config.validate = .ok () ∧ config.maxEntryAge ≤ CachePolicy.maxLifetime ∧
        ∃ state, ofConfig config delegate = .ok state ∧ state.Usable config delegate := by
  cases hvalid : config.validate with
  | error cause => exact .inl ⟨cause, rfl, ofConfig_of_invalid hvalid delegate⟩
  | ok valid =>
    by_cases hage : config.maxEntryAge ≤ CachePolicy.maxLifetime
    · exact .inr (.inr ⟨rfl, hage, ofConfig_of_valid hvalid hage delegate⟩)
    · exact .inr (.inl ⟨rfl, hage, ofConfig_of_tooLong hvalid hage delegate⟩)

/-- Setting up fails exactly with the error that validation finds. -/
theorem ofConfig_eq_failed_iff {cause : Error} {delegate : σ} :
    ofConfig config delegate = .failed cause ↔ config.validate = .error cause := by
  rcases ofConfig_cases config delegate with
    ⟨other, hvalid, hend⟩ | ⟨hvalid, -, hend⟩ | ⟨hvalid, -, state, hend, -⟩ <;>
    simp [hvalid, hend, Outcome.failed, Outcome.panicked]

/-- Setting up panics exactly with valid settings in which the lifetime is too long. -/
theorem ofConfig_eq_panicked_iff {reason : Panic} {delegate : σ} :
    ofConfig config delegate = .panicked reason ↔
      reason = .lifetimeTooLong ∧ config.validate = .ok () ∧
        ¬ config.maxEntryAge ≤ CachePolicy.maxLifetime := by
  rcases ofConfig_cases config delegate with
    ⟨cause, hvalid, hend⟩ | ⟨hvalid, hage, hend⟩ | ⟨hvalid, hage, state, hend, -⟩
  · simp [hvalid, hend, Outcome.failed, Outcome.panicked]
  · simp [hvalid, hend, hage, Outcome.panicked, eq_comm]
  · simp [hend, hage, Outcome.panicked]

/-- Setting up with values of which some may be left out panics exactly when a lifetime is given
that is too long, and the number of entries is not zero. -/
theorem ofOptions_panics_iff {millis? entries? : Option Nat} {delegate : σ} :
    (∃ reason, ofConfig (.ofOptions millis? entries?) delegate = .panicked reason) ↔
      entries?.getD CacheConfig.defaultMaxEntries ≠ 0 ∧
        ∃ millis, millis? = some millis ∧ CachePolicy.maxLifetimeMillis < millis := by
  have hage : (CacheConfig.ofOptions millis? entries?).maxEntryAge =
      .ofMillis (millis?.getD CacheConfig.defaultMaxEntryAgeMillis) := rfl
  have hentries : (CacheConfig.ofOptions millis? entries?).maxEntries =
      entries?.getD CacheConfig.defaultMaxEntries := rfl
  simp only [ofConfig_eq_panicked_iff, exists_eq_left, CacheConfig.validate_eq_ok_iff, hage,
    hentries, ne_eq, Duration.ofMillis_eq_zero_iff,
    CachePolicy.ofMillis_le_maxLifetime_iff, Nat.not_le]
  cases millis? with
  | none => simp [CacheConfig.defaultMaxEntryAgeMillis, CachePolicy.maxLifetimeMillis]
  | some millis =>
    simp only [Option.getD_some, Option.some.injEq, exists_eq_left']
    constructor
    · rintro ⟨⟨-, hne⟩, hlong⟩
      exact ⟨hne, hlong⟩
    · rintro ⟨hne, hlong⟩
      exact ⟨⟨by omega, hne⟩, hlong⟩

/-- Environment variables lead to a panic when one holds too long a lifetime and the number of
entries is not zero. -/
theorem ofEnvironment_panics_iff {lookup : String → Option String} {delegate : σ} :
    (∃ reason, ofConfig (.ofEnvironment lookup) delegate = .panicked reason) ↔
      (CacheConfig.ofEnvironment lookup).maxEntries ≠ 0 ∧
        ∃ text millis, lookup CacheConfig.maxEntryAgeVariable = some text ∧
          CacheConfig.IsCount text millis ∧ CachePolicy.maxLifetimeMillis < millis := by
  refine ofOptions_panics_iff.trans (and_congr_right fun _ => ?_)
  simp only [Option.bind_eq_some_iff, CacheConfig.count?_eq_some_iff]
  constructor
  · rintro ⟨millis, ⟨text, htext, hcount⟩, hlong⟩
    exact ⟨text, millis, htext, hcount, hlong⟩
  · rintro ⟨text, millis, htext, hcount, hlong⟩
    exact ⟨millis, ⟨text, htext, hcount⟩, hlong⟩

/-- A document that is taken leads to a panic when it sets too long a lifetime. -/
theorem ofToml_panics_iff {source : String} (h : CacheConfig.ofToml source = .ok config)
    {delegate : σ} :
    (∃ reason, ofConfig config delegate = .panicked reason) ↔
      ∃ settings, ∃ millis : Nat, Toml.settings? source = some settings ∧
        (CacheConfig.maxEntryAgeKey, (millis : Int)) ∈ settings ∧
          CachePolicy.maxLifetimeMillis < millis := by
  obtain ⟨hvalid, settings, millis?, entries?, hsettings, hmillis, -, rfl⟩ :=
    CacheConfig.exists_of_ofToml h
  have hentries := (CacheConfig.validate_eq_ok_iff.1 hvalid).2
  rw [ofOptions_panics_iff, hsettings]
  constructor
  · rintro ⟨-, millis, hgiven, hlong⟩
    exact ⟨settings, millis, rfl, (CacheConfig.mem_iff_of_setting? hmillis millis).2 hgiven, hlong⟩
  · rintro ⟨_, millis, ⟨⟩, hmem, hlong⟩
    exact ⟨hentries, millis, (CacheConfig.mem_iff_of_setting? hmillis millis).1 hmem, hlong⟩

/-- Setting a cache up fails with the error of validation or gives a cached backend that is usable,
unless the settings are valid and the lifetime of an entry is longer than 1000 years: then it
panics. Environment variables lead there when the one of the lifetime holds so large a count and the
number of entries is not zero, and a document that was taken leads there when it sets so large a
lifetime. -/
theorem setup_panics_iff (delegate : σ) :
    (∀ config : CacheConfig,
      (∀ cause, ofConfig config delegate = .failed cause ↔ config.validate = .error cause) ∧
      (∀ reason, ofConfig config delegate = .panicked reason ↔
        reason = .lifetimeTooLong ∧ config.validate = .ok () ∧
          ¬ config.maxEntryAge ≤ .ofYears 1000) ∧
      (config.validate = .ok () → config.maxEntryAge ≤ .ofYears 1000 →
        ∃ state, ofConfig config delegate = .ok state ∧ state.Usable config delegate)) ∧
    (∀ lookup : String → Option String,
      (∃ reason, ofConfig (.ofEnvironment lookup) delegate = .panicked reason) ↔
        (CacheConfig.ofEnvironment lookup).maxEntries ≠ 0 ∧
          ∃ text millis, lookup CacheConfig.maxEntryAgeVariable = some text ∧
            CacheConfig.IsCount text millis ∧ CachePolicy.maxLifetimeMillis < millis) ∧
    (∀ (source : String) (config : CacheConfig), CacheConfig.ofToml source = .ok config →
      ((∃ reason, ofConfig config delegate = .panicked reason) ↔
        ∃ settings, ∃ millis : Nat, Toml.settings? source = some settings ∧
          (CacheConfig.maxEntryAgeKey, (millis : Int)) ∈ settings ∧
            CachePolicy.maxLifetimeMillis < millis)) := by
  exact ⟨fun config => ⟨fun _ => ofConfig_eq_failed_iff, fun _ => ofConfig_eq_panicked_iff,
      fun hvalid hage => ofConfig_of_valid hvalid hage delegate⟩,
    fun _ => ofEnvironment_panics_iff, fun _ _ htaken => ofToml_panics_iff htaken⟩

/-- A document with the longest lifetime is taken, and a cache with its settings is usable. -/
theorem longest_lifetime_usable :
    ∃ config, CacheConfig.ofToml "max_entry_age_ms = 31536000000000\n" = .ok config ∧
      config.validate = .ok () ∧ config.maxEntryAge ≤ .ofYears 1000 ∧
      ∃ state, ofConfig config (Store.empty (.fixed .epoch)) = .ok state ∧
        state.Usable config (Store.empty (.fixed .epoch)) := by
  have htaken : CacheConfig.ofToml "max_entry_age_ms = 31536000000000\n" =
      .ok (.ofOptions (some 31536000000000) none) := by
    decide +kernel
  have hvalid : (CacheConfig.ofOptions (some 31536000000000) none).validate = .ok () := by
    decide +kernel
  have hage : (CacheConfig.ofOptions (some 31536000000000) none).maxEntryAge ≤ .ofYears 1000 := by
    decide +kernel
  exact ⟨_, htaken, hvalid, hage,
    ((setup_panics_iff (Store.empty (.fixed .epoch))).1 _).2.2 hvalid hage⟩

/-- A document with a lifetime that is longer by a millisecond is taken as well, and setting up a
cache with its valid settings panics. -/
theorem longer_lifetime_panics :
    ∃ config, CacheConfig.ofToml "max_entry_age_ms = 31536000000001\n" = .ok config ∧
      config.validate = .ok () ∧
      ofConfig config (Store.empty (.fixed .epoch)) = .panicked .lifetimeTooLong := by
  refine ⟨.ofOptions (some 31536000000001) none, by decide +kernel, by decide +kernel, ?_⟩
  exact ofConfig_of_tooLong (by decide +kernel) (by decide +kernel) _

end Cached

end ObjectStorage
