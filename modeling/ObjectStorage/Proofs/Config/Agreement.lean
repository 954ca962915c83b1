import ObjectStorage.Proofs.Config.Document
import ObjectStorage.Proofs.Config.Settings

/-!
# Three ways to the same settings

Values for the settings of a cache can be written as a document, held by environment
variables or set one after another. `CacheConfig.sources_agree` says that these give
the same settings, that a document is refused for the very error that validation
finds in the others, and what a text in a variable means. Each way is first led back
to `CacheConfig.ofOptions`.
-/

namespace ObjectStorage.CacheConfig

open Text

/-- What a value can be given for: the lifetime of an entry in milliseconds, or the number of
entries. -/
inductive Key where
  | maxEntryAge
  | maxEntries
deriving DecidableEq

namespace Key

/-- The key in a document. -/
def name : Key → String
  | maxEntryAge => maxEntryAgeKey
  | maxEntries => maxEntriesKey

/-- The environment variable. -/
def variableName : Key → String
  | maxEntryAge => maxEntryAgeVariable
  | maxEntries => maxEntriesVariable

/-- The field that an error is about. -/
def field : Key → String
  | maxEntryAge => "max_entry_age"
  | maxEntries => "max_entries"

/-- The value that stands when none is given. -/
def standard : Key → Nat
  | maxEntryAge => defaultMaxEntryAgeMillis
  | maxEntries => defaultMaxEntries

/-- The settings with another value. -/
def set : Key → Nat → CacheConfig → CacheConfig
  | maxEntryAge, millis, config => config.withMaxEntryAge (.ofMillis millis)
  | maxEntries, count, config => config.withMaxEntries count

theorem name_inj {key other : Key} : key.name = other.name ↔ key = other := by
  cases key <;> cases other <;> decide

/-- The key in a document needs no quotes. -/
theorem bare_name (key : Key) :
    key.name.toList ≠ [] ∧ ∀ c ∈ key.name.toList, Toml.isBareKeyChar c = true := by
  rw [← List.all_eq_true]
  cases key <;> decide

end Key

/-- Says that settings have a value. -/
def Has (config : CacheConfig) : Key → Nat → Prop
  | .maxEntryAge, millis => config.maxEntryAge = .ofMillis millis
  | .maxEntries, count => config.maxEntries = count

/-- The values that are given, in their order. -/
abbrev Assignments := List (Key × Nat)

namespace Assignments

/-- Says that no key is given two values, and no value has more than 64 bits with a sign. -/
structure Proper (assignments : Assignments) : Prop where
  nodup : (assignments.map (·.1)).Nodup
  fits : ∀ assignment ∈ assignments, (assignment.2 : Int) ≤ Word.greatestSigned

/-- The value that a key has in the end. -/
def value (assignments : Assignments) (key : Key) : Nat :=
  (assignments.lookup key).getD key.standard

/-- The settings of a document. -/
def lines (assignments : Assignments) : List (String × Nat) :=
  assignments.map fun assignment => (assignment.1.name, assignment.2)

/-- The settings as they are read. -/
def reading (assignments : Assignments) : List (String × Int) :=
  assignments.map fun assignment => (assignment.1.name, (assignment.2 : Int))

/-- The settings that come of setting the values one after another. -/
def build (assignments : Assignments) : CacheConfig :=
  assignments.foldl (fun config assignment => assignment.1.set assignment.2 config) default

/-- Says that environment variables hold the values in decimal digits, and are unset for the keys
that have none. -/
def HeldBy (assignments : Assignments) (lookup : String → Option String) : Prop :=
  ∀ key : Key, lookup key.variableName =
    (assignments.lookup key).map fun n => String.ofList (decimal n)

variable {assignments : Assignments}

/-- A key that is given a value first is not given another one. -/
theorem lookup_eq_none {key : Key} {n : Nat}
    (h : (((key, n) :: assignments).map (·.1)).Nodup) : assignments.lookup key = none := by
  refine List.lookup_eq_none_iff.2 fun other hother => ?_
  have hne : key ≠ other.1 := fun heq =>
    (List.nodup_cons.1 h).1 (List.mem_map.2 ⟨other, hother, heq.symm⟩)
  simpa using hne

/-! ## Values that are set one after another -/

/-- The values that are set take the place of those that were there. -/
theorem foldl_set (h : (assignments.map (·.1)).Nodup) (millis count : Nat) :
    assignments.foldl (fun config assignment => assignment.1.set assignment.2 config)
        (ofOptions (some millis) (some count)) =
      ofOptions (some ((assignments.lookup .maxEntryAge).getD millis))
        (some ((assignments.lookup .maxEntries).getD count)) := by
  induction assignments generalizing millis count with
  | nil => rfl
  | cons assignment assignments ih =>
    obtain ⟨key, n⟩ := assignment
    have hothers := ih (List.nodup_cons.1 h).2
    -- The value stays, since none of those that follow is for the same key.
    have hnone := lookup_eq_none h
    cases key with
    | maxEntryAge =>
      have hset : Key.set .maxEntryAge n (ofOptions (some millis) (some count)) =
          ofOptions (some n) (some count) := by
        simp only [Key.set, withMaxEntryAge, ofOptions, Option.getD_some]
      simp only [List.foldl_cons, hset, hothers, hnone]
      rfl
    | maxEntries =>
      have hset : Key.set .maxEntries n (ofOptions (some millis) (some count)) =
          ofOptions (some millis) (some n) := by
        simp only [Key.set, withMaxEntries, ofOptions, Option.getD_some]
      simp only [List.foldl_cons, hset, hothers, hnone]
      rfl

/-- Setting values gives the settings in which these values are not left out. -/
theorem build_eq (h : (assignments.map (·.1)).Nodup) :
    assignments.build =
      ofOptions (assignments.lookup .maxEntryAge) (assignments.lookup .maxEntries) := by
  have hset := foldl_set h defaultMaxEntryAgeMillis defaultMaxEntries
  rwa [ofOptions_getD] at hset

/-- The settings have the values that the keys have in the end. -/
theorem has_build (h : (assignments.map (·.1)).Nodup) (key : Key) :
    assignments.build.Has key (assignments.value key) := by
  rw [build_eq h]
  cases key <;> rfl

/-! ## Documents -/

/-- The keys of a document need no quotes, and its numbers fit. -/
theorem Proper.writable (h : assignments.Proper) :
    ∀ setting ∈ assignments.lines, Toml.Writable setting := by
  intro setting hsetting
  obtain ⟨⟨key, n⟩, hassignment, rfl⟩ := List.mem_map.1 hsetting
  exact ⟨key.bare_name.1, key.bare_name.2, h.fits _ hassignment⟩

theorem reading_cons (key : Key) (n : Nat) (assignments : Assignments) :
    reading ((key, n) :: assignments) = (key.name, (n : Int)) :: assignments.reading := rfl

/-- Of the settings that are read, those of a key are at most one. -/
theorem filter_name (h : (assignments.map (·.1)).Nodup) (key : Key) :
    assignments.reading.filter (·.1 = key.name) =
      ((assignments.lookup key).map fun n : Nat => (key.name, (n : Int))).toList := by
  induction assignments with
  | nil => rfl
  | cons assignment assignments ih =>
    obtain ⟨other, n⟩ := assignment
    have hothers := ih (List.nodup_cons.1 h).2
    by_cases hkey : other = key
    · subst hkey
      rw [reading_cons, List.filter_cons_of_pos (by simp), hothers, lookup_eq_none h,
        List.lookup_cons_self]
      rfl
    · have hne : (key == other) = false := beq_eq_false_iff_ne.2 (Ne.symm hkey)
      rw [reading_cons, List.filter_cons_of_neg (by simpa using mt Key.name_inj.1 hkey), hothers,
        List.lookup_cons, hne]

/-- A key is read as the value that it was given. -/
theorem setting?_eq_some (h : (assignments.map (·.1)).Nodup) (key : Key) :
    setting? assignments.reading key.name = some (assignments.lookup key) := by
  rw [setting?, filter_name h]
  cases assignments.lookup key with
  | none => rfl
  | some n => exact if_pos (Int.natCast_nonneg n)

/-- A document is read as the settings with its values, which are then validated. -/
theorem ofToml_eq (h : assignments.Proper) {source : String}
    (hsource : Toml.IsDocument assignments.lines source) :
    ofToml source = assignments.build.validate.map fun () => assignments.build := by
  have hread : Toml.settings? source = some assignments.reading := by
    rw [Toml.settings?_eq_some h.writable hsource, lines, List.map_map]
    rfl
  have hkeys : ∀ setting ∈ assignments.reading,
      setting.1 = maxEntryAgeKey ∨ setting.1 = maxEntriesKey := by
    intro setting hsetting
    obtain ⟨⟨key, n⟩, -, rfl⟩ := List.mem_map.1 hsetting
    cases key with
    | maxEntryAge => exact .inl rfl
    | maxEntries => exact .inr rfl
  have hsettings : ofSettings? assignments.reading = some assignments.build := by
    rw [build_eq h.nodup]
    exact ofSettings?_eq_some hkeys (setting?_eq_some h.nodup .maxEntryAge)
      (setting?_eq_some h.nodup .maxEntries)
  rw [ofToml, hread, Option.bind_some, hsettings]

/-- A document without a zero is read as the settings with its values. -/
theorem ofToml_eq_ok (h : assignments.Proper) {source : String}
    (hsource : Toml.IsDocument assignments.lines source)
    (hne : ∀ key, assignments.value key ≠ 0) : ofToml source = .ok assignments.build := by
  have hage : assignments.build.maxEntryAge = _ := has_build h.nodup .maxEntryAge
  have hentries : assignments.build.maxEntries = _ := has_build h.nodup .maxEntries
  have hvalid : assignments.build.validate = .ok () := by
    rw [validate_eq_ok_iff, hage, hentries, Ne, Duration.ofMillis_eq_zero_iff]
    exact ⟨hne .maxEntryAge, hne .maxEntries⟩
  rw [ofToml_eq h hsource, hvalid]
  rfl

/-! ## Variables -/

/-- Variables that hold the values give the settings in which these values are not left out. -/
theorem ofEnvironment_eq (h : assignments.Proper) {lookup : String → Option String}
    (hheld : assignments.HeldBy lookup) : ofEnvironment lookup = assignments.build := by
  have hread (key : Key) : (lookup key.variableName).bind count? = assignments.lookup key := by
    rw [hheld key]
    cases hgiven : assignments.lookup key with
    | none => rfl
    | some n =>
      have hmem : (key, n) ∈ assignments := by
        obtain ⟨before, after, rfl, -⟩ := List.lookup_eq_some_iff.1 hgiven
        exact List.mem_append_right _ (.head _)
      -- A document has numbers with a sign, and a variable holds one without.
      have hfits : n < Word.bound := by
        have hle := h.fits _ hmem
        simp only [Word.greatestSigned] at hle
        simp only [Word.bound]
        omega
      exact count?_eq_some_iff.2 (isCount_decimal hfits)
  rw [build_eq h.nodup, ← hread .maxEntryAge, ← hread .maxEntries]
  rfl

end Assignments

/-- The value of a key is what its variable is read as, or else the one that stands when none is
given. -/
theorem has_ofEnvironment_iff {lookup : String → Option String} {key : Key} {n : Nat} :
    (ofEnvironment lookup).Has key n ↔
      ((lookup key.variableName).bind count?).getD key.standard = n := by
  cases key with
  | maxEntryAge => exact Duration.ofMillis_inj
  | maxEntries => exact Iff.rfl

/-- A variable that holds a count gives its number, and one that holds anything else gives the value
that stands when none is given. -/
theorem has_iff_isCount {lookup : String → Option String} {key : Key} {text : String}
    (htext : lookup key.variableName = some text) (n : Nat) :
    (ofEnvironment lookup).Has key n ↔
      IsCount text n ∨ n = key.standard ∧ ∀ m, ¬ IsCount text m := by
  simp only [has_ofEnvironment_iff, htext, Option.bind_some, ← count?_eq_some_iff]
  cases count? text with
  | none => simp [eq_comm]
  | some m => simp

/-- Settings with a zero are refused for it, and for the lifetime of an entry first. -/
theorem validate_eq_error {config : CacheConfig} {value : Key → Nat}
    (hvalue : ∀ key, config.Has key (value key)) (hzero : ∃ key, value key = 0) :
    ∃ key shown reason, value key = 0 ∧ (value .maxEntryAge = 0 → key = .maxEntryAge) ∧
      config.validate = .error (ConfigError.invalidValue key.field shown reason) := by
  have hage : config.maxEntryAge = .zero ↔ value .maxEntryAge = 0 := by
    rw [show config.maxEntryAge = _ from hvalue .maxEntryAge, Duration.ofMillis_eq_zero_iff]
  have hentries : config.maxEntries = value .maxEntries := hvalue .maxEntries
  by_cases hfirst : value .maxEntryAge = 0
  · exact ⟨.maxEntryAge, _, _, hfirst, fun _ => rfl, validate_of_maxEntryAge (hage.2 hfirst)⟩
  · obtain ⟨key, hkey⟩ := hzero
    cases key with
    | maxEntryAge => exact (hfirst hkey).elim
    | maxEntries =>
      exact ⟨.maxEntries, _, _, hkey, fun h => (hfirst h).elim,
        validate_of_maxEntries (mt hage.1 hfirst) (hentries.trans hkey)⟩

/-- Values that are written as a document, held by environment variables or set one after another
give the same settings, unless one of them is zero: then the document is refused for the error that
validation finds in the others, which is about the lifetime of an entry if that is zero. A variable
that holds a count gives its number, and one that holds anything else gives the value that stands
when none is given, whatever the other variable holds. -/
theorem sources_agree :
    (∀ (assignments : Assignments) (source : String) (lookup : String → Option String),
      assignments.Proper → Toml.IsDocument assignments.lines source → assignments.HeldBy lookup →
        (∀ key, assignments.build.Has key (assignments.value key)) ∧
        ofEnvironment lookup = assignments.build ∧
        ((∀ key, assignments.value key ≠ 0) → ofToml source = .ok assignments.build) ∧
        ((∃ key, assignments.value key = 0) → ∃ key shown reason,
          assignments.value key = 0 ∧ (assignments.value .maxEntryAge = 0 → key = .maxEntryAge) ∧
          let error : Error := ConfigError.invalidValue key.field shown reason
          (ofEnvironment lookup).validate = .error error ∧
            assignments.build.validate = .error error ∧ ofToml source = .error error)) ∧
    ∀ (lookup : String → Option String) (key : Key) (text : String) (n : Nat),
      lookup key.variableName = some text →
        ((ofEnvironment lookup).Has key n ↔
          IsCount text n ∨ n = key.standard ∧ ∀ m, ¬ IsCount text m) := by
  refine ⟨fun assignments source lookup hproper hsource hheld => ?_,
    fun lookup key text n htext => has_iff_isCount htext n⟩
  have hhas := Assignments.has_build hproper.nodup
  have henvironment := Assignments.ofEnvironment_eq hproper hheld
  refine ⟨hhas, henvironment, Assignments.ofToml_eq_ok hproper hsource, fun hzero => ?_⟩
  obtain ⟨key, shown, reason, hkey, hfirst, hrefused⟩ := validate_eq_error hhas hzero
  refine ⟨key, shown, reason, hkey, hfirst, ?_, hrefused, ?_⟩
  · rw [henvironment, hrefused]
  · rw [Assignments.ofToml_eq hproper hsource, hrefused]
    rfl

/-- Two zeros, of which the second is about the lifetime and ends the document without a line feed,
are refused for the lifetime; the greatest lifetime alone is taken; and a plus sign and zeros may
lead the number of entries. -/
theorem reversed_zeros_agree :
    let zeros : Assignments := [(.maxEntries, 0), (.maxEntryAge, 0)]
    let greatest : Assignments := [(.maxEntryAge, 9223372036854775807)]
    let zerosSource := "max_entries = 0\nmax_entry_age_ms = 0"
    let greatestSource := "max_entry_age_ms = 9223372036854775807\n"
    let zerosHeld : String → Option String := fun _ => some "0"
    let greatestHeld : String → Option String := fun name =>
      if name = maxEntryAgeVariable then some "9223372036854775807" else none
    let led : String → Option String := fun _ => some "+007"
    (zeros.Proper ∧ Toml.IsDocument zeros.lines zerosSource ∧ zeros.HeldBy zerosHeld ∧
      ∃ shown reason, ofToml zerosSource =
        .error (ConfigError.invalidValue "max_entry_age" shown reason)) ∧
    (greatest.Proper ∧ Toml.IsDocument greatest.lines greatestSource ∧
      greatest.HeldBy greatestHeld ∧ ofToml greatestSource = .ok (ofEnvironment greatestHeld)) ∧
    led Key.maxEntries.variableName = some "+007" ∧ (ofEnvironment led).Has .maxEntries 7 := by
  intro zeros greatest zerosSource greatestSource zerosHeld greatestHeld led
  have hzeros : zeros.Proper := ⟨by decide, by decide⟩
  have hgreatest : greatest.Proper := ⟨by decide, by decide⟩
  have hzerosSource : Toml.IsDocument zeros.lines zerosSource := .inr (by decide +kernel)
  have hgreatestSource : Toml.IsDocument greatest.lines greatestSource := .inl (by decide +kernel)
  have hzerosHeld : zeros.HeldBy zerosHeld := by
    intro key
    cases key <;> decide +kernel
  have hgreatestHeld : greatest.HeldBy greatestHeld := by
    intro key
    cases key <;> decide +kernel
  have hled : IsCount "+007" 7 :=
    ⟨['0', '0', '7'], by decide, List.all_eq_true.1 rfl, .inr (by decide), by decide, by decide⟩
  obtain ⟨-, -, -, hrefused⟩ := sources_agree.1 zeros _ _ hzeros hzerosSource hzerosHeld
  obtain ⟨-, hsame, htaken, -⟩ :=
    sources_agree.1 greatest _ _ hgreatest hgreatestSource hgreatestHeld
  obtain ⟨key, shown, reason, -, hfirst, -, -, htoml⟩ := hrefused ⟨.maxEntries, rfl⟩
  obtain rfl := hfirst rfl
  refine ⟨⟨hzeros, hzerosSource, hzerosHeld, shown, reason, htoml⟩,
    ⟨hgreatest, hgreatestSource, hgreatestHeld, ?_⟩, rfl, ?_⟩
  · rw [hsame]
    refine htaken fun key => ?_
    cases key <;> decide
  · exact (sources_agree.2 led .maxEntries "+007" 7 rfl).2 (.inl hled)

end ObjectStorage.CacheConfig
