import ObjectStorage.Config.Toml
import ObjectStorage.Proofs.Decimal

/-!
# Counts and valid settings

`CacheConfig.IsCount` says which texts are counts, and `CacheConfig.count?_eq_some_iff`
that these and no others are read. `CacheConfig.validate_eq_ok_iff` says which settings
are valid, and `CacheConfig.exists_of_ofToml` where those of a document come from.
-/

namespace ObjectStorage

namespace Duration

variable {a b : Nat}

theorem ofMillis_inj : ofMillis a = ofMillis b ↔ a = b := by
  rw [ofMillis, ofMillis, Duration.mk.injEq]
  omega

theorem ofMillis_eq_zero_iff : ofMillis a = zero ↔ a = 0 := by
  rw [ofMillis, zero, Duration.mk.injEq]
  omega

end Duration

namespace CacheConfig

open Text

/-- Says that a text is a count: at most one plus sign and then digits, for a number of 64 bits. -/
def IsCount (text : String) (n : Nat) : Prop :=
  ∃ digits : List Char, digits ≠ [] ∧ (∀ c ∈ digits, c.isDigit = true) ∧
    (text.toList = digits ∨ text.toList = '+' :: digits) ∧ digitsValue digits = n ∧ n < Word.bound

/-- What is read as a count, once it is known where its digits start. -/
theorem count?_of_digits {text : String} {digits : List Char}
    (h : text.toList = '+' :: digits ∨ text.toList = digits ∧ ∀ rest, digits ≠ '+' :: rest) :
    count? text =
      if digits ≠ [] ∧ digits.all Char.isDigit then
        if digitsValue digits < Word.bound then some (digitsValue digits) else none
      else none := by
  unfold count?
  rcases h with h | ⟨h, hsign⟩
  · rw [h]
    rfl
  · rw [h]
    dsimp only
    split
    · next rest => exact (hsign rest rfl).elim
    · rfl

/-- A text is read as a number exactly when it is a count of that number. -/
theorem count?_eq_some_iff {text : String} {n : Nat} : count? text = some n ↔ IsCount text n := by
  constructor
  · intro h
    obtain ⟨digits, hdigits⟩ : ∃ digits,
        text.toList = '+' :: digits ∨ text.toList = digits ∧ ∀ rest, digits ≠ '+' :: rest := by
      by_cases hsign : ∃ rest, text.toList = '+' :: rest
      · obtain ⟨rest, hrest⟩ := hsign
        exact ⟨rest, .inl hrest⟩
      · exact ⟨text.toList, .inr ⟨rfl, fun rest hrest => hsign ⟨rest, hrest⟩⟩⟩
    rw [count?_of_digits hdigits] at h
    split at h
    · next hall =>
      split at h
      · next hlt =>
        cases h
        exact ⟨digits, hall.1, List.all_eq_true.1 hall.2, hdigits.symm.imp_left (·.1), rfl, hlt⟩
      · cases h
    · cases h
  · rintro ⟨digits, hne, hdigits, htext, rfl, hlt⟩
    -- A second plus sign would be among the digits.
    have hsign : ∀ rest, digits ≠ '+' :: rest := by
      rintro rest rfl
      exact absurd (hdigits '+' (.head _)) (by decide)
    rw [count?_of_digits (htext.symm.imp_right (⟨·, hsign⟩)),
      if_pos ⟨hne, List.all_eq_true.2 hdigits⟩, if_pos hlt]

/-- The decimal digits of a number of 64 bits are a count. -/
theorem isCount_decimal {n : Nat} (h : n < Word.bound) : IsCount (String.ofList (decimal n)) n :=
  ⟨decimal n, decimal_ne_nil n, fun _ => isDigit_of_mem_decimal, .inl String.toList_ofList,
    digitsValue_decimal n, h⟩

/-! ## Settings -/

/-- A value that is left out is the one that stands when none is given. -/
theorem ofOptions_getD (millis? entries? : Option Nat) :
    ofOptions (some (millis?.getD defaultMaxEntryAgeMillis))
        (some (entries?.getD defaultMaxEntries)) =
      ofOptions millis? entries? := by
  rw [ofOptions, ofOptions, Option.getD_some, Option.getD_some]

variable {config : CacheConfig}

/-- Settings are valid when neither the lifetime of an entry nor the number of entries is zero. -/
theorem validate_eq_ok_iff :
    config.validate = .ok () ↔ config.maxEntryAge ≠ .zero ∧ config.maxEntries ≠ 0 := by
  unfold validate
  split
  · next h => simp [h]
  · next hage =>
    split
    · next h => simp [h]
    · next hentries => simp [hage, hentries]

/-- A lifetime of zero is refused first. -/
theorem validate_of_maxEntryAge (h : config.maxEntryAge = .zero) :
    config.validate = .error
      (ConfigError.invalidValue "max_entry_age" "0ns" "max_entry_age must be positive") :=
  if_pos h

/-- No entries at all are refused when the lifetime is not. -/
theorem validate_of_maxEntries (hage : config.maxEntryAge ≠ .zero) (h : config.maxEntries = 0) :
    config.validate = .error
      (ConfigError.invalidValue "max_entries" "0" "max_entries must be greater than 0") :=
  (if_neg hage).trans (if_pos h)

/-- The value of a key is the natural number that the key is set to. -/
theorem mem_iff_of_setting? {settings : List (String × Int)} {key : String} {value? : Option Nat}
    (h : setting? settings key = some value?) (n : Nat) :
    (key, (n : Int)) ∈ settings ↔ value? = some n := by
  have hfilter : (key, (n : Int)) ∈ settings ↔
      (key, (n : Int)) ∈ settings.filter (·.1 = key) := by
    simp
  rw [hfilter]
  unfold setting? at h
  split at h
  · next hnone =>
    cases h
    simp [hnone]
  · next other m hone =>
    split at h
    · next hge =>
      cases h
      have hmem : (other, m) ∈ settings.filter (·.1 = key) := hone ▸ List.mem_singleton_self _
      obtain rfl : other = key := of_decide_eq_true (List.mem_filter.1 hmem).2
      rw [hone, List.mem_singleton, Prod.mk.injEq, and_iff_right rfl, Option.some.injEq]
      omega
    · cases h
  · cases h

/-- Settings of nothing but the two keys are read key by key. -/
theorem ofSettings?_eq_some {settings : List (String × Int)} {millis? entries? : Option Nat}
    (hkeys : ∀ setting ∈ settings, setting.1 = maxEntryAgeKey ∨ setting.1 = maxEntriesKey)
    (hmillis : setting? settings maxEntryAgeKey = some millis?)
    (hentries : setting? settings maxEntriesKey = some entries?) :
    ofSettings? settings = some (ofOptions millis? entries?) := by
  rw [ofSettings?, if_pos, hmillis, hentries]
  · rfl
  · exact List.all_eq_true.2 fun setting hsetting => decide_eq_true (hkeys setting hsetting)

/-- A document that is taken sets each key at most once, and gives valid settings with the values
that are set. -/
theorem exists_of_ofToml {source : String} (h : ofToml source = .ok config) :
    config.validate = .ok () ∧ ∃ settings millis? entries?,
      Toml.settings? source = some settings ∧ setting? settings maxEntryAgeKey = some millis? ∧
        setting? settings maxEntriesKey = some entries? ∧ config = ofOptions millis? entries? := by
  unfold ofToml at h
  split at h
  · cases h
  · next read hread =>
    cases hvalid : read.validate with
    | error cause =>
      rw [hvalid] at h
      cases h
    | ok valid =>
      rw [hvalid] at h
      cases h
      obtain ⟨settings, hsettings, hgiven⟩ := Option.bind_eq_some_iff.1 hread
      unfold ofSettings? at hgiven
      split at hgiven
      · obtain ⟨millis?, hmillis, hgiven⟩ := Option.bind_eq_some_iff.1 hgiven
        obtain ⟨entries?, hentries, hgiven⟩ := Option.bind_eq_some_iff.1 hgiven
        cases hgiven
        exact ⟨hvalid, settings, millis?, entries?, hsettings, hmillis, hentries, rfl⟩
      · cases hgiven

end CacheConfig

end ObjectStorage
