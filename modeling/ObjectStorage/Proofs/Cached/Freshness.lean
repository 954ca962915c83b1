import ObjectStorage.Proofs.Cached.Shared

/-!
# Freshness of the answers of a cache

Whatever others do to a store with two caches in front of it, each answer of the
first cache can be dated: it is what the store reported at some moment, which is
not before the last event that made older reports obsolete, and successive
answers about one id never go back in time. `Shared.answers_fresh` says so. The
dates come from a ghost history (`History`) that also dates the entries of the
cache, and one event extends the history (`History.append`).
-/

namespace ObjectStorage

/-- Says that the answer at this position of a moment is about an id. -/
def Answers (moments : List Moment) (n p : Nat) (id : ResourceId) (info : ItemInfo) : Prop :=
  ∃ moment, moments[n]? = some moment ∧ moment.answered[p]? = some (id, info)

/-- Says that what is known about an id before the moment `n`, or at it, was reported at a date, and
that nothing has made that report obsolete before the moment `n`. -/
structure Dated (moments : List Moment) (n : Nat) (id : ResourceId) (info : ItemInfo) (date : Nat) :
    Prop where
  le : date ≤ n
  reported : ∃ moment, moments[date]? = some moment ∧
    ItemInfo.lastAbout moment.reported id = some info
  refreshed : ∀ {s moment}, s < n → moments[s]? = some moment → moment.Refreshes id → s ≤ date

/-- Says that dates are right for all answers, and that those about one id never go back. -/
structure Fresh (moments : List Moment) (date : Nat → Nat → Nat) : Prop where
  dated : ∀ {n p id info}, Answers moments n p id info → Dated moments n id info (date n p)
  monotone : ∀ {m q n p id earlier later}, Answers moments m q id earlier →
    Answers moments n p id later → m < n ∨ m = n ∧ q < p → date m q ≤ date n p

/-- Dates of the answers and of the entries that a run has left in a cache. -/
structure History (moments : List Moment) (cache : ItemCache) (date : Nat → Nat → Nat)
    (born : ResourceId → Nat) : Prop extends Fresh moments date where
  entry : ∀ {id info}, cache.entries[id]? = some info →
    Dated moments moments.length id info (born id)
  born_ge : ∀ {n p id answer info}, Answers moments n p id answer →
    cache.entries[id]? = some info → date n p ≤ born id

variable {moments : List Moment} {moment : Moment} {n p date : Nat} {id : ResourceId}
  {info : ItemInfo}

/-- An answer of a longer run is an old one, or one of the last moment. -/
theorem Answers.append_cases (h : Answers (moments ++ [moment]) n p id info) :
    n < moments.length ∧ Answers moments n p id info ∨
      n = moments.length ∧ moment.answered[p]? = some (id, info) := by
  obtain ⟨other, hother, hanswer⟩ := h
  rw [List.getElem?_append] at hother
  split at hother
  · next hlt => exact .inl ⟨hlt, other, hother, hanswer⟩
  · next hge =>
    rw [List.getElem?_singleton] at hother
    split at hother
    · next hzero =>
      obtain rfl := Option.some.inj hother
      exact .inr ⟨by omega, hanswer⟩
    · cases hother

/-- A date stays right in a longer run. -/
theorem Dated.append (h : Dated moments n id info date) (hn : n ≤ moments.length) :
    Dated (moments ++ [moment]) n id info date where
  le := h.le
  reported := by
    obtain ⟨source, hsource, hlast⟩ := h.reported
    refine ⟨source, ?_, hlast⟩
    rw [List.getElem?_append_left (List.getElem?_eq_some_iff.1 hsource).1, hsource]
  refreshed {s other} hs hother hrefresh := by
    rw [List.getElem?_append_left (by omega)] at hother
    exact h.refreshed hs hother hrefresh

/-- A date is right after a moment that does not make it obsolete. -/
theorem Dated.later (h : Dated moments moments.length id info date)
    (hquiet : ¬ moment.Refreshes id) :
    Dated (moments ++ [moment]) (moments.length + 1) id info date where
  le := by
    have hle := h.le
    omega
  reported := (h.append (by omega)).reported
  refreshed {s other} hs hother hrefresh := by
    have hcases : s < moments.length ∨ s = moments.length := by omega
    rcases hcases with hs | rfl
    · rw [List.getElem?_append_left hs] at hother
      exact h.refreshed hs hother hrefresh
    · obtain rfl : moment = other := by simpa using hother
      exact (hquiet hrefresh).elim

/-- What is reported at the last moment can be dated then. -/
theorem Dated.now (h : ItemInfo.lastAbout moment.reported id = some info)
    (hn : moments.length ≤ n) (hlast : n ≤ moments.length + 1) :
    Dated (moments ++ [moment]) n id info moments.length where
  le := hn
  reported := ⟨moment, by simp, h⟩
  refreshed := by omega

namespace Moment.Explains

variable {before after : ItemCache} {places : List (ResourceId × Option ItemInfo)}
  {lookup : ResourceId → ItemInfo}

/-- An answer at a moment was found among the entries, or has just been reported. -/
theorem answer_cases (h : moment.Explains before after places lookup)
    (hanswer : moment.answered[p]? = some (id, info)) :
    places[p]? = some (id, some info) ∧ before.entries[id]? = some info ∨
      places[p]? = some (id, none) ∧ ItemInfo.lastAbout moment.reported id = some info := by
  rw [h.answered, List.getElem?_map, Option.map_eq_some_iff] at hanswer
  obtain ⟨⟨place, slot⟩, hplace, hpair⟩ := hanswer
  obtain ⟨rfl, rfl⟩ := Prod.mk.inj hpair
  have hmem := List.mem_of_getElem? hplace
  cases slot with
  | none => exact .inr ⟨hplace, h.asked hmem⟩
  | some found => exact .inl ⟨hplace, h.found.entry hmem⟩

/-- Where an id was not found, it is not found later in the same call. -/
theorem missed (h : moment.Explains before after places lookup) {q : Nat} (hq : q < p)
    (hmissed : places[q]? = some (id, none)) : places[p]? ≠ some (id, some info) := by
  intro hfound
  obtain ⟨hqlt, hmissed⟩ := List.getElem?_eq_some_iff.1 hmissed
  obtain ⟨hplt, hfound⟩ := List.getElem?_eq_some_iff.1 hfound
  have hnone := List.pairwise_iff_getElem.1 h.found.missed q p hqlt hplt hq
  rw [hmissed, hfound] at hnone
  cases hnone rfl rfl

end Moment.Explains

/-- The date of the answer at a place: that of the entry that was found there, or now. -/
def dateAt (born : ResourceId → Nat) (now : Nat) (places : List (ResourceId × Option ItemInfo))
    (p : Nat) : Nat :=
  match places[p]? with
  | some (id, some _) => born id
  | _ => now

/-- What was found is dated as the entry. -/
theorem dateAt_found {born : ResourceId → Nat} {now : Nat}
    {places : List (ResourceId × Option ItemInfo)} (h : places[p]? = some (id, some info)) :
    dateAt born now places p = born id := by
  rw [dateAt, h]

/-- What was not found is dated now. -/
theorem dateAt_missed {born : ResourceId → Nat} {now : Nat}
    {places : List (ResourceId × Option ItemInfo)} (h : places[p]? = some (id, none)) :
    dateAt born now places p = now := by
  rw [dateAt, h]

/-- The dates of the answers of a longer run. -/
def dateThen (date : Nat → Nat → Nat) (born : ResourceId → Nat) (now : Nat)
    (places : List (ResourceId × Option ItemInfo)) (n p : Nat) : Nat :=
  if n < now then date n p else dateAt born now places p

/-- The dates of the entries after one more moment: now, for what has just been reported. -/
def bornThen (born : ResourceId → Nat) (now : Nat) (moment : Moment) (after : ItemCache)
    (id : ResourceId) : Nat :=
  if ItemInfo.lastAbout moment.reported id = after.entries[id]? then now else born id

namespace History

variable {before after : ItemCache} {date : Nat → Nat → Nat} {born : ResourceId → Nat}
  {places : List (ResourceId × Option ItemInfo)} {lookup : ResourceId → ItemInfo}

/-- Old answers keep their dates. -/
theorem dateThen_old {now : Nat} (h : n < now) : dateThen date born now places n p = date n p :=
  if_pos h

/-- Answers at the last moment get the dates of their places. -/
theorem dateThen_now {now : Nat} : dateThen date born now places now p = dateAt born now places p :=
  if_neg (Nat.lt_irrefl now)

/-- The date of an answer at the last moment is right. -/
theorem dated_now (h : History moments before date born)
    (hexplains : moment.Explains before after places lookup)
    (hanswer : moment.answered[p]? = some (id, info)) :
    Dated (moments ++ [moment]) moments.length id info (dateAt born moments.length places p) := by
  rcases hexplains.answer_cases hanswer with ⟨hplace, hentry⟩ | ⟨hplace, hlast⟩
  · rw [dateAt_found hplace]
    exact (h.entry hentry).append (by omega)
  · rw [dateAt_missed hplace]
    exact .now hlast (by omega) (by omega)

/-- The dates of a longer run are right. -/
theorem dated_then (h : History moments before date born)
    (hexplains : moment.Explains before after places lookup)
    (hanswer : Answers (moments ++ [moment]) n p id info) :
    Dated (moments ++ [moment]) n id info
      (dateThen date born moments.length places n p) := by
  rcases hanswer.append_cases with ⟨hlt, hold⟩ | ⟨rfl, hnow⟩
  · rw [dateThen_old hlt]
    exact (h.dated hold).append (by omega)
  · rw [dateThen_now]
    exact h.dated_now hexplains hnow

/-- The dates of a longer run never go back. -/
theorem monotone_then (h : History moments before date born)
    (hexplains : moment.Explains before after places lookup) {m q : Nat} {earlier later : ItemInfo}
    (hearlier : Answers (moments ++ [moment]) m q id earlier)
    (hlater : Answers (moments ++ [moment]) n p id later) (horder : m < n ∨ m = n ∧ q < p) :
    dateThen date born moments.length places m q ≤
      dateThen date born moments.length places n p := by
  rcases hlater.append_cases with ⟨hnlt, hlaterOld⟩ | ⟨rfl, hlaterNow⟩
  · rcases hearlier.append_cases with ⟨hmlt, hearlierOld⟩ | ⟨rfl, -⟩
    · rw [dateThen_old hmlt, dateThen_old hnlt]
      exact h.monotone hearlierOld hlaterOld horder
    · omega
  · have hle := (h.dated_then hexplains hearlier).le
    rw [dateThen_now]
    rcases hexplains.answer_cases hlaterNow with ⟨hplace, hentry⟩ | ⟨hplace, -⟩
    · rw [dateAt_found hplace]
      rcases hearlier.append_cases with ⟨hmlt, hearlierOld⟩ | ⟨rfl, hearlierNow⟩
      · rw [dateThen_old hmlt]
        exact h.born_ge hearlierOld hentry
      · -- Both are answers of one call, and what was found later was found before too.
        rw [dateThen_now]
        rcases hexplains.answer_cases hearlierNow with ⟨hfound, -⟩ | ⟨hmissed, -⟩
        · exact Nat.le_of_eq (dateAt_found hfound)
        · exact (hexplains.missed (by omega) hmissed hplace).elim
    · -- What has just been reported is dated now, and no date is later.
      rw [dateAt_missed hplace]
      omega

/-- The dates of the entries that a longer run has left are right. -/
theorem entry_then (h : History moments before date born)
    (hexplains : moment.Explains before after places lookup)
    (hentry : after.entries[id]? = some info) :
    Dated (moments ++ [moment]) (moments.length + 1) id info
      (bornThen born moments.length moment after id) := by
  rw [bornThen, hentry]
  split
  · next hlast => exact .now hlast (by omega) (by omega)
  · next hlast =>
    obtain ⟨hold, hquiet, -⟩ := (hexplains.entries hentry).resolve_left hlast
    exact (h.entry hold).later hquiet

/-- The entries that a longer run has left are not older than its answers. -/
theorem born_ge_then (h : History moments before date born)
    (hexplains : moment.Explains before after places lookup) {answer : ItemInfo}
    (hanswer : Answers (moments ++ [moment]) n p id answer)
    (hentry : after.entries[id]? = some info) :
    dateThen date born moments.length places n p ≤
      bornThen born moments.length moment after id := by
  rw [bornThen, hentry]
  split
  · have hle := (h.dated_then hexplains hanswer).le
    rcases hanswer.append_cases with ⟨hlt, -⟩ | ⟨rfl, -⟩ <;> omega
  · next hlast =>
    -- The entry is an old one, so its id was not asked for unless it was found.
    obtain ⟨hold, -, hfound⟩ := (hexplains.entries hentry).resolve_left hlast
    rcases hanswer.append_cases with ⟨hlt, hanswerOld⟩ | ⟨rfl, hanswerNow⟩
    · rw [dateThen_old hlt]
      exact h.born_ge hanswerOld hold
    · rw [dateThen_now]
      rcases hexplains.answer_cases hanswerNow with ⟨hplace, -⟩ | ⟨hplace, -⟩
      · exact Nat.le_of_eq (dateAt_found hplace)
      · exact (hfound (List.mem_of_getElem? hplace)).elim

/-- One more moment extends a history. -/
theorem append (h : History moments before date born)
    (hexplains : moment.Explains before after places lookup) :
    History (moments ++ [moment]) after (dateThen date born moments.length places)
      (bornThen born moments.length moment after) where
  dated := h.dated_then hexplains
  monotone := h.monotone_then hexplains
  entry hentry := by
    rw [List.length_append, List.length_singleton]
    exact h.entry_then hexplains hentry
  born_ge := h.born_ge_then hexplains

end History

namespace Shared

variable {clock : Clock} {store : Store} {own peer : ItemCache}

/-- A run leaves a store that calls lead to. -/
theorem reachable_after (h : Store.Reachable clock store) (events : List Event) :
    Store.Reachable clock (after events ⟨own, peer, store⟩).store := by
  induction events using List.reverseRecOn with
  | nil => exact h
  | append_singleton events event ih =>
    rw [after_append_singleton]
    exact reachable_step ih event

/-- Every run has a history. -/
theorem exists_history (hreach : Store.Reachable clock store) (hempty : own.entries = ∅)
    (events : List Event) :
    ∃ date born, History (course events ⟨own, peer, store⟩)
      (after events ⟨own, peer, store⟩).own date born := by
  induction events using List.reverseRecOn with
  | nil =>
    refine ⟨fun _ _ => 0, fun _ => 0, ⟨?_, ?_⟩, ?_, ?_⟩
    all_goals simp [course, after, Answers, hempty]
  | append_singleton events event ih =>
    obtain ⟨date, born, hhistory⟩ := ih
    have hlater : Store.Reachable clock (after events ⟨own, peer, store⟩).store :=
      reachable_after hreach events
    obtain ⟨places, lookup, hexplains⟩ := step_explained hlater.wellFormed event
    rw [course_append_singleton, after_append_singleton]
    exact ⟨_, _, hhistory.append hexplains⟩

/-- The answers of a cache that starts without entries can be dated, whatever else happens to the
store: each is what the store has reported at its date, no earlier event has made that obsolete, and
the dates of the answers about one id never go back. -/
theorem answers_fresh (hreach : Store.Reachable clock store) (hempty : own.entries = ∅)
    (events : List Event) : ∃ date, Fresh (course events ⟨own, peer, store⟩) date := by
  obtain ⟨date, born, hhistory⟩ := exists_history hreach hempty events
  exact ⟨date, hhistory.toFresh⟩

/-- The answers about an object that is overwritten behind the cache, and then deleted through it,
can be dated. -/
theorem nested_answers_fresh :
    ∃ date, Fresh (course [.own (.getItemInfos [.object "media" "a/x", .object "media" "a/x"]),
      .direct (.writeObject (.object "media" "a/x") [2] {}),
      .own (.getItemInfo (.object "media" "a/x")),
      .peer (.listBucketInfo),
      .own (.deleteObjects [.object "media" "a/x"]),
      .own (.getItemInfo (.object "media" "a/x"))]
      ⟨{ policy := .plain }, { policy := .plain }, Store.nested⟩) date :=
  answers_fresh Store.reachable_nested rfl _

end Shared

end ObjectStorage
