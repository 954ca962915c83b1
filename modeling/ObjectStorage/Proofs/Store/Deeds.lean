import ObjectStorage.Clock
import ObjectStorage.Proofs.Store.Edits

/-!
# Deeds

A store reads its clock and edits its buckets. A `Deed` is one of these, and
`Deeds deeds before after` says that a series of deeds leads from one `Situation` to
another: each reading is the next one of the clock, and each edit is admissible
and stamped with the time that the clock has shown last. `Deeds.edits` and
`Deeds.clock` take such a series apart again.
-/

namespace ObjectStorage

/-- The time that a reading shows. -/
def Reading.time? : Reading → Option Timestamp
  | .time now => some now
  | .panic => none

/-- The time that an edit is stamped with. -/
def Edit.stamp? : Edit → Option Timestamp
  | addBucket _ _ now | store _ _ _ _ _ now | patch _ now => some now
  | remove _ | dropBucket _ => none

/-- One thing that a store does: it reads its clock, or edits its buckets. -/
inductive Deed where
  | read (reading : Reading)
  | edit (edit : Edit)

/-- What deeds act on: buckets, a clock, and the time that the clock has shown last. -/
structure Situation where
  buckets : Buckets
  clock : Clock
  latest : Option Timestamp

namespace Deed

/-- The edit that a deed makes, if it is one. -/
def edit? : Deed → Option Edit
  | read _ => none
  | edit made => some made

/-- The reading that a deed takes, if it is one. -/
def reading? : Deed → Option Reading
  | read reading => some reading
  | edit _ => none

/-- Says that a deed can be the next one. -/
def Admissible (deed : Deed) (situation : Situation) : Prop :=
  match deed with
  | read reading => reading = situation.clock.now
  | edit made =>
    made.Admissible situation.buckets ∧ ∀ now, made.stamp? = some now → situation.latest = some now

/-- The situation after a deed. -/
def apply (deed : Deed) (situation : Situation) : Situation :=
  match deed with
  | read reading =>
    { situation with clock := situation.clock.tick, latest := reading.time?.or situation.latest }
  | edit made => { situation with buckets := made.apply situation.buckets }

end Deed

/-- A series of deeds, each of which can be the next one, leads from one situation to another. -/
inductive Deeds : List Deed → Situation → Situation → Prop where
  | nil (situation : Situation) : Deeds [] situation situation
  | cons {deed : Deed} {rest : List Deed} {before after : Situation} :
      deed.Admissible before → Deeds rest (deed.apply before) after →
      Deeds (deed :: rest) before after

/-- The edits among some deeds. -/
def editsOf (deeds : List Deed) : List Edit := deeds.filterMap Deed.edit?

/-- The readings of the clock among some deeds. -/
def readingsOf (deeds : List Deed) : List Reading := deeds.filterMap Deed.reading?

/-- The edits among some deeds are the deeds that make them. -/
theorem mem_editsOf {deeds : List Deed} {edit : Edit} :
    edit ∈ editsOf deeds ↔ .edit edit ∈ deeds := by
  rw [editsOf, List.mem_filterMap]
  constructor
  · rintro ⟨deed, hdeed, hedit⟩
    cases deed with
    | read reading => cases hedit
    | edit made =>
      obtain rfl := Option.some.inj hedit
      exact hdeed
  · intro hdeed
    exact ⟨_, hdeed, rfl⟩

/-- The edits of two series of deeds. -/
theorem editsOf_append (deeds later : List Deed) :
    editsOf (deeds ++ later) = editsOf deeds ++ editsOf later :=
  List.filterMap_append

namespace Deeds

variable {deeds later : List Deed} {before middle after : Situation}

/-- Two series make one. -/
theorem append (hfirst : Deeds deeds before middle) (hlater : Deeds later middle after) :
    Deeds (deeds ++ later) before after := by
  induction hfirst with
  | nil => exact hlater
  | cons hadm _ ih => exact .cons hadm (ih hlater)

/-- Edits that all bear the time that was shown last are deeds. -/
theorem of_edits {edits : List Edit} {first last : Buckets} {clock : Clock}
    {latest : Option Timestamp} (h : Edits edits first last)
    (hstamp : ∀ edit ∈ edits, ∀ now, edit.stamp? = some now → latest = some now) :
    Deeds (edits.map .edit) ⟨first, clock, latest⟩ ⟨last, clock, latest⟩ := by
  induction h with
  | nil buckets => exact .nil _
  | cons hadm _ ih =>
    exact .cons ⟨hadm, hstamp _ (.head _)⟩ (ih fun edit hedit => hstamp edit (.tail _ hedit))

/-- The edits among deeds lead from buckets to buckets. -/
theorem edits (h : Deeds deeds before after) :
    Edits (editsOf deeds) before.buckets after.buckets := by
  induction h with
  | nil situation => exact .nil _
  | @cons deed _ _ _ hadm _ ih =>
    cases deed with
    | read reading => exact ih
    | edit made => exact .cons hadm.1 ih

/-- The readings among deeds are the next ones of the clock, which goes on behind them. -/
theorem clock (h : Deeds deeds before after) :
    (∀ n, after.clock n = before.clock (n + (readingsOf deeds).length)) ∧
      readingsOf deeds = (List.range (readingsOf deeds).length).map before.clock := by
  induction h with
  | nil situation => exact ⟨fun _ => rfl, rfl⟩
  | @cons deed rest before after hadm _ ih =>
    obtain ⟨hafter, hreadings⟩ := ih
    cases deed with
    | edit made => exact ⟨hafter, hreadings⟩
    | read reading =>
      -- The clock is one reading further on, so all that follow are shifted by one.
      obtain rfl : reading = before.clock 0 := hadm
      have hcons : readingsOf (.read (before.clock 0) :: rest) =
          before.clock 0 :: readingsOf rest := rfl
      rw [hcons, List.length_cons, List.range_succ_eq_map, List.map_cons, List.map_map]
      exact ⟨hafter, congrArg (before.clock 0 :: ·) hreadings⟩

end Deeds

end ObjectStorage
