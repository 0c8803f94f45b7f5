import SharedTables.Calendar.Moment

/-!
# Time zones

A `Zone` is the clock of a place: how far it is from universal time at first, and the points in time
from which on it is another distance away.  All of these are in microseconds.  A reading of the
clock belongs to one point in time, unless the clock passed over the reading or was set back and
came to it again.

* `Zone.instant?_eq_some_iff`  the point in time of a reading is the only one of it
* `Zone.instant?_utc`          in universal time a reading is itself a point in time
* `Moment.instantIn?`          the point in time that a reading is for a clock
-/

namespace SharedTables

/-- The clock of a place: its name, its first distance from universal time, and the points in time
from which on there is another distance, in order. -/
structure Zone where
  name : String
  offset : Int
  changes : List (Int × Int)
deriving DecidableEq, Repr

namespace Zone

/-- Universal time. -/
def utc : Zone := ⟨"UTC", 0, []⟩

/-- The distance from universal time after some changes, given the one before. -/
def offsetAfter (offset : Int) (changes : List (Int × Int)) (instant : Int) : Int :=
  changes.foldl (fun current change => if change.1 ≤ instant then change.2 else current) offset

/-- The distance from universal time at a point in time. -/
def offsetAt (z : Zone) (instant : Int) : Int :=
  offsetAfter z.offset z.changes instant

/-- What the clock shows at a point in time. -/
def reading (z : Zone) (instant : Int) : Int :=
  instant + z.offsetAt instant

/-- The distances from universal time that the clock ever has. -/
def offsets (z : Zone) : List Int :=
  z.offset :: z.changes.map (·.2)

/-- The points in time at which the clock shows a reading. -/
def instants (z : Zone) (reading : Int) : List Int :=
  (z.offsets.map fun offset => reading - offset).filter fun t => z.reading t == reading

/-- The point in time at which the clock shows a reading, if there is just one. -/
def instant? (z : Zone) (reading : Int) : Option Int :=
  match z.instants reading with
  | [] => none
  | t :: rest => if rest.all fun s => s == t then some t else none

theorem offsetAfter_mem (offset : Int) (changes : List (Int × Int)) (instant : Int) :
    offsetAfter offset changes instant ∈ offset :: changes.map (·.2) := by
  induction changes generalizing offset with
  | nil => simp [offsetAfter]
  | cons change rest ih =>
    have hstep : offsetAfter offset (change :: rest) instant =
        offsetAfter (if change.1 ≤ instant then change.2 else offset) rest instant := rfl
    have hrest := ih (if change.1 ≤ instant then change.2 else offset)
    rw [hstep]
    rw [List.map_cons]
    rcases List.mem_cons.1 hrest with h | h
    · rw [h]
      split <;> simp
    · exact List.mem_cons_of_mem _ (List.mem_cons_of_mem _ h)

/-- The points in time of a reading are those at which the clock shows it. -/
theorem mem_instants_iff {z : Zone} {t reading : Int} :
    t ∈ z.instants reading ↔ z.reading t = reading := by
  have hmem : z.offsetAt t ∈ z.offsets := offsetAfter_mem ..
  simp only [instants, List.mem_filter, List.mem_map, beq_iff_eq]
  constructor
  · exact fun h => h.2
  · intro h
    refine ⟨⟨z.offsetAt t, hmem, ?_⟩, h⟩
    unfold Zone.reading at h
    omega

/-- A reading belongs to a point in time if the clock shows it then and at no other time. -/
theorem instant?_eq_some_iff {z : Zone} {t reading : Int} :
    z.instant? reading = some t ↔ ∀ s, z.reading s = reading ↔ s = t := by
  simp only [← mem_instants_iff]
  unfold instant?
  cases h : z.instants reading with
  | nil => simp
  | cons r rest =>
    simp only [List.all_eq_true, beq_iff_eq, Option.ite_none_right_eq_some, Option.some.injEq,
      List.mem_cons]
    constructor
    · rintro ⟨hall, rfl⟩ s
      exact ⟨fun hs => hs.elim id (hall s), .inl⟩
    · intro hall
      obtain rfl := (hall r).1 (.inl rfl)
      exact ⟨fun s hs => (hall s).1 (.inr hs), rfl⟩

@[simp] theorem instant?_utc (reading : Int) : utc.instant? reading = some reading := by
  rw [instant?_eq_some_iff]
  intro s
  simp [Zone.reading, offsetAt, offsetAfter, utc]

end Zone

/-- The point in time that a moment is for a clock: a reading without an offset is one of that
clock, and without a clock it is taken to be in universal time. -/
def Moment.instantIn? (m : Moment) (zone : Option Zone) : Option Int :=
  match m.offset, zone with
  | none, some z => z.instant? m.reading
  | _, _ => some m.instant

theorem Moment.instantIn?_of_utc {zone : Option Zone} (h : zone = none ∨ zone = some .utc)
    (m : Moment) : m.instantIn? zone = some m.instant := by
  obtain ⟨reading, offset⟩ := m
  rcases h with rfl | rfl <;> cases offset <;> simp [instantIn?, instant]

end SharedTables
