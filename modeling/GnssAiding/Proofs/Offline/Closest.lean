/-
The day that stands in for one that the data does not cover.

The records of the closest day are wanted: some undamaged record is nearest to
the midnight at which the date begins, and the extract holds the records of its
date (`HoldsClosestDay`). The day is searched for among all records, the damaged
ones too, and the extract holds undamaged ones only. `holdsClosestDay_iff` says
when the two agree: the record found by the search is of the same date as an
undamaged record that no other undamaged one is nearer than.
-/
import GnssAiding.Proofs.Offline.Day

namespace GnssAiding.Offline

/-! ## Undamaged records -/

/-- The times of the undamaged records. -/
def usableTimes (fs : List Frame) : List Moment :=
  (fs.filter fun f => f.intact).filterMap recordTime?

/-- No other of the times is nearer to `wanted`. -/
structure Closest (wanted : Moment) (times : List Moment) (t : Moment) : Prop where
  mem : t ∈ times
  le : ∀ u ∈ times, t.distance wanted ≤ u.distance wanted

theorem mem_usableTimes {fs : List Frame} {t : Moment} :
    t ∈ usableTimes fs ↔ ∃ f ∈ fs, f.intact = true ∧ recordTime? f = some t := by
  simp only [usableTimes, List.mem_filterMap, List.mem_filter, and_assoc]

/-- The extract holds orbit records, all of one date, and an undamaged record of
that date is as near to the midnight of `date` as any undamaged record. -/
def HoldsClosestDay (date : Date) (fs : List Frame) (extract : Except Error Bytes) : Prop :=
  ∃ (kept : List Frame) (t : Moment), extract = .ok (kept.flatMap Frame.bytes) ∧
    (∃ f ∈ kept, isRecord f = true) ∧
    Closest (.midnight date) (usableTimes fs) t ∧
    ∀ f ∈ kept, isRecord f = true → NamesDay t.date f

theorem isRecord_iff {f : Frame} : isRecord f = true ↔ f.kind? = some .mgaAno :=
  beq_iff_eq

/-- A record is needed for its date only. -/
theorem namesDay_of_neededOn {target : Option Moment} {f : Frame} (hr : isRecord f = true)
    (hn : neededOn target f = true) : ∃ t, target = some t ∧ NamesDay t.date f := by
  rcases neededOn_iff.1 hn with ha | ⟨t, ht, -, hday, -⟩
  · rw [isAlmanac, isRecord_iff.1 hr] at ha
    cases ha
  · exact ⟨t, ht, hday⟩

/-- A record names one date. -/
theorem NamesDay.unique {d e : Date} {f : Frame} (hd : NamesDay d f) (he : NamesDay e f) : d = e :=
  hd.2.2.trans he.2.2.symm

/-! ## The closest day -/

/-- **The extract holds the closest day** of a clean stream exactly if the record
nearest to the date's midnight, the first of several and damaged ones included,
is of the date of an undamaged record that is nearest among the undamaged ones. -/
theorem holdsClosestDay_iff {date : Date} {data : Bytes} {fs : List Frame}
    (hs : Stream.split data = (fs, [])) :
    HoldsClosestDay date fs (day date data) ↔
      ∃ t u, Nearest (.midnight date) (fs.filterMap recordTime?) t ∧
        Closest (.midnight date) (usableTimes fs) u ∧ t.date = u.date := by
  rw [day_eq hs]
  constructor
  · rintro ⟨kept, u, hselect, ⟨f, hf, hr⟩, hclosest, hall⟩
    obtain ⟨-, hkept⟩ := (select_eq_ok_iff hs).1 hselect
    obtain rfl := flatMap_bytes_injective hkept
    obtain ⟨-, hwanted⟩ := List.mem_filter.1 hf
    obtain ⟨t, ht, hday⟩ := namesDay_of_neededOn hr (Bool.and_eq_true_iff.1 hwanted).2
    exact ⟨t, u, nearest?_eq_some_iff.1 ht, hclosest, hday.unique (hall f hf hr)⟩
  · rintro ⟨t, u, hnearest, hclosest, hdate⟩
    rw [nearest?_eq_some_iff.2 hnearest]
    obtain ⟨f, hf, hintact, hu⟩ := mem_usableTimes.1 hclosest.mem
    obtain ⟨hvalid, hday, hhour, -⟩ := recordTime?_eq_some_iff.1 hu
    have hneeded : neededOn (some t) f = true := by
      refine neededOn_iff.2 (.inr ⟨t, rfl, ?_, ?_, hhour⟩)
      · rwa [hdate]
      · rwa [hdate]
    have hkept : f ∈ fs.filter fun f => f.intact && neededOn (some t) f :=
      List.mem_filter.2 ⟨hf, Bool.and_eq_true_iff.2 ⟨hintact, hneeded⟩⟩
    refine ⟨_, u, select_eq hs (List.ne_nil_of_mem hkept), ⟨f, hkept, isRecord_iff.2 hday.1⟩,
      hclosest, ?_⟩
    intro g hg hr
    obtain ⟨-, hwanted⟩ := List.mem_filter.1 hg
    obtain ⟨t', ht, hday⟩ := namesDay_of_neededOn hr (Bool.and_eq_true_iff.1 hwanted).2
    cases ht
    rwa [← hdate]

/-! ## Damaged records -/

/-- The record with a checksum that is not its own. -/
def damaged (f : Frame) : Frame := { f with checksum := ⟨f.checksum.a + 1, f.checksum.b⟩ }

/-- The closest day has an undamaged record, the day behind it a damaged one. -/
def damagedBehind : List Frame := [damaged (january 5 0), january 4 0, january 5 0]

/-- The damaged record is further away than the undamaged one, and does no harm. -/
theorem holdsClosestDay_damagedBehind :
    Stream.split (damagedBehind.flatMap Frame.bytes) = (damagedBehind, []) ∧
      (∃ f ∈ damagedBehind, f.intact = true ∧ (recordTime? f).isSome = true) ∧
      HoldsClosestDay ⟨2024, 1, 2⟩ damagedBehind
        (day ⟨2024, 1, 2⟩ (damagedBehind.flatMap Frame.bytes)) := by
  have hnearest : Nearest (.midnight ⟨2024, 1, 2⟩) (damagedBehind.filterMap recordTime?)
      ⟨⟨2024, 1, 4⟩, 0, 0, 0⟩ :=
    ⟨by decide +kernel, by decide +kernel, by decide +kernel⟩
  have hclosest : Closest (.midnight ⟨2024, 1, 2⟩) (usableTimes damagedBehind)
      ⟨⟨2024, 1, 4⟩, 0, 0, 0⟩ :=
    ⟨by decide +kernel, by decide +kernel⟩
  refine ⟨Stream.split_flatMap _, ⟨january 4 0, by decide +kernel, by decide +kernel,
    by decide +kernel⟩, ?_⟩
  exact (holdsClosestDay_iff (Stream.split_flatMap _)).2 ⟨_, _, hnearest, hclosest, rfl⟩

/-- A damaged record of the date itself, and an undamaged one of the next day. -/
def damagedAhead : List Frame := [damaged (january 2 0), january 3 0]

/-- The damaged record is found and left out, so that nothing is extracted. -/
theorem day_of_damagedAhead :
    Stream.split (damagedAhead.flatMap Frame.bytes) = (damagedAhead, []) ∧
      (∃ f ∈ damagedAhead, f.intact = true ∧ (recordTime? f).isSome = true) ∧
      day ⟨2024, 1, 2⟩ (damagedAhead.flatMap Frame.bytes) = .error .noDataToSend ∧
      ¬ HoldsClosestDay ⟨2024, 1, 2⟩ damagedAhead
        (day ⟨2024, 1, 2⟩ (damagedAhead.flatMap Frame.bytes)) := by
  have hday : day ⟨2024, 1, 2⟩ (damagedAhead.flatMap Frame.bytes) = .error .noDataToSend := by
    have hnone : damagedAhead.filter (fun f => f.intact && neededOn (nearest?
        (.midnight ⟨2024, 1, 2⟩) (damagedAhead.filterMap recordTime?)) f) = [] := by
      decide +kernel
    simp only [day_eq (Stream.split_flatMap _), select, frames_of_split (Stream.split_flatMap _),
      bind, Except.bind, Stream.map_frame_locate, hnone]
  refine ⟨Stream.split_flatMap _, ⟨january 3 0, by decide +kernel, by decide +kernel,
    by decide +kernel⟩, hday, ?_⟩
  rw [hday]
  rintro ⟨kept, t, hkept, -⟩
  cases hkept

end GnssAiding.Offline
