/-
What one day needs of offline data.

`extract` is the selection by date alone: every almanac and every orbit record
that names the date. `day` comes to it by way of the one record nearest to the
midnight at which the date begins, and reads an hour in each record on the
way. `day_eq_extract_iff` says when the two are the same: the nearest record
is one of that date, and no record of that date has an hour that does not
exist.
-/
import GnssAiding.Proofs.Calendar
import GnssAiding.Proofs.Offline.Select
import Mathlib.Data.List.MinMax

namespace GnssAiding

/-- A full hour exists on a date if the hour does. -/
theorem Moment.make?_hour_eq_some_iff {d : Date} {hour : Nat} {t : Moment} :
    Moment.make? d hour 0 0 = some t ↔ hour < 24 ∧ t = ⟨d, hour, 0, 0⟩ := by
  simp [Moment.make?, eq_comm]

namespace Offline

/-! ## Records and their dates -/

/-- The hour that a record is for. -/
def recordHour (f : Frame) : Nat := (f.payload.getD 7 0).toNat

/-- The frame is an orbit record that names the date. -/
def NamesDay (date : Date) (f : Frame) : Prop :=
  f.kind? = some .mgaAno ∧ 8 ≤ f.payload.length ∧
    date = ⟨((f.payload.getD 4 0).toNat + 2000 : Nat), (f.payload.getD 5 0).toNat,
      (f.payload.getD 6 0).toNat⟩

instance (date : Date) (f : Frame) : Decidable (NamesDay date f) :=
  inferInstanceAs (Decidable (_ ∧ _ ∧ _))

/-- The almanacs and the records that name the date, one behind the other. -/
def extract (date : Date) (fs : List Frame) : Bytes :=
  (fs.filter fun f => f.intact && (isAlmanac f || decide (NamesDay date f))).flatMap Frame.bytes

/-- The first of the times that are nearest to `wanted`. -/
structure Nearest (wanted : Moment) (times : List Moment) (t : Moment) : Prop where
  mem : t ∈ times
  le : ∀ u ∈ times, t.distance wanted ≤ u.distance wanted
  first : ∀ u ∈ times, u.distance wanted ≤ t.distance wanted → times.idxOf t ≤ times.idxOf u

theorem nearest?_eq_argmin (wanted : Moment) (times : List Moment) :
    nearest? wanted times = times.argmin fun t => t.distance wanted := by
  unfold nearest? List.argmin
  congr 1
  funext best t
  cases best <;> rfl

theorem nearest?_eq_some_iff {wanted : Moment} {times : List Moment} {t : Moment} :
    nearest? wanted times = some t ↔ Nearest wanted times t := by
  rw [nearest?_eq_argmin, ← Option.mem_def, List.mem_argmin_iff]
  exact ⟨fun ⟨hmem, hle, hfirst⟩ => ⟨hmem, hle, hfirst⟩,
    fun h => ⟨h.mem, h.le, h.first⟩⟩

/-- A record has a time if its date and its hour exist. -/
theorem recordTime?_eq_some_iff {f : Frame} {t : Moment} :
    recordTime? f = some t ↔
      t.date.Valid ∧ NamesDay t.date f ∧ recordHour f < 24 ∧ t = ⟨t.date, recordHour f, 0, 0⟩ := by
  unfold recordTime? NamesDay
  rw [Option.ite_none_right_eq_some]
  dsimp only
  constructor
  · rintro ⟨hano, h⟩
    obtain ⟨d, hd, ht⟩ := Option.bind_eq_some_iff.1 h
    obtain ⟨hvalid, hdate⟩ := Date.make?_eq_some_iff.1 hd
    obtain ⟨hhour, rfl⟩ := Moment.make?_hour_eq_some_iff.1 ht
    exact ⟨hvalid, ⟨hano.1, hano.2, hdate⟩, hhour, rfl⟩
  · rintro ⟨hvalid, ⟨hkind, hlen, hdate⟩, hhour, ht⟩
    refine ⟨⟨hkind, hlen⟩, Option.bind_eq_some_iff.2 ⟨t.date, ?_, ?_⟩⟩
    · exact Date.make?_eq_some_iff.2 ⟨hvalid, hdate⟩
    · exact Moment.make?_hour_eq_some_iff.2 ⟨hhour, ht⟩

/-- The record of a date that exists has a time if its hour exists. -/
theorem recordTime?_of_namesDay {date : Date} (hv : date.Valid) {f : Frame}
    (h : NamesDay date f) (hh : recordHour f < 24) :
    recordTime? f = some ⟨date, recordHour f, 0, 0⟩ :=
  recordTime?_eq_some_iff.2 ⟨hv, h, hh, rfl⟩

theorem not_isAlmanac_of_namesDay {date : Date} {f : Frame} (h : NamesDay date f) :
    isAlmanac f = false := by
  rw [isAlmanac, h.1]
  rfl

/-- What is needed are the almanacs and the records of the target's date that
have a time. -/
theorem neededOn_iff {target : Option Moment} {f : Frame} :
    neededOn target f = true ↔
      isAlmanac f = true ∨ ∃ t, target = some t ∧ t.date.Valid ∧ NamesDay t.date f ∧
        recordHour f < 24 := by
  unfold neededOn
  rw [Bool.or_eq_true]
  refine or_congr_right ⟨fun h => ?_, fun ⟨t, ht, hv, hday, hhour⟩ => ?_⟩
  · split at h
    · next u t hu =>
      obtain ⟨hv, hday, hhour, -⟩ := recordTime?_eq_some_iff.1 hu
      rw [beq_iff_eq.1 h] at hv hday
      exact ⟨t, rfl, hv, hday, hhour⟩
    · cases h
  · rw [recordTime?_of_namesDay hv hday hhour, ht]
    exact beq_self_eq_true t.date

/-! ## The day that is chosen -/

theorem day_eq {date : Date} {data : Bytes} {fs : List Frame}
    (hs : Stream.split data = (fs, [])) :
    day date data =
      select (neededOn (nearest? (.midnight date) (fs.filterMap recordTime?))) data := by
  have htimes : (Stream.locate 0 fs).filterMap (fun l => recordTime? l.frame) =
      fs.filterMap recordTime? := by
    rw [← Stream.map_frame_locate 0 fs, List.filterMap_map, Stream.map_frame_locate]
    rfl
  simp only [day, frames_of_split hs, bind, Except.bind, htimes]

/-- **The extract of a day that the data covers.** Where an undamaged record of
a clean stream names the date, the extract is what the date alone selects
exactly if the record nearest to the date's midnight, the first of several, is
one of that date, and every undamaged record of that date is for an hour that
exists. -/
theorem day_eq_extract_iff {date : Date} (hv : date.Valid) {data : Bytes} {fs : List Frame}
    (hs : Stream.split data = (fs, [])) (hr : ∃ f ∈ fs, f.intact = true ∧ NamesDay date f) :
    day date data = .ok (extract date fs) ↔
      (∃ t, Nearest (.midnight date) (fs.filterMap recordTime?) t ∧ t.date = date) ∧
        ∀ f ∈ fs, f.intact = true → NamesDay date f → recordHour f < 24 := by
  obtain ⟨r, hmem, hintact, hday⟩ := hr
  rw [day_eq hs]
  constructor
  · intro h
    generalize htarget : nearest? (.midnight date) (fs.filterMap recordTime?) = target at h
    -- Both selections have the same frames, so every frame is in both or in neither.
    have hneed : ∀ f ∈ fs, f.intact = true →
        (neededOn target f = true ↔ isAlmanac f = true ∨ NamesDay date f) := by
      have hsame : (fs.filter fun f => f.intact && neededOn target f) =
          fs.filter fun f => f.intact && (isAlmanac f || decide (NamesDay date f)) := by
        by_cases hne : fs.filter (fun f => f.intact && neededOn target f) = []
        · simp only [select, frames_of_split hs, bind, Except.bind, Stream.map_frame_locate,
            hne] at h
          cases h
        · rw [select_eq hs hne] at h
          exact flatMap_bytes_injective (Except.ok.inj h)
      intro f hf hfi
      have hiff := congrArg (f ∈ ·) hsame
      simpa [List.mem_filter, hf, hfi] using hiff
    have hall : ∀ f ∈ fs, f.intact = true → NamesDay date f →
        recordHour f < 24 ∧ ∃ t, target = some t ∧ t.date = date := by
      intro f hf hfi hfd
      have hn := (hneed f hf hfi).2 (.inr hfd)
      rw [neededOn_iff, not_isAlmanac_of_namesDay hfd] at hn
      obtain hn | ⟨t, ht, -, htday, hhour⟩ := hn
      · cases hn
      · exact ⟨hhour, t, ht, htday.2.2.trans hfd.2.2.symm⟩
    obtain ⟨-, t, ht, hdate⟩ := hall r hmem hintact hday
    rw [ht, nearest?_eq_some_iff] at htarget
    exact ⟨⟨t, htarget, hdate⟩, fun f hf hfi hfd => (hall f hf hfi hfd).1⟩
  · rintro ⟨⟨t, hnearest, hdate⟩, hhours⟩
    rw [nearest?_eq_some_iff.2 hnearest]
    have hsame : (fs.filter fun f => f.intact && neededOn (some t) f) =
        fs.filter fun f => f.intact && (isAlmanac f || decide (NamesDay date f)) := by
      refine List.filter_congr fun f hf => ?_
      rw [Bool.eq_iff_iff]
      simp only [Bool.and_eq_true, neededOn_iff, Bool.or_eq_true, decide_eq_true_eq,
        Option.some.injEq, exists_eq_left']
      refine and_congr_right fun hfi => or_congr_right ?_
      rw [hdate]
      exact ⟨fun h => h.2.1, fun h => ⟨hv, h, hhours f hf hfi h⟩⟩
    have hr : r ∈ fs.filter fun f => f.intact && neededOn (some t) f := by
      rw [hsame]
      simp [hmem, hintact, hday]
    rw [select_eq hs (List.ne_nil_of_mem hr), hsame]
    rfl

/-! ## Two days -/

/-- An orbit record of January 2024. -/
def january (day hour : UInt8) : Frame :=
  .sealed MessageClass.mga MgaId.ano ([0, 0, 5, 0, 24, 1, day, hour] ++ List.replicate 68 0)
    (by simp)

/-- Records of the first and the second of January, for midnight. -/
def twoDays : List Frame := [january 1 0, january 2 0]

theorem day_eq_extract_twoDays :
    (⟨2024, 1, 2⟩ : Date).Valid ∧
      Stream.split (twoDays.flatMap Frame.bytes) = (twoDays, []) ∧
      (∃ f ∈ twoDays, f.intact = true ∧ NamesDay ⟨2024, 1, 2⟩ f) ∧
      day ⟨2024, 1, 2⟩ (twoDays.flatMap Frame.bytes) = .ok (january 2 0).bytes := by
  have hrecord : ∃ f ∈ twoDays, f.intact = true ∧ NamesDay ⟨2024, 1, 2⟩ f :=
    ⟨january 2 0, by decide +kernel, by decide +kernel, by decide +kernel⟩
  have hnearest : Nearest (.midnight ⟨2024, 1, 2⟩) (twoDays.filterMap recordTime?)
      ⟨⟨2024, 1, 2⟩, 0, 0, 0⟩ := by
    refine ⟨by decide +kernel, by decide +kernel, by decide +kernel⟩
  have hextract : extract ⟨2024, 1, 2⟩ twoDays = (january 2 0).bytes := by decide +kernel
  refine ⟨by decide +kernel, Stream.split_flatMap _, hrecord, ?_⟩
  rw [← hextract]
  exact (day_eq_extract_iff (by decide +kernel) (Stream.split_flatMap _) hrecord).2
    ⟨⟨_, hnearest, rfl⟩, by decide +kernel⟩

/-- The evening of the first of January, then the afternoon of the second. -/
def eveningBefore : List Frame := [january 1 23, january 2 13]

/-- The evening before is nearer to the midnight than the afternoon after it,
so the record of the day itself is left out. -/
theorem day_of_eveningBefore :
    (⟨2024, 1, 2⟩ : Date).Valid ∧
      Stream.split (eveningBefore.flatMap Frame.bytes) = (eveningBefore, []) ∧
      (∃ f ∈ eveningBefore, f.intact = true ∧ NamesDay ⟨2024, 1, 2⟩ f) ∧
      extract ⟨2024, 1, 2⟩ eveningBefore = (january 2 13).bytes ∧
      day ⟨2024, 1, 2⟩ (eveningBefore.flatMap Frame.bytes) = .ok (january 1 23).bytes ∧
      day ⟨2024, 1, 2⟩ (eveningBefore.flatMap Frame.bytes) ≠
        .ok (extract ⟨2024, 1, 2⟩ eveningBefore) := by
  have hday : day ⟨2024, 1, 2⟩ (eveningBefore.flatMap Frame.bytes) = .ok (january 1 23).bytes := by
    rw [day_eq (Stream.split_flatMap _), select_eq (Stream.split_flatMap _) (by decide +kernel)]
    exact congrArg Except.ok (by decide +kernel)
  have hextract : extract ⟨2024, 1, 2⟩ eveningBefore = (january 2 13).bytes := by decide +kernel
  refine ⟨by decide, Stream.split_flatMap _, ⟨january 2 13, by decide +kernel,
    by decide +kernel, by decide +kernel⟩, hextract, hday, ?_⟩
  rw [hday, hextract]
  exact fun h => absurd (Except.ok.inj h) (by decide +kernel)

end Offline

end GnssAiding
