/-
A relative adjustment adds seconds.

An initial time message that is adjusted by an amount is the one for the moment so many
seconds later, with the new accuracy in seconds and the old one in nanoseconds
(`adjustTime_relative`); one that is adjusted to a time is the one for that time
(`adjustTime_absolute`). No other bytes of the old message are left to be seen, so the
adjusted message is the fresh one byte by byte, checksum included.
-/
import GnssAiding.Proofs.Initial.InPlace

namespace GnssAiding.Initial

open TimeAdjustment (nanosOf)

section Adjusted

variable {t : TimeAdjustment} {m : Moment}

theorem timeFrame_absolute (hm : m.Real) (hyear : m.date.FitsField) (accSeconds : UInt16)
    {accMillis : UInt16} (hfits : accMillis.toNat ≤ 4294) :
    timeFrame (.absolute m accSeconds accMillis) =
      .ok (timeMessage m accSeconds (nanosOf accMillis)) := by
  rw [timeFrame_eq (TimeAdjustment.complete_absolute hm hyear accSeconds hfits), messageOf,
    TimeAdjustment.named_absolute hm hyear]
  rfl

theorem adjustTime_absolute (h : t.Complete) (m : Moment) (accSeconds : UInt16)
    (accNanos : UInt32) :
    adjustTime t (timePayload m accSeconds accNanos) =
      .ok (timePayload t.named t.accSeconds (nanosOf t.accMillis)) := by
  simp only [adjustTime, h.absolute, TimeAdjustment.accNanos_eq h.fits, TimeAdjustment.moment_eq,
    if_pos h.real]
  show Except.ok (setAccuracyNanos _ (setAccuracy _ (setTime _ _))) = _
  rw [setTime_timePayload, setAccuracy_timePayload, setAccuracyNanos_timePayload]

/-- The moment is read back, moved on second by second and written again. -/
theorem adjustTime_relative (hmode : t.mode = .relative) (hm : m.Real) (hyear : m.date.FitsField)
    (accSeconds : UInt16) (accNanos : UInt32) :
    adjustTime t (timePayload m accSeconds accNanos) =
      .ok (timePayload (Moment.next^[t.amount] m) t.accSeconds accNanos) := by
  have hstored := stored_timePayload hm hyear accSeconds accNanos
  simp only [adjustTime, hmode, storedTime_eq, hstored, if_pos hm]
  show Except.ok (setAccuracy _ (setTime _ _)) = _
  rw [Moment.addSeconds_eq_iterate hm, setTime_timePayload, setAccuracy_timePayload]

/-- A message with an adjusted payload is put in its place. -/
theorem adjustBuffer_timeMessage {m' : Moment} {s s' : UInt16} {n n' : UInt32}
    (hfits : t.accMillis.toNat ≤ 4294)
    (h : adjustTime t (timePayload m s n) = .ok (timePayload m' s' n')) (rest : Bytes) :
    adjustBuffer ((timeMessage m s n).bytes ++ rest) t =
      (.ok (), (timeMessage m' s' n').bytes ++ rest) := by
  have hlead := lead?_of_isTime (isTime_timeMessage m s n) rest
  obtain ⟨_, hok⟩ := adjust_of_ok hlead h
  rw [adjustBuffer_eq _ hfits, hok]
  rfl

end Adjusted

/-- **A relative adjustment adds seconds.** The message for a moment, adjusted by hours, minutes
and seconds, is byte by byte the message for the moment that comes so many seconds later on
the calendar. Adjusted to another time it is the message for that time. -/
theorem adjustBuffer_adds_seconds {u : Moment} (hu : u.Real) (hyear : u.date.FitsField)
    (hour minute second : UInt8) {later : Moment}
    (hlater : later = Moment.next^[3600 * hour.toNat + 60 * minute.toNat + second.toNat] u)
    (hlaterYear : later.date.FitsField) (acc acc' : UInt16) {millis : UInt16}
    (hfits : millis.toNat ≤ 4294) :
    ∃ f g, timeFrame (.absolute u acc millis) = .ok f ∧
      timeFrame (.absolute later acc' millis) = .ok g ∧
      adjustBuffer f.bytes (.relative hour minute second acc') = (.ok (), g.bytes) ∧
      ∀ t : TimeAdjustment, t.Complete → ∃ k, timeFrame t = .ok k ∧
        adjustBuffer f.bytes t = (.ok (), k.bytes) := by
  have hamount : (TimeAdjustment.relative hour minute second acc').amount =
      3600 * hour.toNat + 60 * minute.toNat + second.toNat := by
    simp only [TimeAdjustment.amount, TimeAdjustment.relative]
    omega
  have hreal : later.Real := hlater ▸ hu.iterate _
  refine ⟨_, _, timeFrame_absolute hu hyear acc hfits,
    timeFrame_absolute hreal hlaterYear acc' hfits, ?_, fun t ht => ⟨_, timeFrame_eq ht, ?_⟩⟩
  · have hadjust := adjustTime_relative (t := .relative hour minute second acc') rfl hu hyear acc
      (nanosOf millis)
    rw [hamount, ← hlater] at hadjust
    have hbuffer := adjustBuffer_timeMessage (by decide : (0 : UInt16).toNat ≤ 4294) hadjust []
    rwa [List.append_nil, List.append_nil] at hbuffer
  · have hbuffer := adjustBuffer_timeMessage ht.fits
      (adjustTime_absolute ht u acc (nanosOf millis)) []
    rwa [List.append_nil, List.append_nil] at hbuffer

/-- The longest amount, from the last second before a leap day, and back to that second. -/
theorem adjustBuffer_adds_seconds_leapDay :
    let u : Moment := ⟨⟨2000, 2, 28⟩, 23, 59, 59⟩
    let later : Moment := ⟨⟨2000, 3, 10⟩, 19, 19, 14⟩
    u.Real ∧ u.date.FitsField ∧ later = Moment.next^[3600 * 255 + 60 * 255 + 255] u ∧
      later.date.FitsField ∧ (4294 : UInt16).toNat ≤ 4294 ∧
      ∃ f g k, timeFrame (.absolute u 9 4294) = .ok f ∧
        timeFrame (.absolute later 5 4294) = .ok g ∧
        adjustBuffer f.bytes (.relative 255 255 255 5) = (.ok (), g.bytes) ∧
        timeFrame (.absolute later 7 1) = .ok k ∧
        adjustBuffer f.bytes (.absolute later 7 1) = (.ok (), k.bytes) := by
  intro u later
  have hu : u.Real := by decide
  have hyear : u.date.FitsField := by decide
  have hlater : later = Moment.next^[3600 * 255 + 60 * 255 + 255] u := by
    rw [← Moment.addSeconds_eq_iterate hu]
    decide +zetaReduce
  have hlaterYear : later.date.FitsField := by decide
  have hfits : (4294 : UInt16).toNat ≤ 4294 := by decide
  have hcomplete : (TimeAdjustment.absolute later 7 1).Complete :=
    TimeAdjustment.complete_absolute (by decide) hlaterYear 7 (by decide)
  obtain ⟨f, g, hf, hg, hrelative, habsolute⟩ :=
    adjustBuffer_adds_seconds hu hyear 255 255 255 hlater hlaterYear 9 5 hfits
  obtain ⟨k, hk, hadjust⟩ := habsolute _ hcomplete
  exact ⟨hu, hyear, hlater, hlaterYear, hfits, f, g, k, hf, hg, hrelative, hk, hadjust⟩

end GnssAiding.Initial
