/-
The messages that carry the time, and what stands in them.

A blob leads with a message that carries the time just when its first frame is one, by its
class, its id, its length and its type (`IsTime`, `IsAid`, `lead?_eq_none_iff`); whether
the checksum is right is not looked at. An initial time message is its moment and its
accuracy written out (`timeFrame_eq`), and the moment that stands in it is read back
(`stored_timePayload`) if its year fits the 16 bits that there are for it.
-/
import GnssAiding.Initial.Adjust
import GnssAiding.Proofs.Calendar

namespace GnssAiding

/-! ## Moments in a message -/

/-- The year fits the 16 bits that messages have for it. -/
def Date.FitsField (d : Date) : Prop := 0 ≤ d.year ∧ d.year < 65536

instance (d : Date) : Decidable d.FitsField := inferInstanceAs (Decidable (_ ∧ _))

theorem Date.InMonth.day_le {d : Date} (h : d.InMonth) : d.day ≤ 31 := by
  have hlast : daysIn d.year d.month ≤ 31 := by
    unfold daysIn
    split <;> (try split) <;> decide
  exact Nat.le_trans h.2 hlast

theorem Moment.real_iff {t : Moment} :
    t.Real ↔ t.date.InMonth ∧ t.hour < 24 ∧ t.minute < 60 ∧ t.second < 60 :=
  ⟨fun ⟨hd, hh, hm, hs⟩ => ⟨hd, hh, hm, hs⟩, fun ⟨hd, hh, hm, hs⟩ => ⟨hd, hh, hm, hs⟩⟩

instance (t : Moment) : Decidable t.Real := decidable_of_iff _ Moment.real_iff.symm

/-- A moment is made of numbers if they are a date and a time of day. -/
theorem Moment.make?_eq {year month day hour minute second : Nat} (hyear : year < 65536) :
    ((Date.make? year month day).bind fun d => make? d hour minute second) =
      if Real ⟨⟨year, month, day⟩, hour, minute, second⟩ then
        some ⟨⟨year, month, day⟩, hour, minute, second⟩ else none := by
  have hrange : Date.inRange year := ⟨by omega, by omega⟩
  have hvalid : Date.Valid ⟨year, month, day⟩ ↔ Date.InMonth ⟨year, month, day⟩ :=
    and_iff_right hrange
  by_cases hdate : Date.InMonth ⟨year, month, day⟩
  · rw [Date.make?_eq_some_iff.2 ⟨hvalid.2 hdate, rfl⟩, Option.bind_some, make?]
    simp only [real_iff, hdate, true_and]
  · have hmake : Date.make? year month day = none := if_neg (mt hvalid.1 hdate)
    rw [hmake, Option.bind_none, if_neg fun h => hdate h.date]

namespace TimeAdjustment

/-- The date and time named, whether they exist or not. -/
def named (t : TimeAdjustment) : Moment :=
  ⟨⟨t.year.toNat, t.month.toNat, t.day.toNat⟩, t.hour.toNat, t.minute.toNat, t.second.toNat⟩

/-- The date and time replace what is there, exist, and have an accuracy that fits its
field in nanoseconds. -/
structure Complete (t : TimeAdjustment) : Prop where
  absolute : t.mode = .absolute
  real : t.named.Real
  fits : t.accMillis.toNat ≤ 4294

theorem moment_eq (t : TimeAdjustment) :
    t.moment =
      if t.named.Real then .ok t.named else .error (.invalidArgument .invalidDateOrTime) := by
  unfold moment
  by_cases hreal : t.named.Real
  · rw [(Moment.make?_eq t.year.toNat_lt).trans (if_pos hreal), if_pos hreal]
    rfl
  · rw [(Moment.make?_eq t.year.toNat_lt).trans (if_neg hreal), if_neg hreal]

/-- Milliseconds in nanoseconds, as a word. -/
def nanosOf (millis : UInt16) : UInt32 := UInt32.ofNat (millis.toNat * 1000000)

theorem accNanos_eq {t : TimeAdjustment} (h : t.accMillis.toNat ≤ 4294) :
    t.accNanos = .ok (nanosOf t.accMillis) := by
  have hwidth : t.accMillis.toNat * 1000000 < Nat.pow 2 32 := by
    have : Nat.pow 2 32 = 4294967296 := rfl
    omega
  unfold accNanos Checked.narrow
  rw [if_pos hwidth]
  rfl

/-- The fields of an adjustment to a moment name the moment. -/
theorem named_absolute {m : Moment} (hm : m.Real) (hyear : m.date.FitsField)
    (accSeconds accMillis : UInt16) : (absolute m accSeconds accMillis).named = m := by
  obtain ⟨⟨year, month, day⟩, hour, minute, second⟩ := m
  obtain ⟨hdate, hhour, hminute, hsecond⟩ := hm
  have hmonth := hdate.month
  have hday := hdate.day_le
  obtain ⟨hlow, hhigh⟩ := hyear
  simp only at hmonth hday hhour hminute hsecond hlow hhigh
  have hword : ((UInt16.ofInt year).toNat : Int) = year := by
    simp only [UInt16.ofInt, UInt16.toNat_ofNat']
    omega
  have hbyte : ∀ {n : Nat}, n < 256 → (UInt8.ofNat n).toNat = n := fun h => by
    rw [UInt8.toNat_ofNat', Nat.mod_eq_of_lt h]
  simp only [named, absolute, hword]
  rw [hbyte (by omega), hbyte (by omega), hbyte (by omega), hbyte (by omega), hbyte (by omega)]

theorem complete_absolute {m : Moment} (hm : m.Real) (hyear : m.date.FitsField)
    (accSeconds : UInt16) {accMillis : UInt16} (hfits : accMillis.toNat ≤ 4294) :
    (absolute m accSeconds accMillis).Complete :=
  ⟨rfl, by rw [named_absolute hm hyear]; exact hm, hfits⟩

end TimeAdjustment

namespace Initial

open TimeAdjustment (Complete nanosOf)

/-- The date and time that stand in a payload, whether they exist or not. -/
def stored (payload : Bytes) : Moment :=
  let byte (i : Nat) : Nat := (payload.getD i 0).toNat
  ⟨⟨(Bytes.read16 (payload.getD 4 0) (payload.getD 5 0)).toNat, byte 6, byte 7⟩, byte 8, byte 9,
    byte 10⟩

theorem storedTime_eq (payload : Bytes) :
    storedTime payload =
      if (stored payload).Real then .ok (stored payload) else .error .badData := by
  unfold storedTime
  dsimp only
  by_cases hreal : (stored payload).Real
  · rw [(Moment.make?_eq (UInt16.toNat_lt _)).trans (if_pos hreal), if_pos hreal]
    rfl
  · rw [(Moment.make?_eq (UInt16.toNat_lt _)).trans (if_neg hreal), if_neg hreal]

/-! ## The initial time message -/

/-- The payload of an initial time message. -/
def timePayload (m : Moment) (accSeconds : UInt16) (accNanos : UInt32) : Bytes :=
  [timeType, 0, 0, 0x80] ++ timeFields m ++ [0, 0, 0, 0, 0] ++ Bytes.le16 accSeconds ++ [0, 0] ++
    Bytes.le32 accNanos

theorem length_timePayload (m : Moment) (s : UInt16) (n : UInt32) :
    (timePayload m s n).length = timeLength := rfl

theorem setTime_timePayload (m m' : Moment) (s : UInt16) (n : UInt32) :
    setTime m' (timePayload m s n) = timePayload m' s n := rfl

theorem setAccuracy_timePayload (m : Moment) (s s' : UInt16) (n : UInt32) :
    setAccuracy s' (timePayload m s n) = timePayload m s' n := rfl

theorem setAccuracyNanos_timePayload (m : Moment) (s : UInt16) (n n' : UInt32) :
    setAccuracyNanos n' (timePayload m s n) = timePayload m s n' := rfl

/-- The moment that was written is read back. -/
theorem stored_timePayload {m : Moment} (hm : m.Real) (hyear : m.date.FitsField) (s : UInt16)
    (n : UInt32) : stored (timePayload m s n) = m := by
  have hword : stored (timePayload m s n) = (TimeAdjustment.absolute m s 0).named :=
    congrArg (fun y : UInt16 => (⟨⟨y.toNat, _, _⟩, _, _, _⟩ : Moment)) (Bytes.read16_le16 _)
  rw [hword, TimeAdjustment.named_absolute hm hyear]

/-- The initial time message with this date and time and this accuracy. -/
def timeMessage (m : Moment) (accSeconds : UInt16) (accNanos : UInt32) : Frame :=
  .sealed MessageClass.mga MgaId.ini (timePayload m accSeconds accNanos)
    (timeLength_fits (length_timePayload m accSeconds accNanos))

/-- The initial time message that tells the time of an adjustment. -/
def messageOf (t : TimeAdjustment) : Frame :=
  timeMessage t.named t.accSeconds (nanosOf t.accMillis)

theorem timeFrame_eq {t : TimeAdjustment} (h : t.Complete) : timeFrame t = .ok (messageOf t) := by
  unfold timeFrame
  rw [if_neg (not_not_intro h.absolute), TimeAdjustment.moment_eq, if_pos h.real,
    TimeAdjustment.accNanos_eq h.fits]
  rfl

/-! ## What a blob leads with -/

/-- The frame is an initial time message. -/
structure IsTime (f : Frame) : Prop where
  cls : f.cls = MessageClass.mga
  id : f.id = MgaId.ini
  length : f.payload.length = timeLength
  type : f.payload.head? = some timeType

/-- The frame is legacy initial data. -/
structure IsAid (f : Frame) : Prop where
  cls : f.cls = MessageClass.aid
  id : f.id = AidId.ini
  length : f.payload.length = aidLength

/-- The data begins with a complete message that carries the time. -/
def CarriesTime (data : Bytes) : Prop :=
  ∃ f rest, data = Frame.bytes f ++ rest ∧ (IsTime f ∨ IsAid f)

theorem isTime_iff {f : Frame} :
    IsTime f ↔ f.cls = MessageClass.mga ∧ f.id = MgaId.ini ∧ f.payload.length = timeLength ∧
      f.payload.head? = some timeType :=
  ⟨fun ⟨hc, hi, hl, ht⟩ => ⟨hc, hi, hl, ht⟩, fun ⟨hc, hi, hl, ht⟩ => ⟨hc, hi, hl, ht⟩⟩

instance (f : Frame) : Decidable (IsTime f) := decidable_of_iff _ isTime_iff.symm

theorem isTime_timeMessage (m : Moment) (s : UInt16) (n : UInt32) : IsTime (timeMessage m s n) :=
  ⟨rfl, rfl, rfl, rfl⟩

theorem kind?_eq_some_iff {f : Frame} {k : Kind} :
    f.kind? = some k ↔ f.cls = k.key.1 ∧ f.id = k.key.2 := by
  rw [Frame.kind?, Kind.classify_eq_some_iff, Prod.ext_iff, eq_comm, @eq_comm _ _ f.id]

section Lead

variable {f : Frame}

theorem lead?_of_isTime (h : IsTime f) (rest : Bytes) :
    lead? (f.bytes ++ rest) = some (.time f rest h.length) := by
  have hkind : f.kind? = some .mgaIni := kind?_eq_some_iff.2 ⟨h.cls, h.id⟩
  simp only [lead?, f.take?_bytes, if_pos hkind, dif_pos h.length, if_pos h.type]

theorem lead?_of_isAid (h : IsAid f) (rest : Bytes) :
    lead? (f.bytes ++ rest) = some (.aid f rest h.length) := by
  have hkind : f.kind? = some .aidIni := kind?_eq_some_iff.2 ⟨h.cls, h.id⟩
  simp only [lead?, f.take?_bytes, hkind, Option.some.injEq, reduceCtorEq, if_false, if_true,
    dif_pos h.length]

theorem isTime_of_lead? {data rest : Bytes} {hf} (h : lead? data = some (.time f rest hf)) :
    data = f.bytes ++ rest ∧ IsTime f := by
  unfold lead? at h
  split at h
  · cases h
  next g tail htake =>
  split at h
  · next hkind =>
    split at h
    · next hlength =>
      split at h
      · next htype =>
        cases h
        obtain ⟨hcls, hid⟩ := kind?_eq_some_iff.1 hkind
        exact ⟨Frame.eq_of_take? htake, hcls, hid, hlength, htype⟩
      · cases h
    · cases h
  · split at h
    · split at h <;> cases h
    · cases h

theorem isAid_of_lead? {data rest : Bytes} {hf} (h : lead? data = some (.aid f rest hf)) :
    data = f.bytes ++ rest ∧ IsAid f := by
  unfold lead? at h
  split at h
  · cases h
  next g tail htake =>
  split at h
  · split at h
    · split at h <;> cases h
    · cases h
  · split at h
    · next hkind =>
      split at h
      · next hlength =>
        cases h
        obtain ⟨hcls, hid⟩ := kind?_eq_some_iff.1 hkind
        exact ⟨Frame.eq_of_take? htake, hcls, hid, hlength⟩
      · cases h
    · cases h

/-- A blob leads with no message that carries the time if its first frame is none. -/
theorem lead?_eq_none_iff {data : Bytes} : lead? data = none ↔ ¬ CarriesTime data := by
  constructor
  · rintro h ⟨f, rest, rfl, ht | ha⟩
    · rw [lead?_of_isTime ht] at h
      cases h
    · rw [lead?_of_isAid ha] at h
      cases h
  · intro h
    cases hl : lead? data with
    | none => rfl
    | some l =>
      cases l with
      | time f rest hf =>
        obtain ⟨hdata, ht⟩ := isTime_of_lead? hl
        exact absurd ⟨f, rest, hdata, .inl ht⟩ h
      | aid f rest hf =>
        obtain ⟨hdata, ha⟩ := isAid_of_lead? hl
        exact absurd ⟨f, rest, hdata, .inr ha⟩ h

end Lead

end Initial

end GnssAiding
