/-
What a new time touches.

There are four ways that it can go with a new time (`Verdict`): nothing in front of the data
carries a time, an amount meets a time that does not exist, the new time is no good, or it
is put into the leading message. Then nothing but the fields that tell the time and its
accuracy changes there (`Updated`), apart from the checksum, which is right afterwards, and
in every other case the buffer stays as it is (`adjustBuffer_footprint`). Legacy initial data
says in its flags that it holds a time and that it is in UTC; these two flags are set and
the others stay.
-/
import GnssAiding.Proofs.Initial.InPlace

namespace GnssAiding

/-! ## Flags -/

/-- Setting a flag sets its bit and leaves the others alone. -/
theorem AidFlag.testBit_put (flag : AidFlag) (word : UInt32) (k : Nat) :
    (flag.put true word).toNat.testBit k =
      (word.toNat.testBit k || decide (k = flag.bit.toNat)) := by
  have hmask : ((1 : UInt32) <<< flag.bit).toNat = 2 ^ flag.bit.toNat := by
    cases flag <;> rfl
  rw [put, if_pos rfl, UInt32.toNat_or, hmask, Nat.testBit_or, Nat.testBit_two_pow]
  simp only [eq_comm]

/-- What is written is read back. -/
theorem Bytes.getElem?_overwrite_of_lt {start i : Nat} {fresh data : Bytes}
    (h : start ≤ data.length) (hi : i < fresh.length) :
    (overwrite start fresh data)[start + i]? = fresh[i]? := by
  have hhead : (data.take start).length = start := List.length_take_of_le h
  rw [overwrite, List.append_assoc, List.getElem?_append_right (by omega), hhead,
    Nat.add_sub_cancel_left, List.getElem?_append_left hi]

namespace Initial

theorem aidFlags_overwrite_flags {payload : Bytes} (h : 44 ≤ payload.length) (word : UInt32) :
    aidFlags (Bytes.overwrite 44 (Bytes.le32 word) payload) = word := by
  have hread : ∀ i, i < 4 → (Bytes.overwrite 44 (Bytes.le32 word) payload).getD (44 + i) 0 =
      (Bytes.le32 word).getD i 0 := fun i hi => by
    rw [List.getD_eq_getElem?_getD, List.getD_eq_getElem?_getD,
      Bytes.getElem?_overwrite_of_lt h hi]
  have h0 := hread 0 (by decide)
  have h1 := hread 1 (by decide)
  have h2 := hread 2 (by decide)
  have h3 := hread 3 (by decide)
  unfold aidFlags
  rw [h0, h1, h2, h3]
  exact Bytes.read32_le32 word

/-! ## The payloads -/

/-- The payload bytes of an initial time message that tell the time and its accuracy. The
nanoseconds of the accuracy stay when an amount is added. -/
def TimeByte (mode : AdjustMode) (i : Nat) : Prop :=
  4 ≤ i ∧ i ≤ 10 ∨ 12 ≤ i ∧ i ≤ 17 ∨ mode = .absolute ∧ 20 ≤ i ∧ i ≤ 23

/-- The payload bytes of legacy initial data that tell the time and its accuracy, and its
flags. -/
def AidByte (i : Nat) : Prop := 18 ≤ i ∧ i ≤ 35 ∨ 44 ≤ i ∧ i ≤ 47

/-- A frame with a new time in it. -/
structure Updated (t : TimeAdjustment) (f g : Frame) : Prop where
  cls : g.cls = f.cls
  id : g.id = f.id
  length : g.length = f.length
  intact : g.intact = true
  time : IsTime f → ∀ i, ¬ TimeByte t.mode i → g.payload[i]? = f.payload[i]?
  aid : IsAid f → ∀ i, ¬ AidByte i → g.payload[i]? = f.payload[i]?
  flags : IsAid f → ∀ k, (aidFlags g.payload).toNat.testBit k =
    ((aidFlags f.payload).toNat.testBit k || decide (k = 1 ∨ k = 10))

section Payload

variable {payload : Bytes} {i : Nat}

theorem getElem?_setTime {mode : AdjustMode} (h : payload.length = timeLength)
    (hi : ¬ TimeByte mode i) (m : Moment) : (setTime m payload)[i]? = payload[i]? := by
  unfold TimeByte at hi
  rw [setTime, Bytes.getElem?_overwrite (room_fraction m h),
    Bytes.getElem?_overwrite (room_fields m h)]
  · rw [length_timeFields]
    omega
  · simp only [List.length_cons, List.length_nil]
    omega

theorem getElem?_setAccuracy {mode : AdjustMode} (h : payload.length = timeLength)
    (hi : ¬ TimeByte mode i) (s : UInt16) : (setAccuracy s payload)[i]? = payload[i]? := by
  unfold TimeByte at hi
  refine Bytes.getElem?_overwrite (room_accuracy s h) ?_
  rw [Bytes.length_le16]
  omega

theorem getElem?_setAccuracyNanos (h : payload.length = timeLength)
    (hi : ¬ TimeByte .absolute i) (n : UInt32) :
    (setAccuracyNanos n payload)[i]? = payload[i]? := by
  unfold TimeByte at hi
  refine Bytes.getElem?_overwrite (room_nanos n h) ?_
  rw [Bytes.length_le32]
  simp only [true_and] at hi
  omega

/-- A new time in the payload of an initial time message: an amount is refused when the time
that is there does not exist, and a time when it does not. -/
theorem adjustTime_cases {t : TimeAdjustment} (hfits : t.accMillis.toNat ≤ 4294)
    (h : payload.length = timeLength) :
    (t.mode = .relative ∧ ¬ (stored payload).Real ∧
        adjustTime t payload = .error (.refused .badData)) ∨
      (t.mode = .absolute ∧
        adjustTime t payload = .error (.refused (.invalidArgument .invalidDateOrTime))) ∨
      (t.mode = .relative → (stored payload).Real) ∧
        ∃ fresh, adjustTime t payload = .ok fresh ∧
          ∀ i, ¬ TimeByte t.mode i → fresh[i]? = payload[i]? := by
  cases hmode : t.mode with
  | absolute =>
    simp only [adjustTime, hmode, TimeAdjustment.accNanos_eq hfits, TimeAdjustment.moment_eq]
    by_cases hreal : t.named.Real
    · rw [if_pos hreal]
      refine .inr (.inr ⟨fun hn => (by cases hn), _, rfl, fun i hi => ?_⟩)
      rw [getElem?_setAccuracyNanos (length_setAccuracy (length_setTime h)) hi,
        getElem?_setAccuracy (length_setTime h) hi, getElem?_setTime h hi]
    · rw [if_neg hreal]
      exact .inr (.inl ⟨trivial, rfl⟩)
  | relative =>
    simp only [adjustTime, hmode, storedTime_eq]
    by_cases hreal : (stored payload).Real
    · rw [if_pos hreal]
      refine .inr (.inr ⟨fun _ => hreal, _, rfl, fun i hi => ?_⟩)
      rw [getElem?_setAccuracy (length_setTime h) hi, getElem?_setTime h hi]
    · rw [if_neg hreal]
      exact .inl ⟨trivial, hreal, rfl⟩

/-- The payload of legacy initial data with other bytes where the time stands. -/
def updatedAid (fields payload : Bytes) : Bytes :=
  Bytes.overwrite 44 (Bytes.le32 (AidFlag.utc.put true (AidFlag.time.put true (aidFlags payload))))
    (Bytes.overwrite 18 fields payload)

theorem getElem?_updatedAid {fields : Bytes} (h : payload.length = aidLength)
    (hfields : fields.length = 18) (hi : ¬ AidByte i) :
    (updatedAid fields payload)[i]? = payload[i]? := by
  have haid : aidLength = 48 := rfl
  have hroom : 18 + fields.length ≤ payload.length := by omega
  unfold AidByte at hi
  rw [updatedAid, Bytes.getElem?_overwrite _ (by rw [Bytes.length_le32]; omega),
    Bytes.getElem?_overwrite hroom (by omega)]
  rw [length_overwrite hroom, Bytes.length_le32]
  omega

theorem testBit_updatedAid {fields : Bytes} (h : payload.length = aidLength)
    (hfields : fields.length = 18) (k : Nat) :
    (aidFlags (updatedAid fields payload)).toNat.testBit k =
      ((aidFlags payload).toNat.testBit k || decide (k = 1 ∨ k = 10)) := by
  have haid : aidLength = 48 := rfl
  have htime : AidFlag.time.bit.toNat = 1 := rfl
  have hutc : AidFlag.utc.bit.toNat = 10 := rfl
  have hlong : 44 ≤ (Bytes.overwrite 18 fields payload).length := by
    rw [length_overwrite (by omega)]
    omega
  rw [updatedAid, aidFlags_overwrite_flags hlong, AidFlag.testBit_put, AidFlag.testBit_put, htime,
    hutc, Bool.decide_or, Bool.or_assoc]

/-- A new time in the payload of legacy initial data. -/
theorem adjustAid_cases (t : TimeAdjustment) (payload : Bytes) :
    (∃ reason, adjustAid t payload = .error (.refused (.invalidArgument reason))) ∨
      ∃ fields : Bytes, fields.length = 18 ∧
        adjustAid t payload = .ok (updatedAid fields payload) := by
  cases hmode : t.mode with
  | relative =>
    simp only [adjustAid, hmode]
    exact .inl ⟨_, rfl⟩
  | absolute =>
    simp only [adjustAid, hmode]
    cases hm : t.moment with
    | error e =>
      rw [TimeAdjustment.moment_eq] at hm
      split at hm
      · cases hm
      · cases hm
        exact .inl ⟨_, rfl⟩
    | ok m =>
      by_cases hyear : m.date.year - 2000 < 0 ∨ 255 < m.date.year - 2000
      · exact .inl ⟨_, if_pos hyear⟩
      · exact .inr ⟨_, rfl, if_neg hyear⟩

end Payload

/-! ## The whole buffer -/

section Frame

variable {f g : Frame} {t : TimeAdjustment}

/-- A message put together with a new time in the payload of an initial time message. -/
theorem Updated.of_time {payload : Bytes} (h : IsTime f) (fits : payload.length < 65536)
    (hlen : payload.length = f.payload.length)
    (htime : ∀ i, ¬ TimeByte t.mode i → payload[i]? = f.payload[i]?) :
    Updated t f (Frame.sealed f.cls f.id payload fits) where
  cls := rfl
  id := rfl
  length := congrArg (· + 8) hlen
  intact := Frame.intact_sealed _ _ _ _
  time := fun _ => htime
  aid := fun ha => absurd (h.cls.symm.trans ha.cls) (by decide)
  flags := fun ha => absurd (h.cls.symm.trans ha.cls) (by decide)

theorem Updated.of_aid {fields : Bytes} (h : IsAid f) (hfields : fields.length = 18)
    (fits : (updatedAid fields f.payload).length < 65536)
    (hlen : (updatedAid fields f.payload).length = f.payload.length) :
    Updated t f (Frame.sealed f.cls f.id (updatedAid fields f.payload) fits) where
  cls := rfl
  id := rfl
  length := congrArg (· + 8) hlen
  intact := Frame.intact_sealed _ _ _ _
  time := fun ht => absurd (h.cls.symm.trans ht.cls) (by decide)
  aid := fun _ _ => getElem?_updatedAid h.length hfields
  flags := fun _ => testBit_updatedAid h.length hfields

theorem Updated.take_eq (h : Updated t f g) (rest : Bytes) :
    (g.bytes ++ rest).take 6 = (f.bytes ++ rest).take 6 := by
  have hlen : g.payload.length = f.payload.length := Nat.add_right_cancel h.length
  simp only [Frame.bytes, Frame.body, h.cls, h.id, hlen]
  rfl

theorem Updated.length_append (h : Updated t f g) (rest : Bytes) :
    (g.bytes ++ rest).length = (f.bytes ++ rest).length := by
  rw [List.length_append, List.length_append, g.length_bytes, f.length_bytes, h.length]

/-- A buffer has one first frame. -/
theorem eq_of_bytes_append {rest rest' : Bytes} (h : f.bytes ++ rest = g.bytes ++ rest') :
    f = g := by
  have hf := f.take?_bytes rest
  rw [h, g.take?_bytes] at hf
  cases hf
  rfl

/-- An amount is to be added to a date and time that do not exist. -/
def AddsToNothing (t : TimeAdjustment) (data : Bytes) : Prop :=
  t.mode = .relative ∧
    ∃ f rest, data = Frame.bytes f ++ rest ∧ IsTime f ∧ ¬ (stored f.payload).Real

theorem IsTime.addsToNothing_iff (h : IsTime f) (rest : Bytes) :
    AddsToNothing t (f.bytes ++ rest) ↔ t.mode = .relative ∧ ¬ (stored f.payload).Real := by
  constructor
  · rintro ⟨hmode, g, rest', hg, -, hunreal⟩
    exact ⟨hmode, eq_of_bytes_append hg ▸ hunreal⟩
  · rintro ⟨hmode, hunreal⟩
    exact ⟨hmode, f, rest, rfl, h, hunreal⟩

theorem IsAid.not_addsToNothing (h : IsAid f) (rest : Bytes) :
    ¬ AddsToNothing t (f.bytes ++ rest) := by
  rintro ⟨-, g, rest', hg, ht, -⟩
  exact absurd (h.cls.symm.trans (eq_of_bytes_append hg ▸ ht.cls)) (by decide)

/-- What can come of a new time for data. -/
inductive Verdict (t : TimeAdjustment) (data : Bytes) : Except Failure Bytes → Prop
  | noLead (h : ¬ CarriesTime data) : Verdict t data (.error (.refused .noInitialTime))
  | noMoment (h : CarriesTime data) (hadds : AddsToNothing t data) :
    Verdict t data (.error (.refused .badData))
  | invalid {reason} (h : CarriesTime data) (hadds : ¬ AddsToNothing t data) :
    Verdict t data (.error (.refused (.invalidArgument reason)))
  | updated {f g rest} (hdata : data = f.bytes ++ rest) (h : IsTime f ∨ IsAid f)
    (hadds : ¬ AddsToNothing t data) (hupdated : Updated t f g) :
    Verdict t data (.ok (g.bytes ++ rest))

theorem IsTime.verdict (h : IsTime f) (rest : Bytes) (hfits : t.accMillis.toNat ≤ 4294) :
    Verdict t (f.bytes ++ rest) (adjust (f.bytes ++ rest) t) := by
  have hl := lead?_of_isTime h rest
  have hcarries : CarriesTime (f.bytes ++ rest) := ⟨f, rest, rfl, .inl h⟩
  have hadds : AddsToNothing t (f.bytes ++ rest) ↔ _ := h.addsToNothing_iff rest
  rcases adjustTime_cases hfits h.length with ⟨hmode, hreal, he⟩ | ⟨hmode, he⟩ | ⟨hreal, p, hp, hi⟩
  · rw [adjust_of_error hl he]
    exact .noMoment hcarries (hadds.2 ⟨hmode, hreal⟩)
  · rw [adjust_of_error hl he]
    refine .invalid hcarries fun hn => ?_
    cases hmode.symm.trans hn.1
  · obtain ⟨fits, hok⟩ := adjust_of_ok hl hp
    rw [hok]
    exact .updated rfl (.inl h) (fun hn => (hadds.1 hn).2 (hreal hn.1))
      (.of_time h fits (length_adjustTime h.length hp) hi)

theorem IsAid.verdict (h : IsAid f) (rest : Bytes) :
    Verdict t (f.bytes ++ rest) (adjust (f.bytes ++ rest) t) := by
  have hl := lead?_of_isAid h rest
  have hadds : ¬ AddsToNothing t (f.bytes ++ rest) := h.not_addsToNothing rest
  rcases adjustAid_cases t f.payload with ⟨reason, he⟩ | ⟨fields, hfields, hp⟩
  · rw [adjust_of_error hl he]
    exact .invalid ⟨f, rest, rfl, .inr h⟩ hadds
  · obtain ⟨fits, hok⟩ := adjust_of_ok hl hp
    rw [hok]
    exact .updated rfl (.inr h) hadds (.of_aid h hfields fits (length_adjustAid h.length hp))

theorem adjust_verdict (data : Bytes) (hfits : t.accMillis.toNat ≤ 4294) :
    Verdict t data (adjust data t) := by
  cases hl : lead? data with
  | none =>
    unfold adjust
    rw [hl]
    exact .noLead (lead?_eq_none_iff.1 hl)
  | some l =>
    cases l with
    | time f rest hf =>
      obtain ⟨rfl, ht⟩ := isTime_of_lead? hl
      exact ht.verdict rest hfits
    | aid f rest hf =>
      obtain ⟨rfl, ha⟩ := isAid_of_lead? hl
      exact ha.verdict rest

end Frame

/-- **A new time touches its fields and is all or nothing.** It is refused, and the buffer stays
as it was, or the first frame has it and what follows is as it was. It is refused for want
of a message exactly if the buffer begins with none that carries the time, complete and of
the right length, and for bad data exactly if an amount is to be added to a date and time
that do not exist. -/
theorem adjustBuffer_footprint (buffer : Bytes) {t : TimeAdjustment}
    (hfits : t.accMillis.toNat ≤ 4294) :
    ((∃ e, adjustBuffer buffer t = (.error (.refused e), buffer)) ∨
        ∃ f g rest, buffer = Frame.bytes f ++ rest ∧
          adjustBuffer buffer t = (.ok (), Frame.bytes g ++ rest) ∧ (IsTime f ∨ IsAid f) ∧
            Updated t f g) ∧
      (adjustBuffer buffer t).2.length = buffer.length ∧
      (adjustBuffer buffer t).2.take 6 = buffer.take 6 ∧
      ((adjustBuffer buffer t).1 = .error (.refused .noInitialTime) ↔ ¬ CarriesTime buffer) ∧
      ((adjustBuffer buffer t).1 = .error (.refused .badData) ↔ AddsToNothing t buffer) := by
  have hverdict := adjust_verdict buffer hfits
  rw [adjustBuffer_eq buffer hfits]
  generalize adjust buffer t = result at hverdict
  cases hverdict with
  | noLead h =>
    have hadds : ¬ AddsToNothing t buffer := fun ⟨_, f, rest, hbuffer, ht, _⟩ =>
      h ⟨f, rest, hbuffer, .inl ht⟩
    exact ⟨.inl ⟨_, rfl⟩, rfl, rfl, iff_of_true rfl h, iff_of_false nofun hadds⟩
  | noMoment h hadds =>
    exact ⟨.inl ⟨_, rfl⟩, rfl, rfl, iff_of_false nofun (not_not_intro h), iff_of_true rfl hadds⟩
  | invalid h hadds =>
    exact ⟨.inl ⟨_, rfl⟩, rfl, rfl, iff_of_false nofun (not_not_intro h), iff_of_false nofun hadds⟩
  | @updated f g rest hbuffer h hadds hupdated =>
    subst hbuffer
    have hcarries : CarriesTime (f.bytes ++ rest) := ⟨f, rest, rfl, h⟩
    exact ⟨.inr ⟨f, g, rest, rfl, rfl, h, hupdated⟩, hupdated.length_append rest,
      hupdated.take_eq rest, iff_of_false nofun (not_not_intro hcarries), iff_of_false nofun hadds⟩

/-- Ten seconds before a new year, under a checksum that is wrong and with one byte behind
it, and a thirtieth of February. -/
theorem adjustBuffer_footprint_newYear :
    let twenty := TimeAdjustment.relative 0 0 20 5
    let eve : Frame :=
      ⟨MessageClass.mga, MgaId.ini, timePayload ⟨⟨2023, 12, 31⟩, 23, 59, 50⟩ 9 7, ⟨0, 0⟩, by decide⟩
    let year := timeMessage ⟨⟨2024, 1, 1⟩, 0, 0, 10⟩ 5 7
    let thirtieth := timeMessage ⟨⟨2024, 2, 30⟩, 12, 0, 0⟩ 9 7
    twenty.accMillis.toNat ≤ 4294 ∧
      adjustBuffer (eve.bytes ++ [0x2A]) twenty = (.ok (), year.bytes ++ [0x2A]) ∧
      Updated twenty eve year ∧
      adjustBuffer thirtieth.bytes twenty = (.error (.refused .badData), thirtieth.bytes) := by
  intro twenty eve year thirtieth
  have hfits : twenty.accMillis.toNat ≤ 4294 := by decide
  have hnew : adjustBuffer (eve.bytes ++ [0x2A]) twenty = (.ok (), year.bytes ++ [0x2A]) := by
    decide +zetaReduce
  have hupdated : Updated twenty eve year := by
    rcases (adjustBuffer_footprint (eve.bytes ++ [0x2A]) hfits).1 with
      ⟨e, he⟩ | ⟨f, g, rest, hbuffer, hok, -, h⟩
    · cases hnew.symm.trans he
    · have hafter : year.bytes ++ [0x2A] = g.bytes ++ rest :=
        congrArg Prod.snd (hnew.symm.trans hok)
      rwa [eq_of_bytes_append hbuffer, eq_of_bytes_append hafter]
  have hbad : (adjustBuffer thirtieth.bytes twenty).1 = .error (.refused .badData) :=
    (adjustBuffer_footprint thirtieth.bytes hfits).2.2.2.2.2
      ⟨rfl, thirtieth, [], (List.append_nil _).symm, isTime_timeMessage _ _ _,
        by decide +zetaReduce⟩
  rcases (adjustBuffer_footprint thirtieth.bytes hfits).1 with ⟨e, he⟩ | ⟨_, _, _, _, hok, _⟩
  · rw [he] at hbad
    cases hbad
    exact ⟨hfits, hnew, hupdated, he⟩
  · rw [hok] at hbad
    cases hbad

end Initial

end GnssAiding
