/-
A new time put into a buffer in place is the new time that `adjust` puts into a blob.

Each write lands in the payload of the leading frame (`runOn_write_holding`), and the checksum
that is written last makes of the header and the payload an intact frame
(`runOn_reseal_holding`). Everything that can be refused is looked at before the first
write. What is looked at between writes is whether the milliseconds of the accuracy fit
their field, so with milliseconds that do, the buffer holds the adjusted blob or what it
held (`adjustBuffer_eq`).
-/
import GnssAiding.Initial.InPlace
import GnssAiding.Proofs.Initial.Lead
import GnssAiding.Proofs.Initial.Resealing

namespace GnssAiding

/-! ## Running -/

namespace InPlace

section Run

variable {α β : Type}

theorem runOn_bind (work : InPlace α) (next : α → InPlace β) (buffer : Bytes) :
    runOn (work >>= next) buffer =
      match runOn work buffer with
      | (.ok a, after) => runOn (next a) after
      | (.error e, after) => (.error e, after) := by
  show (work.run >>= fun r => (ExceptT.bindCont next r)).run buffer = _
  rw [StateT.run_bind]
  rcases hwork : work.run.run buffer with ⟨r, after⟩
  have hrun : runOn work buffer = (r, after) := hwork
  rw [hrun]
  cases r <;> rfl

theorem runOn_check (x : Except Failure α) (buffer : Bytes) :
    runOn (check x) buffer = (x, buffer) := rfl

/-- How it ends to replace all of a buffer, and the buffer afterwards. -/
def replacing (buffer : Bytes) : Except Failure Bytes → Except Failure Unit × Bytes
  | .ok after => (.ok (), after)
  | .error e => (.error e, buffer)

theorem runOn_write {start : Nat} {fresh buffer : Bytes}
    (h : start + fresh.length ≤ buffer.length) :
    runOn (write start fresh) buffer = (.ok (), Bytes.overwrite start fresh buffer) := by
  have hsplice : Checked.splice start fresh buffer = .ok (Bytes.overwrite start fresh buffer) :=
    if_pos h
  show runOn (do set (← check (Checked.splice start fresh buffer))) buffer = _
  rw [hsplice]
  rfl

theorem runOn_read {start stop : Nat} {buffer : Bytes} (hstart : start ≤ stop)
    (hstop : stop ≤ buffer.length) :
    runOn (read start stop) buffer = (.ok (Bytes.extract start (stop - start) buffer), buffer) := by
  have hslice : Checked.slice buffer start stop = .ok (Bytes.extract start (stop - start) buffer) :=
    if_pos ⟨hstart, hstop⟩
  show runOn (check (Checked.slice buffer start stop)) buffer = _
  rw [hslice]
  rfl

end Run

end InPlace

/-- What is written behind other bytes leaves these and what follows as they are. -/
theorem Bytes.overwrite_middle (front tail : Bytes) {start : Nat} {fresh data : Bytes}
    (h : start + fresh.length ≤ data.length) :
    overwrite (front.length + start) fresh (front ++ (data ++ tail)) =
      front ++ (overwrite start fresh data ++ tail) := by
  simp only [overwrite, Nat.add_assoc, List.take_length_add_append, List.drop_length_add_append,
    List.append_assoc]
  rw [List.take_append_of_le_length (by omega), List.drop_append_of_le_length h]

/-- What is written leaves alone the bytes in front of it and behind it. -/
theorem Bytes.getElem?_overwrite {start i : Nat} {fresh data : Bytes}
    (h : start + fresh.length ≤ data.length) (hi : i < start ∨ start + fresh.length ≤ i) :
    (overwrite start fresh data)[i]? = data[i]? := by
  have hhead : (data.take start).length = start := List.length_take_of_le (by omega)
  rw [overwrite]
  rcases hi with hi | hi
  · rw [List.append_assoc, List.getElem?_append_left (by omega), List.getElem?_take_of_lt hi]
  · have hlen : (data.take start ++ fresh).length = start + fresh.length := by
      rw [List.length_append, hhead]
    rw [List.getElem?_append_right (by omega), List.getElem?_drop, hlen, Nat.add_sub_cancel' hi]

/-- A frame with its checksum written anew is the intact frame around its payload. -/
theorem Frame.refresh_bytes (f : Frame) :
    Checksum.refresh f.bytes = .ok (Frame.sealed f.cls f.id f.payload f.fits).bytes := by
  have hlen : f.bytes.length = f.body.length + 4 := by
    rw [f.length_bytes, Frame.length, Frame.length_body]
  have hsub : Checked.sub f.bytes.length 2 = .ok (f.body.length + 2) := by
    rw [Checked.sub, if_pos (by omega), hlen]
    rfl
  have hslice : Checked.slice f.bytes 2 (f.body.length + 2) = .ok f.body := by
    rw [Checked.slice, if_pos (by omega)]
    exact congrArg Except.ok (@List.take_left _ f.body _)
  have htake : f.bytes.take (f.body.length + 2) = sync1 :: sync2 :: f.body := by
    simp only [Frame.bytes, List.take_succ_cons, List.take_left]
  unfold Checksum.refresh
  rw [hsub]
  show (Checked.slice f.bytes 2 (f.body.length + 2) >>= _) = _
  rw [hslice]
  show Except.ok (f.bytes.take (f.body.length + 2) ++ _) = _
  rw [htake]
  rfl

namespace Initial

open InPlace

/-- The checksum of the leading frame is written anew and nothing else. -/
theorem runOn_reseal (f : Frame) (rest : Bytes) :
    runOn (reseal f.length) (f.bytes ++ rest) =
      (.ok (), (Frame.sealed f.cls f.id f.payload f.fits).bytes ++ rest) := by
  have hlen : f.bytes.length = f.length := f.length_bytes
  have hsealed : (Frame.sealed f.cls f.id f.payload f.fits).bytes.length = f.length :=
    Frame.length_bytes _
  have hroom : f.length ≤ (f.bytes ++ rest).length := by
    rw [List.length_append]
    omega
  have hread : runOn (read 0 f.length) (f.bytes ++ rest) = (.ok f.bytes, f.bytes ++ rest) := by
    rw [runOn_read (Nat.zero_le _) hroom, Bytes.extract, Nat.sub_zero, List.drop_zero, ← hlen,
      List.take_left]
  unfold reseal
  rw [runOn_bind, hread]
  show runOn (check (liftM (Checksum.refresh f.bytes)) >>= _) _ = _
  rw [f.refresh_bytes, runOn_bind]
  show runOn (write 0 (Frame.sealed f.cls f.id f.payload f.fits).bytes) _ = _
  rw [runOn_write (by omega), Bytes.overwrite, List.take_zero, List.nil_append, Nat.zero_add,
    hsealed, ← hlen, List.drop_left]

/-! ## The leading frame in a buffer -/

/-- The sync characters and the header of a frame. -/
def front (f : Frame) : Bytes :=
  sync1 :: sync2 :: f.cls :: f.id :: Bytes.le16 (UInt16.ofNat f.payload.length)

theorem length_front (f : Frame) : (front f).length = payloadStart := rfl

/-- A buffer that begins with a frame, another payload in it under the checksum of before. -/
def holding (f : Frame) (payload rest : Bytes) : Bytes :=
  front f ++ (payload ++ (f.checksum.bytes ++ rest))

theorem holding_payload (f : Frame) (rest : Bytes) :
    holding f f.payload rest = f.bytes ++ rest := by
  simp only [holding, front, Frame.bytes, Frame.body, List.cons_append, List.append_assoc]

theorem length_holding (f : Frame) (payload rest : Bytes) :
    (holding f payload rest).length = payload.length + 8 + rest.length := by
  simp only [holding, List.length_append, length_front, payloadStart, Checksum.bytes,
    List.length_cons, List.length_nil]
  omega

section Holding

variable {f : Frame} {payload rest : Bytes}

theorem runOn_write_holding {start : Nat} {fresh : Bytes}
    (h : start + fresh.length ≤ payload.length) :
    runOn (write (payloadStart + start) fresh) (holding f payload rest) =
      (.ok (), holding f (Bytes.overwrite start fresh payload) rest) := by
  have hroom : payloadStart + start + fresh.length ≤ (holding f payload rest).length := by
    rw [length_holding, payloadStart]
    omega
  rw [runOn_write hroom, holding, ← length_front f, Bytes.overwrite_middle _ _ h]
  rfl

theorem runOn_read_holding {n : Nat} (h : payload.length = n) :
    runOn (read payloadStart (payloadStart + n)) (holding f payload rest) =
      (.ok payload, holding f payload rest) := by
  have hroom : payloadStart + n ≤ (holding f payload rest).length := by
    rw [length_holding, payloadStart]
    omega
  rw [runOn_read (Nat.le_add_right _ _) hroom, Nat.add_sub_cancel_left, Bytes.extract, holding,
    ← length_front f, List.drop_left, ← h, List.take_left]

/-- The checksum makes an intact frame of the header and the payload. -/
theorem runOn_reseal_holding (h : payload.length = f.payload.length)
    (fits : payload.length < 65536) :
    runOn (reseal f.length) (holding f payload rest) =
      (.ok (), (Frame.sealed f.cls f.id payload fits).bytes ++ rest) := by
  let bare : Frame := { f with payload, fits }
  have hbare : holding f payload rest = bare.bytes ++ rest := by
    rw [← holding_payload, holding, front, ← h]
    rfl
  have hlen : f.length = bare.length := congrArg (· + 8) h.symm
  rw [hbare, hlen]
  exact runOn_reseal bare rest

/-! ## The adjustments -/

/-- The fields of an initial time message are inside its payload. -/
theorem room_fields (m : Moment) (h : payload.length = timeLength) :
    4 + (timeFields m).length ≤ payload.length := by
  rw [h]
  exact (by decide : 11 ≤ 24)

theorem room_fraction (m : Moment) (h : payload.length = timeLength) :
    12 + [(0 : UInt8), 0, 0, 0].length ≤ (Bytes.overwrite 4 (timeFields m) payload).length := by
  rw [length_overwrite (room_fields m h), h]
  decide

theorem room_accuracy (s : UInt16) (h : payload.length = timeLength) :
    16 + (Bytes.le16 s).length ≤ payload.length := by
  rw [h]
  exact (by decide : 18 ≤ 24)

theorem room_nanos (n : UInt32) (h : payload.length = timeLength) :
    20 + (Bytes.le32 n).length ≤ payload.length := by
  rw [h]
  exact (by decide : 24 ≤ 24)

/-- How a change of the payload ends, and the buffer afterwards. -/
def landing (f : Frame) (payload rest : Bytes) (change : Except Failure Bytes) :
    Except Failure Unit × Bytes :=
  replacing (holding f payload rest) (change.map fun fresh => holding f fresh rest)

theorem runOn_putTime (m : Moment) (h : payload.length = timeLength) :
    runOn (putTime m) (holding f payload rest) = (.ok (), holding f (setTime m payload) rest) := by
  unfold putTime
  rw [runOn_bind, runOn_write_holding (room_fields m h)]
  exact runOn_write_holding (room_fraction m h)

theorem runOn_putAccuracy (s : UInt16) (h : payload.length = timeLength) :
    runOn (write (payloadStart + 16) (Bytes.le16 s)) (holding f payload rest) =
      (.ok (), holding f (setAccuracy s payload) rest) :=
  runOn_write_holding (room_accuracy s h)

/-- The time in an initial time message is refused before anything is written, or put in
place. -/
theorem runOn_retime {t : TimeAdjustment} (h : payload.length = timeLength)
    (hfits : t.accMillis.toNat ≤ 4294) :
    runOn (retime t) (holding f payload rest) = landing f payload rest (adjustTime t payload) := by
  cases hmode : t.mode with
  | absolute =>
    simp only [retime, adjustTime, hmode, TimeAdjustment.accNanos_eq hfits]
    rw [runOn_bind, runOn_check]
    cases t.moment with
    | error e => rfl
    | ok m =>
      have htime := length_setTime (t := m) h
      have haccuracy := length_setAccuracy (s := t.accSeconds) htime
      show runOn (putTime m >>= _) _ = (.ok (), _)
      rw [runOn_bind, runOn_putTime m h]
      show runOn (write _ _ >>= _) _ = _
      rw [runOn_bind, runOn_putAccuracy _ htime]
      exact runOn_write_holding (room_nanos _ haccuracy)
  | relative =>
    simp only [retime, adjustTime, hmode]
    rw [runOn_bind, runOn_read_holding h]
    show runOn (check _ >>= _) _ = _
    rw [runOn_bind, runOn_check]
    cases storedTime payload with
    | error e => rfl
    | ok m =>
      show runOn (putTime _ >>= _) _ = (.ok (), _)
      rw [runOn_bind, runOn_putTime _ h]
      exact runOn_putAccuracy _ (length_setTime h)

/-- The flags stand behind the time. -/
theorem aidFlags_overwrite {start : Nat} {fresh : Bytes} (h : start + fresh.length ≤ payload.length)
    (hflags : start + fresh.length ≤ 44) :
    aidFlags (Bytes.overwrite start fresh payload) = aidFlags payload := by
  have hbehind : ∀ i, 44 ≤ i → (Bytes.overwrite start fresh payload).getD i 0 = payload.getD i 0 :=
    fun i hi => by
      rw [List.getD_eq_getElem?_getD, List.getD_eq_getElem?_getD,
        Bytes.getElem?_overwrite h (.inr (Nat.le_trans hflags hi))]
  simp only [aidFlags, hbehind 44 (by decide), hbehind 45 (by decide), hbehind 46 (by decide),
    hbehind 47 (by decide)]

/-- The same in legacy initial data. The flags are read when the time stands already, but
it stands elsewhere. -/
theorem runOn_retimeAid {t : TimeAdjustment} (h : payload.length = aidLength) :
    runOn (retimeAid t) (holding f payload rest) =
      landing f payload rest (adjustAid t payload) := by
  cases hmode : t.mode with
  | absolute =>
    simp only [retimeAid, adjustAid, hmode]
    rw [runOn_bind, runOn_check]
    cases t.moment with
    | error e => rfl
    | ok m =>
      show runOn (if _ then _ else _) _ = landing f payload rest (if _ then _ else _)
      split
      · rfl
      · generalize UInt32.ofNat (t.accSeconds.toNat * 1000 + t.accMillis.toNat) = accuracy
        generalize hfields : aidTimeFields m (UInt8.ofNat (m.date.year - 2000).toNat) accuracy =
          fields
        have hlen : fields.length = 18 := hfields ▸ rfl
        have hroom : 18 + fields.length ≤ payload.length := by
          rw [hlen, h]
          decide
        have htime := (length_overwrite hroom).trans h
        have hflags := aidFlags_overwrite hroom (by omega)
        show runOn (write _ _ >>= _) _ = (.ok (), _)
        rw [runOn_bind, runOn_write_holding hroom]
        show runOn (read _ _ >>= _) _ = (.ok (), _)
        rw [runOn_bind, runOn_read_holding htime, ← hflags]
        refine runOn_write_holding ?_
        rw [htime]
        exact (by decide : 48 ≤ 48)
  | relative =>
    simp only [retimeAid, adjustAid, hmode]
    rfl

/-- A change of the payload in place, and the checksum after it. -/
theorem runOn_adjusted {work : InPlace Unit} {change : Except Failure Bytes}
    (hwork : runOn work (f.bytes ++ rest) = landing f f.payload rest change)
    (hlen : ∀ fresh, change = .ok fresh → fresh.length = f.payload.length) :
    runOn (do work; reseal f.length) (f.bytes ++ rest) =
      replacing (f.bytes ++ rest) (do
        let payload ← change
        let g ← Frame.build f.cls f.id payload
        pure (g.bytes ++ rest)) := by
  rw [runOn_bind, hwork]
  cases hchange : change with
  | error e =>
    rw [← holding_payload]
    rfl
  | ok fresh =>
    have hfresh := hlen fresh hchange
    have fits : fresh.length < 65536 := hfresh ▸ f.fits
    show runOn (reseal f.length) (holding f fresh rest) = _
    show _ = replacing _ (liftM (Frame.build f.cls f.id fresh) >>= _)
    rw [runOn_reseal_holding hfresh fits, Frame.build_of_fits f.cls f.id fits]
    rfl

end Holding

/-- **A new time put in place is what `adjust` makes of the buffer**, and where it is refused
the buffer stays as it was. -/
theorem adjustBuffer_eq (buffer : Bytes) {t : TimeAdjustment} (hfits : t.accMillis.toNat ≤ 4294) :
    adjustBuffer buffer t = replacing buffer (adjust buffer t) := by
  show runOn (retimeLead t (lead? buffer)) buffer = _
  unfold adjust
  cases hl : lead? buffer with
  | none => rfl
  | some l =>
    cases l with
    | time f rest hf =>
      obtain ⟨rfl, -⟩ := isTime_of_lead? hl
      refine runOn_adjusted ?_ fun fresh => length_adjustTime hf
      rw [← holding_payload]
      exact runOn_retime hf hfits
    | aid f rest hf =>
      obtain ⟨rfl, -⟩ := isAid_of_lead? hl
      refine runOn_adjusted ?_ fun fresh => length_adjustAid hf
      rw [← holding_payload]
      exact runOn_retimeAid hf

end Initial

end GnssAiding
