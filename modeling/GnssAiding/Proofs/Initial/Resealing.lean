/-
What a new time makes of a blob.

Only the leading message changes, and what stands in its place is as long and is
sealed anew (`adjust_eq_ok`). Whether it was intact is not looked at, so a damaged
message comes out of it as an intact one. With initial messages put in front of it, a
blob grows by these at most (`length_prepend_le`).
-/
import GnssAiding.Proofs.Frame.Codec
import GnssAiding.Proofs.Initial.Accuracy

namespace GnssAiding

theorem bind_eq_ok_iff {ε α β : Type} {x : Except ε α} {f : α → Except ε β} {b : β} :
    x >>= f = .ok b ↔ ∃ a, x = .ok a ∧ f a = .ok b := by
  cases x with
  | error e => exact iff_of_false (by rintro ⟨⟩) (by rintro ⟨a, ⟨⟩, -⟩)
  | ok a => exact ⟨fun h => ⟨a, rfl, h⟩, fun ⟨_, ha, h⟩ => by cases ha; exact h⟩

namespace Initial

/-- The leading message and what follows it. -/
def Lead.parts : Lead → Frame × Bytes
  | .time f rest _ | .aid f rest _ => (f, rest)

/-- The new payload of a leading message. -/
def Lead.adjust (t : TimeAdjustment) : Lead → Except Failure Bytes
  | .time f _ _ => adjustTime t f.payload
  | .aid f _ _ => adjustAid t f.payload

/-- A leading message that carries the time is the first frame, and one of interest. -/
theorem take?_of_lead? {data : Bytes} {l : Lead} (h : lead? data = some l) :
    Frame.take? data = some l.parts ∧ l.parts.1.header.ofInterest = true := by
  unfold lead? at h
  split at h
  · cases h
  next f rest ht =>
  have interest : ∀ {k}, f.kind? = some k → f.header.ofInterest = true :=
    fun hk => Option.isSome_iff_exists.2 ⟨_, hk⟩
  split at h
  · next hk =>
    split at h
    · split at h
      · cases h
        exact ⟨ht, interest hk⟩
      · cases h
    · cases h
  · split at h
    · next hk =>
      split at h
      · cases h
        exact ⟨ht, interest hk⟩
      · cases h
    · cases h

theorem length_adjustTime {t : TimeAdjustment} {payload p : Bytes}
    (hlen : payload.length = timeLength) (h : adjustTime t payload = .ok p) :
    p.length = payload.length := by
  unfold adjustTime at h
  split at h
  · obtain ⟨m, -, h⟩ := bind_eq_ok_iff.1 h
    obtain ⟨nanos, -, h⟩ := bind_eq_ok_iff.1 h
    cases h
    rw [hlen]
    exact length_setAccuracyNanos (length_setAccuracy (length_setTime hlen))
  · obtain ⟨m, -, h⟩ := bind_eq_ok_iff.1 h
    cases h
    rw [hlen]
    exact length_setAccuracy (length_setTime hlen)

theorem length_adjustAid {t : TimeAdjustment} {payload p : Bytes}
    (hlen : payload.length = aidLength) (h : adjustAid t payload = .ok p) :
    p.length = payload.length := by
  unfold adjustAid at h
  split at h
  · obtain ⟨m, -, h⟩ := bind_eq_ok_iff.1 h
    dsimp only at h
    split at h
    · cases h
    · cases h
      rw [length_overwrite, length_overwrite]
      · simp [aidTimeFields, hlen, aidLength]
      · rw [length_overwrite]
        · simp [hlen, aidLength]
        · simp [aidTimeFields, hlen, aidLength]
  · cases h

theorem Lead.length_adjust {t : TimeAdjustment} {l : Lead} {p : Bytes} (h : l.adjust t = .ok p) :
    p.length = l.parts.1.payload.length := by
  cases l with
  | time f rest hf => exact length_adjustTime hf h
  | aid f rest hf => exact length_adjustAid hf h

section Leading

variable {data : Bytes} {t : TimeAdjustment} {l : Lead}

theorem adjust_of_lead? (hl : lead? data = some l) (t : TimeAdjustment) :
    adjust data t = (do
      let payload ← l.adjust t
      let g ← Frame.build l.parts.1.cls l.parts.1.id payload
      pure (g.bytes ++ l.parts.2)) := by
  unfold adjust
  rw [hl]
  cases l <;> rfl

theorem adjust_of_error (hl : lead? data = some l) {e : Failure} (h : l.adjust t = .error e) :
    adjust data t = .error e := by
  rw [adjust_of_lead? hl, h]
  rfl

theorem adjust_of_ok (hl : lead? data = some l) {payload : Bytes} (h : l.adjust t = .ok payload) :
    ∃ fits, adjust data t =
      .ok ((Frame.sealed l.parts.1.cls l.parts.1.id payload fits).bytes ++ l.parts.2) := by
  have fits : payload.length < 65536 := Lead.length_adjust h ▸ l.parts.1.fits
  refine ⟨fits, ?_⟩
  rw [adjust_of_lead? hl, h]
  change (liftM (Frame.build l.parts.1.cls l.parts.1.id payload) >>= _ : Except Failure Bytes) = _
  rw [Frame.build_of_fits _ _ fits]
  rfl

end Leading

/-- The leading message is replaced by one of its length that is sealed anew, and the rest
stays. -/
theorem adjust_eq_ok {data data' : Bytes} {t : TimeAdjustment} (h : adjust data t = .ok data') :
    ∃ (f g : Frame) (rest : Bytes), data = f.bytes ++ rest ∧ data' = g.bytes ++ rest ∧
      g.header.ofInterest = true ∧ g.intact = true ∧ g.length = f.length := by
  cases hl : lead? data with
  | none =>
    unfold adjust at h
    rw [hl] at h
    cases h
  | some l =>
  rw [adjust_of_lead? hl] at h
  obtain ⟨p, hp, h⟩ := bind_eq_ok_iff.1 h
  obtain ⟨g, hg, h⟩ := bind_eq_ok_iff.1 h
  cases h
  obtain ⟨ht, hf⟩ := take?_of_lead? hl
  obtain ⟨hcls, hid, hpayload, hintact⟩ := Frame.build_eq_ok (lift_eq_ok_iff.1 hg)
  refine ⟨l.parts.1, g, l.parts.2, Frame.eq_of_take? ht, rfl, ?_, hintact, ?_⟩
  · rw [← hf]
    simp only [Header.ofInterest, Header.kind?, Frame.header, hcls, hid]
  · rw [Frame.length, Frame.length, hpayload, Lead.length_adjust hp]

theorem length_adjust {data data' : Bytes} {t : TimeAdjustment} (h : adjust data t = .ok data') :
    data'.length = data.length := by
  obtain ⟨f, g, rest, rfl, rfl, -, -, hlen⟩ := adjust_eq_ok h
  rw [List.length_append, List.length_append, f.length_bytes, g.length_bytes, hlen]

/-! ## A blob behind its initial messages -/

/-- The length of an initial time message and an initial position message together. -/
def prefixLength : Nat := 60

theorem length_withoutTime_le (data : Bytes) : (withoutTime data).length ≤ data.length := by
  unfold withoutTime
  split
  · next hl =>
    have hlt := Frame.length_lt_of_take? (take?_of_lead? hl).1
    exact Nat.le_of_lt hlt
  · exact Nat.le_refl _

theorem length_prepend_le {data data' : Bytes} {t : TimeAdjustment} {p : Option Position}
    (h : prepend data t p = .ok data') : data'.length ≤ data.length + prefixLength := by
  obtain ⟨time, htime, h⟩ := bind_eq_ok_iff.1 h
  cases h
  have hdata := length_withoutTime_le data
  have hlen : time.length = 32 := by
    unfold timeFrame at htime
    split at htime
    · cases htime
    · obtain ⟨m, -, htime⟩ := bind_eq_ok_iff.1 htime
      obtain ⟨nanos, -, htime⟩ := bind_eq_ok_iff.1 htime
      cases htime
      exact congrArg (· + 8) (length_setAccuracyNanos (length_setAccuracy (length_setTime rfl)))
  cases p with
  | none =>
    simp only [List.length_append, time.length_bytes, List.length_nil, prefixLength]
    omega
  | some p =>
    have hposition : (positionFrame p).length = 28 := rfl
    simp only [List.length_append, time.length_bytes, Frame.length_bytes, hposition, prefixLength]
    omega

end Initial

end GnssAiding
