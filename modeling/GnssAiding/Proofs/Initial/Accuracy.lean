/-
When a new time meets a fault.

A computation that may refuse or meet a fault is taken apart at its binds
(`faults_bind`); what can only refuse meets none. Of all that the initial messages
are made of, one number need not fit its width: the milliseconds of the accuracy,
which the initial time message carries in nanoseconds. They are looked at when the
date and time have been found to exist (`TimeAdjustment.Overflows`), so a blob with
a time in front of it meets a fault just then (`prepend_faults_iff`), and one whose
own time is adjusted if it also leads with an initial time message
(`adjust_faults_iff`).
-/
import GnssAiding.Initial.Adjust

namespace GnssAiding

/-! ## Faults -/

/-- The computation meets a fault. -/
def Faults {α} (x : Except Failure α) : Prop := ∃ f, x = .error (.fault f)

section Faults

variable {α β : Type}

@[simp]
theorem faults_bind {x : Except Failure α} {f : α → Except Failure β} :
    Faults (x >>= f) ↔ Faults x ∨ ∃ a, x = .ok a ∧ Faults (f a) := by
  cases x with
  | error e => simp [Faults, bind, Except.bind]
  | ok a => simp [Faults, bind, Except.bind]

@[simp]
theorem not_faults_pure (a : α) : ¬ Faults (pure a) := by
  rintro ⟨f, h⟩
  cases h

@[simp]
theorem not_faults_throw (e : Error) : ¬ Faults (throw (.refused e) : Except Failure α) := by
  rintro ⟨f, h⟩
  cases h

/-- What can only refuse meets no fault. -/
@[simp]
theorem not_faults_lift (x : Except Error α) : ¬ Faults (liftM x : Except Failure α) := by
  rintro ⟨f, h⟩
  cases x <;> cases h

@[simp]
theorem faults_map {x : Except Failure α} {f : α → β} : Faults (f <$> x) ↔ Faults x := by
  rw [map_eq_pure_bind, faults_bind]
  exact or_iff_left fun ⟨a, _, ha⟩ => not_faults_pure _ ha

@[simp]
theorem lift_eq_ok_iff {x : Except Error α} {a : α} :
    (liftM x : Except Failure α) = .ok a ↔ x = .ok a := by
  cases x with
  | error e => exact iff_of_false (by rintro ⟨⟩) (by rintro ⟨⟩)
  | ok b => exact ⟨fun h => congrArg Except.ok (Except.ok.inj h), fun h => h ▸ rfl⟩

end Faults

/-! ## The accuracy -/

namespace TimeAdjustment

/-- The date and time replace what is there and exist, but the milliseconds of the
accuracy are too many for a word of nanoseconds. -/
structure Overflows (t : TimeAdjustment) : Prop where
  absolute : t.mode = .absolute
  exists_moment : ∃ m, t.moment = .ok m
  large : 4294 < t.accMillis.toNat

theorem accNanos_faults_iff {t : TimeAdjustment} :
    Faults (liftM t.accNanos : Except Failure UInt32) ↔ 4294 < t.accMillis.toNat := by
  have hwidth : t.accMillis.toNat * 1000000 < Nat.pow 2 32 ↔ ¬ 4294 < t.accMillis.toNat := by
    have : Nat.pow 2 32 = 4294967296 := rfl
    omega
  unfold accNanos Checked.narrow
  by_cases h : 4294 < t.accMillis.toNat
  · rw [if_neg (mt hwidth.1 (not_not_intro h))]
    exact iff_of_true ⟨.overflow, rfl⟩ h
  · rw [if_pos (hwidth.2 h)]
    exact iff_of_false (by rintro ⟨f, hf⟩; cases hf) h

end TimeAdjustment

namespace Initial

open TimeAdjustment (Overflows accNanos_faults_iff)

/-- With an absolute time, all that can go wrong is that it does not exist, and then
that its accuracy does not fit. -/
theorem absolute_faults_iff {α : Type} {t : TimeAdjustment} (ht : t.mode = .absolute)
    (f : Moment → UInt32 → α) :
    Faults (do let m ← t.moment; let nanos ← t.accNanos; pure (f m nanos)) ↔ t.Overflows := by
  simp only [faults_bind, not_faults_lift, lift_eq_ok_iff, accNanos_faults_iff, not_faults_pure,
    false_or, and_false, exists_false, or_false]
  exact ⟨fun ⟨m, hm, hn⟩ => ⟨ht, ⟨m, hm⟩, hn⟩, fun ⟨_, ⟨m, hm⟩, hn⟩ => ⟨m, hm, hn⟩⟩

theorem timeFrame_faults_iff {t : TimeAdjustment} : Faults (timeFrame t) ↔ t.Overflows := by
  unfold timeFrame
  by_cases ht : t.mode = .absolute
  · rw [if_neg (not_not_intro ht)]
    exact absolute_faults_iff ht _
  · rw [if_pos ht]
    exact iff_of_false (not_faults_throw _) fun h => ht h.absolute

theorem prepend_faults_iff {data : Bytes} {t : TimeAdjustment} {p : Option Position} :
    Faults (prepend data t p) ↔ t.Overflows := by
  simp only [prepend, faults_bind, timeFrame_faults_iff, not_faults_pure, and_false, exists_false,
    or_false]

theorem adjustTime_faults_iff {t : TimeAdjustment} {payload : Bytes} :
    Faults (adjustTime t payload) ↔ t.Overflows := by
  unfold adjustTime
  split
  · next ht => exact absolute_faults_iff ht _
  · next ht =>
    refine iff_of_false ?_ fun h => ?_
    · simp only [faults_bind, not_faults_lift, not_faults_pure, and_false, exists_false, or_false,
        not_false_eq_true]
    · cases ht.symm.trans h.absolute

theorem not_faults_adjustAid (t : TimeAdjustment) (payload : Bytes) :
    ¬ Faults (adjustAid t payload) := by
  unfold adjustAid
  split
  · simp only [faults_bind, not_faults_lift, false_or, not_exists, not_and]
    intro m _
    split
    · exact not_faults_throw _
    · exact not_faults_pure _
  · exact not_faults_throw _

theorem adjust_faults_iff {data : Bytes} {t : TimeAdjustment} :
    Faults (adjust data t) ↔ startsWithTime data = true ∧ t.Overflows := by
  unfold adjust startsWithTime
  cases hl : lead? data with
  | none => exact iff_of_false (by rintro ⟨f, ⟨⟩⟩) (by simp)
  | some lead =>
    cases lead with
    | time f rest hf =>
      simp only [faults_bind, adjustTime_faults_iff, not_faults_lift, not_faults_pure, and_false,
        exists_false, or_false, true_and]
    | aid f rest hf =>
      simp only [faults_bind, not_faults_adjustAid, not_faults_lift, not_faults_pure, and_false,
        exists_false, or_false, Bool.false_eq_true, false_and]

end Initial

end GnssAiding
