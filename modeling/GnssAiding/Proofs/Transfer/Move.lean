/-
What a transfer does with an input, said once for all disciplines.

A frame that is for the transfer settles one message in flight (`Answer`); a
tick gives up or sends again one overdue message after another (`Lapses`). A
message that is settled or given up makes room, which is used at once.
`receive_comes` and `checkTimeouts_comes` say that an input leads to nothing
else, unless it stops on a deadline that the clock cannot show. Where the two
need not be told apart they are moves (`Answer.move`, `Lapses.moves`), and what
every move keeps, every turn keeps (`Moves.keeps`). A sweep works on the indices it
found before it began; they stay good because a move leaves every other message
that was sent as it is (`Move.getElem?_of_ne`).
-/
import GnssAiding.Proofs.Transfer.Consistent
import GnssAiding.Proofs.Transfer.Verdict

namespace GnssAiding

open Turn

theorem Message.state_of_overdue {m : Message} {now : Nat} (h : m.overdue now = true) :
    m.state = .waitingForAck := by
  simp only [overdue, Bool.and_eq_true, decide_eq_true_eq] at h
  exact h.1

namespace Transfer

/-! ## Using the room there is -/

/-- How many of the messages not sent yet may go now. -/
def room (t : Transfer) : Nat :=
  match t.discipline with
  | .stopAndWait => 1
  | .unacknowledged => 0
  | .windowed => Queue.fitting t.budget t.queue.inFlight t.queue.unsent

/-- What using the room does to the host. -/
def refill (t : Transfer) : List Action :=
  (t.queue.unsent.take t.room).flatMap Message.transmission

/-- The transfer with its room used. -/
def refilled (c : Context) (t : Transfer) : Transfer :=
  { t with queue := t.queue.sentNext c t.room }

theorem proceed_comes (c : Context) {t : Transfer} (ht : t.queue.Sliced) :
    (t.proceed c).Comes c t.refill (t.refilled c) := by
  unfold proceed refill refilled room
  split
  · next hd =>
    rw [hd]
    exact (Queue.sendNext_comes c 1 ht).result rfl
  · next hd =>
    rw [hd]
    simp only [List.take_zero, List.flatMap_nil, Queue.sentNext_zero]
    exact .pure _
  · next hd =>
    rw [hd]
    exact (Queue.sendNext_comes c _ ht).result rfl

/-! ## The start -/

/-- What the start does to the host. -/
def opening (c : Context) (t : Transfer) : List Action :=
  .report (.start t.queue.messages.length) ::
    match t.discipline with
    | .unacknowledged => Queue.trainActions c t.queue.unsent
    | _ => .write c.settings.ackSetup.frame.bytes :: t.refill

/-- The transfer when it has just begun. -/
def started (c : Context) (t : Transfer) : Transfer :=
  match t.discipline with
  | .unacknowledged => { t with queue := t.queue.sentAll c }
  | _ => t.refilled c

theorem start_comes (c : Context) {t : Transfer} (ht : t.queue.Sliced) :
    (t.start c).Comes c (t.opening c) (t.started c, (t.started c).queue.step) := by
  unfold start opening started
  cases hd : t.discipline with
  | unacknowledged =>
    refine Comes.cons ?_
    rw [if_neg (by decide)]
    exact (Queue.broadcast_comes c ht).result rfl
  | stopAndWait | windowed =>
    refine Comes.cons (Comes.cons ?_)
    exact (proceed_comes c ht).result rfl

theorem start_eq {c : Context} (hc : c.Fits) {t : Transfer} (ht : t.queue.Sliced) :
    t.start c = ⟨t.opening c, .ok (t.started c, (t.started c).queue.step)⟩ :=
  (start_comes c ht).eq hc

/-! ## Moves -/

/-- The transfer with a message in flight settled. -/
def settle (i : Nat) (m : Message) (failure : Option FailureReason) (t : Transfer) : Transfer :=
  { t with queue := t.queue.settle i (m.settled failure) }

/-- Why the message `m` at `i` is settled. -/
inductive Cause (c : Context) (q : Queue) (i : Nat) (m : Message) : Option FailureReason → Prop
  /-- The receiver says so. -/
  | answered {failure} (f : Frame) (hv : verdict? q f = some (i, failure)) : Cause c q i m failure
  /-- It is overdue, and was sent again as often as allowed. -/
  | givenUp (hd : m.overdue c.now = true) (hr : ¬ m.retries < c.settings.retries) :
    Cause c q i m (some .tooManyRetries)

/-- What a transfer does about the message at `i`, which is in flight. -/
inductive Move (c : Context) (t : Transfer) (i : Nat) : List Action → Transfer → Prop
  | settled {m failure} (hn : t.discipline.needsAcks = true) (hm : t.queue.messages[i]? = some m)
    (hs : m.state = .waitingForAck) (why : Cause c t.queue i m failure) :
    Move c t i (.report (m.conclusion failure) :: (t.settle i m failure).refill)
      ((t.settle i m failure).refilled c)
  | sentAgain {m} (hn : t.discipline.needsAcks = true) (hm : t.queue.messages[i]? = some m)
    (hs : m.state = .waitingForAck) (hd : m.overdue c.now = true)
    (hr : m.retries < c.settings.retries) :
    Move c t i m.again.transmission { t with queue := t.queue.put i (m.again.outAt c) }

/-- Some moves, one after another. -/
inductive Moves (c : Context) : Transfer → List Action → Transfer → Prop
  | nil (t) : Moves c t [] t
  | cons {t u v i acts more} (h : Move c t i acts u) (hs : Moves c u more v) :
    Moves c t (acts ++ more) v

/-- What a transfer does with a frame that is for it: the message at `i`,
which the frame is about, is settled. -/
inductive Answer (c : Context) (t : Transfer) (f : Frame) (i : Nat) : List Action → Transfer → Prop
  | settled {m failure} (hn : t.discipline.needsAcks = true)
    (hv : verdict? t.queue f = some (i, failure)) (hm : t.queue.messages[i]? = some m)
    (hs : m.state = .waitingForAck) :
    Answer c t f i (.report (m.conclusion failure) :: (t.settle i m failure).refill)
      ((t.settle i m failure).refilled c)

/-- What a transfer does about the message at `i`, which is overdue. -/
inductive Lapse (c : Context) (t : Transfer) (i : Nat) : List Action → Transfer → Prop
  | givenUp {m} (hn : t.discipline.needsAcks = true) (hm : t.queue.messages[i]? = some m)
    (hd : m.overdue c.now = true) (hr : ¬ m.retries < c.settings.retries) :
    Lapse c t i
      (.report (m.conclusion (some .tooManyRetries)) ::
        (t.settle i m (some .tooManyRetries)).refill)
      ((t.settle i m (some .tooManyRetries)).refilled c)
  | sentAgain {m} (hn : t.discipline.needsAcks = true) (hm : t.queue.messages[i]? = some m)
    (hd : m.overdue c.now = true) (hr : m.retries < c.settings.retries) :
    Lapse c t i m.again.transmission { t with queue := t.queue.put i (m.again.outAt c) }

/-- So many overdue messages are seen to, one after another. -/
inductive Lapses (c : Context) : Nat → Transfer → List Action → Transfer → Prop
  | nil (t) : Lapses c 0 t [] t
  | cons {n t u v i acts more} (h : Lapse c t i acts u) (hs : Lapses c n u more v) :
    Lapses c (n + 1) t (acts ++ more) v

theorem Answer.move {c : Context} {t u : Transfer} {f : Frame} {i : Nat} {acts : List Action}
    (h : Answer c t f i acts u) : Move c t i acts u := by
  cases h with
  | settled hn hv hm hs => exact .settled hn hm hs (.answered f hv)

theorem Lapse.move {c : Context} {t u : Transfer} {i : Nat} {acts : List Action}
    (h : Lapse c t i acts u) : Move c t i acts u := by
  cases h with
  | givenUp hn hm hd hr => exact .settled hn hm (Message.state_of_overdue hd) (.givenUp hd hr)
  | sentAgain hn hm hd hr => exact .sentAgain hn hm (Message.state_of_overdue hd) hd hr

theorem Lapses.moves {c : Context} {n : Nat} {t u : Transfer} {acts : List Action}
    (h : Lapses c n t acts u) : Moves c t acts u := by
  induction h with
  | nil t => exact .nil t
  | cons hm _ ih => exact .cons hm.move ih

namespace Move

variable {c : Context} {t u : Transfer} {i : Nat} {acts : List Action} (h : Move c t i acts u)

include h

theorem moves : Moves c t acts u := by
  have := Moves.cons h (.nil u)
  rwa [List.append_nil] at this

theorem consistent (ht : t.queue.Consistent) : u.queue.Consistent := by
  cases h with
  | settled _ hm hs _ => exact (ht.settle hm hs _).sentNext c _
  | sentAgain _ hm hs _ _ => exact ht.put hm hs c

/-- A move leaves every other message that was sent as it is. -/
theorem getElem?_of_ne (ht : t.queue.Consistent) {j : Nat} {n : Message} (hj : j ≠ i)
    (hn : t.queue.messages[j]? = some n) (hs : n.state ≠ .waitingToSend) :
    u.queue.messages[j]? = some n := by
  cases h with
  | @settled m failure _ hm hms _ =>
    have hset : (t.settle i m failure).queue.messages[j]? = some n :=
      (List.getElem?_set_ne hj.symm).trans hn
    exact (ht.settle hm hms failure).getElem?_sentNext c _ hset hs
  | sentAgain _ _ _ _ _ => exact (List.getElem?_set_ne hj.symm).trans hn

/-- A message that is done stays as it is. -/
theorem keeps_done (ht : t.queue.Consistent) {j : Nat} {n : Message}
    (hn : t.queue.messages[j]? = some n) (hd : n.state.isDone = true) :
    u.queue.messages[j]? = some n := by
  have hne : j ≠ i := by
    rintro rfl
    cases h with
    | settled _ hm hs _ | sentAgain _ hm hs _ _ =>
      rw [hm] at hn
      cases hn
      simp [hs, Progress.isDone] at hd
  exact h.getElem?_of_ne ht hne hn fun hs => by simp [hs, Progress.isDone] at hd

end Move

/-- What every move keeps, a chain of moves keeps. -/
theorem Moves.keeps {c : Context} {I : Transfer → Prop}
    (step : ∀ {t u i acts}, Move c t i acts u → I t → I u) {t u : Transfer} {acts : List Action}
    (h : Moves c t acts u) (ht : I t) : I u := by
  induction h with
  | nil => exact ht
  | cons hm _ ih => exact ih (step hm ht)

/-! ## Frames from the receiver -/

/-- A frame that is for the transfer settles the message that it is about. -/
theorem receive_comes {c : Context} {t : Transfer} {f : Frame} {turn : Turn (Transfer × Step)}
    (ht : t.queue.Consistent) (h : t.receive c f = some turn) :
    ∃ i acts u, turn.Comes c acts (u, u.queue.step) ∧ Answer c t f i acts u := by
  rw [receive_eq] at h
  split at h
  · next hn =>
    obtain ⟨⟨i, failure⟩, hv, rfl⟩ := Option.map_eq_some_iff.1 h
    obtain ⟨m, hm, hs, -⟩ := verdict?_eq_some hv
    refine ⟨i, _, _, ?_, .settled hn hv hm hs⟩
    simp only [Queue.resolve_eq hm]
    have hproceed := proceed_comes c (t := t.settle i m failure) (ht.settle hm hs failure).sliced
    exact Comes.ok_bind (hproceed.result rfl)
  · cases h

/-! ## Overdue messages -/

/-- An overdue message lapses, if acknowledgements matter. -/
theorem timeOut_comes (c : Context) {t : Transfer} {i : Nat} {m : Message}
    (ht : t.queue.Consistent) (hn : t.discipline.needsAcks = true)
    (hm : t.queue.messages[i]? = some m) (hd : m.overdue c.now = true) :
    ∃ acts u, (t.timeOut c i).Comes c acts u ∧ Lapse c t i acts u := by
  unfold timeOut
  rw [if_pos hn]
  by_cases hr : m.retries < c.settings.retries
  · exact ⟨_, _, (Queue.retry_comes_again ht.sliced hm hr).result rfl, .sentAgain hn hm hd hr⟩
  · refine ⟨_, _, ?_, .givenUp hn hm hd hr⟩
    rw [Queue.retry_eq_giveUp hm hr]
    exact Comes.ok_bind (proceed_comes c (ht.settle hm (Message.state_of_overdue hd) _).sliced)

/-- A sweep over overdue messages is a chain of lapses, and they are none only
if there is nothing to see to. -/
theorem sweep_comes (c : Context) {is : List Nat} {t : Transfer} (ht : t.queue.Consistent)
    (hnodup : is.Nodup)
    (hdue : ∀ i ∈ is, ∃ m, t.queue.messages[i]? = some m ∧ m.overdue c.now = true) :
    ∃ n acts u, (t.sweep c is).Comes c acts (u, u.queue.step) ∧ Lapses c n t acts u ∧
      (t.discipline.needsAcks = true → is ≠ [] → 0 < n) := by
  induction is generalizing t with
  | nil => exact ⟨0, [], t, .pure _, .nil t, fun _ h => absurd rfl h⟩
  | cons i is ih =>
    obtain ⟨hi, hnodup⟩ := List.nodup_cons.1 hnodup
    by_cases hn : t.discipline.needsAcks = true
    · obtain ⟨m, hm, hd⟩ := hdue i (by simp)
      obtain ⟨acts, u, htime, hlapse⟩ := timeOut_comes c ht hn hm hd
      by_cases hrun : u.queue.step = .running
      · have hdue' : ∀ j ∈ is, ∃ n, u.queue.messages[j]? = some n ∧ n.overdue c.now = true := by
          intro j hj
          obtain ⟨n, hnj, hnd⟩ := hdue j (by simp [hj])
          have hne : j ≠ i := fun he => hi (he ▸ hj)
          refine ⟨n, hlapse.move.getElem?_of_ne ht hne hnj ?_, hnd⟩
          simp [Message.state_of_overdue hnd]
        obtain ⟨n, more, v, hsweep, hlapses, -⟩ := ih (hlapse.move.consistent ht) hnodup hdue'
        refine ⟨n + 1, acts ++ more, v, htime.bind ?_, .cons hlapse hlapses, fun _ _ => by omega⟩
        rw [if_pos hrun]
        exact hsweep
      · refine ⟨1, acts ++ [], u, htime.bind ?_, .cons hlapse (.nil u), fun _ _ => by omega⟩
        rw [if_neg hrun]
        exact .pure _
    · have hstay : t.timeOut c i = pure t := by
        unfold timeOut
        rw [if_neg hn]
      simp only [sweep, hstay, pure_bind]
      by_cases hrun : t.queue.step = .running
      · rw [if_pos hrun]
        obtain ⟨n, acts, u, hsweep, hlapses, -⟩ := ih ht hnodup fun j hj => hdue j (by simp [hj])
        exact ⟨n, acts, u, hsweep, hlapses, fun h => absurd h hn⟩
      · rw [if_neg hrun]
        exact ⟨0, [], t, .pure _, .nil t, fun h => absurd h hn⟩

/-- Seeing to what is overdue is a chain of lapses. -/
theorem checkTimeouts_comes (c : Context) {t : Transfer} (ht : t.queue.Consistent) :
    ∃ n acts u, (t.checkTimeouts c).Comes c acts (u, u.queue.step) ∧ Lapses c n t acts u ∧
      (t.discipline.needsAcks = true → t.queue.overdue c.now ≠ [] → 0 < n) :=
  sweep_comes c ht (Queue.nodup_overdue c.now t.queue) fun _ hi => Queue.mem_overdue.1 hi

end Transfer

end GnssAiding
