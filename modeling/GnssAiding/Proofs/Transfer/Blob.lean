/-
Of its blob a transfer reads the bytes of its messages and nothing else. So in any other
blob that has the same messages at the same places it begins in the same way
(`start_holding`), whether or not the clock can show the deadlines.
-/
import GnssAiding.Proofs.Transfer.Queue
import GnssAiding.Transfer.Basic

namespace GnssAiding

theorem Message.transmit_congr (c : Context) {data other : Bytes} {m : Message}
    (h : m.located.StandsIn data) (h' : m.located.StandsIn other) :
    m.transmit c data = m.transmit c other := by
  have hbytes : m.bytesIn data = m.bytesIn other := Eq.trans h h'.symm
  unfold transmit
  rw [hbytes]

namespace Queue

/-- The queue with another blob. -/
def holding (data : Bytes) (q : Queue) : Queue := { q with data := data }

variable (c : Context) {q : Queue} {data : Bytes} (h : q.Sliced) (h' : (q.holding data).Sliced)

include h h'

theorem transmit_holding {m : Message} (hm : m ∈ q.unsent) :
    m.transmit c data = m.transmit c q.data :=
  have hmem := List.mem_of_mem_drop hm
  Message.transmit_congr c (h'.standsIn hmem) (h.standsIn hmem)

theorem sendNext_holding (n : Nat) :
    (q.holding data).sendNext c n = holding data <$> q.sendNext c n := by
  have hrun : (q.unsent.take n).mapM (Message.transmit c data) =
      (q.unsent.take n).mapM (Message.transmit c q.data) :=
    Turn.mapM_congr fun m hm => transmit_holding c h h' (List.mem_of_mem_take hm)
  change ((q.unsent.take n).mapM (Message.transmit c data) >>= _) = _
  rw [hrun]
  simp only [sendNext, map_bind, map_pure]
  rfl

theorem sendBlindly_holding {m : Message} (hm : m ∈ q.unsent) :
    sendBlindly c data m = sendBlindly c q.data m := by
  rw [sendBlindly, sendBlindly, transmit_holding c h h' hm]

theorem broadcast_holding : (q.holding data).broadcast c = holding data <$> q.broadcast c := by
  have htrain : sendTrain c data q.unsent = sendTrain c q.data q.unsent := by
    cases hms : q.unsent with
    | nil => rfl
    | cons m ms =>
      have hpaced : ms.mapM (sendPaced c data) = ms.mapM (sendPaced c q.data) := by
        refine Turn.mapM_congr fun m' hm' => ?_
        rw [sendPaced, sendPaced,
          sendBlindly_holding c h h' (hms ▸ List.mem_cons_of_mem m hm')]
      rw [sendTrain, sendTrain, hpaced, sendBlindly_holding c h h' (hms ▸ List.mem_cons_self)]
  change (sendTrain c data q.unsent >>= _) = _
  rw [htrain]
  simp only [broadcast, map_bind, map_pure]
  rfl

end Queue

namespace Transfer

/-- The transfer with another blob. -/
def holding (data : Bytes) (t : Transfer) : Transfer :=
  { t with queue := t.queue.holding data }

variable (c : Context) {t : Transfer} {data : Bytes} (h : t.queue.Sliced)
  (h' : (t.holding data).queue.Sliced)

include h h'

theorem proceed_holding : (t.holding data).proceed c = holding data <$> t.proceed c := by
  obtain ⟨q, discipline, budget⟩ := t
  cases discipline with
  | stopAndWait =>
    change ((q.holding data).sendNext c 1 >>= _) = _
    rw [Queue.sendNext_holding c h h']
    simp only [proceed, map_bind, map_pure, bind_map_left]
    rfl
  | unacknowledged => rfl
  | windowed =>
    change ((q.holding data).sendNext c (Queue.fitting budget q.inFlight q.unsent) >>= _) = _
    rw [Queue.sendNext_holding c h h']
    simp only [proceed, Queue.fill, map_bind, map_pure, bind_map_left]
    rfl

/-- In a blob that has its messages at the same places, a transfer begins in the same way. -/
theorem start_holding :
    (t.holding data).start c = (fun r => (r.1.holding data, r.2)) <$> t.start c := by
  have hproceed := proceed_holding c h h'
  obtain ⟨q, discipline, budget⟩ := t
  cases discipline with
  | unacknowledged =>
    have hbroadcast : (q.holding data).broadcast c = _ := Queue.broadcast_holding c h h'
    simp only [start, holding, hbroadcast, Discipline.needsAcks, Bool.false_eq_true, if_false,
      map_bind, bind_map_left, pure_bind, map_pure]
    rfl
  | stopAndWait | windowed =>
    simp only [start, hproceed, Discipline.needsAcks, if_true, map_bind, bind_map_left, map_pure]
    rfl

end Transfer

end GnssAiding
