/-
Offline data goes out behind its initial messages, whatever it holds.

Whether there is anything to send is looked at when the initial messages stand in front of
the data already, and these can always be sent. So offline data is refused if it is too
large or no clean stream, and for nothing that it lacks (`Job.ofOffline_flatMap`). Data
without an assistance message goes out as its initial messages alone, which stand in a
longer blob then (`Session.advance_holding`).
-/
import GnssAiding.Proofs.Initial.Prepending
import GnssAiding.Proofs.Session.Origin
import GnssAiding.Proofs.Transfer.Blob

namespace GnssAiding

open Initial (messageOf behindTime)

/-- Frames that are not wanted make no messages. -/
theorem Message.ofFrames_append_unwanted (fs : List Frame) {gs : List Frame}
    (h : ∀ g ∈ gs, g.wanted = false) : ofFrames (fs ++ gs) = ofFrames fs := by
  rw [ofFrames_append, ofFrames_eq_nil_iff.2 h, List.map_nil, List.append_nil]

theorem Initial.mem_of_mem_behindTime {f : Frame} {fs : List Frame} (h : f ∈ behindTime fs) :
    f ∈ fs := by
  unfold behindTime at h
  split at h
  · exact h
  split at h
  · exact List.mem_cons_of_mem _ h
  · exact h

/-! ## The job -/

namespace Job

variable {s : Settings} {t : TimeAdjustment} {p : Option Position} {data : Bytes} {fs : List Frame}

/-- The job of sending those of these frames that are wanted. -/
def sending (s : Settings) (fs : List Frame) : Job :=
  .messages ⟨⟨fs.flatMap Frame.bytes, Message.ofFrames fs, 0, 0, 0⟩, s.discipline, s.budget⟩

/-- The job with another blob behind its messages. -/
def holding (data : Bytes) : Job → Job
  | messages t => messages (t.holding data)
  | job => job

theorem sending_append_unwanted (hs : ∀ f ∈ fs, f.wanted = false) (front : List Frame) :
    sending s (front ++ fs) = (sending s front).holding ((front ++ fs).flatMap Frame.bytes) := by
  rw [sending, Message.ofFrames_append_unwanted front hs]
  rfl

theorem ofOffline_of_large (h : maxBlob < data.length) :
    ofOffline s data t p = .error (.refused .badData) := by
  have hsize : checkSize data = .error .badData := if_pos h
  unfold ofOffline
  rw [hsize]
  rfl

theorem ofOffline_of_unclean (ht : t.Complete) (hsize : data.length ≤ maxBlob)
    (hclean : ¬ Stream.Clean data) : ofOffline s data t p = .error (.refused .badData) := by
  have hchecked : checkSize data = .ok () := checkSize_eq_ok_iff.2 hsize
  have hlist : Message.list ((Initial.frames t p).flatMap Frame.bytes ++ Initial.withoutTime data) =
      .error .badData := by
    rw [Message.list_eq_badData_iff]
    exact mt (Stream.clean_append_iff.trans Initial.clean_withoutTime_iff).1 hclean
  unfold ofOffline
  rw [hchecked, Initial.prepend_eq ht]
  show (liftM (Transfer.ofData _ s) >>= _ : Except Failure Job) = _
  unfold Transfer.ofData Queue.ofData
  rw [hlist]
  rfl

/-- A clean stream makes a job, also if there is no message in it. -/
theorem ofOffline_flatMap (ht : t.Complete) (hsize : (fs.flatMap Frame.bytes).length ≤ maxBlob) :
    ofOffline s (fs.flatMap Frame.bytes) t p =
      .ok (sending s (Initial.frames t p ++ behindTime fs)) := by
  have hchecked : checkSize (fs.flatMap Frame.bytes) = .ok () := checkSize_eq_ok_iff.2 hsize
  have hblob : (Initial.frames t p).flatMap Frame.bytes ++
      Initial.withoutTime (fs.flatMap Frame.bytes) =
        (Initial.frames t p ++ behindTime fs).flatMap Frame.bytes := by
    rw [Initial.withoutTime_flatMap, List.flatMap_append]
  unfold ofOffline
  rw [hchecked, Initial.prepend_eq ht, hblob]
  show (liftM (Transfer.ofData _ s) >>= _ : Except Failure Job) = _
  rw [Transfer.ofData_of_list (Initial.list_frames t p (behindTime fs))]
  rfl

theorem length_frames_le (t : TimeAdjustment) (p : Option Position) :
    ((Initial.frames t p).flatMap Frame.bytes).length ≤ maxBlob := by
  have htime : (messageOf t).length = 32 := rfl
  have hposition : ∀ q, (Initial.positionFrame q).length = 28 := fun _ => rfl
  cases p with
  | none =>
    simp only [Initial.frames, Option.toList_none, List.map_nil, List.flatMap_cons,
      List.flatMap_nil, List.length_append, Frame.length_bytes, htime]
    decide
  | some q =>
    simp only [Initial.frames, Option.toList_some, List.map_cons, List.map_nil, List.flatMap_cons,
      List.flatMap_nil, List.length_append, Frame.length_bytes, htime, hposition]
    decide

theorem ofOnline_frames (s : Settings) (t : TimeAdjustment) (p : Option Position) :
    ofOnline s ((Initial.frames t p).flatMap Frame.bytes) .none =
      .ok (sending s (Initial.frames t p)) := by
  have hlist := Initial.list_frames t p []
  rw [List.append_nil] at hlist
  exact ofOnline_eq_ok_iff.2
    ⟨length_frames_le t p, _, _, .same, Transfer.ofData_of_list hlist s, rfl⟩

/-- The job begins in the same way if frames that are not wanted stand behind the initial
messages. -/
theorem start_holding_frames (c : Context) (s : Settings) (t : TimeAdjustment)
    (p : Option Position) (fs : List Frame) (hs : ∀ f ∈ fs, f.wanted = false) :
    (sending s (Initial.frames t p ++ fs)).start c =
      (fun r => (r.1.holding ((Initial.frames t p ++ fs).flatMap Frame.bytes), r.2)) <$>
        (sending s (Initial.frames t p)).start c := by
  have halone := Queue.sliced_of_list (Initial.list_frames t p [])
  have hbehind := Queue.sliced_of_list (Initial.list_frames t p fs)
  rw [List.append_nil] at halone
  rw [Message.ofFrames_append_unwanted _ hs] at hbehind
  let alone : Transfer :=
    ⟨⟨(Initial.frames t p).flatMap Frame.bytes, Message.ofFrames (Initial.frames t p), 0, 0, 0⟩,
      s.discipline, s.budget⟩
  have hstart := Transfer.start_holding c (t := alone) halone hbehind
  rw [sending_append_unwanted hs]
  change ((alone.holding _).start c >>= _) = _ <$> (alone.start c >>= _)
  rw [hstart, bind_map_left, map_bind]
  rfl

end Job

/-! ## The session -/

/-- What came of a call, with another blob behind the messages of the job. -/
def Outcome.holding {α} (data : Bytes) (o : Outcome α) : Outcome α :=
  { o with session := { o.session with job := o.session.job.holding data } }

namespace Session

section Begin

variable {s : Session} {settings : Settings} {now : Nat}

/-- What a turn of the job does is done by the call. -/
theorem mem_actions_advance {α} {turn : Turn (Job × Step)} {act : Action}
    (h : act ∈ turn.actions) (a : α) : act ∈ (s.advance turn a).actions := by
  rcases s.advance_cases turn a with ⟨acts, job, rfl, hr⟩ | ⟨acts, job, step, e, rfl, -, hr⟩ |
    ⟨acts, f, rfl, hr⟩
  · rw [hr]
    exact h
  · rw [hr]
    exact List.mem_append_left _ h
  · rw [hr]
    exact h

/-- A call that has a turn and meets no fault does not leave the session waiting. -/
theorem advance_state_ne {α} {turn : Turn (Job × Step)} {a b : α}
    (h : (s.advance turn a).result = .ok b) :
    (s.advance turn a).session.state ≠ .waitingForData := by
  rcases s.advance_cases turn a with ⟨_, _, -, hr⟩ | ⟨_, _, _, _, -, -, hr⟩ | ⟨_, _, -, hr⟩
  · rw [hr]
    exact nofun
  · rw [hr]
    exact nofun
  · rw [hr] at h
    cases h

/-- What is taken for a turn of another job is taken for what comes of it. -/
theorem advance_holding {α} (hj : s.job = .none) (data : Bytes) (turn : Turn (Job × Step)) (a : α) :
    s.advance ((fun r => (r.1.holding data, r.2)) <$> turn) a =
      (s.advance turn a).holding data := by
  obtain ⟨state, settings, job⟩ := s
  dsimp only at hj
  subst hj
  obtain ⟨acts, e | ⟨job, step⟩⟩ := turn
  · rfl
  · rw [Turn.map_ok]
    cases step <;> rfl

variable (hw : s.state = .waitingForData) (hs : s.settings = some settings)

include hw hs

theorem begin_of_error {make : Settings → Except Failure Job} {e : Failure}
    (h : make settings = .error e) : s.begin now make = ⟨s, [], .error e⟩ := by
  simp only [begin, hw, hs, h]

end Begin

section Offline

variable {s : Session} {settings : Settings} {now : Nat} {t : TimeAdjustment} {p : Option Position}
  {fs : List Frame}

/-- An offline call does what the job of its data does. -/
theorem perform_sendOffline_of_error (hw : s.state = .waitingForData)
    (hs : s.settings = some settings) {data : Bytes} {e : Failure}
    (h : Job.ofOffline settings data t p = .error e) :
    s.perform now (.sendOffline data t p) = ⟨s, [], .error e⟩ := by
  rw [perform, sendOffline, begin_of_error hw hs h]
  rfl

theorem perform_sendOffline_of_ok (hw : s.state = .waitingForData)
    (hs : s.settings = some settings) {data : Bytes} {job : Job}
    (h : Job.ofOffline settings data t p = .ok job) :
    s.perform now (.sendOffline data t p) = s.advance (job.start ⟨settings, now⟩) .done := by
  rw [perform, sendOffline, begin_eq_advance hw hs h, map_advance]

/-- Data that makes a job is accepted, unless the clock cannot show a deadline. -/
theorem sendOffline_accepts (hw : s.state = .waitingForData) (hs : s.settings = some settings)
    {data : Bytes} {job : Job} (h : Job.ofOffline settings data t p = .ok job) :
    (s.perform now (.sendOffline data t p)).result = .ok .done ∨
      ¬ Context.Fits ⟨settings, now⟩ ∧ Faults (s.perform now (.sendOffline data t p)).result := by
  have hmake : (fun settings => Job.ofOffline settings data t p) settings = .ok job := h
  exact begin_accepts hw hs hmake (Job.ofOffline_prepares settings data t p job h) _

/-- Data is refused for its size or for what it is, and not for what it lacks. -/
theorem sendOffline_refused_iff (hw : s.state = .waitingForData) (hs : s.settings = some settings)
    (ht : t.Complete) (data : Bytes) :
    (s.perform now (.sendOffline data t p)).result ≠ .error (.refused .noDataToSend) ∧
      ((s.perform now (.sendOffline data t p)).result = .error (.refused .badData) ↔
        Job.maxBlob < data.length ∨ ¬ Stream.Clean data) := by
  by_cases hlarge : Job.maxBlob < data.length
  · rw [perform_sendOffline_of_error hw hs (Job.ofOffline_of_large hlarge)]
    exact ⟨nofun, iff_of_true rfl (.inl hlarge)⟩
  have hsize := Nat.le_of_not_lt hlarge
  by_cases hclean : Stream.Clean data
  · have hgood : ¬ (Job.maxBlob < data.length ∨ ¬ Stream.Clean data) :=
      not_or.2 ⟨hlarge, not_not_intro hclean⟩
    obtain ⟨fs, rfl⟩ := hclean
    rcases sendOffline_accepts hw hs (Job.ofOffline_flatMap ht hsize) with hok | ⟨-, f, hfault⟩
    · rw [hok]
      exact ⟨nofun, iff_of_false nofun hgood⟩
    · rw [hfault]
      exact ⟨nofun, iff_of_false nofun hgood⟩
  · rw [perform_sendOffline_of_error hw hs (Job.ofOffline_of_unclean ht hsize hclean)]
    exact ⟨nofun, iff_of_true rfl (.inr hclean)⟩

/-- The messages are counted and the initial time goes out. -/
theorem start_sending (settings : Settings) (c : Context) (t : TimeAdjustment) (p : Option Position)
    (fs : List Frame) :
    .report (.start ((Initial.frames t p ++ fs).countP Frame.wanted)) ∈
        ((Job.sending settings (Initial.frames t p ++ fs)).start c).actions ∧
      .write (messageOf t).bytes ∈
        ((Job.sending settings (Initial.frames t p ++ fs)).start c).actions := by
  have hwanted := Initial.wanted_frames t p (messageOf t) List.mem_cons_self
  obtain ⟨hinterest, hintact⟩ := Bool.and_eq_true_iff.1 hwanted
  have hclean : (Stream.split ((messageOf t).bytes ++
      (p.toList.map Initial.positionFrame ++ fs).flatMap Frame.bytes)).2 = [] := by
    rw [← List.flatMap_cons, Stream.split_flatMap]
  obtain ⟨transfer, htransfer, ms, hunsent, hidle⟩ :=
    Transfer.ofData_of_first settings hclean hinterest hintact
  rw [← List.flatMap_cons, ← List.cons_append] at htransfer
  have hsliced := (Transfer.consistent_of_ofData htransfer).sliced
  cases (Transfer.ofData_of_list (Initial.list_frames t p fs) settings).symm.trans htransfer
  constructor
  · refine Turn.mem_bind.2 (.inl (Turn.mem_bind.2 (.inl ?_)))
    rw [← Message.length_ofFrames]
    exact List.mem_singleton.2 rfl
  · exact Turn.mem_bind.2 (.inl (Transfer.write_start c hsliced hunsent hidle))

end Offline

/-- **Offline data is not refused for what it lacks.** A started session refuses it as no
stream if it is too large or none, and never for want of something to send. In any other
case the messages are counted and the initial time goes out; and if there is no message of
interest in the data, the call does what it would do for its initial messages alone, but for
the blob that the messages are in. -/
theorem offline_goes_out (h : Reachable s) (hw : s.state = .waitingForData) {t : TimeAdjustment}
    (ht : t.Complete) (p : Option Position) (now : Nat) :
    ∃ settings, s.settings = some settings ∧
      (∀ data,
        (s.perform now (.sendOffline data t p)).result ≠ .error (.refused .noDataToSend) ∧
          ((s.perform now (.sendOffline data t p)).result = .error (.refused .badData) ↔
            Job.maxBlob < data.length ∨ ¬ Stream.Clean data)) ∧
      ∀ fs : List Frame, (fs.flatMap Frame.bytes).length ≤ Job.maxBlob →
        let o := s.perform now (.sendOffline (fs.flatMap Frame.bytes) t p)
        (o.result = .ok .done ∧ o.session.state ≠ .waitingForData ∨
            ¬ Context.Fits ⟨settings, now⟩ ∧ Faults o.result) ∧
          .start ((Initial.frames t p ++ behindTime fs).countP Frame.wanted) ∈ o.events ∧
          (messageOf t).bytes ∈ o.writes ∧
          ((∀ f ∈ fs, f.wanted = false) →
            o = (s.perform now
              (.sendOnline ((Initial.frames t p).flatMap Frame.bytes) none)).holding
                ((Initial.frames t p ++ behindTime fs).flatMap Frame.bytes)) := by
  obtain ⟨settings, hs⟩ := h.equipped (by simp [hw])
  refine ⟨settings, hs, fun data => sendOffline_refused_iff hw hs ht data, fun fs hsize => ?_⟩
  have hjob := Job.ofOffline_flatMap (s := settings) (p := p) ht hsize
  have hperform : s.perform now (.sendOffline (fs.flatMap Frame.bytes) t p) = _ :=
    perform_sendOffline_of_ok hw hs hjob
  obtain ⟨hstart, hwrite⟩ := start_sending settings ⟨settings, now⟩ t p (behindTime fs)
  refine ⟨(sendOffline_accepts hw hs hjob).imp_left fun hok => ⟨hok, ?_⟩, ?_, ?_,
    fun hnone => ?_⟩
  · rw [hperform] at hok ⊢
    exact advance_state_ne hok
  · rw [hperform]
    exact List.mem_filterMap.2 ⟨_, mem_actions_advance hstart _, rfl⟩
  · rw [hperform]
    exact Action.mem_written.2 (mem_actions_advance hwrite _)
  · have hbehind : ∀ f ∈ behindTime fs, f.wanted = false :=
      fun f hf => hnone f (Initial.mem_of_mem_behindTime hf)
    have hj : s.job = .none := h.sound.job_eq_none (by simp [hw])
    have honline := Job.ofOnline_frames settings t p
    rw [hperform, Job.start_holding_frames _ _ _ _ _ hbehind, advance_holding hj, perform,
      sendOnline, begin_eq_advance hw hs honline, map_advance]

/-- A message that assistance does not deal in. -/
def dullFrame : Frame := .sealed 0x01 0x07 [0, 0, 0, 0] (by decide)

/-- The initial time goes out alone. -/
theorem offline_goes_out_dull :
    let s := Line.startedLine.session
    Reachable s ∧ s.state = .waitingForData ∧ (Line.noon 0).Complete ∧ dullFrame.wanted = false ∧
      s.perform 0 (.sendOffline dullFrame.bytes (Line.noon 0) none) =
        (s.perform 0 (.sendOnline noonTime.bytes none)).holding
          ([noonTime, dullFrame].flatMap Frame.bytes) ∧
      .start 1 ∈ (s.perform 0 (.sendOffline dullFrame.bytes (Line.noon 0) none)).events := by
  intro s
  have hs : Reachable s := Line.session_reachable Line.startedLine_reachable
  have hcomplete : (Line.noon 0).Complete := ⟨rfl, by decide, by decide⟩
  have hdull : ∀ f ∈ [dullFrame], f.wanted = false := by decide
  obtain ⟨settings, -, -, hall⟩ := offline_goes_out hs rfl hcomplete none 0
  obtain ⟨-, hstart, -, hsame⟩ := hall [dullFrame] (by decide)
  exact ⟨hs, rfl, hcomplete, by decide, hsame hdull, hstart⟩

/-- Data without an assistance message is taken and leads to work, although it is refused when
it is to be sent as online data. -/
theorem dull_goes_out :
    let s := Line.startedLine.session
    let o := s.perform 0 (.sendOffline dullFrame.bytes (Line.noon 0) none)
    Reachable s ∧ s.state = .waitingForData ∧ (Line.noon 0).Complete ∧
      Stream.Clean dullFrame.bytes ∧ dullFrame.bytes.length ≤ Job.maxBlob ∧
      (∀ f ∈ (Stream.split dullFrame.bytes).1, f.wanted = false) ∧
      (s.perform 0 (.sendOnline dullFrame.bytes none)).result = .error (.refused .noDataToSend) ∧
      o.result = .ok .done ∧ o.session.state = .processing ∧ noonTime.bytes ∈ o.writes := by
  intro s o
  have hsplit : Stream.split dullFrame.bytes = ([dullFrame], []) := Stream.split_flatMap [dullFrame]
  have hdull : ∀ f ∈ (Stream.split dullFrame.bytes).1, f.wanted = false := by
    rw [hsplit]
    decide
  exact ⟨Line.session_reachable Line.startedLine_reachable, rfl, ⟨rfl, by decide, by decide⟩,
    ⟨[dullFrame], rfl⟩, by decide, hdull, by decide +kernel +zetaReduce,
    by decide +kernel +zetaReduce, by decide +kernel +zetaReduce, by decide +kernel +zetaReduce⟩

end Session

end GnssAiding
