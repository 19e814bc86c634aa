/-
Where what is sent comes from.

A transfer of online data writes the setup and the cargo that the data makes, and
nothing else, over all calls until it ends (`Sends.perform`, `transfers_cases`). The
cargo are frames of the data that are intact, with one exception: when there is a time
to put in, the first frame goes out sealed anew, whatever its checksum was. So a damaged
frame never goes out as it is, but the first one can go out changed (`online_origin`).
-/
import GnssAiding.Proofs.Initial.Resealing
import GnssAiding.Proofs.Session.Calls
import GnssAiding.Proofs.Session.Sending
import GnssAiding.Proofs.Session.Serving
import GnssAiding.Proofs.Transfer.Cargo

namespace GnssAiding

open Turn

/-! ## What the data becomes -/

/-- The data with the time put in, if there is one. -/
inductive Retimed (data : Bytes) : Option TimeAdjustment → Bytes → Prop
  | same : Retimed data none data
  | adjusted {t data'} (h : Initial.adjust data t = .ok data') : Retimed data (some t) data'

/-- How a frame of the data can go to the receiver: as it is, or, if it is the first one
and there is a time to put in, as what stands in its place then. -/
inductive GoesAs (data : Bytes) (time : Option TimeAdjustment) (f : Frame) : Bytes → Prop
  | unchanged (h : f ∈ (Stream.split data).1) : GoesAs data time f f.bytes
  | adjusted {t rest sent} (ht : time = some t) (hf : data = f.bytes ++ rest)
    (h : Initial.adjust data t = .ok (sent ++ rest)) : GoesAs data time f sent

theorem Retimed.goesAs {data data' : Bytes} {time : Option TimeAdjustment}
    (h : Retimed data time data') {g : Frame} (hg : g ∈ (Stream.split data').1) :
    ∃ f, GoesAs data time f g.bytes := by
  cases h with
  | same => exact ⟨g, .unchanged hg⟩
  | adjusted h =>
    obtain ⟨f, g', rest, rfl, rfl, -⟩ := Initial.adjust_eq_ok h
    rw [Stream.split_append] at hg
    rcases List.mem_cons.1 hg with rfl | hg
    · exact ⟨f, .adjusted rfl rfl h⟩
    · refine ⟨g, .unchanged ?_⟩
      rw [Stream.split_append]
      exact List.mem_cons_of_mem f hg

/-- Frames are found in retimed data just as they were. -/
theorem Retimed.rest_eq {data data' : Bytes} {time : Option TimeAdjustment}
    (h : Retimed data time data') : (Stream.split data').2 = (Stream.split data).2 := by
  cases h with
  | same => rfl
  | adjusted h =>
    obtain ⟨f, g, rest, rfl, rfl, -⟩ := Initial.adjust_eq_ok h
    rw [Stream.split_append, Stream.split_append]

/-- When online data makes a job, and which. -/
theorem Job.ofOnline_eq_ok_iff {s : Settings} {data : Bytes} {time : Option TimeAdjustment}
    {job : Job} :
    ofOnline s data time = .ok job ↔
      data.length ≤ maxBlob ∧ ∃ data' t, Retimed data time data' ∧
        Transfer.ofData data' s = .ok t ∧ job = .messages t := by
  have hsize : (liftM (checkSize data) : Except Failure Unit) = .ok () ↔ data.length ≤ maxBlob :=
    lift_eq_ok_iff.trans checkSize_eq_ok_iff
  unfold ofOnline
  constructor
  · intro h
    obtain ⟨_, hchecked, h⟩ := bind_eq_ok_iff.1 h
    cases time with
    | none =>
      obtain ⟨_, hdata, h⟩ := bind_eq_ok_iff.1 h
      cases hdata
      obtain ⟨t, ht, h⟩ := bind_eq_ok_iff.1 h
      cases h
      exact ⟨hsize.1 hchecked, data, t, .same, lift_eq_ok_iff.1 ht, rfl⟩
    | some adjustment =>
      obtain ⟨data', hdata, h⟩ := bind_eq_ok_iff.1 h
      obtain ⟨t, ht, h⟩ := bind_eq_ok_iff.1 h
      cases h
      exact ⟨hsize.1 hchecked, data', t, .adjusted hdata, lift_eq_ok_iff.1 ht, rfl⟩
  · rintro ⟨hlength, data', t, hdata, ht, rfl⟩
    refine bind_eq_ok_iff.2 ⟨(), hsize.2 hlength, ?_⟩
    cases hdata with
    | same =>
      exact bind_eq_ok_iff.2 ⟨_, rfl, bind_eq_ok_iff.2 ⟨t, lift_eq_ok_iff.2 ht, rfl⟩⟩
    | adjusted h =>
      exact bind_eq_ok_iff.2 ⟨_, h, bind_eq_ok_iff.2 ⟨t, lift_eq_ok_iff.2 ht, rfl⟩⟩

namespace Transfer

theorem mem_cargo {data : Bytes} {s : Settings} {t : Transfer} (ht : ofData data s = .ok t)
    {l : Located} (hl : l ∈ t.queue.cargo) :
    l.frame ∈ (Stream.split data).1 ∧ l.frame.intact = true := by
  rw [cargo_of_ofData ht] at hl
  obtain ⟨hlocated, hwanted⟩ := List.mem_filter.1 hl
  have hframe := List.mem_map_of_mem (f := Located.frame) hlocated
  rw [Stream.map_frame_locate] at hframe
  rw [Message.wanted, Bool.and_eq_true] at hwanted
  exact ⟨hframe, hwanted.2⟩

/-- A clean stream that begins with a frame worth sending makes a transfer that begins
with that frame. -/
theorem ofData_of_first (s : Settings) {g : Frame} {rest : Bytes}
    (hclean : (Stream.split (g.bytes ++ rest)).2 = []) (hinterest : g.header.ofInterest = true)
    (hintact : g.intact = true) :
    ∃ t, ofData (g.bytes ++ rest) s = .ok t ∧
      ∃ ms, t.queue.unsent = .ofLocated 0 ⟨0, g⟩ :: ms ∧ t.queue.inFlight = 0 := by
  have hwanted : Message.wanted ⟨0, g⟩ = true := by simp [Message.wanted, hinterest, hintact]
  have hmessages : ∃ ms, ((Stream.locate 0 (Stream.split (g.bytes ++ rest)).1).filter
      Message.wanted).mapIdx Message.ofLocated = .ofLocated 0 ⟨0, g⟩ :: ms := by
    rw [Stream.split_append, Stream.locate, List.filter_cons_of_pos hwanted, List.mapIdx_cons]
    exact ⟨_, rfl⟩
  obtain ⟨ms, hms⟩ := hmessages
  have hlist := Message.list_eq_ok_iff.2 ⟨hclean, List.cons_ne_nil _ ms, hms.symm⟩
  have ht := ofData_of_list hlist s
  refine ⟨_, ht, ms, rfl, ?_⟩
  rw [Queue.inFlight, Queue.waiting_eq (consistent_of_ofData ht)]
  rfl

end Transfer

/-! ## The first message -/

theorem Message.write_transmit (c : Context) {data : Bytes} {m : Message}
    (hm : m.located.StandsIn data) : .write m.frame.bytes ∈ (m.transmit c data).actions := by
  have hbytes : m.bytesIn data = .ok m.frame.bytes := hm
  unfold transmit
  rw [hbytes]
  exact mem_bind.2 (.inr ⟨_, rfl, mem_bind.2 (.inl (List.mem_singleton.2 rfl))⟩)

section First

variable (c : Context) {q : Queue} {m : Message} {ms : List Message} (h : q.unsent = m :: ms)

include h

theorem Queue.write_sendNext (hm : m.located.StandsIn q.data) (n : Nat) :
    .write m.frame.bytes ∈ (q.sendNext c (n + 1)).actions := by
  have hrun : .write m.frame.bytes ∈
      ((m :: ms.take n).mapM (Message.transmit c q.data)).actions := by
    rw [List.mapM_cons]
    exact mem_bind.2 (.inl (Message.write_transmit c hm))
  unfold sendNext
  rw [h, List.take_succ_cons]
  exact mem_bind.2 (.inl hrun)

theorem Queue.write_broadcast (hm : m.located.StandsIn q.data) :
    .write m.frame.bytes ∈ (q.broadcast c).actions := by
  unfold broadcast
  rw [h]
  exact mem_bind.2 (.inl (mem_bind.2 (.inl (mem_bind.2 (.inl (Message.write_transmit c hm))))))

end First

/-- The first message is written at the start, also where a deadline does not fit. -/
theorem Transfer.write_start (c : Context) {t : Transfer} {m : Message} {ms : List Message}
    (hsliced : t.queue.Sliced) (h : t.queue.unsent = m :: ms) (hidle : t.queue.inFlight = 0) :
    .write m.frame.bytes ∈ (t.start c).actions := by
  have hm : m.located.StandsIn t.queue.data :=
    hsliced.standsIn (List.mem_of_mem_drop (h ▸ List.mem_cons_self))
  unfold start
  refine mem_bind.2 (.inr ⟨(), rfl, ?_⟩)
  cases hd : t.discipline with
  | unacknowledged =>
    exact mem_bind.2 (.inl (Queue.write_broadcast c h hm))
  | stopAndWait =>
    refine mem_bind.2 (.inr ⟨(), rfl, mem_bind.2 (.inl ?_)⟩)
    unfold proceed
    rw [hd]
    exact mem_bind.2 (.inl (Queue.write_sendNext c h hm 0))
  | windowed =>
    refine mem_bind.2 (.inr ⟨(), rfl, mem_bind.2 (.inl ?_)⟩)
    unfold proceed Queue.fill
    rw [hd, hidle, h, Queue.fitting, if_neg (by omega)]
    exact mem_bind.2 (.inl (Queue.write_sendNext c h hm _))

/-! ## A session that sends -/

namespace Session

/-- The session is at work on a transfer with this cargo. -/
structure Sends (s : Session) (cargo : List Located) : Prop where
  processing : s.state = .processing
  configured : ∃ settings, s.settings = some settings
  job : ∃ t, s.job = .messages t ∧ t.queue.Consistent ∧ t.queue.cargo = cargo

/-- The call writes nothing but cargo, and goes on with it or ends the work. -/
structure SendsOn {α} (o : Outcome α) (cargo : List Located) : Prop where
  writes : ∀ data ∈ o.writes, ∃ l ∈ cargo, data = l.frame.bytes
  after : o.session.Sends cargo ∨ o.session.state = .idle

theorem advance_writes {α} (s : Session) (turn : Turn (Job × Step)) (a : α) :
    (s.advance turn a).writes = turn.actions.filterMap Action.written? := by
  rcases s.advance_cases turn a with ⟨acts, job, rfl, hr⟩ | ⟨acts, job, step, e, rfl, -, hr⟩ |
    ⟨acts, f, rfl, hr⟩
  · rw [hr]
    rfl
  · rw [hr]
    simp [Outcome.writes, Action.written?]
  · rw [hr]
    rfl

section Calls

variable {α : Type} {s : Session} {cargo : List Located} {now : Nat}

/-- The turn of the transfer is one of moves. -/
theorem Sends.advance (h : s.Sends cargo) {c : Context} {t u : Transfer} {acts : List Action}
    {turn : Turn (Transfer × Step)} (ht : t.queue.Consistent) (hcargo : t.queue.cargo = cargo)
    (hturn : turn.Comes c acts (u, u.queue.step)) (hmoves : Transfer.Moves c t acts u) (a : α) :
    SendsOn (s.advance (turn >>= fun (t, step) => pure (.messages t, step)) a) cargo := by
  have hjob : Comes (turn >>= fun (t, step) => pure (Job.messages t, step)) c acts
      (.messages u, u.queue.step) := hturn.result rfl
  constructor
  · rw [advance_writes]
    intro data hdata
    rw [← hcargo]
    exact hmoves.write (hjob.subset (Action.mem_written.1 hdata))
  · rcases s.advance_cases _ a with ⟨done, job, hdone, hr⟩ | ⟨_, _, _, _, -, -, hr⟩ | ⟨_, _, -, hr⟩
    · have hu : (.messages u, u.queue.step) = (job, Step.running) :=
        hjob.eq_result (congrArg Turn.result hdone)
      obtain ⟨rfl, -⟩ := Prod.mk.inj hu
      rw [hr]
      exact .inl ⟨rfl, h.configured, u, rfl, hmoves.keeps (fun hm => hm.consistent) ht,
        hmoves.cargo.trans hcargo⟩
    · rw [hr]
      exact .inr rfl
    · rw [hr]
      exact .inl h

/-- What a call does to a session that sends. -/
theorem Sends.perform (h : s.Sends cargo) (call : Call) : SendsOn (s.perform now call) cargo := by
  obtain ⟨t, hjob, ht, hcargo⟩ := h.job
  obtain ⟨settings, hs⟩ := h.configured
  have hdoes := perform_does (equipped_of_settings hs) now call
  generalize s.perform now call = o at hdoes
  cases hdoes with
  | nothing => exact ⟨List.forall_mem_nil _, .inl h⟩
  | configured idle | started idle =>
    rw [h.processing] at idle
    cases idle
  | stopped =>
    rw [hjob]
    exact ⟨List.forall_mem_nil _, .inr rfl⟩
  | handedBack _ hj => cases hjob.symm.trans hj
  | erased hp => exact absurd h.processing hp
  | told => exact ⟨List.forall_mem_nil _, .inl h⟩
  | turned hs hturn =>
    cases hturn with
    | begins hw =>
      rw [h.processing] at hw
      cases hw
    | receives _ _ hreceive =>
      rw [hjob] at hreceive
      obtain ⟨x, hx, rfl⟩ := Option.map_eq_some_iff.1 hreceive
      obtain ⟨i, acts, u, hcomes, hanswer⟩ := Transfer.receive_comes ht hx
      exact h.advance ht hcargo hcomes hanswer.move.moves _
    | checks =>
      obtain ⟨n, acts, u, hcomes, hlapses, -⟩ := Transfer.checkTimeouts_comes ⟨_, now⟩ ht
      rw [hjob]
      exact h.advance ht hcargo hcomes hlapses.moves _

end Calls

/-! ## What goes out for a call -/

/-- The bytes go to the receiver for a call that gives the session a job: it writes them,
or a later call does while the session is at work on the job. -/
inductive Transfers (s : Session) (now : Nat) (c : Call) (sent : Bytes) : Prop
  | begun (h : sent ∈ (s.perform now c).writes)
  | underway {t later d} (begun : (s.perform now c).session.state = .processing)
    (run : Underway (s.perform now c).session t) (work : t.state = .processing)
    (h : sent ∈ (t.perform later d).writes)

theorem Underway.sends {s t : Session} {cargo : List Located} (h : Underway s t)
    (hs : s.Sends cargo) : t.Sends cargo ∨ t.state = .idle := by
  induction h with
  | refl => exact .inl hs
  | tail _ hnext ih =>
    obtain ⟨hactive, now, c, -, rfl⟩ := hnext
    exact ((ih.resolve_right hactive).perform c).after

section Online

variable {s : Session} {settings : Settings} {now : Nat} {data : Bytes}
  {time : Option TimeAdjustment} (hw : s.state = .waitingForData) (hs : s.settings = some settings)

theorem comes_of_ofData {data' : Bytes} {t : Transfer} (ht : Transfer.ofData data' settings = .ok t)
    (now : Nat) :
    ((Job.messages t).start ⟨settings, now⟩).Comes ⟨settings, now⟩ (t.opening ⟨settings, now⟩)
      (.messages (t.started ⟨settings, now⟩), (t.started ⟨settings, now⟩).queue.step) :=
  (t.start_comes ⟨settings, now⟩ (Transfer.consistent_of_ofData ht).sliced).result rfl

include hw hs

/-- A session that has begun a transfer sends what it has to bring. -/
theorem sends_of_ofData {data' : Bytes} {t : Transfer} (ht : Transfer.ofData data' settings = .ok t)
    (begun : (s.advance ((Job.messages t).start ⟨settings, now⟩) ()).session.state =
      .processing) :
    (s.advance ((Job.messages t).start ⟨settings, now⟩) ()).session.Sends t.queue.cargo := by
  rcases s.advance_cases ((Job.messages t).start ⟨settings, now⟩) () with
    ⟨acts, job, hdone, ho⟩ | ⟨_, _, _, _, -, -, ho⟩ | ⟨_, _, -, ho⟩
  · have hjob := (comes_of_ofData ht now).eq_result (congrArg Turn.result hdone)
    obtain ⟨rfl, -⟩ := Prod.mk.inj hjob
    rw [ho]
    exact ⟨rfl, ⟨settings, hs⟩, _, rfl,
      Transfer.consistent_started (Transfer.consistent_of_ofData ht), Transfer.cargo_started _ t⟩
  · rw [ho] at begun
    cases begun
  · rw [ho, hw] at begun
    cases begun

/-- What goes out for online data is the setup or cargo that the data makes. -/
theorem transfers_cases {sent : Bytes} (h : s.Transfers now (.sendOnline data time) sent) :
    data.length ≤ Job.maxBlob ∧ ∃ data' t, Retimed data time data' ∧
      Transfer.ofData data' settings = .ok t ∧
      (sent = settings.ackSetup.frame.bytes ∨ t.Carries sent) := by
  rcases begin_cases s now fun settings => Job.ofOnline settings data time with
    ⟨r, hr⟩ | ⟨settings', job, -, hs', hj, hr⟩
  · have hperform : (s.perform now (.sendOnline data time)).session = s ∧
        (s.perform now (.sendOnline data time)).writes = [] := by
      simp only [perform, sendOnline, hr]
      exact ⟨rfl, rfl⟩
    cases h with
    | begun h =>
      rw [hperform.2] at h
      cases h
    | underway begun _ _ _ =>
      rw [hperform.1, hw] at begun
      cases begun
  · cases hs.symm.trans hs'
    obtain ⟨hlength, data', t, hdata, ht, rfl⟩ := Job.ofOnline_eq_ok_iff.1 hj
    refine ⟨hlength, data', t, hdata, ht, ?_⟩
    cases h with
    | begun h =>
      have hwrites : (s.perform now (.sendOnline data time)).writes =
          ((Job.messages t).start ⟨settings, now⟩).actions.filterMap Action.written? := by
        simp only [perform, sendOnline, hr, ← advance_writes s _ ()]
        rfl
      rw [hwrites] at h
      exact Transfer.write_opening
        ((comes_of_ofData ht now).subset (Action.mem_written.1 h))
    | @underway u later d begun run work h =>
      right
      have hsends : (s.perform now (.sendOnline data time)).session.Sends t.queue.cargo := by
        simp only [perform, sendOnline, hr, Outcome.map] at begun ⊢
        exact sends_of_ofData hw hs ht begun
      have hu : u.Sends t.queue.cargo :=
        (run.sends hsends).resolve_right fun hidle => by simp [hidle] at work
      exact (hu.perform d).writes sent h

/-- The first frame of clean data, with a time put in, goes to the receiver. -/
theorem transfers_adjusted {t : TimeAdjustment} {f : Frame} {rest sent : Bytes}
    (hlength : data.length ≤ Job.maxBlob) (hclean : (Stream.split data).2 = [])
    (hf : data = f.bytes ++ rest) (h : Initial.adjust data t = .ok (sent ++ rest)) :
    s.Transfers now (.sendOnline data (some t)) sent := by
  obtain ⟨f', g, rest', hdata, hdata', hinterest, hintact, -⟩ := Initial.adjust_eq_ok h
  have hsame : Frame.take? data = some (f, rest) := by rw [hf, f.take?_bytes]
  rw [hdata, f'.take?_bytes] at hsame
  cases hsame
  obtain rfl := List.append_cancel_right hdata'
  have hclean' : (Stream.split (g.bytes ++ rest)).2 = [] := by
    rw [← hclean, (Retimed.adjusted h).rest_eq]
  obtain ⟨u, hu, ms, hunsent, hidle⟩ :=
    Transfer.ofData_of_first settings hclean' hinterest hintact
  have hj := Job.ofOnline_eq_ok_iff.2 ⟨hlength, _, u, .adjusted h, hu, rfl⟩
  refine .begun ?_
  have hwrites : (s.perform now (.sendOnline data (some t))).writes =
      ((Job.messages u).start ⟨settings, now⟩).actions.filterMap Action.written? := by
    simp only [perform, sendOnline, begin, hw, hs, hj]
    exact advance_writes s _ ()
  rw [hwrites]
  have hsliced := (Transfer.consistent_of_ofData hu).sliced
  refine Action.mem_written.2 (mem_bind.2 (.inl ?_))
  exact Transfer.write_start ⟨settings, now⟩ hsliced hunsent hidle

/-- **Where what is sent comes from.** A started session is given online data, with or
without a time. Whatever goes to the receiver for it, at once or later, is the setup or
comes from a frame of the data. A damaged frame never goes out as it is. What comes from a
damaged frame goes out in one case only, and then it does: the data is clean and not too
large, there is a time to put in, the frame is the first one, and it is adjusted. -/
theorem online_origin (now : Nat) (data : Bytes) (time : Option TimeAdjustment) :
    (∀ sent, s.Transfers now (.sendOnline data time) sent →
      sent = settings.ackSetup.frame.bytes ∨ ∃ f, GoesAs data time f sent) ∧
    (∀ f : Frame, f.intact = false → ¬ s.Transfers now (.sendOnline data time) f.bytes) ∧
    ∀ (f : Frame) (sent : Bytes), f.intact = false →
      (GoesAs data time f sent ∧ s.Transfers now (.sendOnline data time) sent ↔
        data.length ≤ Job.maxBlob ∧ (Stream.split data).2 = [] ∧
          ∃ t rest, time = some t ∧ data = f.bytes ++ rest ∧
            Initial.adjust data t = .ok (sent ++ rest)) := by
  have hdamaged : ∀ f : Frame, f.intact = false →
      ¬ s.Transfers now (.sendOnline data time) f.bytes := by
    intro f hf h
    obtain ⟨-, data', t, -, ht, hsent⟩ := transfers_cases hw hs h
    have hintact : f.intact = true := by
      rcases hsent with hsetup | ⟨l, hl, hl'⟩
      · rw [Frame.bytes_injective hsetup]
        cases settings.ackSetup <;> exact Frame.intact_sealed _ _ _ _
      · rw [Frame.bytes_injective hl']
        exact (Transfer.mem_cargo ht hl).2
    rw [hf] at hintact
    cases hintact
  refine ⟨fun sent h => ?_, hdamaged, fun f sent hf => ⟨?_, ?_⟩⟩
  · obtain ⟨-, data', t, hdata, ht, hsent⟩ := transfers_cases hw hs h
    rcases hsent with hsetup | ⟨l, hl, rfl⟩
    · exact .inl hsetup
    · exact .inr (hdata.goesAs (Transfer.mem_cargo ht hl).1)
  · rintro ⟨hgoes, h⟩
    obtain ⟨hlength, data', t, hdata, ht, -⟩ := transfers_cases hw hs h
    have hclean : (Stream.split data).2 = [] := by
      rw [← hdata.rest_eq]
      exact Transfer.clean_of_ofData ht
    cases hgoes with
    | unchanged => exact absurd h (hdamaged f hf)
    | adjusted htime hfirst hadjust =>
      exact ⟨hlength, hclean, _, _, htime, hfirst, hadjust⟩
  · rintro ⟨hlength, hclean, t, rest, rfl, hfirst, hadjust⟩
    exact ⟨.adjusted rfl hfirst hadjust, transfers_adjusted hw hs hlength hclean hfirst hadjust⟩

end Online

/-- An initial time message with a wrong checksum. -/
def damagedTime : Frame := ⟨MessageClass.mga, MgaId.ini, Initial.blankTime, ⟨0, 0⟩, by decide⟩

/-- The initial time message of `Line.noon 0`. -/
def noonTime : Frame :=
  .sealed MessageClass.mga MgaId.ini
    [0x10, 0, 0, 0x80, 0xE8, 0x07, 1, 2, 12, 0, 0, 0, 0, 0, 0, 0, 0, 0, 0, 0, 0, 0, 0, 0]
    (by decide)

/-- An almanac message with a wrong checksum. -/
def damagedAlmanac : Frame := { Transfer.almanac 2 with checksum := ⟨0, 0⟩ }

/-- Two damaged frames and an intact one. -/
def damagedData : Bytes :=
  [damagedTime, Transfer.almanac 1, damagedAlmanac].flatMap Frame.bytes

theorem adjust_damagedData :
    Initial.adjust damagedData (Line.noon 0) = .ok (noonTime.bytes ++
      [Transfer.almanac 1, damagedAlmanac].flatMap Frame.bytes) := rfl

/-- Of the damaged frames the first one goes out, with the time put in. -/
theorem online_origin_damaged :
    let s := Line.startedLine.session
    let call := Call.sendOnline damagedData (some (Line.noon 0))
    s.state = .waitingForData ∧ s.settings = some Transfer.pairSettings ∧
      ¬ s.Transfers 0 call damagedAlmanac.bytes ∧ ¬ s.Transfers 0 call damagedTime.bytes ∧
      GoesAs damagedData (some (Line.noon 0)) damagedTime noonTime.bytes ∧
      s.Transfers 0 call noonTime.bytes := by
  intro s call
  have hs : s.settings = some Transfer.pairSettings := rfl
  obtain ⟨-, hdamaged, hadjusted⟩ :=
    online_origin rfl hs 0 damagedData (some (Line.noon 0))
  have hclean : (Stream.split damagedData).2 = [] := by
    rw [damagedData, Stream.split_flatMap]
  exact ⟨rfl, hs, hdamaged _ (by decide), hdamaged _ (by decide),
    (hadjusted damagedTime _ (by decide)).2
      ⟨by decide, hclean, _, _, rfl, rfl, adjust_damagedData⟩⟩

/-- A damaged message is sent, with a new checksum. -/
theorem damaged_goes_out :
    let s := Line.startedLine.session
    Reachable s ∧ damagedTime ∈ (Stream.split damagedData).1 ∧ damagedTime.intact = false ∧
      GoesAs damagedData (some (Line.noon 0)) damagedTime noonTime.bytes ∧
      s.Transfers 0 (.sendOnline damagedData (some (Line.noon 0))) noonTime.bytes := by
  intro s
  have hs : s.settings = some Transfer.pairSettings := rfl
  have hsplit : Stream.split damagedData =
      ([damagedTime, Transfer.almanac 1, damagedAlmanac], []) := Stream.split_flatMap _
  refine ⟨Line.session_reachable Line.startedLine_reachable, ?_, by decide,
    .adjusted rfl rfl adjust_damagedData, ?_⟩
  · rw [hsplit]
    exact List.mem_cons_self
  · exact transfers_adjusted rfl hs (by decide) (by rw [hsplit]) rfl adjust_damagedData

end Session

end GnssAiding
