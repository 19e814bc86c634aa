/-
No bytes from the receiver can crash a session.

The machines check what they index, slice and subtract, and a check that fails is a
fault. A job that is underway meets none, whatever frame it is handed and whenever it
sees to what is overdue, as long as the clock can show the deadlines
(`Job.Underway.receive_eq_ok`, `Job.Underway.checkTimeouts_eq_ok`). The reason is that the
job fits the data that it holds: its messages and blocks are slices of the data at the
places they name, a server finds its way in its file whatever it is asked, and no counter
passes what it counts (`Job.InRange`). Both hold at any point of any run
(`receiver_harmless`).
-/
import GnssAiding.Proofs.Session.Contents
import GnssAiding.Proofs.Session.Silence
import Mathlib.Algebra.Order.BigOperators.Group.List
import Mathlib.Algebra.Order.Group.Nat

namespace GnssAiding

/-! ## What is looked up and counted -/

namespace Queue

theorem size_eq_sum (ms : List Message) :
    size ms = ((ms.map Message.located).map fun l => l.frame.length).sum := by
  induction ms with
  | nil => rfl
  | cons m ms ih =>
    rw [size, ih, List.map_cons, List.map_cons, List.sum_cons]
    rfl

/-- Messages that are frames of the data are together no longer than it. -/
theorem size_le {ms : List Message} {data : Bytes}
    (h : (ms.map Message.located).Sublist (Stream.locate 0 (Stream.split data).1)) :
    size ms ≤ data.length := by
  have hframes : ((Stream.locate 0 (Stream.split data).1).map fun l => l.frame.length).sum =
      ((Stream.split data).1.flatMap Frame.bytes).length := by
    rw [List.length_flatMap, ← Stream.map_frame_locate 0 (Stream.split data).1, List.map_map,
      Stream.map_frame_locate]
    simp [Function.comp_def]
  rw [size_eq_sum]
  exact Nat.le_trans ((h.map _).sum_le_sum fun _ _ => Nat.zero_le _)
    (hframes ▸ Stream.length_flatMap_split_le data)

end Queue

/-- Every message is the slice of the blob that it names, no counter is beyond the messages,
and none was sent again more often than `limit` times. -/
structure Transfer.InRange (limit : Nat) (t : Transfer) : Prop where
  slices : ∀ m ∈ t.queue.messages, m.bytesIn t.queue.data = .ok m.frame.bytes
  size : Queue.size t.queue.messages ≤ t.queue.data.length
  next : t.queue.next ≤ t.queue.messages.length
  sent : t.queue.sent ≤ t.queue.messages.length
  acked : t.queue.acked ≤ t.queue.messages.length
  retries : ∀ m ∈ t.queue.messages, m.retries ≤ limit

/-- Every block of data is the slice of `data` that its index says. -/
def Flash.Sliced (data : Bytes) (blocks : List Block) : Prop :=
  ∀ i b offset chunk, blocks[i]? = some b → b.content = .data offset chunk →
    offset = i * blockSize ∧ b.bytesIn data = .ok chunk

/-- The blocks are slices of the records, there is a current one, and it was sent again no
more often than `limit` times. -/
structure Flash.Transfer.InRange (limit : Nat) (t : Transfer) : Prop where
  slices : Sliced t.data t.blocks
  current : ∃ b, t.blocks[t.current]? = some b ∧ b.retries ≤ limit

/-- The same for a legacy file, where the stop messages of the phases at the ends are
counted apart. -/
structure Legacy.Push.InRange (limit : Nat) (p : Push) : Prop where
  slices : Flash.Sliced p.file p.blocks
  current : p.phase ≠ .stopping → ∃ b, p.blocks[p.current]? = some b ∧ b.retries ≤ limit
  retries : p.phase ≠ .mainSequence → p.retries ≤ limit

/-- Whatever a message to the server says, its fields are read, the answer fits a frame, and
a change keeps the length of the file. -/
structure Legacy.Server.InRange (s : Server) (p : Bytes) : Prop where
  asked : Server.asked p = .ok (offset p, size p)
  subject : wordAt p 6 = .ok (Server.subject p)
  answers : ∃ payload served, s.answer p (offset p) (size p) = .ok (payload, served) ∧
    payload.length ≤ maxPayload
  changes : ∃ file count, s.changed p (offset p) (size p) = .ok (file, count) ∧
    file.length = s.file.length

theorem Legacy.Server.inRange (s : Server) {p : Bytes} (hleast : requestLength ≤ p.length)
    (hmost : p.length ≤ maxPayload) : s.InRange p where
  asked := asked_eq hleast
  subject := wordAt_eq (Nat.lt_of_lt_of_le (by decide) hleast)
  answers :=
    ⟨_, _, s.answer_eq hleast (Nat.lt_succ_of_le hmost),
      Nat.le_of_lt_succ (length_answer_lt s.fileId s.file (Nat.lt_succ_of_le hmost))⟩
  changes := ⟨_, _, s.changed_eq hleast, length_patch _ _ _⟩

namespace Job

/-- What the job looks up in the data that it holds is there, and what it counts stays
within what it counts. -/
def InRange (limit : Nat) : Job → Prop
  | none => False
  | messages t => t.InRange limit
  | flash t => t.InRange limit
  | legacyFlash p => p.InRange limit
  | server s => ∀ p : Bytes, Legacy.Server.requestLength ≤ p.length →
      p.length ≤ Legacy.Server.maxPayload → s.InRange p

theorem Tallies.transfer_inRange {s : Settings} {t : Transfer} (hu : t.Orderly s)
    (h : (messages t).Tallies) : t.InRange s.retries where
  slices m hm := hu.consistent.sliced.standsIn hm
  size := Queue.size_le <| by
    have hcargo : t.queue.messages.map Message.located = _ := h
    rw [hcargo]
    exact List.filter_sublist
  next := hu.consistent.next_le
  sent := by
    rw [hu.consistent.sent]
    exact hu.consistent.next_le
  acked := by
    rw [hu.consistent.acked]
    exact List.countP_le_length
  retries := hu.retries

theorem Tallies.flash_inRange {s : Settings} {chunks : List Bytes} {t : Flash.Transfer}
    {b : Flash.Block} (hu : Flash.Transfer.Underway s chunks t b) (h : (flash t).Tallies) :
    t.InRange s.retries where
  slices := by
    intro i b offset chunk hb hcontent
    have hitem := Flash.Block.getElem?_items h hb
    rcases Flash.items_getElem?_eq_some_iff.1 hitem with ⟨chunk', -, hb'⟩ | ⟨-, hb'⟩
    · cases hcontent.symm.trans (congrArg Prod.fst hb')
      exact ⟨rfl, Flash.Block.bytesIn_of_content (hu.standsIn hb) hcontent⟩
    · cases hcontent.symm.trans (congrArg Prod.fst hb')
  current := ⟨b, hu.current, hu.retries⟩

theorem Tallies.push_inRange {s : Settings} {p : Legacy.Push} (hu : p.Underway s)
    (h : (legacyFlash p).Tallies) : p.InRange s.retries where
  slices := by
    intro i b offset chunk hb hcontent
    have hitem := Flash.Block.getElem?_items h hb
    obtain ⟨chunk', -, hplace⟩ := Legacy.Link.item_cut_eq_some hitem
    cases hcontent.symm.trans hplace
    exact ⟨rfl, Flash.Block.bytesIn_of_content (hu.sliced.piece hb).2 hcontent⟩
  current := by
    intro hphase
    cases hu.waits with
    | @starting b _ _ hb hfresh =>
      refine ⟨b, hb, ?_⟩
      rw [hfresh b (List.mem_of_getElem? hb)]
      exact Nat.zero_le _
    | @sending b _ out => exact ⟨b, out.current, out.retries⟩
    | stopping hp => exact absurd hp hphase
  retries := by
    intro hphase
    cases hu.waits with
    | starting _ hr | stopping _ hr => exact hr
    | sending hp => exact absurd hp hphase

theorem Stocked.inRange {s : Settings} {job : Job} (h : job.Stocked s) :
    job.InRange s.retries := by
  have hu := h.underway
  cases job with
  | none => exact hu
  | messages t => exact h.tallies.transfer_inRange hu.1
  | flash t =>
    obtain ⟨chunks, b, hb⟩ := hu
    exact h.tallies.flash_inRange hb
  | legacyFlash p => exact h.tallies.push_inRange hu
  | server s => exact fun _ => s.inRange

/-! ## What is checked -/

section Checked

variable {c : Context} {job : Job}

/-- A job that is underway takes a frame without a fault while the clock can show its
deadlines. -/
theorem Underway.receive_eq_ok (h : job.Underway c.settings) (hc : c.Fits) {f : Frame}
    {turn : Turn (Job × Step)} (hturn : job.receive c f = some turn) :
    ∃ acts r, turn = ⟨acts, .ok r⟩ := by
  obtain ⟨acts, next, step, hcomes, -⟩ := receive_comes h hturn
  exact ⟨acts, (next, step), hcomes.eq hc⟩

theorem Underway.checkTimeouts_eq_ok (h : job.Underway c.settings) (hc : c.Fits) :
    ∃ acts r, job.checkTimeouts c = ⟨acts, .ok r⟩ := by
  obtain ⟨acts, next, step, hcomes, -⟩ := checkTimeouts_comes h
  exact ⟨acts, (next, step), hcomes.eq hc⟩

end Checked

end Job

/-! ## Sessions -/

namespace Session

section Calls

variable {s : Session} {now : Nat}

variable (h : s.Busy) (hc : ∀ settings, s.settings = some settings → Context.Fits ⟨settings, now⟩)

include h hc

theorem Busy.receive_result (data : Bytes) : ∃ d, (s.receive now data).result = .ok d := by
  by_cases hp : s.state = .processing
  · obtain ⟨settings, hs, hjob⟩ := h hp
    cases hf : Frame.parse? data with
    | none =>
      rw [receive_of_not_frame hf]
      exact ⟨.ignored, rfl⟩
    | some f =>
      rw [receive_of_frame hp hs hf]
      cases hturn : s.job.receive ⟨settings, now⟩ f with
      | none => exact ⟨.ignored, rfl⟩
      | some turn =>
        obtain ⟨acts, r, rfl⟩ := Job.Underway.receive_eq_ok hjob (hc settings hs) hturn
        exact ⟨.consumed, advance_result⟩
  · exact ⟨.ignored, by rw [receive, if_pos hp]; rfl⟩

theorem Busy.checkTimeouts_result : (s.checkTimeouts now).result = .ok () := by
  by_cases hp : s.state = .processing
  · obtain ⟨settings, hs, hjob⟩ := h hp
    obtain ⟨acts, r, hturn⟩ := Job.Underway.checkTimeouts_eq_ok hjob (hc settings hs)
    rw [checkTimeouts_eq_advance hp hs, hturn]
    exact advance_result
  · rw [checkTimeouts, if_pos hp]
    rfl

end Calls

end Session

/-! ## Behind the lock -/

namespace Line

variable {l : Line} {now : Nat}

/-- The call meets no fault and leaves the lock as it is. If the lock is open, the call
succeeds. -/
structure Harmless (l : Line) (r : Entry Session.Answer × Line) : Prop where
  fault : ¬ Faults r.1.result
  poisoned : r.2.poisoned = l.poisoned
  answered : l.poisoned = false → ∃ a, r.1.result = .ok a

theorem call_harmless {c : Session.Call} {a : Session.Answer}
    (h : (l.session.perform (l.clock.reading now) c).result = .ok a) :
    Harmless l (l.call now c) := by
  have hfault : ¬ Faults (l.session.perform (l.clock.reading now) c).result := by
    rintro ⟨f, hf⟩
    cases h.symm.trans hf
  cases hp : l.poisoned with
  | true =>
    have hcall : l.call now c = l.refused .lockPoisoned := by
      rw [call, hp, if_pos rfl]
    rw [hcall]
    refine ⟨?_, rfl, fun hopen => absurd (hp.symm.trans hopen) Bool.false_ne_true.symm⟩
    rintro ⟨f, hf⟩
    cases hf
  | false =>
    have hresult : (l.call now c).1.result = .ok a := (call_result hp now c).trans h
    refine ⟨?_, ?_, fun _ => ⟨a, hresult⟩⟩
    · rw [hresult]
      exact not_faults_pure a
    · rw [hp, Bool.eq_false_iff, ne_eq, call_poisoned_iff hp]
      exact hfault

/-- **No bytes from the receiver can crash a session.** At any point of any run, and while
the clock can show the deadlines, handing the session any bytes and having it see to what
is overdue meet no fault, so they never poison the lock; if the lock is open they succeed.
The turns that a session at work takes look up what they send in the data that its job
holds. This data is of a bounded length, and whatever the job looks up there or counts is
in range. -/
theorem receiver_harmless (h : Relation.ReflTransGen Next fresh l)
    (hc : ∀ settings, l.session.settings = some settings →
      Context.Fits ⟨settings, l.clock.reading now⟩) :
    (∀ data, Harmless l (l.call now (.receive data))) ∧ Harmless l (l.call now .checkTimeouts) ∧
      (l.session.state = .processing → ∃ settings, l.session.settings = some settings ∧
        l.session.job.held.length ≤ Job.maxHeld ∧ l.session.job.InRange settings.retries) := by
  have hreach := session_reachable h
  refine ⟨fun data => ?_, ?_, fun hp => ?_⟩
  · obtain ⟨d, hd⟩ := hreach.busy.receive_result hc data
    refine call_harmless (a := .disposition d) ?_
    simp only [Session.perform, Outcome.map, hd]
    rfl
  · refine call_harmless (a := .done) ?_
    simp only [Session.perform, Outcome.map, hreach.busy.checkTimeouts_result hc]
    rfl
  · obtain ⟨settings, hs, hstocked⟩ := hreach.stocked hp
    exact ⟨settings, hs, hstocked.length_le, hstocked.inRange⟩

/-- A session that serves a file, and nobody listens. -/
def servingLine : Line :=
  ⟨⟨.processing, some Transfer.pairSettings, .server ⟨Session.shortFile, 7⟩⟩,
    some ⟨none, .host⟩, false⟩

theorem servingLine_reachable : Relation.ReflTransGen Next fresh servingLine :=
  startedLine_reachable.tail (.call 0 (.startServer Session.shortFile 7))

/-- A session that has sent the first of two messages, and nobody listens. -/
def sendingLine : Line := ⟨Session.pairSession, some ⟨none, .host⟩, false⟩

theorem sendingLine_reachable : Relation.ReflTransGen Next fresh sendingLine := by
  obtain ⟨hdone, hsession⟩ := Session.sendOnline_pair (s := startedLine.session) rfl
  have hsent : (startedLine.call 0 (.sendOnline Transfer.pairData none)).2 = sendingLine := by
    change (startedLine.conclude startedLine.host
      (startedLine.session.perform 0 (.sendOnline Transfer.pairData none))).2 = _
    simp only [conclude, hdone, hsession]
    rfl
  exact hsent ▸ startedLine_reachable.tail (.call 0 _)

/-- A request that reaches beyond the end of the file does no harm, and neither does a part
of one. Nor does an acknowledgement of the first of two messages, or having it sent again. -/
theorem receiver_harmless_busy :
    let ack := Frame.sealed MessageClass.mga MgaId.ack [1, 0, 0, MgaId.gps, 2, 0, 1, 0] (by decide)
    Relation.ReflTransGen Next fresh servingLine ∧
      Relation.ReflTransGen Next fresh sendingLine ∧
      Context.Fits ⟨Transfer.pairSettings, 200⟩ ∧
      Harmless servingLine (servingLine.call 200 (.receive Session.lastWords.bytes)) ∧
      Harmless servingLine (servingLine.call 200 (.receive (Session.lastWords.bytes.take 9))) ∧
      Harmless servingLine (servingLine.call 200 .checkTimeouts) ∧
      servingLine.session.job.held = Session.shortFile ∧
      servingLine.session.job.InRange Transfer.pairSettings.retries ∧
      Harmless sendingLine (sendingLine.call 200 (.receive ack.bytes)) ∧
      Harmless sendingLine (sendingLine.call 200 .checkTimeouts) ∧
      sendingLine.session.job.held = Transfer.pairData ∧
      sendingLine.session.job.InRange Transfer.pairSettings.retries := by
  intro ack
  have hfits : ∀ settings, some Transfer.pairSettings = some settings →
      Context.Fits ⟨settings, 200⟩ := by
    rintro settings ⟨⟩
    decide
  obtain ⟨hrequest, hidle, hfile⟩ := @receiver_harmless servingLine 200 servingLine_reachable hfits
  obtain ⟨hack, hresend, hblob⟩ := @receiver_harmless sendingLine 200 sendingLine_reachable hfits
  obtain ⟨_, ⟨⟩, -, hserved⟩ := hfile rfl
  obtain ⟨_, ⟨⟩, -, hsent⟩ := hblob rfl
  exact ⟨servingLine_reachable, sendingLine_reachable, hfits _ rfl, hrequest _, hrequest _, hidle,
    rfl, hserved, hack _, hresend, rfl, hsent⟩

end Line

end GnssAiding
