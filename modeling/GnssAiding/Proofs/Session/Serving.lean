/-
A session that serves a file, over any calls until it is told to stop.

What a call does to such a session is said once (`Serves.perform_keeps`): a frame that
is received does what `Legacy.Server.receive_eq` says, and no other call touches the
file. By induction over the calls the file is always the one that was handed over, with
the updates in order (`served_file`).
-/
import GnssAiding.Proofs.Legacy.Server
import GnssAiding.Proofs.Session.Lifecycle

namespace GnssAiding

/-- What went to the receiver, in order. -/
def Outcome.writes {α} (o : Outcome α) : List Bytes :=
  o.actions.filterMap Action.written?

namespace Session

/-- The call ends the service. -/
def Call.Ends (c : Call) : Prop := c = .stop ∨ c = .stopServer

instance (c : Call) : Decidable c.Ends := inferInstanceAs (Decidable (_ ∨ _))

/-- The frame that the call hands to the session, if it hands it one. -/
def Call.frame? : Call → Option Frame
  | .receive data => Frame.parse? data
  | _ => none

/-- The session serves a file. -/
structure Serves (s : Session) (server : Legacy.Server) : Prop where
  processing : s.state = .processing
  configured : ∃ settings, s.settings = some settings
  job : s.job = .server server

/-- The call meets no fault, writes just this, and leaves a session that serves. -/
structure Keeps {α} (o : Outcome α) (server : Legacy.Server) (sent : List Bytes) : Prop where
  completes : o.Completes
  serves : o.session.Serves server
  writes : o.writes = sent

section Calls

variable {α β : Type} {s : Session} {server : Legacy.Server} {o : Outcome α} {sent : List Bytes}
  {now : Nat}

theorem Keeps.map {f : α → β} (h : Keeps o server sent) : Keeps (o.map f) server sent where
  completes := Outcome.completes_map.2 h.completes
  serves := h.serves
  writes := h.writes

theorem Serves.refuse_keeps (h : s.Serves server) (e : Error) :
    Keeps (s.refuse e : Outcome α) server [] := ⟨.of_refused rfl, h, rfl⟩

theorem Serves.accept_keeps (h : s.Serves server) (a : α) : Keeps (s.accept a) server [] :=
  ⟨.of_ok rfl, h, rfl⟩

/-- The turn of the job goes on serving. -/
theorem Serves.advance_keeps (h : s.Serves server) {acts : List Action} {next : Legacy.Server}
    {turn : Turn (Job × Step)} (hturn : turn = ⟨acts, .ok (.server next, .running)⟩) (a : α) :
    Keeps (s.advance turn a) next (acts.filterMap Action.written?) := by
  rcases s.advance_cases turn a with ⟨_, _, ht, ho⟩ | ⟨_, _, _, _, ht, he, -⟩ | ⟨_, _, ht, -⟩
  · cases hturn.symm.trans ht
    rw [ho]
    exact ⟨.of_ok rfl, ⟨rfl, h.configured, rfl⟩, rfl⟩
  · cases hturn.symm.trans ht
    cases he
  · cases hturn.symm.trans ht

theorem Serves.begin_keeps (h : s.Serves server) (make : Settings → Except Failure Job) :
    Keeps (s.begin now make) server [] := by
  have hbegin : s.begin now make = s.refuse .alreadyRunning := by
    simp only [begin, h.processing]
  rw [hbegin]
  exact h.refuse_keeps _

/-- A frame does what it does to the server. -/
theorem Serves.receive_keeps (h : s.Serves server) (data : Bytes) :
    Keeps (s.receive now data)
      ((Frame.parse? data).elim server fun f =>
        { server with file := Legacy.Server.edit server.fileId server.file f })
      ((Frame.parse? data).elim [] (Legacy.Server.replies server.fileId server.file)) := by
  obtain ⟨settings, hs⟩ := h.configured
  cases hf : Frame.parse? data with
  | none =>
    rw [receive_of_not_frame hf]
    exact h.accept_keeps _
  | some f =>
    rw [Option.elim_some, Option.elim_some, receive_of_frame h.processing hs hf]
    by_cases hfor : Legacy.Server.Addressed f
    · have hturn : s.job.receive ⟨settings, now⟩ f = some ⟨server.actions f, .ok (.server
          { server with file := Legacy.Server.edit server.fileId server.file f }, .running)⟩ := by
        simp [h.job, Job.receive, server.receive_eq f, hfor, Turn.bind_ok, Turn.pure_def]
      rw [hturn, ← server.written_actions hfor]
      exact h.advance_keeps rfl _
    · have hturn : s.job.receive ⟨settings, now⟩ f = none := by
        simp [h.job, Job.receive, server.receive_eq f, hfor]
      have hedit : Legacy.Server.edit server.fileId server.file f = server.file :=
        if_neg fun hn => hfor hn.1
      have hreplies : Legacy.Server.replies server.fileId server.file f = [] :=
        if_neg fun hn => hfor hn.1
      rw [hturn, hedit, hreplies]
      exact h.accept_keeps _

theorem Serves.checkTimeouts_keeps (h : s.Serves server) :
    Keeps (s.checkTimeouts now) server [] := by
  obtain ⟨settings, hs⟩ := h.configured
  rw [checkTimeouts_eq_advance h.processing hs, h.job]
  exact h.advance_keeps rfl ()

theorem Serves.eraseFlash_keeps (h : s.Serves server) : Keeps s.eraseFlash server [] := by
  have herase : s.eraseFlash = s.refuse .alreadyRunning := if_pos h.processing
  rw [herase]
  exact h.refuse_keeps _

/-- What a call that is no end makes of the server. -/
def Call.leaves (server : Legacy.Server) (c : Call) : Legacy.Server :=
  c.frame?.elim server fun f =>
    { server with file := Legacy.Server.edit server.fileId server.file f }

/-- What a call that is no end is answered with. -/
def Call.draws (server : Legacy.Server) (c : Call) : List Bytes :=
  c.frame?.elim [] (Legacy.Server.replies server.fileId server.file)

/-- What a call does to a session that serves, unless it ends the service. -/
theorem Serves.perform_keeps (h : s.Serves server) {c : Call} (hc : ¬ c.Ends) :
    Keeps (s.perform now c) (c.leaves server) (c.draws server) := by
  cases c with
  | configure settings =>
    have hconfigure : s.configure settings = s.refuse .alreadyRunning :=
      if_neg (by simp [h.processing])
    simp only [perform, hconfigure]
    exact (h.refuse_keeps _).map
  | start =>
    have hstart : s.start = s.refuse .alreadyRunning := if_pos (by simp [h.processing])
    simp only [perform, hstart]
    exact (h.refuse_keeps _).map
  | stop => exact absurd (.inl rfl) hc
  | stopServer => exact absurd (.inr rfl) hc
  | sendOnline | sendOffline | sendToFlash | sendLegacyToFlash | sendSnapshot =>
    exact (h.begin_keeps _).map
  | startServer => exact (h.begin_keeps _).map.map
  | receive data => exact (h.receive_keeps data).map
  | checkTimeouts => exact h.checkTimeouts_keeps.map
  | eraseFlash => exact h.eraseFlash_keeps.map
  | reportProblem kind detail => exact Keeps.map ⟨.of_ok rfl, h, rfl⟩

theorem Serves.stopServer_result (h : s.Serves server) :
    s.stopServer.result = .ok server.file := by
  obtain ⟨settings, hs⟩ := h.configured
  have hactive : ¬ s.state = .idle := by simp [h.processing]
  simp only [stopServer, h.job, if_neg hactive, drive, hs]
  rfl

/-- A call that gives the session a job, and succeeds, begins the job. -/
theorem begin_of_ok {make : Settings → Except Failure Job} {u : Unit}
    (h : (s.begin now make).result = .ok u) :
    ∃ settings job, s.settings = some settings ∧ make settings = .ok job ∧
      s.begin now make = s.advance (job.start ⟨settings, now⟩) () := by
  unfold begin at h ⊢
  split at h
  · cases h
  · cases h
  · cases h
  · next settings _ hs =>
    cases hj : make settings with
    | error e =>
      rw [hj] at h
      cases h
    | ok job => exact ⟨settings, job, hs, hj, drive_eq hs⟩

theorem serve_eq_ok {file : Bytes} {fileId : UInt16} {job : Job}
    (h : Job.serve file fileId = .ok job) : job = .server ⟨file, fileId⟩ := by
  unfold Job.serve Legacy.Server.ofFile at h
  cases hsize : Job.checkSize file with
  | error e =>
    rw [hsize] at h
    cases h
  | ok u =>
    cases hparse : Legacy.Header.parse file with
    | error e =>
      rw [hsize, hparse] at h
      cases h
    | ok header =>
      rw [hsize, hparse] at h
      cases h
      rfl

/-- A file that is accepted is served. -/
theorem startServer_serves {file : Bytes} {fileId : UInt16} {a : Answer}
    (h : (s.perform now (.startServer file fileId)).result = .ok a) :
    (s.perform now (.startServer file fileId)).session.Serves ⟨file, fileId⟩ := by
  have hbegin : ∃ u, (s.begin now fun _ => Job.serve file fileId).result = .ok u := by
    cases hr : (s.begin now fun _ => Job.serve file fileId).result with
    | error e =>
      simp only [perform, startServer, Outcome.map, hr] at h
      cases h
    | ok u => exact ⟨u, rfl⟩
  obtain ⟨u, hu⟩ := hbegin
  obtain ⟨settings, job, hs, hj, heq⟩ := begin_of_ok hu
  obtain rfl := serve_eq_ok hj
  simp only [perform, startServer, Outcome.map, heq]
  exact ⟨rfl, ⟨settings, hs⟩, rfl⟩

end Calls

/-- The session after the calls, each made when the clock shows its reading. -/
def performAll (s : Session) (calls : List (Nat × Call)) : Session :=
  calls.foldl (fun s call => (s.perform call.1 call.2).session) s

/-- The file after the frames that the calls handed over. -/
def heldFile (fileId : UInt16) (file : Bytes) (calls : List (Nat × Call)) : Bytes :=
  (calls.filterMap fun call => call.2.frame?).foldl (Legacy.Server.edit fileId) file

theorem leaves_fileId (server : Legacy.Server) (c : Call) :
    (c.leaves server).fileId = server.fileId := by
  unfold Call.leaves
  cases c.frame? <;> rfl

theorem heldFile_cons (server : Legacy.Server) (call : Nat × Call) (calls : List (Nat × Call)) :
    heldFile server.fileId server.file (call :: calls) =
      heldFile server.fileId (call.2.leaves server).file calls := by
  unfold heldFile Call.leaves
  cases hf : call.2.frame? with
  | none => simp [hf]
  | some f => simp [hf]

theorem Serves.performAll_serves {s : Session} {server : Legacy.Server}
    {calls : List (Nat × Call)} (h : s.Serves server) (hc : ∀ call ∈ calls, ¬ call.2.Ends) :
    (s.performAll calls).Serves
      ⟨heldFile server.fileId server.file calls, server.fileId⟩ := by
  induction calls generalizing s server with
  | nil => exact h
  | cons call calls ih =>
    have hnext : (s.perform call.1 call.2).session.Serves (call.2.leaves server) :=
      (h.perform_keeps (hc call List.mem_cons_self)).serves
    rw [heldFile_cons, ← leaves_fileId server call.2]
    exact ih hnext fun later hmem => hc later (List.mem_cons_of_mem _ hmem)

theorem length_heldFile (fileId : UInt16) (file : Bytes) (calls : List (Nat × Call)) :
    (heldFile fileId file calls).length = file.length := by
  unfold heldFile
  induction calls.filterMap fun call => call.2.frame? generalizing file with
  | nil => rfl
  | cons f fs ih => rw [List.foldl_cons, ih, Legacy.Server.length_edit]

/-- **A served file is a byte array.** Once a file is accepted, and until the service is
ended, the session holds the file with the updates of it that were received written over
it in order; its length stays. No call meets a fault. What is written to the receiver is
the answer to a request, with bytes of the file as it is then, and nothing else. The file
that is handed back is the one that is held. -/
theorem served_file {s : Session} {now : Nat} {file : Bytes} {fileId : UInt16} {a : Answer}
    (h : (s.perform now (.startServer file fileId)).result = .ok a)
    {calls : List (Nat × Call)} (hc : ∀ call ∈ calls, ¬ call.2.Ends) :
    let t := (s.perform now (.startServer file fileId)).session.performAll calls
    let held := heldFile fileId file calls
    t.Serves ⟨held, fileId⟩ ∧ held.length = file.length ∧
      (∀ now c, ¬ c.Ends → (t.perform now c).Completes ∧
        (t.perform now c).writes = c.frame?.elim [] (Legacy.Server.replies fileId held)) ∧
      ∀ now, (t.perform now .stopServer).result = .ok (.file held) := by
  intro t held
  have hserves : t.Serves ⟨held, fileId⟩ := (startServer_serves h).performAll_serves hc
  refine ⟨hserves, length_heldFile _ _ _, fun now c hends => ?_, fun now => ?_⟩
  · have hkeeps : Keeps (t.perform now c) _ _ := hserves.perform_keeps hends
    exact ⟨hkeeps.completes, hkeeps.writes⟩
  · simp only [perform, Outcome.map, hserves.stopServer_result]
    rfl

/-- A file of a header and four bytes. -/
def shortFile : Bytes := [0xEF, 0x08, 0x52, 0x01] ++ List.replicate 84 0

/-- An update of the last word of `shortFile` that brings two words. -/
def lastWord : Frame :=
  .sealed MessageClass.aid AidId.alpsrv [12, 0xFF, 43, 0, 2, 0, 7, 0, 1, 2, 3, 4] (by decide)

/-- A request for all of `shortFile` from its last word but one on. -/
def lastWords : Frame :=
  .sealed MessageClass.aid AidId.alpsrv [10, 0, 42, 0, 100, 0, 0, 0, 0, 0] (by decide)

theorem served_file_lastWord :
    let waiting : Session := ⟨.waitingForData, some Transfer.pairSettings, .none⟩
    let calls := [(5, .checkTimeouts), (7, .receive lastWord.bytes)]
    let held := [0xEF, 0x08, 0x52, 0x01] ++ List.replicate 82 0 ++ [1, 2]
    let t := (waiting.perform 0 (.startServer shortFile 7)).session.performAll calls
    (waiting.perform 0 (.startServer shortFile 7)).result = .ok (.fileId 7) ∧
      (∀ call ∈ calls, ¬ call.2.Ends) ∧ t.Serves ⟨held, 7⟩ ∧
      (t.perform 9 (.receive lastWords.bytes)).writes =
        [(Frame.sealed MessageClass.aid AidId.alpsrv
          [10, 0, 42, 0, 100, 0, 7, 0, 4, 0, 0, 0, 1, 2] (by decide)).bytes] ∧
      (t.perform 9 .stopServer).result = .ok (.file held) := by
  intro waiting calls held t
  have hstart : (waiting.perform 0 (.startServer shortFile 7)).result = .ok (.fileId 7) := rfl
  have hcalls : ∀ call ∈ calls, ¬ call.2.Ends := by decide
  obtain ⟨hserves, -, hanswers, hstop⟩ := served_file hstart hcalls
  have hheld : heldFile 7 shortFile calls = held := by decide +kernel
  rw [hheld] at hserves hstop hanswers
  refine ⟨hstart, hcalls, hserves, ?_, hstop 9⟩
  rw [(hanswers 9 (.receive lastWords.bytes) (by decide)).2]
  decide +kernel

end Session

end GnssAiding
