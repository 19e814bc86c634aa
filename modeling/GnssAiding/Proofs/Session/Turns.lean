/-
What a job does in one turn.

A job is one of the machines, and its turns are the turns of that machine: it begins
(`Job.Begins`), takes a frame (`Job.Answers`), or sees to what is overdue
(`Job.Lapses`). A job that data made does nothing else when it starts, and one that is
underway does nothing else after (`start_comes`, `receive_comes`,
`checkTimeouts_comes`). If the turn does not end the job, the job is underway
(`Job.Sustains`).
-/
import GnssAiding.Proofs.Flash.Move
import GnssAiding.Proofs.Legacy.Move
import GnssAiding.Proofs.Legacy.Server
import GnssAiding.Proofs.Session.Ongoing
import GnssAiding.Proofs.Transfer.Patience

namespace GnssAiding

open Turn

namespace Job

/-- The job has begun and not ended. -/
def Underway (s : Settings) : Job → Prop
  | none => False
  | messages t => t.Orderly s ∧ t.queue.step = .running
  | flash t => ∃ chunks b, Flash.Transfer.Underway s chunks t b
  | legacyFlash p => p.Underway s
  | server _ => True

/-! ## Turns of the machines -/

/-- What a job that data made does when it starts. -/
inductive Begins (c : Context) : Job → List Action → Job → Step → Prop
  | messages {t data step} (ht : Transfer.ofData data c.settings = .ok t)
    (hs : (t.started c).queue.step = step) :
    Begins c (messages t) (t.opening c) (messages (t.started c)) step
  | flash {chunks b} (hb : (Flash.Transfer.ofChunks chunks).blocks[0]? = some b)
    (hu : Flash.Transfer.Underway c.settings chunks
      ((Flash.Transfer.ofChunks chunks).put (b.outAt c)) (b.outAt c)) :
    Begins c (flash (.ofChunks chunks))
      (.report (.start ((Flash.Transfer.ofChunks chunks).blocks.length - 1)) :: b.transmission)
      (flash ((Flash.Transfer.ofChunks chunks).put (b.outAt c))) .running
  | legacyFlash {p file} (hp : Legacy.Push.ofFile file = .ok p) :
    Begins c (legacyFlash p)
      [.report (.start p.blocks.length), .report (.legacy .startupStarted),
        .write Legacy.stopFrame.bytes]
      (legacyFlash ((p.entering .starting).stopSent c)) .running
  | server (s) : Begins c (server s)
      [.write (Legacy.requestRateFrame true).bytes, .report (.legacy (.serverStarted s.fileId))]
      (server s) .running

/-- What a job that is underway does with a frame that is for it. -/
inductive Answers (c : Context) (f : Frame) : Job → List Action → Job → Step → Prop
  | messages {t u i acts step} (ht : t.Orderly c.settings) (h : Transfer.Answer c t f i acts u)
    (hs : u.queue.step = step) : Answers c f (messages t) acts (messages u) step
  | flash {chunks t u b r acts step} (ht : Flash.Transfer.Underway c.settings chunks t b)
    (h : Flash.Transfer.Answer c t b r acts u step) : Answers c f (flash t) acts (flash u) step
  | legacyFlash {p q r acts step} (hp : p.Underway c.settings)
    (h : Legacy.Push.Answer c p r acts q step) :
    Answers c f (legacyFlash p) acts (legacyFlash q) step
  | server (s) : Answers c f (server s) (s.actions f)
    (server { s with file := Legacy.Server.edit s.fileId s.file f }) .running

/-- What a job that is underway does when it sees to what is overdue. A transfer of
messages does nothing only if nothing is overdue. -/
inductive Lapses (c : Context) : Job → List Action → Job → Step → Prop
  | messages {t u n acts step} (ht : t.Orderly c.settings) (h : Transfer.Lapses c n t acts u)
    (hn : t.queue.overdue c.now ≠ [] → 0 < n) (hs : u.queue.step = step) :
    Lapses c (messages t) acts (messages u) step
  | flash {chunks t u b acts step} (ht : Flash.Transfer.Underway c.settings chunks t b)
    (h : Flash.Transfer.Lapse c t b acts u step) : Lapses c (flash t) acts (flash u) step
  | legacyFlash {p q acts step} (hp : p.Underway c.settings)
    (h : Legacy.Push.Lapse c p acts q step) : Lapses c (legacyFlash p) acts (legacyFlash q) step
  | server (s) : Lapses c (server s) [] (server s) .running

section Turns

variable {c : Context} {job next : Job} {f : Frame} {acts : List Action}

theorem start_comes (h : job.Prepared c.settings) :
    ∃ acts next step, (job.start c).Comes c acts (next, step) ∧ Begins c job acts next step := by
  cases job with
  | none => exact h.elim
  | messages t =>
    obtain ⟨data, ht⟩ := h
    have hsliced := (Transfer.consistent_of_ofData ht).sliced
    exact ⟨_, _, _, (Transfer.start_comes c hsliced).result rfl, .messages ht rfl⟩
  | flash t =>
    obtain ⟨data, ht⟩ := h
    obtain ⟨records, -, rfl⟩ := Flash.Transfer.ofData_eq_ok ht
    obtain ⟨b, hb, hu⟩ :=
      Flash.Transfer.underway_start c (Flash.inPlace_chunksOf records)
    have hin : (b.outAt c).content.StandsIn (Flash.chunksOf records).flatten :=
      hu.standsIn hu.current
    exact ⟨_, _, _, (Flash.Transfer.start_comes c hb hin).result rfl, .flash hb hu⟩
  | legacyFlash p =>
    obtain ⟨file, hp⟩ := h
    exact ⟨_, _, _, (Legacy.Push.start_comes c p).result rfl, .legacyFlash hp⟩
  | server s =>
    have hcomes : s.start.Comes c [_, _] (s, .running) :=
      (Comes.act _).bind ((Comes.act (.report (.legacy (.serverStarted s.fileId)))).result rfl)
    exact ⟨_, _, _, hcomes.result rfl, .server s⟩

theorem receive_comes {turn : Turn (Job × Step)} (h : job.Underway c.settings)
    (hturn : job.receive c f = some turn) :
    ∃ acts next step, turn.Comes c acts (next, step) ∧ Answers c f job acts next step := by
  cases job with
  | none => exact h.elim
  | messages t =>
    obtain ⟨x, hx, rfl⟩ := Option.map_eq_some_iff.1 hturn
    obtain ⟨i, acts, u, hcomes, hanswer⟩ := Transfer.receive_comes h.1.consistent hx
    exact ⟨_, _, _, hcomes.result rfl, .messages h.1 hanswer rfl⟩
  | flash t =>
    obtain ⟨x, hx, rfl⟩ := Option.map_eq_some_iff.1 hturn
    obtain ⟨chunks, b, hb⟩ := h
    obtain ⟨r, acts, u, step, -, hcomes, hanswer⟩ := Flash.Transfer.receive_comes hb hx
    exact ⟨_, _, _, hcomes.result rfl, .flash hb hanswer⟩
  | legacyFlash p =>
    obtain ⟨x, hx, rfl⟩ := Option.map_eq_some_iff.1 hturn
    obtain ⟨r, acts, q, step, -, hcomes, hanswer⟩ := Legacy.Push.receive_comes h hx
    exact ⟨_, _, _, hcomes.result rfl, .legacyFlash h hanswer⟩
  | server s =>
    obtain ⟨x, hx, rfl⟩ := Option.map_eq_some_iff.1 hturn
    rw [s.receive_eq f] at hx
    split at hx
    · have hcomes : x.Comes c (s.actions f) ({ s with file := _ }, .running) :=
        .inl (Option.some.inj hx).symm
      exact ⟨_, _, _, hcomes.result rfl, .server s⟩
    · cases hx

theorem checkTimeouts_comes (h : job.Underway c.settings) :
    ∃ acts next step, (job.checkTimeouts c).Comes c acts (next, step) ∧
      Lapses c job acts next step := by
  cases job with
  | none => exact h.elim
  | messages t =>
    obtain ⟨hordered, -⟩ := h
    obtain ⟨n, acts, u, hcomes, hlapses, hsome⟩ :=
      Transfer.checkTimeouts_comes c hordered.consistent
    exact ⟨_, _, _, hcomes.result rfl, .messages hordered hlapses (hsome hordered.needsAcks) rfl⟩
  | flash t =>
    obtain ⟨chunks, b, hb⟩ := h
    obtain ⟨acts, u, step, hcomes, hlapse⟩ :=
      Flash.Transfer.checkTimeouts_comes c hb.current hb.awaiting (hb.standsIn hb.current)
    exact ⟨_, _, _, hcomes.result rfl, .flash hb hlapse⟩
  | legacyFlash p =>
    obtain ⟨acts, q, step, hcomes, hlapse⟩ := Legacy.Push.checkTimeouts_comes c h
    exact ⟨_, _, _, hcomes.result rfl, .legacyFlash h hlapse⟩
  | server s => exact ⟨_, _, _, .pure _, .server s⟩

/-! ## Going on -/

theorem Begins.underway (h : Begins c job acts next .running) : next.Underway c.settings := by
  cases h with
  | messages ht hs => exact ⟨.started ht hs, hs⟩
  | flash hb hu => exact ⟨_, _, hu⟩
  | legacyFlash hp => exact Legacy.Push.underway_start hp c
  | server s => exact trivial

theorem Answers.underway (h : Answers c f job acts next .running) : next.Underway c.settings := by
  cases h with
  | messages ht h hs => exact ⟨ht.move h.move, hs⟩
  | flash ht h => exact ⟨_, h.underway ht⟩
  | legacyFlash hp h => exact h.underway hp
  | server s => exact trivial

theorem Lapses.underway (h : Lapses c job acts next .running) : next.Underway c.settings := by
  cases h with
  | messages ht h hn hs => exact ⟨h.moves.keeps Transfer.Orderly.move ht, hs⟩
  | flash ht h => exact ⟨_, h.underway ht⟩
  | legacyFlash hp h => exact h.underway hp
  | server s => exact trivial

/-- If the turn does not end the job, the job is underway. -/
def Sustains (s : Settings) (x : Turn (Job × Step)) : Prop :=
  ∀ job, x.result = .ok (job, .running) → job.Underway s

/-- A job that does not end when it starts is underway. -/
theorem start_sustains (h : job.Prepared c.settings) : Sustains c.settings (job.start c) := by
  intro job hr
  obtain ⟨acts, next, step, hcomes, hbegins⟩ := start_comes h
  cases hcomes.eq_result hr
  exact hbegins.underway

/-- A job that takes a frame and does not end is underway still. -/
theorem receive_sustains {x : Turn (Job × Step)} (h : job.Underway c.settings)
    (hx : job.receive c f = some x) : Sustains c.settings x := by
  intro job hr
  obtain ⟨acts, next, step, hcomes, hanswers⟩ := receive_comes h hx
  cases hcomes.eq_result hr
  exact hanswers.underway

/-- A job that sees to what is overdue and does not end is underway still. -/
theorem checkTimeouts_sustains (h : job.Underway c.settings) :
    Sustains c.settings (job.checkTimeouts c) := by
  intro job hr
  obtain ⟨acts, next, step, hcomes, hlapses⟩ := checkTimeouts_comes h
  cases hcomes.eq_result hr
  exact hlapses.underway

end Turns

end Job

end GnssAiding
