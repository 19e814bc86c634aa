/-
The transfer of a legacy file over a link that loses and delays.

A reply does not say what it answers. The host takes it as the answer to what it waits
for; the receiver gave it to whatever transmission had reached it. `Link` is both ends
with what is on its way between them, and every transmission carries its `Aim`, which
neither end can see. `Link.Next` is what can happen.

Everything on its way is about what the host waits for or about something that it is
through with (`Push.Passed`). So if no acknowledgement comes back of what the host was
through with, each one is credited to what it answers, and a transfer that finishes
has delivered every block (`finished_delivered`). A second acknowledgement, of a
stop message that was sent again, is credited to the first block, which may be lost
(`finished_not_delivered`).
-/
import GnssAiding.Proofs.Flash.Move
import GnssAiding.Proofs.Legacy.Move
import Mathlib.Logic.Relation

namespace GnssAiding.Legacy

open Flash (Block)

/-! ## The link -/

/-- What a transmission to the receiver is about. -/
inductive Aim
  | reset
  /-- A block of the file, by its index. -/
  | block (i : Nat)
  | close
deriving DecidableEq, Repr

/-- A transmission to the receiver. -/
structure Parcel where
  aim : Aim
  data : Bytes
deriving DecidableEq, Repr

/-- A transmission that reached the receiver, with the receiver's reply to it. -/
structure Exchange where
  parcel : Parcel
  reply : Reply
deriving DecidableEq, Repr

/-- The transmission is a message that a receiver replies to. -/
def Parcel.IsMessage (parcel : Parcel) : Prop :=
  ∃ f, Frame.parse? parcel.data = some f ∧ f.kind? = some .aidAlp

namespace Push

/-- What the transfer waits for the answer to. -/
def aim (p : Push) : Aim :=
  match p.phase with
  | .starting => .reset
  | .mainSequence => .block p.current
  | .stopping | .idle => .close

/-- What is sent by a turn that leaves the transfer like this. -/
def parcels (p : Push) (acts : List Action) : List Parcel :=
  (acts.filterMap Action.written?).map (Parcel.mk p.aim)

end Push

/-- A host with the transfer of a file, a receiver, and what is between them. -/
structure Link where
  push : Push
  step : Step
  /-- On their way to the receiver, in order. -/
  outbound : List Parcel
  /-- Replies on their way to the host, in order. -/
  inbound : List Exchange
  /-- All that the receiver has answered. -/
  answered : List Exchange
  /-- The replies that the host has had, in order. -/
  returned : List Exchange
deriving DecidableEq, Repr

namespace Link

/-- The transfer begins. -/
inductive Begins (s : Settings) (p : Push) : Link → Prop
  | begins {now acts q step} (h : p.start ⟨s, now⟩ = ⟨acts, .ok (q, step)⟩) :
    Begins s p ⟨q, step, q.parcels acts, [], [], []⟩

/-- What can happen next. Transmissions and replies are lost or arrive in order, each at
any time, and the host may check its timeouts whatever its clock shows. The receiver
replies as it likes, but at most once to each message that it gets. -/
inductive Next (s : Settings) (l : Link) : Link → Prop
  | lost {before parcel after} (h : l.outbound = before ++ parcel :: after) :
    Next s l { l with outbound := before ++ after }
  | replyLost {before e after} (h : l.inbound = before ++ e :: after) :
    Next s l { l with inbound := before ++ after }
  /-- A transmission reaches the receiver, which does not reply. -/
  | taken {parcel rest} (h : l.outbound = parcel :: rest) : Next s l { l with outbound := rest }
  | answered {parcel rest} (r : Reply) (h : l.outbound = parcel :: rest)
    (hm : parcel.IsMessage) :
    Next s l { l with
      outbound := rest
      inbound := l.inbound ++ [⟨parcel, r⟩]
      answered := l.answered ++ [⟨parcel, r⟩] }
  | returned {e rest f now acts q step} (h : l.inbound = e :: rest) (hrun : l.step = .running)
    (hf : Reply.parse? f = some e.reply)
    (hturn : l.push.receive ⟨s, now⟩ f = some ⟨acts, .ok (q, step)⟩) :
    Next s l { l with
      push := q
      step := step
      outbound := l.outbound ++ q.parcels acts
      inbound := rest
      returned := l.returned ++ [e] }
  | ticked {now acts q step} (hrun : l.step = .running)
    (hturn : l.push.checkTimeouts ⟨s, now⟩ = ⟨acts, .ok (q, step)⟩) :
    Next s l { l with push := q, step := step, outbound := l.outbound ++ q.parcels acts }

/-- The transfer of the file can have led to this. -/
def Run (s : Settings) (file : Bytes) (l : Link) : Prop :=
  ∃ p start, Push.ofFile file = .ok p ∧ Begins s p start ∧
    Relation.ReflTransGen (Next s) start l

/-- The receiver has got each block of the file, and has acknowledged it. -/
def Delivered (file : Bytes) (l : Link) : Prop :=
  ∀ i chunk, (Flash.chunksOf file)[i]? = some chunk →
    ∃ e ∈ l.answered, e.parcel.aim = .block i ∧ e.reply = .ack ∧
      ∃ f, Frame.build MessageClass.aid AidId.alp chunk = .ok f ∧ e.parcel.data = f.bytes

end Link

/-- With this reply the host is through with what it is about: any reply to the reset,
else an acknowledgement. -/
def Exchange.Settles (e : Exchange) : Prop := e.parcel.aim = .reset ∨ e.reply = .ack

instance (e : Exchange) : Decidable e.Settles := inferInstanceAs (Decidable (_ ∨ _))

/-- No acknowledgement comes back of what an earlier reply has settled. -/
def SettledOnce (es : List Exchange) : Prop :=
  es.Pairwise fun e later => e.Settles → later.reply = .ack → later.parcel.aim ≠ e.parcel.aim

instance (es : List Exchange) : Decidable (SettledOnce es) :=
  inferInstanceAs (Decidable (es.Pairwise _))

namespace Push

/-! ## What the host is through with -/

/-- What the transfer is through with, in order. -/
def behind (p : Push) : List Aim :=
  match p.phase with
  | .starting => []
  | .mainSequence => .reset :: (List.range p.current).map .block
  | .stopping | .idle => .reset :: (List.range p.blocks.length).map .block

section Moves

variable {c : Context} {p q : Push} {r : Reply} {acts : List Action} {step : Step} {i : Nat}

/-- The transfer waits for what it waited for. -/
structure Stays (p q : Push) : Prop where
  behind : q.behind = p.behind
  aim : q.aim = p.aim

/-- What a reply makes of what the transfer waits for: it stays that, or it is credited
with the reply. -/
inductive Onward (p q : Push) (r : Reply) : Prop
  | stays (h : Stays p q)
  | settled (hb : q.behind = p.behind ++ [p.aim]) (hs : p.aim = .reset ∨ r = .ack)

theorem behind_of_aim_reset (h : p.aim = .reset) : p.behind = [] := by
  unfold aim at h
  unfold behind
  split at h
  · rfl
  · cases h
  · cases h
  · cases h

theorem Stays.put (b : Block) : Stays p (p.put b) where
  behind := by
    simp only [Push.behind, Push.put, List.length_set]
  aim := rfl

theorem Lapse.stays (h : Lapse c p acts q step) : Stays p q := by
  cases h with
  | stopEarly | stopGivenUp | early | stopAgain => exact ⟨rfl, rfl⟩
  | nudged | resent | givenUp => exact .put _

theorem Answer.onward (h : Answer c p r acts q step)
    (hfirst : p.phase = .starting → p.current = 0) : Onward p q r := by
  cases h with
  | begun hp =>
    refine .settled ?_ (.inl ?_)
    · simp [behind, put, entering, hp, hfirst hp, aim]
    · simp [aim, hp]
  | advanced hp hr =>
    refine .settled ?_ (.inr hr)
    simp [behind, hp, aim, List.range_succ]
  | closing hp hr hb hl =>
    have hlt := (List.getElem?_eq_some_iff.1 hb).1
    have hlast : p.blocks.length = p.current + 1 := Nat.le_antisymm hl hlt
    refine .settled ?_ (.inr hr)
    simp [behind, put, entering, stopSent, hp, aim, hlast, List.range_succ]
  | resent | exhausted => exact .stays (.put _)
  | refused => exact .stays ⟨rfl, rfl⟩
  | closed hp =>
    refine .stays ⟨?_, ?_⟩
    · simp [behind, hp]
    · simp [aim, hp]

/-! ## What a turn of the transfer does -/

/-- What is sent about a block: the block, or the byte that nudges the receiver. -/
def Sends (p q : Push) (data : Bytes) : Prop :=
  ∀ i, q.aim = .block i → data = Flash.nudge ∨
    ∃ b f, p.blocks[i]? = some b ∧ Frame.build MessageClass.aid AidId.alp b.bytes = .ok f ∧
      data = f.bytes

/-- What a turn of a transfer that is underway does, whatever it is about. -/
structure Turned (s : Settings) (p : Push) (acts : List Action) (q : Push) (step : Step) :
    Prop where
  underway : step = .running → Underway s q
  starting : q.phase = .starting → p.phase = .starting ∧ q.current = p.current
  items : q.blocks.map Block.item = p.blocks.map Block.item
  sends : ∀ data ∈ acts.filterMap Action.written?, Sends p q data
  idle : step = .finished → q.phase = .idle

theorem mem_written_transmission {b : Block} {data : Bytes}
    (h : data ∈ (transmission b).filterMap Action.written?) :
    ∃ f, Frame.build MessageClass.aid AidId.alp b.bytes = .ok f ∧ data = f.bytes := by
  unfold transmission at h
  cases hf : Frame.build MessageClass.aid AidId.alp b.bytes with
  | error e =>
    rw [hf] at h
    cases h
  | ok f =>
    rw [hf] at h
    exact ⟨f, rfl, List.mem_singleton.1 h⟩

theorem sends_transmission {b b' : Block} {data : Bytes} (hq : q.aim = .block i)
    (hb : p.blocks[i]? = some b) (hbytes : b'.bytes = b.bytes)
    (h : data ∈ (transmission b').filterMap Action.written?) : Sends p q data := by
  intro j hj
  cases hq.symm.trans hj
  obtain ⟨f, hf, hdata⟩ := mem_written_transmission h
  rw [hbytes] at hf
  exact .inr ⟨b, f, hb, hf, hdata⟩

theorem Stopped.aim_ne {failed : LegacyEvent} (hp : Stopped p.phase failed) :
    p.aim ≠ .block i := by
  unfold aim
  generalize p.phase = phase at hp
  cases hp <;> rintro ⟨⟩

theorem aim_sending (hp : p.phase = .mainSequence) : p.aim = .block p.current := by
  simp only [aim, hp]

theorem Answer.turned (h : Answer c p r acts q step) (hu : Underway c.settings p) :
    Turned c.settings p acts q step where
  underway := by
    rintro rfl
    exact h.underway hu
  starting := by
    intro hq
    cases h with
    | begun | closing | closed => cases hq
    | advanced hp | resent hp | exhausted hp | refused hp => cases hp.symm.trans hq
  items := h.items_eq
  sends := by
    intro data hdata
    cases h with
    | begun hp hb => exact sends_transmission rfl hb rfl hdata
    | advanced hp hr hb hn => exact sends_transmission (aim_sending hp) hn rfl hdata
    | @resent b hp hr hb =>
      have hbytes : b.again.bytes = b.bytes := rfl
      exact sends_transmission (aim_sending hp) hb hbytes hdata
    | closing =>
      intro i hi
      cases hi
    | exhausted | closed | refused => cases hdata
  idle := by
    rintro rfl
    cases h
    rfl

theorem Lapse.turned (h : Lapse c p acts q step) (hu : Underway c.settings p) :
    Turned c.settings p acts q step where
  underway := by
    rintro rfl
    exact h.underway hu
  starting := by
    intro hq
    cases h with
    | stopEarly | stopGivenUp | early | stopAgain | nudged | resent | givenUp => exact ⟨hq, rfl⟩
  items := h.items_eq
  sends := by
    intro data hdata
    cases h with
    | stopAgain hp => exact fun _ hi => absurd hi hp.aim_ne
    | nudged => exact fun _ _ => .inl (List.mem_singleton.1 hdata)
    | @resent b hp hb =>
      have hbytes : b.again.bytes = b.bytes := rfl
      exact sends_transmission (aim_sending hp) hb hbytes hdata
    | stopEarly | stopGivenUp | early | givenUp => cases hdata
  idle := by
    rintro rfl
    cases h

end Moves

end Push

/-! ## What is on its way -/

/-- A transmission about a block carries it. -/
def Parcel.Genuine (file : Bytes) (parcel : Parcel) : Prop :=
  ∀ i, parcel.aim = .block i →
    ∃ chunk f, (Flash.chunksOf file)[i]? = some chunk ∧
      Frame.build MessageClass.aid AidId.alp chunk = .ok f ∧ parcel.data = f.bytes

theorem Parcel.IsMessage.ne_nudge {parcel : Parcel} (h : parcel.IsMessage) :
    parcel.data ≠ Flash.nudge := by
  obtain ⟨f, hf, -⟩ := h
  intro hn
  rw [hn] at hf
  cases hf

namespace Link

/-- What is on its way is about what the transfer waits for or is through with. -/
def Near (l : Link) (a : Aim) : Prop := a ∈ l.push.behind ∨ a = l.push.aim

/-- What a run keeps, as long as no acknowledgement comes back twice. -/
structure Sound (s : Settings) (file : Bytes) (l : Link) : Prop where
  underway : l.step = .running → Push.Underway s l.push
  first : l.push.phase = .starting → l.push.current = 0
  items : l.push.blocks.map Block.item = (Block.cut file).map Block.item
  outbound : ∀ parcel ∈ l.outbound,
    l.Near parcel.aim ∧ (parcel.data = Flash.nudge ∨ parcel.Genuine file)
  inbound : ∀ e ∈ l.inbound, l.Near e.parcel.aim ∧ e ∈ l.answered
  answered : ∀ e ∈ l.answered, e.parcel.Genuine file
  returned : ∀ e ∈ l.returned, e ∈ l.answered
  settled : ∀ a ∈ l.push.behind, ∃ e ∈ l.returned, e.Settles ∧ e.parcel.aim = a
  idle : l.step = .finished → l.push.phase = .idle

variable {s : Settings} {file : Bytes} {l m : Link}

theorem Sound.begins {p : Push} (hp : Push.ofFile file = .ok p) (h : Begins s p l) :
    l.Sound s file := by
  cases h with
  | @begins now acts q step h =>
    have hcomes := (Push.start_comes ⟨s, now⟩ p).eq_of_ok (congrArg Turn.result h)
    rw [h] at hcomes
    cases hcomes
    have hunderway := Push.underway_start (s := s) hp ⟨s, now⟩
    obtain ⟨header, -, rfl⟩ := Push.ofFile_eq_ok hp
    exact {
      underway := fun _ => hunderway
      first := fun _ => rfl
      items := rfl
      outbound := by
        intro parcel hparcel
        obtain rfl := List.mem_singleton.1 hparcel
        exact ⟨.inr rfl, .inr fun i hi => by cases hi⟩
      inbound := List.forall_mem_nil _
      answered := List.forall_mem_nil _
      returned := List.forall_mem_nil _
      settled := List.forall_mem_nil _
      idle := nofun }

theorem item_cut_eq_some {i : Nat} {b : Block}
    (h : ((Block.cut file).map Block.item)[i]? = some b.item) :
    ∃ chunk, (Flash.chunksOf file)[i]? = some chunk ∧
      b.content = .data (i * Flash.blockSize) chunk := by
  rw [List.getElem?_map, Block.cut, List.getElem?_mapIdx, Option.map_map,
    Option.map_eq_some_iff] at h
  obtain ⟨chunk, hchunk, hitem⟩ := h
  exact ⟨chunk, hchunk, (congrArg Prod.fst hitem).symm⟩

/-- What is sent about a block of the file is genuine. -/
theorem Sound.sends (h : l.Sound s file) {q : Push} {data : Bytes}
    (hd : Push.Sends l.push q data) :
    data = Flash.nudge ∨ Parcel.Genuine file ⟨q.aim, data⟩ := by
  by_cases hn : data = Flash.nudge
  · exact .inl hn
  · refine .inr fun i hi => ?_
    obtain ⟨b, f, hb, hf, hdata⟩ := (hd i hi).resolve_left hn
    obtain ⟨chunk, hchunk, hcontent⟩ := item_cut_eq_some (Block.getElem?_items h.items hb)
    exact ⟨chunk, f, hchunk, Block.bytes_of_content hcontent ▸ hf, hdata⟩

/-- The host takes a turn. What it was through with it still is, and what it is now
through with has been settled. -/
theorem Sound.turn {acts : List Action} {q : Push} {step : Step}
    {inbound returned : List Exchange} (h : l.Sound s file)
    (ht : Push.Turned s l.push acts q step)
    (hnear : ∀ a, l.Near a → a ∈ q.behind ∨ a = q.aim)
    (hin : ∀ e ∈ inbound, e ∈ l.inbound)
    (hreturned : ∀ e ∈ returned, e ∈ l.answered)
    (hsettled : ∀ a ∈ q.behind, ∃ e ∈ returned, e.Settles ∧ e.parcel.aim = a) :
    Sound s file { l with
      push := q
      step := step
      outbound := l.outbound ++ q.parcels acts
      inbound := inbound
      returned := returned } where
  underway := ht.underway
  first := by
    intro hq
    obtain ⟨hp, hcurrent⟩ := ht.starting hq
    exact hcurrent.trans (h.first hp)
  items := ht.items.trans h.items
  outbound := by
    intro parcel hparcel
    rcases List.mem_append.1 hparcel with hold | hnew
    · obtain ⟨hat, hcarries⟩ := h.outbound parcel hold
      exact ⟨hnear _ hat, hcarries⟩
    · obtain ⟨data, hdata, rfl⟩ := List.mem_map.1 hnew
      exact ⟨.inr rfl, h.sends (ht.sends data hdata)⟩
  inbound := by
    intro e he
    obtain ⟨hat, hans⟩ := h.inbound e (hin e he)
    exact ⟨hnear _ hat, hans⟩
  answered := h.answered
  returned := hreturned
  settled := hsettled
  idle := ht.idle

/-- A reply that the host takes as the answer to what it waits for is that, unless it
acknowledges what the host is through with. -/
theorem Sound.credited (h : l.Sound s file) {e : Exchange} (he : e ∈ l.inbound)
    (honce : SettledOnce (l.returned ++ [e]))
    (hs : l.push.aim = .reset ∨ e.reply = .ack) : e.parcel.aim = l.push.aim := by
  rcases (h.inbound e he).1 with hpassed | haim
  · exfalso
    obtain ⟨e', he', hsettles, hsame⟩ := h.settled _ hpassed
    rcases hs with hreset | hack
    · rw [Push.behind_of_aim_reset hreset] at hpassed
      cases hpassed
    · have hpair := (List.pairwise_append.1 honce).2.2 e' he' e (List.mem_singleton_self e)
      exact hpair hsettles hack hsame.symm
  · exact haim

/-- The receiver gets a message and replies. -/
theorem Sound.answer (h : l.Sound s file) {parcel : Parcel} {rest : List Parcel} (r : Reply)
    (hout : l.outbound = parcel :: rest) (hm : parcel.IsMessage) :
    Sound s file { l with
      outbound := rest
      inbound := l.inbound ++ [⟨parcel, r⟩]
      answered := l.answered ++ [⟨parcel, r⟩] } := by
  obtain ⟨hnear, hcarries⟩ := h.outbound parcel (hout ▸ List.mem_cons_self)
  have hkept : ∀ e ∈ l.answered, e ∈ l.answered ++ [⟨parcel, r⟩] :=
    fun e he => List.mem_append_left _ he
  exact { h with
    outbound := fun p hp => h.outbound p (hout ▸ List.mem_cons_of_mem _ hp)
    inbound := List.forall_mem_append.2 ⟨fun e he => (h.inbound e he).imp_right (hkept e),
      List.forall_mem_singleton.2 ⟨hnear, List.mem_append_right _ (List.mem_singleton_self _)⟩⟩
    answered := List.forall_mem_append.2 ⟨h.answered,
      List.forall_mem_singleton.2 (hcarries.resolve_left hm.ne_nudge)⟩
    returned := fun e he => hkept e (h.returned e he) }

/-- The host has a reply. If it is credited, it is credited to what it answers. -/
theorem Sound.hear (h : l.Sound s file) {e : Exchange} {rest : List Exchange} {now : Nat}
    {acts : List Action} {q : Push} {step : Step} (hin : l.inbound = e :: rest)
    (hu : Push.Underway s l.push) (ha : Push.Answer ⟨s, now⟩ l.push e.reply acts q step)
    (honce : SettledOnce (l.returned ++ [e])) :
    Sound s file { l with
      push := q
      step := step
      outbound := l.outbound ++ q.parcels acts
      inbound := rest
      returned := l.returned ++ [e] } := by
  have he : e ∈ l.inbound := hin ▸ List.mem_cons_self
  have hrest : ∀ e' ∈ rest, e' ∈ l.inbound := fun e' he' => hin ▸ List.mem_cons_of_mem _ he'
  have hreturned : ∀ e' ∈ l.returned ++ [e], e' ∈ l.answered :=
    List.forall_mem_append.2 ⟨h.returned, List.forall_mem_singleton.2 (h.inbound e he).2⟩
  have hold : ∀ a ∈ l.push.behind,
      ∃ e' ∈ l.returned ++ [e], e'.Settles ∧ e'.parcel.aim = a := by
    intro a hpassed
    obtain ⟨e', he', hsettled⟩ := h.settled a hpassed
    exact ⟨e', List.mem_append_left _ he', hsettled⟩
  cases ha.onward h.first with
  | stays hst =>
    refine h.turn (ha.turned hu) ?_ hrest hreturned ?_
    · intro a hnear
      rwa [hst.behind, hst.aim]
    · rwa [hst.behind]
  | settled hb hs =>
    have haim : e.parcel.aim = l.push.aim := h.credited he honce hs
    refine h.turn (ha.turned hu) ?_ hrest hreturned ?_
    · intro a hnear
      rw [hb]
      exact .inl (List.mem_append.2 (hnear.imp_right List.mem_singleton.2))
    · rw [hb]
      have hnow : e.Settles := hs.imp_left haim.trans
      exact List.forall_mem_append.2 ⟨hold, List.forall_mem_singleton.2
        ⟨e, List.mem_append_right _ (List.mem_singleton_self e), hnow, haim⟩⟩

/-- The host checks its timeouts. -/
theorem Sound.tick (h : l.Sound s file) {now : Nat} {acts : List Action} {q : Push}
    {step : Step} (hu : Push.Underway s l.push)
    (hl : Push.Lapse ⟨s, now⟩ l.push acts q step) :
    Sound s file { l with push := q, step := step, outbound := l.outbound ++ q.parcels acts } := by
  have hst := hl.stays
  refine h.turn (hl.turned hu) ?_ (fun _ => id) h.returned ?_
  · intro a hnear
    rwa [hst.behind, hst.aim]
  · rw [hst.behind]
    exact h.settled

theorem Sound.next (h : l.Sound s file) (hn : Next s l m) (honce : SettledOnce m.returned) :
    m.Sound s file := by
  cases hn with
  | @lost before parcel after hout =>
    refine { h with outbound := fun p hp => h.outbound p ?_ }
    rw [hout]
    exact List.mem_append.2 ((List.mem_append.1 hp).imp_right (List.mem_cons_of_mem _))
  | @replyLost before e after hin =>
    refine { h with inbound := fun e' he' => h.inbound e' ?_ }
    rw [hin]
    exact List.mem_append.2 ((List.mem_append.1 he').imp_right (List.mem_cons_of_mem _))
  | @taken parcel rest hout =>
    refine { h with outbound := fun p hp => h.outbound p ?_ }
    rw [hout]
    exact List.mem_cons_of_mem _ hp
  | answered r hout hm => exact h.answer r hout hm
  | @returned e rest f now acts q step hin hrun hf hturn =>
    have hu := h.underway hrun
    obtain ⟨r, _, _, _, hr, hcomes, hanswer⟩ := Push.receive_comes (c := ⟨s, now⟩) hu hturn
    cases hcomes.eq_of_ok rfl
    cases hf.symm.trans hr
    exact h.hear hin hu hanswer honce
  | @ticked now acts q step hrun hturn =>
    have hu := h.underway hrun
    obtain ⟨_, _, _, hcomes, hlapse⟩ := Push.checkTimeouts_comes ⟨s, now⟩ hu
    have heq := hcomes.eq_of_ok (congrArg Turn.result hturn)
    rw [hturn] at heq
    cases heq
    exact h.tick hu hlapse

theorem Next.returned_prefix (h : Next s l m) : ∃ es, m.returned = l.returned ++ es := by
  cases h with
  | lost | replyLost | taken | answered | ticked => exact ⟨[], (List.append_nil _).symm⟩
  | returned => exact ⟨_, rfl⟩

theorem Run.sound (h : Run s file l) (honce : SettledOnce l.returned) : l.Sound s file := by
  obtain ⟨p, start, hp, hbegins, hrun⟩ := h
  induction hrun with
  | refl => exact .begins hp hbegins
  | tail _ hnext ih =>
    obtain ⟨es, hes⟩ := hnext.returned_prefix
    have hbefore := honce
    unfold SettledOnce at hbefore
    rw [hes] at hbefore
    exact (ih (List.pairwise_append.1 hbefore).1).next hnext honce

/-- **No block is skipped, as long as no acknowledgement comes back twice.** Whatever is
lost, delayed, refused or sent again, if the transfer finishes and the host has had no
acknowledgement of something that an earlier reply had settled, then the receiver has
got and acknowledged every block of the file. -/
theorem finished_delivered (h : Run s file l) (hfin : l.step = .finished)
    (honce : SettledOnce l.returned) : Delivered file l := by
  have hsound := h.sound honce
  intro i chunk hchunk
  have hlength : i < l.push.blocks.length := by
    have hlen := congrArg List.length hsound.items
    rw [List.length_map, List.length_map, Block.cut, List.length_mapIdx] at hlen
    rw [hlen]
    exact (List.getElem?_eq_some_iff.1 hchunk).1
  have hpassed : Aim.block i ∈ l.push.behind := by
    simp [Push.behind, hsound.idle hfin, hlength]
  obtain ⟨e, he, hsettles, haim⟩ := hsound.settled _ hpassed
  have hanswered := hsound.returned e he
  obtain ⟨chunk', f, hchunk', hf, hdata⟩ := hsound.answered e hanswered i haim
  cases hchunk.symm.trans hchunk'
  refine ⟨e, hanswered, haim, ?_, f, hf, hdata⟩
  exact hsettles.resolve_left (by simp [haim])

/-! ## A file of one block -/

/-- A file of a header alone, which is one block. -/
def headerFile : Bytes := [0xEF, 0x08, 0x52, 0x01] ++ List.replicate 80 0

/-- One retry, after a tenth of a second. -/
def hasty : Settings := ⟨100, 1, .windowed, .navx5, 1000, 0⟩

/-- The header of `headerFile`. -/
def emptyHeader : Header := ⟨magic, List.replicate 32 0, 0, 0, 0, 0, 0, rfl⟩

/-- The transfer of `headerFile`. -/
def oneBlock (phase : Phase) (current retries deadline : Nat) (b : Block) : Push :=
  ⟨headerFile, emptyHeader, [b], current, phase, retries, deadline⟩

/-- The block, out or not. -/
def onlyBlock (state : Progress) (deadline : Nat) : Block :=
  ⟨.data 0 headerFile, 0, state, 0, deadline⟩

theorem chunksOf_headerFile : Flash.chunksOf headerFile = [headerFile] := by
  rw [Flash.chunksOf, Bytes.pieces, if_neg (by decide), Bytes.pieces]
  rfl

theorem ofFile_headerFile :
    Push.ofFile headerFile = .ok (oneBlock .idle 0 0 0 (onlyBlock .waitingToSend 0)) := by
  have hparse : Header.parse headerFile = .ok emptyHeader := rfl
  have hcut : Block.cut headerFile = [onlyBlock .waitingToSend 0] := by
    change (Flash.chunksOf headerFile).mapIdx _ = _
    rw [chunksOf_headerFile]
    rfl
  unfold Push.ofFile
  rw [hparse, hcut]
  rfl

/-- The reply as the receiver sends it. -/
def replyFrame (r : Reply) : Frame :=
  .sealed MessageClass.aid AidId.alp [match r with | .ack => 1 | .nak => 0] (by simp)

theorem parse?_replyFrame (r : Reply) : Reply.parse? (replyFrame r) = some r := by
  cases r <;> rfl

/-- The stop message, as a transmission. -/
def stopParcel (a : Aim) : Parcel := ⟨a, stopFrame.bytes⟩

theorem stopParcel_isMessage (a : Aim) : (stopParcel a).IsMessage :=
  ⟨stopFrame, Frame.parse?_bytes (Frame.intact_sealed _ _ _ _), rfl⟩

/-- The block, as a transmission. -/
def blockParcel : Parcel :=
  ⟨.block 0, (Frame.sealed MessageClass.aid AidId.alp headerFile (by decide)).bytes⟩

theorem blockParcel_isMessage : blockParcel.IsMessage :=
  ⟨_, Frame.parse?_bytes (Frame.intact_sealed _ _ _ _), rfl⟩

/-- The transfer begins with a stop message. -/
theorem begins_headerFile :
    Begins hasty (oneBlock .idle 0 0 0 (onlyBlock .waitingToSend 0))
      ⟨oneBlock .starting 0 0 100 (onlyBlock .waitingToSend 0), .running, [stopParcel .reset],
        [], [], []⟩ := by
  have hturn : (oneBlock .idle 0 0 0 (onlyBlock .waitingToSend 0)).start ⟨hasty, 0⟩ =
      ⟨[.report (.start 1), .report (.legacy .startupStarted), .write stopFrame.bytes],
        .ok (oneBlock .starting 0 0 100 (onlyBlock .waitingToSend 0), .running)⟩ := rfl
  exact .begins hturn

theorem next_loses {p : Push} {step : Step} {parcel : Parcel} {outbound : List Parcel}
    {inbound answered returned : List Exchange} :
    Next s ⟨p, step, parcel :: outbound, inbound, answered, returned⟩
      ⟨p, step, outbound, inbound, answered, returned⟩ := by
  have hout : parcel :: outbound = [] ++ parcel :: outbound := rfl
  exact Next.lost (l := ⟨p, step, parcel :: outbound, inbound, answered, returned⟩) hout

theorem next_answers {p : Push} {step : Step} {parcel : Parcel} {outbound : List Parcel}
    {inbound answered returned : List Exchange} (r : Reply) (h : parcel.IsMessage) :
    Next s ⟨p, step, parcel :: outbound, inbound, answered, returned⟩
      ⟨p, step, outbound, inbound ++ [⟨parcel, r⟩], answered ++ [⟨parcel, r⟩], returned⟩ :=
  .answered r rfl h

theorem next_ticks {p q : Push} {step : Step} {acts : List Action} {outbound : List Parcel}
    {inbound answered returned : List Exchange} {now : Nat}
    (h : p.checkTimeouts ⟨s, now⟩ = ⟨acts, .ok (q, step)⟩) :
    Next s ⟨p, .running, outbound, inbound, answered, returned⟩
      ⟨q, step, outbound ++ q.parcels acts, inbound, answered, returned⟩ := .ticked rfl h

theorem next_receives {p q : Push} {step : Step} {acts : List Action} {outbound : List Parcel}
    {e : Exchange} {inbound answered returned : List Exchange} {now : Nat}
    (h : p.receive ⟨s, now⟩ (replyFrame e.reply) = some ⟨acts, .ok (q, step)⟩) :
    Next s ⟨p, .running, outbound, e :: inbound, answered, returned⟩
      ⟨q, step, outbound ++ q.parcels acts, inbound, answered, returned ++ [e]⟩ :=
  .returned rfl rfl (parse?_replyFrame e.reply) h

/-- The stop message is overdue and sent again. -/
theorem stop_ticked (outbound : List Parcel) :
    Next hasty
      ⟨oneBlock .starting 0 0 100 (onlyBlock .waitingToSend 0), .running, outbound, [], [], []⟩
      ⟨oneBlock .starting 0 1 200 (onlyBlock .waitingToSend 0), .running,
        outbound ++ [stopParcel .reset], [], [], []⟩ := by
  have hturn : (oneBlock .starting 0 0 100 (onlyBlock .waitingToSend 0)).checkTimeouts
      ⟨hasty, 100⟩ = ⟨[.write stopFrame.bytes],
        .ok (oneBlock .starting 0 1 200 (onlyBlock .waitingToSend 0), .running)⟩ := rfl
  exact next_ticks hturn

/-- A reply is credited to the stop message, and the block is sent. -/
theorem reset_returned (e : Exchange) (inbound answered : List Exchange) :
    Next hasty
      ⟨oneBlock .starting 0 1 200 (onlyBlock .waitingToSend 0), .running, [], e :: inbound,
        answered, []⟩
      ⟨oneBlock .mainSequence 0 0 200 (onlyBlock .waitingForAck 250), .running, [blockParcel],
        inbound, answered, [e]⟩ := by
  have hturn : (oneBlock .starting 0 1 200 (onlyBlock .waitingToSend 0)).receive ⟨hasty, 150⟩
      (replyFrame e.reply) = some ⟨[.report (.legacy .startupCompleted), .write blockParcel.data,
        .report (.legacy (.flashBlockSent ⟨0, 84, 0⟩))],
        .ok (oneBlock .mainSequence 0 0 200 (onlyBlock .waitingForAck 250), .running)⟩ := by
    cases e.reply <;> rfl
  exact next_receives hturn

/-- An acknowledgement is credited to the block, and the transfer is closed. -/
theorem block_returned (e : Exchange) (he : e.reply = .ack)
    (inbound answered returned : List Exchange) :
    Next hasty
      ⟨oneBlock .mainSequence 0 0 200 (onlyBlock .waitingForAck 250), .running, [], e :: inbound,
        answered, returned⟩
      ⟨oneBlock .stopping 1 0 260 (onlyBlock .received 250), .running, [stopParcel .close],
        inbound, answered, returned ++ [e]⟩ := by
  have hturn : (oneBlock .mainSequence 0 0 200 (onlyBlock .waitingForAck 250)).receive ⟨hasty, 160⟩
      (replyFrame e.reply) = some ⟨[.report (.legacy (.flashBlockComplete ⟨0, 84, 0⟩)),
        .report (.legacy .finalizeStarted), .write stopFrame.bytes],
        .ok (oneBlock .stopping 1 0 260 (onlyBlock .received 250), .running)⟩ := by
    rw [he]
    rfl
  exact next_receives hturn

/-- The transfer of `headerFile` at its end. -/
def oneBlockDone : Push :=
  let p := oneBlock .idle 1 0 260 (onlyBlock .received 250)
  { p with header := p.storedHeader }

/-- An acknowledgement ends the transfer. -/
theorem close_returned (e : Exchange) (he : e.reply = .ack) (answered returned : List Exchange) :
    Next hasty
      ⟨oneBlock .stopping 1 0 260 (onlyBlock .received 250), .running, [], [e], answered, returned⟩
      ⟨oneBlockDone, .finished, [], [], answered, returned ++ [e]⟩ := by
  have hturn : (oneBlock .stopping 1 0 260 (onlyBlock .received 250)).receive ⟨hasty, 170⟩
      (replyFrame e.reply) = some ⟨[.report (.legacy (.finalizeCompleted oneBlockDone.header))],
        .ok (oneBlockDone, .finished)⟩ := by
    rw [he]
    rfl
  exact next_receives hturn

/-! ### A run in which nothing comes twice -/

/-- The first stop message is lost. The second one is refused, which will do. -/
def deliveredLink : Link :=
  let exchanges := [⟨stopParcel .reset, .nak⟩, ⟨blockParcel, .ack⟩, ⟨stopParcel .close, .ack⟩]
  ⟨oneBlockDone, .finished, [], [], exchanges, exchanges⟩

theorem deliveredLink_run : Run hasty headerFile deliveredLink := by
  refine ⟨_, _, ofFile_headerFile, begins_headerFile, ?_⟩
  refine .head next_loses (.head (stop_ticked []) ?_)
  refine .head (next_answers .nak (stopParcel_isMessage _)) (.head (reset_returned _ _ _) ?_)
  refine .head (next_answers .ack blockParcel_isMessage) (.head (block_returned _ rfl _ _ _) ?_)
  refine .head (next_answers .ack (stopParcel_isMessage _)) (.single (close_returned _ rfl _ _))

theorem finished_delivered_headerFile :
    Run hasty headerFile deliveredLink ∧ deliveredLink.step = .finished ∧
      SettledOnce deliveredLink.returned ∧ Delivered headerFile deliveredLink := by
  have hrun : Run hasty headerFile deliveredLink := deliveredLink_run
  have honce : SettledOnce deliveredLink.returned := by decide
  exact ⟨hrun, rfl, honce, finished_delivered hrun rfl honce⟩

/-! ### A run in which an acknowledgement comes twice -/

/-- The stop message is sent again too early, both are acknowledged, and the block is lost. -/
def skippedLink : Link :=
  let exchanges := [⟨stopParcel .reset, .ack⟩, ⟨stopParcel .reset, .ack⟩, ⟨stopParcel .close, .ack⟩]
  ⟨oneBlockDone, .finished, [], [], exchanges, exchanges⟩

theorem skippedLink_run : Run hasty headerFile skippedLink := by
  refine ⟨_, _, ofFile_headerFile, begins_headerFile, ?_⟩
  refine .head (stop_ticked _) ?_
  refine .head (next_answers .ack (stopParcel_isMessage _)) ?_
  refine .head (next_answers .ack (stopParcel_isMessage _)) (.head (reset_returned _ _ _) ?_)
  refine .head next_loses (.head (block_returned _ rfl _ _ _) ?_)
  refine .head (next_answers .ack (stopParcel_isMessage _)) (.single (close_returned _ rfl _ _))

/-- The transfer finishes, and the receiver has never got the block. -/
theorem finished_not_delivered :
    Run hasty headerFile skippedLink ∧ skippedLink.step = .finished ∧
      ¬ Delivered headerFile skippedLink := by
  refine ⟨skippedLink_run, rfl, fun hdelivered => ?_⟩
  obtain ⟨e, he, haim, -⟩ := hdelivered 0 headerFile (by rw [chunksOf_headerFile]; rfl)
  have hnone : ∀ e ∈ skippedLink.answered, e.parcel.aim ≠ .block 0 := by decide
  exact hnone e he haim

end Link

end GnssAiding.Legacy
