/-
What a transfer carries: the frames of its messages, and where they stand in the
blob.

A transfer changes how far its messages have come and nothing else about them, so
its blob and its cargo are fixed when it is made (`data_started`, `Move.data`,
`cargo_started`, `Move.cargo`). The cargo is the intact frames of interest of the
blob, in order (`cargo_of_ofData`), and each of them stands at its offset
(`Stream.slice_locate`). Nothing is written but cargo, and in front of it the setup
(`write_opening`, `Move.write`).
-/
import GnssAiding.Proofs.Transfer.History

namespace GnssAiding

namespace Transfer

variable {c : Context} {t u : Transfer}

theorem cargo_refilled (c : Context) (t : Transfer) :
    (t.refilled c).queue.cargo = t.queue.cargo :=
  Queue.cargo_sentNext c _ _

theorem data_started (c : Context) (t : Transfer) : (t.started c).queue.data = t.queue.data := by
  unfold started
  split <;> rfl

theorem cargo_started (c : Context) (t : Transfer) : (t.started c).queue.cargo = t.queue.cargo := by
  unfold started
  split
  · exact Queue.cargo_sentAll c t.queue
  · exact cargo_refilled c t

theorem Move.data {i : Nat} {acts : List Action} (h : Move c t i acts u) :
    u.queue.data = t.queue.data := by
  cases h <;> rfl

theorem Move.cargo {i : Nat} {acts : List Action} (h : Move c t i acts u) :
    u.queue.cargo = t.queue.cargo := by
  cases h with
  | @settled m failure _ hm _ _ =>
    rw [cargo_refilled]
    exact Queue.cargo_set hm rfl (m.located_settled failure)
  | sentAgain _ hm _ _ _ => exact Queue.cargo_set hm rfl rfl

theorem Moves.data {acts : List Action} (h : Moves c t acts u) : u.queue.data = t.queue.data := by
  induction h with
  | nil => rfl
  | cons hmove _ ih => exact ih.trans hmove.data

theorem Moves.cargo {acts : List Action} (h : Moves c t acts u) :
    u.queue.cargo = t.queue.cargo := by
  induction h with
  | nil => rfl
  | cons hmove _ ih => exact ih.trans hmove.cargo

theorem data_of_ofData {data : Bytes} {s : Settings} (h : ofData data s = .ok t) :
    t.queue.data = data := by
  obtain ⟨ms, -, rfl⟩ := ofData_eq_ok h
  rfl

/-- The cargo is the frames of the blob that are wanted. -/
theorem cargo_of_ofData {data : Bytes} {s : Settings} (h : ofData data s = .ok t) :
    t.queue.cargo = (Stream.locate 0 (Stream.split data).1).filter Message.wanted := by
  obtain ⟨ms, hms, rfl⟩ := ofData_eq_ok h
  obtain ⟨-, -, rfl⟩ := Message.list_eq_ok_iff.1 hms
  refine List.ext_getElem? fun i => ?_
  simp [Queue.cargo, Function.comp_def]

/-- What makes a transfer is a clean stream. -/
theorem clean_of_ofData {data : Bytes} {s : Settings} (h : ofData data s = .ok t) :
    (Stream.split data).2 = [] := by
  obtain ⟨ms, hms, -⟩ := ofData_eq_ok h
  exact (Message.list_eq_ok_iff.1 hms).1

/-! ## What is written -/

/-- The bytes are those of a frame of the cargo. -/
def Carries (t : Transfer) (data : Bytes) : Prop := ∃ l ∈ t.queue.cargo, data = l.frame.bytes

theorem write_transmission {m : Message} {data : Bytes} :
    .write data ∈ m.transmission ↔ data = m.frame.bytes := by
  simp [Message.transmission]

theorem carries_of_mem {m : Message} (h : m ∈ t.queue.messages) : t.Carries m.frame.bytes :=
  ⟨m.located, List.mem_map_of_mem h, rfl⟩

theorem write_refill {data : Bytes} (h : .write data ∈ t.refill) : t.Carries data := by
  obtain ⟨m, hm, hdata⟩ := List.mem_flatMap.1 h
  rw [write_transmission.1 hdata]
  exact carries_of_mem (List.mem_of_mem_drop (List.mem_of_mem_take hm))

theorem write_train {ms : List Message} {data : Bytes}
    (h : .write data ∈ Queue.trainActions c ms) : ∃ m ∈ ms, data = m.frame.bytes := by
  cases ms with
  | nil => cases h
  | cons m ms =>
    rcases List.mem_append.1 h with h | h
    · exact ⟨m, by simp, write_transmission.1 h⟩
    · obtain ⟨n, hn, hdata⟩ := List.mem_flatMap.1 h
      refine ⟨n, by simp [hn], write_transmission.1 ((List.mem_append.1 hdata).resolve_left ?_)⟩
      unfold Queue.pause
      split <;> simp

/-- The start writes the setup and cargo. -/
theorem write_opening {data : Bytes} (h : .write data ∈ t.opening c) :
    data = c.settings.ackSetup.frame.bytes ∨ t.Carries data := by
  unfold opening at h
  rcases List.mem_cons.1 h with h | h
  · cases h
  · split at h
    · obtain ⟨m, hm, rfl⟩ := write_train h
      exact .inr (carries_of_mem (List.mem_of_mem_drop hm))
    · rcases List.mem_cons.1 h with h | h
      · cases h
        exact .inl rfl
      · exact .inr (write_refill h)

theorem Move.write {i : Nat} {acts : List Action} {data : Bytes} (h : Move c t i acts u)
    (hdata : .write data ∈ acts) : t.Carries data := by
  cases h with
  | @settled m failure _ hm _ _ =>
    rcases List.mem_cons.1 hdata with hdata | hdata
    · cases hdata
    · obtain ⟨l, hl, rfl⟩ := write_refill hdata
      rw [show (t.settle i m failure).queue.cargo = t.queue.cargo from
        Queue.cargo_set hm rfl (m.located_settled failure)] at hl
      exact ⟨l, hl, rfl⟩
  | @sentAgain m _ hm _ _ _ =>
    have hagain : data = m.again.frame.bytes := write_transmission.1 hdata
    rw [hagain]
    exact carries_of_mem (m := m) (List.mem_of_getElem? hm)

theorem Moves.write {acts : List Action} {data : Bytes} (h : Moves c t acts u)
    (hdata : .write data ∈ acts) : t.Carries data := by
  induction h with
  | nil => cases hdata
  | cons hmove _ ih =>
    rcases List.mem_append.1 hdata with hdata | hdata
    · exact hmove.write hdata
    · obtain ⟨l, hl, rfl⟩ := ih hdata
      rw [hmove.cargo] at hl
      exact ⟨l, hl, rfl⟩

end Transfer

end GnssAiding
