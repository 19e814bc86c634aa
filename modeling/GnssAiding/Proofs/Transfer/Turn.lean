/-
Reasoning about turns.

`Turn.Yields x P` is total: the turn meets no fault and its result has `P`.
`Turn.Reports x P` is partial: every event reported has `P`, also where the
turn stops on a fault, since the actions before it are kept. `Turn.Comes x c`
stands between the two: it says what the turn does and what it comes to, unless
a deadline under `c` leaves the range of the clock. With deadlines that fit it is
total (`Comes.eq`), and of a turn that met no fault it holds whatever the clock
says (`Comes.eq_of_ok`); nothing else is done in any case (`Comes.subset`). `Turn.Runs` is
the same of a run of several turns.
-/
import GnssAiding.Proofs.Checked
import GnssAiding.Transfer.Turn

namespace GnssAiding

/-- The bytes that an action writes to the receiver. -/
def Action.written? : Action → Option Bytes
  | write data => some data
  | _ => none

theorem Action.mem_written {acts : List Action} {data : Bytes} :
    data ∈ acts.filterMap Action.written? ↔ .write data ∈ acts := by
  rw [List.mem_filterMap]
  constructor
  · rintro ⟨a, ha, hdata⟩
    cases a with
    | write data' =>
      cases hdata
      exact ha
    | wait millis => cases hdata
    | report e => cases hdata
  · intro h
    exact ⟨_, h, rfl⟩

/-- What is sent under this context has a deadline that the clock can show. -/
def Context.Fits (c : Context) : Prop := c.now + c.settings.timeout < Nat.pow 2 64

instance (c : Context) : Decidable c.Fits := inferInstanceAs (Decidable (_ < _))

namespace Turn

theorem deadline_eq {c : Context} (hc : c.Fits) :
    deadline c = ⟨[], .ok (c.now + c.settings.timeout)⟩ := by
  unfold Context.Fits at hc
  simp only [deadline, check, Checked.narrow, if_pos hc]

/-- A turn in two parts succeeds if both parts do. -/
theorem bind_eq_ok {α β} {x : Turn α} {f : α → Turn β} {acts : List Action} {b : β}
    (h : x >>= f = ⟨acts, .ok b⟩) :
    ∃ first a rest, x = ⟨first, .ok a⟩ ∧ f a = ⟨rest, .ok b⟩ ∧ acts = first ++ rest := by
  obtain ⟨first, r⟩ := x
  cases r with
  | error e => cases h
  | ok a =>
    rcases hf : f a with ⟨rest, r⟩
    rw [bind_ok, hf] at h
    cases h
    exact ⟨first, a, rest, rfl, hf, rfl⟩

/-- What a turn in two parts does is done by one of them. -/
theorem mem_bind {α β} {x : Turn α} {f : α → Turn β} {d : Action} :
    d ∈ (x >>= f).actions ↔ d ∈ x.actions ∨ ∃ a, x.result = .ok a ∧ d ∈ (f a).actions := by
  obtain ⟨acts, r⟩ := x
  cases r with
  | error e => simp [bind_error]
  | ok a => simp [bind_ok]

/-- What the second part does matters behind results of the first. -/
theorem bind_congr_ok {α β} {x : Turn α} {f g : α → Turn β}
    (h : ∀ a, x.result = .ok a → f a = g a) : x >>= f = x >>= g := by
  obtain ⟨acts, r⟩ := x
  cases r with
  | error e => rfl
  | ok a => rw [bind_ok, bind_ok, h a rfl]

/-- Of a run of turns it matters what each is for the elements that it is taken for. -/
theorem mapM_congr {α β} {f g : α → Turn β} {as : List α} (h : ∀ a ∈ as, f a = g a) :
    as.mapM f = as.mapM g := by
  induction as with
  | nil => rfl
  | cons a as ih =>
    rw [List.mapM_cons, List.mapM_cons, h a (by simp), ih fun b hb => h b (by simp [hb])]

/-! ## Turns that succeed -/

/-- The turn meets no fault, and its result has the property. -/
def Yields {α} (x : Turn α) (P : α → Prop) : Prop := ∃ acts a, x = ⟨acts, .ok a⟩ ∧ P a

theorem Yields.pure {α} {P : α → Prop} {a : α} (h : P a) : (Pure.pure a : Turn α).Yields P :=
  ⟨[], a, rfl, h⟩

theorem Yields.mono {α} {x : Turn α} {P Q : α → Prop} (hx : x.Yields P) (h : ∀ a, P a → Q a) :
    x.Yields Q := by
  obtain ⟨acts, a, rfl, ha⟩ := hx
  exact ⟨acts, a, rfl, h a ha⟩

theorem Yields.bind {α β} {x : Turn α} {f : α → Turn β} {P : α → Prop} {Q : β → Prop}
    (hx : x.Yields P) (hf : ∀ a, P a → (f a).Yields Q) : (x >>= f).Yields Q := by
  obtain ⟨acts, a, rfl, ha⟩ := hx
  obtain ⟨more, b, hb, hq⟩ := hf a ha
  rw [bind_ok, hb]
  exact ⟨acts ++ more, b, rfl, hq⟩

/-- What every turn of a fold keeps, the fold keeps. -/
theorem Yields.foldlM {α β} {f : β → α → Turn β} {I : β → Prop} {as : List α}
    (step : ∀ a ∈ as, ∀ b, I b → (f b a).Yields I) {b : β} (hb : I b) :
    (as.foldlM f b).Yields I := by
  induction as generalizing b with
  | nil => exact .pure hb
  | cons a as ih =>
    rw [List.foldlM_cons]
    exact (step a (by simp) b hb).bind fun b' hb' => ih (fun a' ha' => step a' (by simp [ha'])) hb'

/-! ## Turns up to the range of the clock -/

/-- The turn does `acts` and comes to `a`, unless a deadline does not fit and
it stops on that, with a part of `acts` done. -/
def Comes {α} (x : Turn α) (c : Context) (acts : List Action) (a : α) : Prop :=
  x = ⟨acts, .ok a⟩ ∨ ¬ c.Fits ∧ x.actions <+: acts ∧ ∃ e, x.result = .error e

section Comes

variable {α β : Type} {c : Context} {x : Turn α} {acts more : List Action} {a : α}

theorem Comes.eq (h : x.Comes c acts a) (hc : c.Fits) : x = ⟨acts, .ok a⟩ := by
  rcases h with h | ⟨hn, -⟩
  · exact h
  · exact absurd hc hn

theorem Comes.eq_of_ok (h : x.Comes c acts a) {b : α} (hb : x.result = .ok b) :
    x = ⟨acts, .ok a⟩ := by
  rcases h with h | ⟨-, -, e, he⟩
  · exact h
  · rw [he] at hb
    cases hb

/-- Whatever comes of the turn, it does nothing else. -/
theorem Comes.subset (h : x.Comes c acts a) : x.actions ⊆ acts := by
  rcases h with rfl | ⟨-, hpart, -⟩
  · exact List.Subset.refl acts
  · exact hpart.subset

theorem Comes.eq_result (h : x.Comes c acts a) {b : α} (hb : x.result = .ok b) : a = b := by
  rw [h.eq_of_ok hb] at hb
  exact Except.ok.inj hb

theorem Comes.pure (a : α) : (Pure.pure a : Turn α).Comes c [] a := .inl rfl

theorem Comes.act (d : Action) : (act d).Comes c [d] () := .inl rfl

theorem Comes.bind {f : α → Turn β} {b : β} (hx : x.Comes c acts a) (hf : (f a).Comes c more b) :
    (x >>= f).Comes c (acts ++ more) b := by
  rcases hx with rfl | ⟨hn, hpart, e, he⟩
  · rw [bind_ok]
    rcases hf with hf | ⟨hn, hpart, e, he⟩
    · rw [hf]
      exact .inl rfl
    · exact .inr ⟨hn, (List.prefix_append_right_inj acts).2 hpart, e, he⟩
  · obtain ⟨done, r⟩ := x
    subst he
    exact .inr ⟨hn, hpart.trans (List.prefix_append acts more), e, rfl⟩

/-- The first part does nothing to the host. -/
theorem Comes.nil_bind {f : α → Turn β} {b : β} (hx : x.Comes c [] a)
    (hf : (f a).Comes c more b) : (x >>= f).Comes c more b :=
  hx.bind hf

/-- The second part does nothing to the host. -/
theorem Comes.bind_nil {f : α → Turn β} {b : β} (hx : x.Comes c acts a)
    (hf : (f a).Comes c [] b) : (x >>= f).Comes c acts b := by
  have h := hx.bind hf
  rwa [List.append_nil] at h

/-- The first part is known. -/
theorem Comes.ok_bind {f : α → Turn β} {b : β} (hf : (f a).Comes c more b) :
    ((⟨acts, .ok a⟩ : Turn α) >>= f).Comes c (acts ++ more) b :=
  Comes.bind (.inl rfl) hf

/-- A turn that begins with an action. -/
theorem Comes.cons {d : Action} {f : Unit → Turn β} {b : β} (hf : (f ()).Comes c more b) :
    (Turn.act d >>= f).Comes c (d :: more) b :=
  (Comes.act d).bind hf

/-- A turn that begins with a check that holds. -/
theorem Comes.check {f : α → Turn β} {b : β} (h : (f a).Comes c acts b) :
    (Turn.check (.ok a) >>= f).Comes c acts b :=
  Comes.nil_bind (.inl rfl) h

/-- The last step of a turn, which only puts the result together. -/
theorem Comes.result {f : α → Turn β} {b : β} (hx : x.Comes c acts a)
    (hf : f a = Pure.pure b) : (x >>= f).Comes c acts b :=
  hx.bind_nil (.inl hf)

theorem deadline_comes (c : Context) :
    (deadline c).Comes c [] (c.now + c.settings.timeout) := by
  by_cases hc : c.Fits
  · exact .inl (deadline_eq hc)
  · refine .inr ⟨hc, List.prefix_refl [], .overflow, ?_⟩
    unfold Context.Fits at hc
    simp only [deadline, check, Checked.narrow, if_neg hc]

theorem mapM_comes {f : α → Turn β} {acts : α → List Action} {g : α → β} {as : List α}
    (h : ∀ a ∈ as, (f a).Comes c (acts a) (g a)) :
    (as.mapM f).Comes c (as.flatMap acts) (as.map g) := by
  induction as with
  | nil => exact .pure _
  | cons a as ih =>
    rw [List.mapM_cons, List.flatMap_cons, List.map_cons]
    exact (h a (by simp)).bind ((ih fun b hb => h b (by simp [hb])).result rfl)

end Comes

/-! ## Runs -/

/-- The same of several turns: they do `acts` and come to `a`, unless `fits` fails and
they stop on a fault, with a part of `acts` done. -/
def Runs {α} (x : Turn α) (fits : Prop) (acts : List Action) (a : α) : Prop :=
  x = ⟨acts, .ok a⟩ ∨ ¬ fits ∧ x.actions <+: acts ∧ ∃ e, x.result = .error e

section Runs

variable {α β ι : Type} {fits : Prop} {c : Context} {x : Turn α} {acts more : List Action} {a : α}

theorem Comes.runs (h : x.Comes c acts a) : x.Runs c.Fits acts a := h

theorem Runs.eq (h : x.Runs fits acts a) (hfits : fits) : x = ⟨acts, .ok a⟩ := by
  rcases h with h | ⟨hn, -⟩
  · exact h
  · exact absurd hfits hn

theorem Runs.eq_of_ok (h : x.Runs fits acts a) {b : α} (hb : x.result = .ok b) :
    x = ⟨acts, .ok a⟩ ∧ a = b := by
  rcases h with rfl | ⟨-, -, e, he⟩
  · exact ⟨rfl, Except.ok.inj hb⟩
  · rw [he] at hb
    cases hb

theorem Runs.actions_isPrefix (h : x.Runs fits acts a) : x.actions <+: acts := by
  rcases h with rfl | ⟨-, hpart, -⟩
  · exact List.prefix_refl acts
  · exact hpart

theorem Runs.bind {f : α → Turn β} {b : β} (hx : x.Runs fits acts a) (hf : (f a).Comes c more b) :
    (x >>= f).Runs (fits ∧ c.Fits) (acts ++ more) b := by
  rcases hx with rfl | ⟨hn, hpart, e, he⟩
  · rw [bind_ok]
    rcases hf with hf | ⟨hn, hpart, e, he⟩
    · rw [hf]
      exact .inl rfl
    · exact .inr ⟨fun h => hn h.2, (List.prefix_append_right_inj acts).2 hpart, e, he⟩
  · obtain ⟨done, r⟩ := x
    subst he
    exact .inr ⟨fun h => hn h.1, hpart.trans (List.prefix_append acts more), e, rfl⟩

/-- What holds of actions and state at first, and of more actions and the state behind
each turn, holds in the end; it may count the turns. -/
theorem Runs.foldlM_counted {f : α → ι → Turn α} {under : ι → Context}
    {I : Nat → List Action → α → Prop}
    (step : ∀ {k acts a} (i : ι), I k acts a →
      ∃ more b, (f a i).Comes (under i) more b ∧ I (k + 1) (acts ++ more) b)
    {k : Nat} (hx : x.Runs fits acts a) (h : I k acts a) (is : List ι) :
    ∃ all b, (x >>= fun a => is.foldlM f a).Runs (fits ∧ ∀ i ∈ is, (under i).Fits) all b ∧
      I (k + is.length) all b := by
  induction is generalizing x fits acts a k with
  | nil =>
    refine ⟨acts, a, ?_, h⟩
    simpa using hx
  | cons i is ih =>
    obtain ⟨more, b, hturn, hb⟩ := step i h
    obtain ⟨all, d, hrest, hd⟩ := ih (hx.bind (f := fun a => f a i) hturn) hb
    refine ⟨all, d, ?_, ?_⟩
    · simpa [and_assoc] using hrest
    · rwa [Nat.add_right_comm] at hd

theorem Runs.foldlM {f : α → ι → Turn α} {under : ι → Context} {I : List Action → α → Prop}
    (step : ∀ {acts a} (i : ι), I acts a →
      ∃ more b, (f a i).Comes (under i) more b ∧ I (acts ++ more) b)
    (hx : x.Runs fits acts a) (h : I acts a) (is : List ι) :
    ∃ all b, (x >>= fun a => is.foldlM f a).Runs (fits ∧ ∀ i ∈ is, (under i).Fits) all b ∧
      I all b :=
  Runs.foldlM_counted (I := fun _ => I) (k := 0) step hx h is

end Runs

/-! ## What a turn reports -/

/-- Every event that the turn reports has the property. -/
def Reports {α} (x : Turn α) (P : Event → Prop) : Prop := ∀ e, .report e ∈ x.actions → P e

section Reports

variable {α β : Type} {P : Event → Prop}

@[simp]
theorem reports_pure (a : α) : (Pure.pure a : Turn α).Reports P := by
  intro e he
  cases he

@[simp]
theorem reports_check (x : Except Fault α) : (check x).Reports P := by
  intro e he
  cases he

@[simp]
theorem reports_write (data : Bytes) : (write data).Reports P := by
  intro e he
  simp [write, act] at he

@[simp]
theorem reports_wait (millis : Nat) : (wait millis).Reports P := by
  intro e he
  simp [wait, act] at he

@[simp]
theorem reports_deadline (c : Context) : (deadline c).Reports P := reports_check _

@[simp]
theorem reports_report {e : Event} : (report e).Reports P ↔ P e := by
  simp [Reports, report, act]

@[simp]
theorem reports_bind {x : Turn α} {f : α → Turn β} :
    (x >>= f).Reports P ↔ x.Reports P ∧ ∀ a, x.result = .ok a → (f a).Reports P := by
  obtain ⟨acts, r⟩ := x
  cases r with
  | error e => simp [bind_error, Reports]
  | ok a => simp [bind_ok, Reports, or_imp, forall_and]

@[simp]
theorem reports_map {x : Turn α} {f : α → β} : (f <$> x).Reports P ↔ x.Reports P := by
  rw [map_eq_pure_bind, reports_bind]
  exact and_iff_left fun a _ => reports_pure _

theorem reports_mapM {f : α → Turn β} (h : ∀ a, (f a).Reports P) (as : List α) :
    (as.mapM f).Reports P := by
  induction as with
  | nil => exact reports_pure _
  | cons a as ih =>
    rw [List.mapM_cons, reports_bind]
    refine ⟨h a, fun b _ => ?_⟩
    rw [reports_bind]
    exact ⟨ih, fun bs _ => reports_pure _⟩

theorem Reports.events {x : Turn α} (h : x.Reports P) :
    ∀ e ∈ x.actions.filterMap Action.event?, P e := by
  intro e he
  obtain ⟨a, ha, hae⟩ := List.mem_filterMap.1 he
  cases a with
  | write data => cases hae
  | wait millis => cases hae
  | report e' =>
    cases hae
    exact h e ha

theorem result_bind_eq_ok {x : Turn α} {f : α → Turn β} {b : β} :
    (x >>= f).result = .ok b ↔ ∃ a, x.result = .ok a ∧ (f a).result = .ok b := by
  obtain ⟨acts, r⟩ := x
  cases r with
  | error e => simp [bind_error]
  | ok a => simp [bind_ok]

end Reports

end Turn

end GnssAiding
