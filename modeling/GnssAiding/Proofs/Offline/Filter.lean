/-
The parts of offline data are exact and stable selections.

Each part is refused as bad if the data is no clean stream, and is otherwise made of just
those undamaged frames that are wanted, in order and byte for byte (`ExactFilter`). What one
day needs depends on the whole stream, by way of a date that is found in it. The date is found
again in what was selected for it, since the records there are of no other date
(`chosenDate_kept`); so a selection from a selection is the same selection.
-/
import GnssAiding.Proofs.Offline.Closest

namespace GnssAiding.Offline

/-- The undamaged frames of a stream that are wanted; that may depend on the whole stream. -/
def kept (want : List Frame → Frame → Bool) (fs : List Frame) : List Frame :=
  fs.filter fun f => f.intact && want fs f

/-- `extract` selects the undamaged frames that are wanted, in order, from any clean stream
that holds one; nothing changes when it is applied to what it has selected. -/
structure ExactFilter (extract : Bytes → Except Error Bytes) (want : List Frame → Frame → Bool) :
    Prop where
  badData : ∀ data, extract data = .error .badData ↔
    ¬ ∃ fs : List Frame, data = fs.flatMap Frame.bytes
  noDataToSend : ∀ data, extract data = .error .noDataToSend ↔
    ∃ fs : List Frame, data = fs.flatMap Frame.bytes ∧ kept want fs = []
  selected : ∀ data out, extract data = .ok out ↔
    ∃ fs : List Frame, data = fs.flatMap Frame.bytes ∧ kept want fs ≠ [] ∧
      out = (kept want fs).flatMap Frame.bytes
  again : ∀ data out, extract data = .ok out → extract out = .ok out

section Filters

variable {extract : Bytes → Except Error Bytes} {want : List Frame → Frame → Bool}

theorem mem_kept {fs : List Frame} {f : Frame} :
    f ∈ kept want fs ↔ f ∈ fs ∧ f.intact = true ∧ want fs f = true := by
  rw [kept, List.mem_filter, Bool.and_eq_true]

/-- Nothing is left to drop if what was kept is still wanted in its own company. -/
theorem kept_kept {fs : List Frame} (h : ∀ f ∈ kept want fs, want (kept want fs) f = true) :
    kept want (kept want fs) = kept want fs :=
  List.filter_eq_self.2 fun f hf => Bool.and_eq_true_iff.2 ⟨(mem_kept.1 hf).2.1, h f hf⟩

/-- What a selection comes to on frames one behind the other. -/
def outcome (fs : List Frame) : Except Error Bytes :=
  if fs = [] then .error .noDataToSend else .ok (fs.flatMap Frame.bytes)

theorem outcome_eq_noDataToSend_iff {fs : List Frame} :
    outcome fs = .error .noDataToSend ↔ fs = [] := by
  cases fs with
  | nil => simp [outcome]
  | cons f fs => simp [outcome]

theorem outcome_eq_ok_iff {fs : List Frame} {out : Bytes} :
    outcome fs = .ok out ↔ fs ≠ [] ∧ out = fs.flatMap Frame.bytes := by
  cases fs with
  | nil => simp [outcome]
  | cons f fs => simp [outcome, eq_comm]

theorem outcome_ne_badData (fs : List Frame) : outcome fs ≠ .error .badData := by
  cases fs with
  | nil => simp [outcome]
  | cons f fs => simp [outcome]

/-- A selection from any clean stream, refused on all other data, is exact; it is stable if it
is stable on frames. -/
theorem ExactFilter.of_outcome
    (hbad : ∀ data, Stream.frames data = .error .badData → extract data = .error .badData)
    (hclean : ∀ fs : List Frame, extract (fs.flatMap Frame.bytes) = outcome (kept want fs))
    (hagain : ∀ fs, kept want (kept want fs) = kept want fs) : ExactFilter extract want := by
  have hrefused : ∀ data, (¬ ∃ fs : List Frame, data = fs.flatMap Frame.bytes) →
      extract data = .error .badData :=
    fun data h => hbad data (Stream.frames_eq_badData_iff.2 h)
  -- Whatever else comes out comes of a clean stream.
  have hiff : ∀ data r, r ≠ .error .badData → (extract data = r ↔
      ∃ fs : List Frame, data = fs.flatMap Frame.bytes ∧ outcome (kept want fs) = r) := by
    intro data r hr
    constructor
    · intro h
      by_cases hstream : ∃ fs : List Frame, data = fs.flatMap Frame.bytes
      · obtain ⟨fs, rfl⟩ := hstream
        exact ⟨fs, rfl, (hclean fs).symm.trans h⟩
      · exact absurd (h.symm.trans (hrefused data hstream)) hr
    · rintro ⟨fs, rfl, h⟩
      exact (hclean fs).trans h
  have hselected : ∀ data out, extract data = .ok out ↔
      ∃ fs : List Frame, data = fs.flatMap Frame.bytes ∧ kept want fs ≠ [] ∧
        out = (kept want fs).flatMap Frame.bytes := by
    intro data out
    rw [hiff data _ (by simp)]
    simp only [outcome_eq_ok_iff]
  constructor
  case badData =>
    refine fun data => ⟨?_, hrefused data⟩
    rintro h ⟨fs, rfl⟩
    exact outcome_ne_badData _ ((hclean fs).symm.trans h)
  case noDataToSend =>
    intro data
    rw [hiff data _ (by simp)]
    simp only [outcome_eq_noDataToSend_iff]
  case selected => exact hselected
  case again =>
    intro data out h
    obtain ⟨fs, -, hne, rfl⟩ := (hselected data out).1 h
    rw [hclean, hagain]
    exact outcome_eq_ok_iff.2 ⟨hne, rfl⟩

end Filters

/-! ## Almanacs and records -/

theorem select_of_badData {data : Bytes} (h : Stream.frames data = .error .badData)
    (want : Frame → Bool) : select want data = .error .badData := by
  simp only [select, h, bind, Except.bind]

theorem select_flatMap (want : Frame → Bool) (fs : List Frame) :
    select want (fs.flatMap Frame.bytes) = outcome (fs.filter fun f => f.intact && want f) := by
  have hs := Stream.split_flatMap fs
  by_cases hne : fs.filter (fun f => f.intact && want f) = []
  · simp only [select, frames_of_split hs, bind, Except.bind, Stream.map_frame_locate, hne,
      outcome, if_true]
  · rw [select_eq hs hne, outcome, if_neg hne]

/-- A selection that goes by each frame alone. -/
theorem select_exactFilter (want : Frame → Bool) : ExactFilter (select want) fun _ => want :=
  .of_outcome (fun _ h => select_of_badData h want) (select_flatMap want)
    fun _ => kept_kept fun _ hf => (mem_kept.1 hf).2.2

/-! ## One day -/

/-- The frame is a record of a date that exists, for an hour that exists. -/
def DatedOn (date : Date) (f : Frame) : Prop := date.Valid ∧ NamesDay date f ∧ recordHour f < 24

instance (date : Date) (f : Frame) : Decidable (DatedOn date f) :=
  inferInstanceAs (Decidable (_ ∧ _ ∧ _))

/-- The frame is an almanac, or a record of the date if there is one. -/
def wantedOn (date : Option Date) (f : Frame) : Bool :=
  isAlmanac f || date.any fun d => decide (DatedOn d f)

/-- The date of the record nearest to the midnight at which `date` begins. -/
def chosenDate (date : Date) (fs : List Frame) : Option Date :=
  (nearest? (.midnight date) (fs.filterMap recordTime?)).map (·.date)

theorem wantedOn_iff {date : Option Date} {f : Frame} :
    wantedOn date f = true ↔ isAlmanac f = true ∨ ∃ d, date = some d ∧ DatedOn d f := by
  cases date <;> simp [wantedOn]

theorem neededOn_eq_wantedOn (target : Option Moment) (f : Frame) :
    neededOn target f = wantedOn (target.map (·.date)) f := by
  rw [Bool.eq_iff_iff, neededOn_iff, wantedOn_iff]
  cases target <;> simp [DatedOn]

/-- A record without a time is of no date. -/
theorem recordTime?_eq_none_iff {f : Frame} : recordTime? f = none ↔ ∀ d, ¬ DatedOn d f := by
  constructor
  · rintro h d ⟨hvalid, hday, hhour⟩
    rw [recordTime?_of_namesDay hvalid hday hhour] at h
    cases h
  · intro h
    cases htime : recordTime? f with
    | none => rfl
    | some t =>
      obtain ⟨hvalid, hday, hhour, -⟩ := recordTime?_eq_some_iff.1 htime
      exact absurd ⟨hvalid, hday, hhour⟩ (h t.date)

/-- A date is chosen if some record is of one. -/
theorem chosenDate_eq_none_iff {date : Date} {fs : List Frame} :
    chosenDate date fs = none ↔ ∀ f ∈ fs, ∀ d, ¬ DatedOn d f := by
  simp only [chosenDate, Option.map_eq_none_iff, nearest?_eq_argmin, List.argmin_eq_none,
    List.filterMap_eq_nil_iff, recordTime?_eq_none_iff]

/-- The chosen date is that of a record. -/
theorem datedOn_of_chosenDate {date d : Date} {fs : List Frame}
    (h : chosenDate date fs = some d) : ∃ f ∈ fs, DatedOn d f := by
  obtain ⟨t, ht, rfl⟩ := Option.map_eq_some_iff.1 h
  obtain ⟨f, hf, htime⟩ := List.mem_filterMap.1 (nearest?_eq_some_iff.1 ht).mem
  obtain ⟨hvalid, hday, hhour, -⟩ := recordTime?_eq_some_iff.1 htime
  exact ⟨f, hf, hvalid, hday, hhour⟩

/-- A date is found among frames of which one is dated, and it is `d` if none is of another
date. -/
theorem chosenDate_of_forall {date d : Date} {fs : List Frame} {f : Frame} (hf : f ∈ fs)
    (hd : DatedOn d f) (hall : ∀ g ∈ fs, ∀ e, DatedOn e g → e = d) :
    chosenDate date fs = some d := by
  cases hchosen : chosenDate date fs with
  | none => exact absurd hd (chosenDate_eq_none_iff.1 hchosen f hf d)
  | some e =>
    obtain ⟨g, hg, he⟩ := datedOn_of_chosenDate hchosen
    rw [hall g hg e he]

/-- The date is chosen again among the frames kept for it. -/
theorem chosenDate_kept {date d : Date} {fs : List Frame} {f : Frame}
    (hchosen : chosenDate date fs = some d)
    (hf : f ∈ kept (fun fs => wantedOn (chosenDate date fs)) fs) (hd : DatedOn d f) :
    chosenDate date (kept (fun fs => wantedOn (chosenDate date fs)) fs) = some d := by
  refine chosenDate_of_forall hf hd fun g hg e he => ?_
  rcases wantedOn_iff.1 (mem_kept.1 hg).2.2 with halm | ⟨d', hd', hg'⟩
  · rw [not_isAlmanac_of_namesDay he.2.1] at halm
    cases halm
  · cases hchosen.symm.trans hd'
    exact he.2.1.unique hg'.2.1

theorem day_of_badData {data : Bytes} (h : Stream.frames data = .error .badData) (date : Date) :
    day date data = .error .badData := by
  simp only [day, h, bind, Except.bind]

theorem day_flatMap (date : Date) (fs : List Frame) :
    day date (fs.flatMap Frame.bytes) =
      outcome (kept (fun fs => wantedOn (chosenDate date fs)) fs) := by
  rw [day_eq (Stream.split_flatMap fs), select_flatMap]
  simp only [neededOn_eq_wantedOn]
  rfl

theorem day_exactFilter (date : Date) :
    ExactFilter (day date) fun fs => wantedOn (chosenDate date fs) := by
  refine .of_outcome (fun _ h => day_of_badData h date) (day_flatMap date) fun fs =>
    kept_kept fun f hf => wantedOn_iff.2 ?_
  rcases wantedOn_iff.1 (mem_kept.1 hf).2.2 with halm | ⟨d, hchosen, hd⟩
  · exact .inl halm
  · exact .inr ⟨d, chosenDate_kept hchosen hf hd, hd⟩

/-- **Extracts are exact and stable.** The almanacs, the orbit records and what one day needs
are refused as bad just where the data is no clean stream, and are nothing to send just where
nothing is kept of it. Otherwise they are the undamaged frames of the stream that are almanacs,
that are records, or that are almanacs or records of the one chosen date; and they are their
own extracts. A date is chosen wherever a record has one. -/
theorem extracts_exact :
    ExactFilter almanacs (fun _ => isAlmanac) ∧ ExactFilter records (fun _ => isRecord) ∧
      ∀ date, ExactFilter (day date) (fun fs => wantedOn (chosenDate date fs)) ∧
        ∀ fs, (∀ d, chosenDate date fs = some d → ∃ f ∈ fs, DatedOn d f) ∧
          (chosenDate date fs = none ↔ ∀ f ∈ fs, ∀ d, ¬ DatedOn d f) := by
  refine ⟨select_exactFilter isAlmanac, select_exactFilter isRecord, fun date => ?_⟩
  exact ⟨day_exactFilter date, fun fs =>
    ⟨fun d => datedOn_of_chosenDate, chosenDate_eq_none_iff⟩⟩

/-- An almanac between records of two days, of which the first is damaged. -/
def withAlmanac : List Frame :=
  [damaged (january 5 0), .sealed MessageClass.mga MgaId.gps [2, 0] (by simp), january 4 0,
    january 5 0]

/-- The almanac and the undamaged record of the fifth, and the same once more. -/
theorem extracts_exact_withAlmanac :
    chosenDate ⟨2024, 1, 5⟩ withAlmanac = some ⟨2024, 1, 5⟩ ∧
      day ⟨2024, 1, 5⟩ (withAlmanac.flatMap Frame.bytes) =
        .ok ((withAlmanac.eraseIdx 2).tail.flatMap Frame.bytes) ∧
      day ⟨2024, 1, 5⟩ ((withAlmanac.eraseIdx 2).tail.flatMap Frame.bytes) =
        .ok ((withAlmanac.eraseIdx 2).tail.flatMap Frame.bytes) := by
  have hexact := (extracts_exact.2.2 ⟨2024, 1, 5⟩).1
  have hday := (hexact.selected _ _).2
    ⟨withAlmanac, rfl, by decide +kernel, rfl⟩
  have hkept : kept (fun fs => wantedOn (chosenDate ⟨2024, 1, 5⟩ fs)) withAlmanac =
      (withAlmanac.eraseIdx 2).tail := by
    decide +kernel
  rw [hkept] at hday
  exact ⟨by decide +kernel, hday, hexact.again _ _ hday⟩

end GnssAiding.Offline
