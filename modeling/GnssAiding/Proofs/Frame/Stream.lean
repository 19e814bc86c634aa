/-
The frames of a stream and where they stand in it.

A string is a clean stream when splitting it leaves nothing, and its frames are then
those that splitting finds (`frames_eq_ok_iff`): it is these frames one behind the other,
and any other string is refused (`frames_eq_badData_iff`). Each frame is the slice of the
string at its offset (`slice_locate`), which the frames in front of it make up
(`getElem?_filter_locate`). Together they are no longer than the string.
-/
import GnssAiding.Frame.Stream

namespace GnssAiding

namespace Stream

/-- The frames of a clean stream are the frames at its front, and nothing is left. -/
theorem frames_eq_ok_iff {data : Bytes} {ls : List Located} :
    frames data = .ok ls ↔ (split data).2 = [] ∧ ls = locate 0 (split data).1 := by
  rcases hsplit : split data with ⟨fs, rest⟩
  cases rest with
  | nil => simp [frames, scan, hsplit, eq_comm]
  | cons b bs => simp [frames, scan, hsplit]

/-- Frames one behind the other are the frames of a clean stream. -/
theorem frames_flatMap (fs : List Frame) : frames (fs.flatMap Frame.bytes) = .ok (locate 0 fs) :=
  frames_eq_ok_iff.2 (by rw [split_flatMap]; exact ⟨rfl, rfl⟩)

/-- Whatever is not frames one behind the other is refused. -/
theorem frames_eq_badData_iff {data : Bytes} :
    frames data = .error .badData ↔ ¬ ∃ fs : List Frame, data = fs.flatMap Frame.bytes := by
  constructor
  · rintro h ⟨fs, rfl⟩
    rw [frames_flatMap] at h
    cases h
  · intro h
    have hleft : (split data).2 ≠ [] := by
      intro hnil
      refine h ⟨(split data).1, ?_⟩
      have hsplit := flatten_split data
      rw [hnil, List.append_nil] at hsplit
      exact hsplit.symm
    rcases hsplit : split data with ⟨fs, rest⟩
    cases rest with
    | nil => exact absurd (congrArg Prod.snd hsplit) hleft
    | cons b bs => simp [frames, scan, hsplit]

/-- What stands in a list with others in front of it is the first or is behind the first. -/
theorem exists_append_cons_eq_cons {α : Type} {a b : α} {as : List α} {P : List α → Prop} :
    (∃ before after, b :: as = before ++ a :: after ∧ P before) ↔
      b = a ∧ P [] ∨ ∃ before after, as = before ++ a :: after ∧ P (b :: before) := by
  constructor
  · rintro ⟨before, after, has, h⟩
    cases before with
    | nil => exact .inl ⟨(List.cons.inj has).1, h⟩
    | cons b' before =>
      obtain ⟨rfl, htail⟩ := List.cons.inj has
      exact .inr ⟨before, after, htail, h⟩
  · rintro (⟨rfl, h⟩ | ⟨before, after, rfl, h⟩)
    · exact ⟨[], as, rfl, h⟩
    · exact ⟨b :: before, after, rfl, h⟩

/-- Of the frames of some sort, the one with index `k` is the one with `k` of them in
front of it, and all that is in front of it makes up its offset. -/
theorem getElem?_filter_locate {want : Frame → Bool} {fs : List Frame} {offset k : Nat}
    {l : Located} :
    ((locate offset fs).filter fun l => want l.frame)[k]? = some l ↔
      ∃ before after, fs = before ++ l.frame :: after ∧ want l.frame = true ∧
        before.countP want = k ∧ l.offset = offset + (before.flatMap Frame.bytes).length := by
  induction fs generalizing offset k with
  | nil => simp [locate]
  | cons g fs ih =>
    rw [exists_append_cons_eq_cons, locate]
    simp only [List.flatMap_cons, List.length_append, g.length_bytes, ← Nat.add_assoc]
    by_cases hg : want g = true
    · have hfilter : (⟨offset, g⟩ :: locate (offset + g.length) fs).filter
          (fun l => want l.frame) =
            ⟨offset, g⟩ :: (locate (offset + g.length) fs).filter fun l => want l.frame :=
        List.filter_cons_of_pos hg
      have hcount : ∀ before, (g :: before).countP want = before.countP want + 1 :=
        fun before => List.countP_cons_of_pos hg
      rw [hfilter]
      cases k with
      | zero =>
        obtain ⟨place, f⟩ := l
        simp only [List.getElem?_cons_zero, Option.some.injEq, Located.mk.injEq, hcount,
          Nat.succ_ne_zero, false_and, and_false, exists_false, or_false]
        constructor
        · rintro ⟨rfl, rfl⟩
          exact ⟨rfl, hg, rfl, rfl⟩
        · rintro ⟨rfl, -, -, hplace⟩
          exact ⟨hplace.symm, rfl⟩
      | succ k => simp [ih, hcount]
    · have hfilter : (⟨offset, g⟩ :: locate (offset + g.length) fs).filter
          (fun l => want l.frame) =
            (locate (offset + g.length) fs).filter fun l => want l.frame :=
        List.filter_cons_of_neg hg
      have hcount : ∀ before, (g :: before).countP want = before.countP want :=
        fun before => List.countP_cons_of_neg hg
      have hfirst : ∀ {P : Prop}, ¬ (g = l.frame ∧ want l.frame = true ∧ P) :=
        fun h => hg (h.1 ▸ h.2.1)
      rw [hfilter, ih, or_iff_right hfirst]
      simp only [hcount]

/-- A frame with bytes in front of it and behind it stands where the ones in front end. -/
theorem slice_middle (front : Bytes) (f : Frame) (rest : Bytes) :
    Checked.slice (front ++ f.bytes ++ rest) front.length (front.length + f.length) =
      .ok f.bytes := by
  have hlen : f.bytes.length = f.length := f.length_bytes
  rw [Checked.slice, if_pos]
  · rw [Nat.add_sub_cancel_left, List.append_assoc, List.drop_left, ← hlen, List.take_left]
  · simp only [List.length_append]
    omega

/-- A frame behind other bytes stands at its offset, counted from their end on. -/
theorem slice_locate_after {front rest : Bytes} {fs : List Frame} {l : Located}
    (h : l ∈ locate front.length fs) :
    Checked.slice (front ++ fs.flatMap Frame.bytes ++ rest) l.offset
      (l.offset + l.frame.length) = .ok l.frame.bytes := by
  induction fs generalizing front with
  | nil => cases h
  | cons f fs ih =>
    rcases List.mem_cons.1 h with rfl | h
    · rw [List.flatMap_cons, ← List.append_assoc, List.append_assoc]
      exact slice_middle front f _
    · have hnext : l ∈ locate (front ++ f.bytes).length fs := by
        rwa [List.length_append, f.length_bytes]
      have := ih hnext
      rwa [List.append_assoc front] at this

/-- A frame of the data stands at its offset. -/
theorem slice_locate {data : Bytes} {l : Located} (h : l ∈ locate 0 (split data).1) :
    Checked.slice data l.offset (l.offset + l.frame.length) = .ok l.frame.bytes := by
  have := @slice_locate_after [] (split data).2 (split data).1 l h
  rwa [List.nil_append, flatten_split] at this

/-- The frames at the front of the data are no longer than the data. -/
theorem length_flatMap_split_le (data : Bytes) :
    ((split data).1.flatMap Frame.bytes).length ≤ data.length := by
  have hsplit := congrArg List.length (flatten_split data)
  rw [List.length_append] at hsplit
  omega

end Stream

end GnssAiding
