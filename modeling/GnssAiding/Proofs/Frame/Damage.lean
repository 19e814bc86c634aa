/-
What the checksum of a frame catches.

The first sum tells a byte from any other in its place, the second one tells two bytes from
the same two the other way round (`Checksum.a_replace_ne`, `Checksum.b_swap_ne`). The
checksum stands behind what it is taken over, so damage may hit it too, or fall on the border
between the two; there the second sum settles it as well. So no string that ends with its own
checksum turns into another one by such damage (`Checksum.not_damaged_append`), and since the
sync characters are fixed, no frame turns into another one (`damaged_rejected`). A damaged
length needs no case of its own: the string keeps its length, so what is read in its place is a
frame with as long a payload.
-/
import GnssAiding.Proofs.Frame.Codec

namespace GnssAiding

/-- One byte is another one, or two neighbours that differ have changed places. -/
inductive Bytes.Damaged : Bytes → Bytes → Prop
  | replaced (before after : Bytes) {x y : UInt8} (h : x ≠ y) :
    Damaged (before ++ x :: after) (before ++ y :: after)
  | swapped (before after : Bytes) {x y : UInt8} (h : x ≠ y) :
    Damaged (before ++ x :: y :: after) (before ++ y :: x :: after)

namespace Bytes.Damaged

variable {s t : Bytes}

/-- Damage is not in a byte that both strings begin with. -/
theorem of_cons {b : UInt8} (h : Damaged (b :: s) (b :: t)) : Damaged s t := by
  generalize hs : b :: s = s' at h
  generalize ht : b :: t = t' at h
  cases h with
  | replaced before after hxy =>
    cases before with
    | nil =>
      cases hs
      cases ht
      exact absurd rfl hxy
    | cons c before =>
      cases hs
      cases ht
      exact .replaced before after hxy
  | swapped before after hxy =>
    cases before with
    | nil =>
      cases hs
      cases ht
      exact absurd rfl hxy
    | cons c before =>
      cases hs
      cases ht
      exact .swapped before after hxy

theorem cons (b : UInt8) (h : Damaged s t) : Damaged (b :: s) (b :: t) := by
  cases h with
  | replaced before after hxy => exact .replaced (b :: before) after hxy
  | swapped before after hxy => exact .swapped (b :: before) after hxy

/-- A byte is replaced at its place. -/
theorem set {i : Nat} {b : UInt8} (hi : i < s.length) (hb : s[i]? ≠ some b) :
    Damaged s (s.set i b) := by
  have hcut : ∃ before after, s = before ++ s[i] :: after ∧ before.length = i ∧
      s.set i b = before ++ b :: after := List.exists_of_set hi
  obtain ⟨before, after, hs, -, hset⟩ := hcut
  have hne : s[i] ≠ b := fun h => hb (by rw [List.getElem?_eq_getElem hi, h])
  generalize s[i] = x at hs hne
  rw [hset, hs]
  exact .replaced before after hne

/-- Two neighbours change places at theirs. -/
theorem swap {i : Nat} {x y : UInt8} (hx : s[i]? = some x) (hy : s[i + 1]? = some y)
    (h : x ≠ y) : Damaged s ((s.set i y).set (i + 1) x) := by
  induction s generalizing i with
  | nil => cases hx
  | cons b s ih =>
    cases i with
    | zero =>
      cases hx
      obtain ⟨after, rfl⟩ := List.head?_eq_some_iff.1 (List.head?_eq_getElem?.trans hy)
      exact .swapped [] after h
    | succ i => exact (ih hx hy).cons b

end Bytes.Damaged

namespace Checksum

/-! ## The two sums -/

variable {c d : Checksum} {x y : UInt8}

/-- First sums that differ stay different, whatever follows. -/
theorem a_foldl_push_inj {data : Bytes} (h : (data.foldl push c).a = (data.foldl push d).a) :
    c.a = d.a := by
  induction data generalizing c d with
  | nil => exact h
  | cons byte data ih => exact (UInt8.add_left_inj byte).1 (ih h)

/-- Where the first sums are the same, second sums that differ stay different. -/
theorem b_foldl_push_inj {data : Bytes} (ha : c.a = d.a)
    (h : (data.foldl push c).b = (data.foldl push d).b) : c.b = d.b := by
  induction data generalizing c d with
  | nil => exact h
  | cons byte data ih =>
    have hnext : (c.push byte).a = (d.push byte).a := congrArg (· + byte) ha
    have hb : c.b + (c.a + byte) = d.b + (d.a + byte) := ih hnext h
    rw [ha] at hb
    exact (UInt8.add_left_inj _).1 hb

/-- The first sum tells what stands in one place. -/
theorem a_replace_ne (h : x ≠ y) (before after : Bytes) :
    (of (before ++ x :: after)).a ≠ (of (before ++ y :: after)).a := by
  intro ha
  simp only [of, List.foldl_append, List.foldl_cons] at ha
  exact h ((UInt8.add_right_inj _).1 (a_foldl_push_inj ha))

/-- The second sum tells which of two bytes comes first. -/
theorem b_swap_ne (h : x ≠ y) (before after : Bytes) :
    (of (before ++ x :: y :: after)).b ≠ (of (before ++ y :: x :: after)).b := by
  intro hb
  simp only [of, List.foldl_append, List.foldl_cons] at hb
  generalize before.foldl push ⟨0, 0⟩ = c at hb
  have ha : ((c.push x).push y).a = ((c.push y).push x).a := by
    simp only [push, UInt8.add_assoc, UInt8.add_comm x]
  have hboth : c.b + (c.a + x) + (c.a + x + y) = c.b + (c.a + y) + (c.a + y + x) :=
    b_foldl_push_inj ha hb
  rw [show c.a + x + y = c.a + y + x from ha, UInt8.add_left_inj, UInt8.add_right_inj,
    UInt8.add_right_inj] at hboth
  exact h hboth

/-! ## Strings that end with their checksum -/

/-- The second sum takes in the first one last. -/
theorem of_concat (data : Bytes) (x : UInt8) :
    of (data ++ [x]) = ⟨(of data).a + x, (of data).b + ((of data).a + x)⟩ := by
  simp only [of, List.foldl_append, List.foldl_cons, List.foldl_nil, push]

theorem append_eq_append_iff {data front : Bytes} {p q : UInt8} :
    append data = front ++ [p, q] ↔ data = front ∧ of data = ⟨p, q⟩ := by
  unfold append
  constructor
  · intro h
    obtain ⟨hfront, hsums⟩ := List.append_inj' h rfl
    exact ⟨hfront, bytes_inj.1 hsums⟩
  · rintro ⟨rfl, hsums⟩
    rw [hsums]
    rfl

/-- In front of the last byte stands the first sum. -/
theorem exists_concat {data before : Bytes} {x : UInt8} (h : append data = before ++ [x]) :
    ∃ front p, before = front ++ [p] := by
  rcases List.eq_nil_or_concat before with rfl | ⟨front, p, rfl⟩
  · have hlength := congrArg List.length h
    simp [append, bytes] at hlength
  · exact ⟨front, p, by simp⟩

/-- A string has at most one byte, or two at its end. -/
theorem cases_end (after : Bytes) :
    after = [] ∨ (∃ q, after = [q]) ∨ ∃ middle p q, after = middle ++ [p, q] := by
  rcases List.eq_nil_or_concat after with rfl | ⟨init, q, rfl⟩
  · exact .inl rfl
  rcases List.eq_nil_or_concat init with rfl | ⟨middle, p, rfl⟩
  · exact .inr (.inl ⟨q, rfl⟩)
  · exact .inr (.inr ⟨middle, p, q, by simp⟩)

/-- Damage does not turn a string that ends with its checksum into another one. -/
theorem not_damaged_append (data other : Bytes) :
    ¬ Bytes.Damaged (append data) (append other) := by
  intro h
  generalize hs : append data = s at h
  generalize ht : append other = t at h
  cases h with
  | @replaced before after x y hxy =>
    rcases cases_end after with rfl | ⟨q, rfl⟩ | ⟨middle, p, q, rfl⟩
    · obtain ⟨front, p, rfl⟩ := exists_concat hs
      rw [List.append_assoc] at hs ht
      obtain ⟨rfl, hdata⟩ := append_eq_append_iff.1 hs
      obtain ⟨rfl, hother⟩ := append_eq_append_iff.1 ht
      exact hxy (congrArg Checksum.b (hdata.symm.trans hother))
    · obtain ⟨rfl, hdata⟩ := append_eq_append_iff.1 hs
      obtain ⟨rfl, hother⟩ := append_eq_append_iff.1 ht
      exact hxy (congrArg Checksum.a (hdata.symm.trans hother))
    · rw [← List.cons_append, ← List.append_assoc] at hs ht
      obtain ⟨rfl, hdata⟩ := append_eq_append_iff.1 hs
      obtain ⟨rfl, hother⟩ := append_eq_append_iff.1 ht
      exact a_replace_ne hxy before middle (congrArg Checksum.a (hdata.trans hother.symm))
  | @swapped before after x y hxy =>
    rcases cases_end after with rfl | ⟨q, rfl⟩ | ⟨middle, p, q, rfl⟩
    · obtain ⟨rfl, hdata⟩ := append_eq_append_iff.1 hs
      obtain ⟨rfl, hother⟩ := append_eq_append_iff.1 ht
      exact hxy (congrArg Checksum.a (hdata.symm.trans hother))
    · rw [List.append_cons] at hs ht
      obtain ⟨rfl, hdata⟩ := append_eq_append_iff.1 hs
      obtain ⟨rfl, hother⟩ := append_eq_append_iff.1 ht
      rw [of_concat, Checksum.mk.injEq] at hdata hother
      -- Here each sum by itself can be right by chance.
      have hb := hdata.2.trans hother.2.symm
      rw [UInt8.add_right_inj, UInt8.add_right_inj] at hb
      exact hxy hb
    · rw [← List.cons_append, ← List.cons_append, ← List.append_assoc] at hs ht
      obtain ⟨rfl, hdata⟩ := append_eq_append_iff.1 hs
      obtain ⟨rfl, hother⟩ := append_eq_append_iff.1 ht
      exact b_swap_ne hxy before middle (congrArg Checksum.b (hdata.trans hother.symm))

end Checksum

namespace Frame

theorem bytes_of_intact {f : Frame} (h : f.intact = true) :
    f.bytes = sync1 :: sync2 :: Checksum.append f.body := by
  rw [Checksum.append, intact_iff.1 h]
  rfl

/-- What is left of an intact frame when it has been damaged is no frame. -/
theorem parse?_of_damaged {f : Frame} {data : Bytes} (hf : f.intact = true)
    (h : Bytes.Damaged f.bytes data) : parse? data = none := by
  rw [Option.eq_none_iff_forall_ne_some]
  intro g hg
  obtain ⟨hintact, rfl⟩ := parse?_eq_some_iff.1 hg
  rw [bytes_of_intact hf, bytes_of_intact hintact] at h
  exact Checksum.not_damaged_append _ _ h.of_cons.of_cons

/-- **A frame with one byte replaced, or with two neighbours that differ exchanged, is no
frame**, wherever that is: in the sync characters, the header, the payload or the checksum, or
on the border of two of them. The frame itself is one. -/
theorem damaged_rejected {cls id : UInt8} {payload : Bytes} {f : Frame}
    (h : build cls id payload = .ok f) :
    parse? f.bytes = some f ∧
      (∀ (i : Nat) (b : UInt8), i < f.bytes.length → f.bytes[i]? ≠ some b →
        parse? (f.bytes.set i b) = none) ∧
      ∀ (i : Nat) (x y : UInt8), f.bytes[i]? = some x → f.bytes[i + 1]? = some y → x ≠ y →
        parse? ((f.bytes.set i y).set (i + 1) x) = none := by
  obtain ⟨-, -, -, hintact⟩ := build_eq_ok h
  exact ⟨parse?_bytes hintact, fun i b hi hb => parse?_of_damaged hintact (.set hi hb),
    fun i x y hx hy hxy => parse?_of_damaged hintact (.swap hx hy hxy)⟩

/-- The answer of a receiver to a block of a legacy file: its payload turned into a refusal,
and its payload exchanged with the checksum behind it. -/
theorem damaged_rejected_legacyAck :
    let ack : Bytes := [0xB5, 0x62, 0x0B, 0x50, 0x01, 0x00, 0x01, 0x5D, 0x7B]
    (∃ f, build MessageClass.aid AidId.alp [1] = .ok f ∧ f.bytes = ack) ∧
      parse? [0xB5, 0x62, 0x0B, 0x50, 0x01, 0x00, 0x00, 0x5D, 0x7B] = none ∧
      parse? [0xB5, 0x62, 0x0B, 0x50, 0x01, 0x00, 0x5D, 0x01, 0x7B] = none := by
  intro ack
  have hbuild : build MessageClass.aid AidId.alp [1] = .ok (sealed _ _ [1] (by decide)) := rfl
  obtain ⟨-, hset, hswap⟩ := damaged_rejected hbuild
  exact ⟨⟨_, hbuild, rfl⟩, hset 6 0x00 (by decide) (by decide),
    hswap 6 0x01 0x5D rfl rfl (by decide)⟩

end Frame

end GnssAiding
