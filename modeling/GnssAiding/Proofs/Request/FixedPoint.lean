/-
Decimal fractions say exactly which number they stand for.

The two parts of a fraction, read one behind the other as one number, give the number back
(`Parts`). No other number of decimals and no other number have the same text
(`Exact.unique`). What is rendered is exact (`exact_text`) wherever there is a decimal and the
number fits a signed word of 128 bits; without decimals a zero stands behind the point all the
same (`text_zero`), and larger numbers come out as zero, so there it is not
(`render_exact_iff`).
-/
import GnssAiding.Request.FixedPoint
import Mathlib.Data.List.Basic

namespace GnssAiding

/-! ## Digits -/

namespace Text

theorem ofDigits_eq (cs : List Char) : ofDigits cs = Nat.ofDigitChars 10 cs 0 := rfl

theorem ofDigits_append (xs ys : List Char) :
    ofDigits (xs ++ ys) = Nat.pow 10 ys.length * ofDigits xs + ofDigits ys := by
  rw [ofDigits_eq, Nat.ofDigitChars_append, Nat.ofDigitChars_eq_ofDigitChars_zero]
  rfl

theorem ofDigits_toDigits (n : Nat) : ofDigits (Nat.toDigits 10 n) = n :=
  Nat.ofDigitChars_ten_toDigits

theorem isDigit_of_mem_toDigits {n : Nat} {c : Char} (h : c ∈ Nat.toDigits 10 n) :
    isDigit c = true :=
  Nat.isDigit_of_mem_toDigits (by decide) (by decide) h

/-- Zero alone begins with a zero. -/
theorem head?_toDigits {n : Nat} (hn : 0 < n) : (Nat.toDigits 10 n).head? ≠ some '0' := by
  induction n using Nat.base_induction 10 (by decide) with
  | single n hlt =>
    rw [Nat.toDigits_of_lt_base hlt, List.head?_cons, ne_eq, Option.some.injEq,
      Nat.digitChar_eq_zero]
    omega
  | digit n d hd hpos ih =>
    rw [← Nat.toDigits_append_toDigits (by decide) hpos hd,
      List.head?_append_of_ne_nil _ Nat.toDigits_ne_nil]
    exact ih hpos

theorem ofDigits_padded (width : Nat) (cs : List Char) :
    ofDigits (padded width cs) = ofDigits cs := by
  rw [padded, ofDigits_append, ofDigits_eq (List.replicate _ _), Nat.ofDigitChars_replicate_zero,
    Nat.mul_zero, Nat.mul_zero, Nat.zero_add]

theorem length_padded {width : Nat} {cs : List Char} (h : cs.length ≤ width) :
    (padded width cs).length = width := by
  rw [padded, List.length_append, List.length_replicate]
  omega

theorem isDigit_of_mem_padded {width : Nat} {cs : List Char} (h : ∀ c ∈ cs, isDigit c = true) :
    ∀ c ∈ padded width cs, isDigit c = true := by
  intro c hc
  rcases List.mem_append.1 hc with hzero | hdigit
  · rw [List.eq_of_mem_replicate hzero]
    rfl
  · exact h c hdigit

end Text

namespace FixedPoint

open Text

/-! ## Exact fractions -/

/-- What stands in front of the digits of a number. -/
def sign (value : Int) : List Char := if value < 0 then ['-'] else []

/-- The digits before and behind the point of `value` divided by ten to the `decimals`. -/
structure Parts (value : Int) (decimals : Nat) (whole fraction : List Char) : Prop where
  isDigit_of_mem : ∀ c ∈ whole ++ fraction, isDigit c = true
  whole_ne_nil : whole ≠ []
  eq_zero_of_head? : whole.head? = some '0' → whole = ['0']
  length_fraction : fraction.length = decimals
  read : (if value < 0 then -(ofDigits (whole ++ fraction) : Int)
    else ofDigits (whole ++ fraction)) = value

/-- The text is `value` divided by ten to the `decimals`, written out with just as many
decimals. -/
def Exact (value : Int) (decimals : Nat) (s : String) : Prop :=
  ∃ whole fraction, Parts value decimals whole fraction ∧
    s.toList = sign value ++ whole ++ '.' :: fraction

section Parts

variable {value value' : Int} {decimals decimals' : Nat} {whole fraction : List Char} {s : String}

theorem Parts.point_notMem (h : Parts value decimals whole fraction) :
    '.' ∉ whole ∧ '.' ∉ fraction := by
  constructor
  · intro hmem
    exact absurd (h.isDigit_of_mem '.' (List.mem_append_left _ hmem)) (by decide)
  · intro hmem
    exact absurd (h.isDigit_of_mem '.' (List.mem_append_right _ hmem)) (by decide)

/-- A minus sign stands in front of the negative numbers only: the digits have none. -/
theorem Exact.negative_iff (h : Exact value decimals s) :
    value < 0 ↔ s.toList.head? = some '-' := by
  obtain ⟨whole, fraction, hparts, hs⟩ := h
  rw [hs, sign]
  split
  · next hneg => exact iff_of_true hneg rfl
  · next hneg =>
    refine iff_of_false hneg fun hhead => ?_
    rw [List.nil_append, List.head?_append_of_ne_nil _ hparts.whole_ne_nil] at hhead
    have hminus := hparts.isDigit_of_mem '-' (List.mem_append_left _ (List.mem_of_head? hhead))
    exact absurd hminus (by decide)

theorem Exact.mem (h : Exact value decimals s) {c : Char} (hc : c ∈ s.toList) :
    isDigit c = true ∨ c = '-' ∨ c = '.' := by
  obtain ⟨whole, fraction, hparts, hs⟩ := h
  rw [hs, List.mem_append, List.mem_append, List.mem_cons] at hc
  rcases hc with (hsign | hwhole) | rfl | hfraction
  · unfold sign at hsign
    split at hsign
    · exact .inr (.inl (List.mem_singleton.1 hsign))
    · cases hsign
  · exact .inl (hparts.isDigit_of_mem c (List.mem_append_left _ hwhole))
  · exact .inr (.inr rfl)
  · exact .inl (hparts.isDigit_of_mem c (List.mem_append_right _ hfraction))

/-- A text is exact for one number and one number of decimals only. -/
theorem Exact.unique (h : Exact value decimals s) (h' : Exact value' decimals' s) :
    value = value' ∧ decimals = decimals' := by
  have hneg : value < 0 ↔ value' < 0 := h.negative_iff.trans h'.negative_iff.symm
  obtain ⟨whole, fraction, hparts, hs⟩ := h
  obtain ⟨whole', fraction', hparts', hs'⟩ := h'
  have hsign : sign value = sign value' := by simp only [sign, hneg]
  rw [hs, hsign, List.append_assoc, List.append_assoc, List.append_cancel_left_eq,
    List.append_cons_inj_of_notMem hparts.point_notMem.1 hparts.point_notMem.2] at hs'
  obtain ⟨rfl, -, rfl⟩ := hs'
  refine ⟨?_, hparts.length_fraction.symm.trans hparts'.length_fraction⟩
  rw [← hparts.read, ← hparts'.read]
  simp only [hneg]

end Parts

/-! ## What is rendered -/

/-- With a decimal or more the text is exact. -/
theorem exact_text (value : Int) {decimals : Nat} (hd : 0 < decimals) :
    Exact value decimals (text value decimals) := by
  have hscale : 0 < Nat.pow 10 decimals := Nat.pow_pos (by decide)
  have hlength :
      (Nat.toDigits 10 (value.natAbs % Nat.pow 10 decimals)).length ≤ decimals :=
    (Nat.length_toDigits_le_iff (by decide) hd).2 (Nat.mod_lt _ hscale)
  refine ⟨Nat.toDigits 10 (value.natAbs / Nat.pow 10 decimals),
    padded decimals (Nat.toDigits 10 (value.natAbs % Nat.pow 10 decimals)), ?_,
    String.toList_ofList⟩
  constructor
  case isDigit_of_mem =>
    intro c hc
    rcases List.mem_append.1 hc with hwhole | hfraction
    · exact isDigit_of_mem_toDigits hwhole
    · exact isDigit_of_mem_padded (fun _ => isDigit_of_mem_toDigits) c hfraction
  case whole_ne_nil => exact Nat.toDigits_ne_nil
  case eq_zero_of_head? =>
    intro hhead
    rcases Nat.eq_zero_or_pos (value.natAbs / Nat.pow 10 decimals) with hzero | hpos
    · rw [hzero, Nat.toDigits_zero]
    · exact absurd hhead (head?_toDigits hpos)
  case length_fraction => exact length_padded hlength
  case read =>
    rw [ofDigits_append, ofDigits_padded, ofDigits_toDigits, ofDigits_toDigits,
      length_padded hlength, Nat.div_add_mod]
    split <;> omega

theorem text_inj {value value' : Int} {decimals : Nat} (hd : 0 < decimals)
    (h : text value decimals = text value' decimals) : value = value' :=
  ((exact_text value hd).unique (h ▸ exact_text value' hd)).1

/-- Without decimals there is a zero behind the point, as if one decimal had been asked for. -/
theorem text_zero (value : Int) : text value 0 = text (10 * value) 1 := by
  have hsign : 10 * value < 0 ↔ value < 0 := by omega
  have hwhole : (10 * value).natAbs / Nat.pow 10 1 = value.natAbs / Nat.pow 10 0 := by
    show (10 * value).natAbs / 10 = value.natAbs / 1
    omega
  have hfraction : (10 * value).natAbs % Nat.pow 10 1 = value.natAbs % Nat.pow 10 0 := by
    show (10 * value).natAbs % 10 = value.natAbs % 1
    omega
  have hnone : value.natAbs % Nat.pow 10 0 = 0 := Nat.mod_one _
  simp only [text, chars, hsign, hwhole, hfraction, hnone, Nat.toDigits_zero]
  rfl

/-! ## Words -/

/-- How many bits a word may have. -/
def widths : List Nat := [8, 16, 32, 64, 128]

/-- A word of so many bits holds the number. -/
def Holds (isSigned : Bool) (bits : Nat) (value : Int) : Prop :=
  if isSigned then -Nat.pow 2 (bits - 1) ≤ value ∧ value < Nat.pow 2 (bits - 1)
  else 0 ≤ value ∧ value < Nat.pow 2 bits

instance (isSigned : Bool) (bits : Nat) (value : Int) : Decidable (Holds isSigned bits value) :=
  inferInstanceAs (Decidable (ite _ _ _))

/-- No word reaches below the signed ones of 128 bits. -/
theorem Holds.lower {isSigned : Bool} {bits : Nat} {value : Int} (hbits : bits ∈ widths)
    (h : Holds isSigned bits value) : -Nat.pow 2 127 ≤ value := by
  have hle : bits ≤ 128 := (by decide : ∀ b ∈ widths, b ≤ 128) bits hbits
  have hpow : Nat.pow 2 (bits - 1) ≤ Nat.pow 2 127 :=
    Nat.pow_le_pow_right (by decide) (by omega)
  cases isSigned with
  | true =>
    have hlow : -(Nat.pow 2 (bits - 1) : Int) ≤ value := h.1
    omega
  | false =>
    have hlow : 0 ≤ value := h.1
    omega

/-- What does not fit a signed word of 128 bits is taken for zero. -/
theorem signed_eq_self_iff {value : Int} (h : -Nat.pow 2 127 ≤ value) :
    signed value = value ↔ value < Nat.pow 2 127 := by
  unfold signed
  split
  · next hfits => exact iff_of_true rfl hfits.2
  · next hfits =>
    refine ⟨?_, fun hlt => absurd ⟨h, hlt⟩ hfits⟩
    rintro rfl
    decide

/-- **When a fraction is exact.** A number in a word of any width has a text for up to 38
decimals. That is exact, with no zero too many and none too few, if there is a decimal and the
number fits a signed word of 128 bits, and is not exact otherwise. Without decimals it is that
of ten times the number with one; beyond the signed words it is that of zero. -/
theorem render_exact_iff {isSigned : Bool} {bits : Nat} {value : Int} {decimals : Nat}
    (hbits : bits ∈ widths) (hvalue : Holds isSigned bits value) (hd : decimals ≤ maxDecimals) :
    ∃ s, render value decimals = .ok s ∧
      (Exact value decimals s ↔ 0 < decimals ∧ value < Nat.pow 2 127) ∧
      (0 < decimals → Exact (signed value) decimals s) ∧
      (decimals = 0 → Exact (10 * signed value) 1 s) := by
  have hdecimals : 0 < decimals → Exact (signed value) decimals (text (signed value) decimals) :=
    exact_text (signed value)
  have hnone : decimals = 0 → Exact (10 * signed value) 1 (text (signed value) decimals) := by
    rintro rfl
    rw [text_zero]
    exact exact_text _ (by decide)
  refine ⟨_, if_pos hd, ⟨fun hexact => ?_, fun ⟨hpos, hfits⟩ => ?_⟩, hdecimals, hnone⟩
  · rcases Nat.eq_zero_or_pos decimals with hzero | hpos
    · -- One decimal has been written, not none.
      have hone := (hexact.unique (hnone hzero)).2
      omega
    · have hsame := (hexact.unique (hdecimals hpos)).1
      exact ⟨hpos, (signed_eq_self_iff (hvalue.lower hbits)).1 hsame.symm⟩
  · have hexact := hdecimals hpos
    rwa [(signed_eq_self_iff (hvalue.lower hbits)).2 hfits] at hexact ⊢

/-- The least number of 32 bits with seven decimals. -/
theorem render_exact_iff_least :
    Holds true 32 (-2147483648) ∧
      render (-2147483648) 7 = .ok "-214.7483648" ∧ Exact (-2147483648) 7 "-214.7483648" := by
  have hvalue : Holds true 32 (-2147483648) := by decide
  obtain ⟨s, hs, hexact, -⟩ := render_exact_iff (by decide) hvalue (by decide : 7 ≤ maxDecimals)
  have htext : render (-2147483648) 7 = .ok "-214.7483648" := by decide +kernel
  cases hs.symm.trans htext
  exact ⟨hvalue, htext, hexact.2 ⟨by decide, by decide⟩⟩

/-- Five without decimals gets one, and the first number that only an unsigned word of 128 bits
holds comes out as zero. -/
theorem render_inexact :
    (Holds false 8 5 ∧ render 5 0 = .ok "5.0" ∧ ¬ Exact 5 0 "5.0") ∧
      (Holds false 128 (Nat.pow 2 127) ∧ render (Nat.pow 2 127) 3 = .ok "0.000" ∧
        ¬ Exact (Nat.pow 2 127) 3 "0.000") := by
  have hfive : text (10 * 5) 1 = "5.0" := by decide +kernel
  have hzero : text 0 3 = "0.000" := by decide +kernel
  refine ⟨⟨by decide, by decide +kernel, fun h => ?_⟩, ⟨by decide, by decide +kernel, fun h => ?_⟩⟩
  · exact absurd (h.unique (hfive ▸ exact_text (10 * 5) (by decide))).1 (by decide)
  · exact absurd (h.unique (hzero ▸ exact_text 0 (by decide))).1 (by decide)

end FixedPoint

end GnssAiding
