/-
Writing and reading a frame are inverse to each other.

What is read as a frame is the bytes of an intact one, and of no other (`parse?_eq_some_iff`).
The checksum of an intact frame follows from the rest, so building from its class, id and
payload gives the frame again (`build_of_intact`). A buffer that holds something already
gets the same bytes appended (`put_eq`): the checksum is taken from where the frame begins
in it. Beyond the longest payload nothing is built and a buffer stays as it is.
-/
import GnssAiding.Frame.Basic

namespace GnssAiding

theorem Checksum.bytes_inj {c d : Checksum} : c.bytes = d.bytes ↔ c = d := by
  obtain ⟨a, b⟩ := c
  obtain ⟨a', b'⟩ := d
  simp [bytes]

namespace Frame

/-! ## Reading -/

theorem bytes_injective {f g : Frame} (h : f.bytes = g.bytes) : f = g := by
  have hf := f.take?_bytes []
  rw [h, g.take?_bytes] at hf
  cases hf
  rfl

theorem intact_iff {f : Frame} : f.intact = true ↔ Checksum.of f.body = f.checksum := by
  rw [intact, beq_iff_eq]

theorem parse?_bytes {f : Frame} (h : f.intact = true) : parse? f.bytes = some f := by
  have htake := take?_bytes f []
  rw [List.append_nil] at htake
  simp only [parse?, htake, if_pos h]

/-- What is read as a frame is the bytes of an intact one. -/
theorem parse?_eq_some_iff {data : Bytes} {f : Frame} :
    parse? data = some f ↔ f.intact = true ∧ data = f.bytes := by
  constructor
  · intro h
    unfold parse? at h
    split at h
    · next g htake =>
      split at h
      · next hg =>
        cases h
        exact ⟨hg, by rw [eq_of_take? htake, List.append_nil]⟩
      · cases h
    · cases h
  · rintro ⟨hf, rfl⟩
    exact parse?_bytes hf

/-- The length field tells the length of the payload. -/
theorem toNat_payloadLength (f : Frame) : f.header.payloadLength.toNat = f.payload.length := by
  have := f.fits
  simp only [header, UInt16.toNat_ofNat']
  omega

theorem length_body (f : Frame) : f.body.length = f.payload.length + 4 := by
  simp only [body, List.cons_append, List.length_cons, List.length_append, Bytes.length_le16]
  omega

/-- A frame is intact if what follows its sync characters ends with its checksum. -/
theorem verify_drop_bytes (f : Frame) : Checksum.verify (f.bytes.drop 2) = f.intact := by
  have hdrop : f.bytes.drop 2 = f.body ++ f.checksum.bytes := rfl
  have hlen : (f.body ++ f.checksum.bytes).length = f.body.length + 2 := List.length_append
  have hlong : 6 ≤ f.body.length + 2 := by
    rw [length_body]
    omega
  rw [hdrop, Checksum.verify, hlen, Nat.add_sub_cancel, List.drop_left, List.take_left,
    decide_eq_true hlong, Bool.true_and, Bool.eq_iff_iff, beq_iff_eq, Checksum.bytes_inj,
    intact_iff, eq_comm]

/-! ## Building -/

theorem build_of_fits {payload : Bytes} (cls id : UInt8) (fits : payload.length < 65536) :
    build cls id payload = .ok (sealed cls id payload fits) := dif_pos fits

theorem build_of_long {payload : Bytes} (cls id : UInt8) (h : 65535 < payload.length) :
    build cls id payload = .error (.invalidArgument .payloadTooLong) := dif_neg (by omega)

theorem build_eq_ok {cls id : UInt8} {payload : Bytes} {g : Frame}
    (h : build cls id payload = .ok g) :
    g.cls = cls ∧ g.id = id ∧ g.payload = payload ∧ g.intact = true := by
  unfold build at h
  split at h
  · cases h
    exact ⟨rfl, rfl, rfl, intact_sealed _ _ _ _⟩
  · cases h

/-- An intact frame is what is built from its class, id and payload. -/
theorem build_of_intact {f : Frame} (h : f.intact = true) :
    build f.cls f.id f.payload = .ok f := by
  rw [build_of_fits f.cls f.id f.fits]
  obtain ⟨cls, id, payload, checksum, fits⟩ := f
  have hchecksum : Checksum.of (body ⟨cls, id, payload, checksum, fits⟩) = checksum :=
    intact_iff.1 h
  rw [← hchecksum]
  rfl

/-! ## Buffers -/

/-- What a buffer holds does not change the frame that is put behind it. -/
theorem put_eq (out : Bytes) (cls id : UInt8) {payload : Bytes} (fits : payload.length < 65536) :
    put out cls id payload = out ++ (sealed cls id payload fits).bytes := by
  have hbehind : ∀ body : Bytes,
      (out ++ sync1 :: sync2 :: body).drop (out.length + 2) = body := by
    intro body
    rw [← List.drop_drop, List.drop_left]
    rfl
  simp only [put, hbehind, List.append_assoc]
  rfl

theorem write_of_fits (buffer : Bytes) (cls id : UInt8) {payload : Bytes}
    (fits : payload.length < 65536) :
    write buffer cls id payload = (.ok (), buffer ++ (sealed cls id payload fits).bytes) := by
  rw [write, appendTo, if_pos fits, put_eq buffer cls id fits]

theorem write_of_long (buffer : Bytes) (cls id : UInt8) {payload : Bytes}
    (h : 65535 < payload.length) :
    write buffer cls id payload = (.error (.invalidArgument .payloadTooLong), buffer) := by
  rw [write, appendTo, if_neg (by omega)]

/-- **Writing and reading are inverse to each other.** From a payload of up to 65535 bytes
a frame is built. Its bytes are read back as the same class, id, length and payload, with
a right checksum, and they are what is written behind anything that a buffer holds. What
is read from any bytes is built into these bytes again. A longer payload is refused, and
then a buffer holds what it held. -/
theorem codec_bijective :
    (∀ (cls id : UInt8) (payload : Bytes), payload.length ≤ 65535 → ∃ f,
      build cls id payload = .ok f ∧ parse? f.bytes = some f ∧
        f.cls = cls ∧ f.id = id ∧ f.header.payloadLength.toNat = payload.length ∧
        f.payload = payload ∧ Checksum.verify (f.bytes.drop 2) = true ∧
        ∀ buffer, write buffer cls id payload = (.ok (), buffer ++ f.bytes)) ∧
      (∀ (data : Bytes) (f : Frame), parse? data = some f →
        ∃ g, build f.cls f.id f.payload = .ok g ∧ g.bytes = data) ∧
      ∀ (cls id : UInt8) (payload : Bytes), 65535 < payload.length →
        build cls id payload = .error (.invalidArgument .payloadTooLong) ∧
          ∀ buffer, write buffer cls id payload =
            (.error (.invalidArgument .payloadTooLong), buffer) := by
  refine ⟨fun cls id payload hlen => ?_, fun data f hparse => ?_, fun cls id payload hlong => ?_⟩
  · have fits : payload.length < 65536 := by omega
    have hintact := intact_sealed cls id payload fits
    exact ⟨sealed cls id payload fits, build_of_fits cls id fits, parse?_bytes hintact, rfl, rfl,
      toNat_payloadLength _, rfl, (verify_drop_bytes _).trans hintact,
      fun buffer => write_of_fits buffer cls id fits⟩
  · obtain ⟨hintact, hdata⟩ := parse?_eq_some_iff.1 hparse
    exact ⟨f, build_of_intact hintact, hdata.symm⟩
  · exact ⟨build_of_long cls id hlong, fun buffer => write_of_long buffer cls id hlong⟩

/-- The answer of a receiver to a block of a legacy file, behind three bytes that were
there, and a payload that is one byte too long. -/
theorem codec_bijective_legacyAck :
    let ack : Bytes := [0xB5, 0x62, 0x0B, 0x50, 0x01, 0x00, 0x01, 0x5D, 0x7B]
    let long : Bytes := List.replicate 65536 0x5A
    (∃ f, build MessageClass.aid AidId.alp [1] = .ok f ∧ f.bytes = ack ∧ parse? ack = some f) ∧
      write [1, 2, 3] MessageClass.aid AidId.alp [1] = (.ok (), [1, 2, 3] ++ ack) ∧
      65535 < long.length ∧
      write [1, 2, 3] MessageClass.aid AidId.alpsrv long =
        (.error (.invalidArgument .payloadTooLong), [1, 2, 3]) := by
  intro ack long
  obtain ⟨hshort, hback, hlong⟩ := codec_bijective
  obtain ⟨f, hbuild, hparse, -, -, -, -, -, hwrite⟩ :=
    hshort MessageClass.aid AidId.alp [1] (by decide)
  obtain ⟨g, hg, hbytes⟩ := hback ack _ (rfl : parse? ack =
    some (sealed MessageClass.aid AidId.alp [1] (by decide)))
  have hfg : f = g := Except.ok.inj (hbuild.symm.trans hg)
  have hlen : 65535 < long.length := by
    rw [List.length_replicate]
    decide
  rw [← hfg] at hbytes
  rw [hbytes] at hparse
  exact ⟨⟨f, hbuild, hbytes, hparse⟩, by rw [hwrite, hbytes], hlen,
    (hlong MessageClass.aid AidId.alpsrv long hlen).2 _⟩

end Frame

end GnssAiding
