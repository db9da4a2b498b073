import VzletUr3e.Feetech.Goals
import VzletUr3e.Feetech.Registers

/-!
# Sign-magnitude loses nothing

Below the sign bit, every magnitude has two words and zero has two as well. Leave out the negative
zero, and encoding and decoding are inverse to each other (`signMagnitude`). A sign bit of at most
fifteen leaves the word within two bytes, so the way over the bus keeps it too. What `readPosition`
and `readSpeed` return is then what the servo has reported.
-/

namespace VzletUr3e.Feetech

open StateError

/-! ## Values and words -/

/-- The values that have a word. -/
def SignedValue (signBit : ℕ) : Type := {value : ℤ // |value| < 2 ^ signBit}

/-- The words up to the sign bit, without the negative zero. -/
def SignedWord (signBit : ℕ) : Type := {w : ℤ // 0 ≤ w ∧ w < 2 ^ (signBit + 1) ∧ w ≠ 2 ^ signBit}

variable {signBit : ℕ}

theorem natAbs_lt_iff {value : ℤ} : value.natAbs < 2 ^ signBit ↔ |value| < 2 ^ signBit := by
  rw [Int.abs_eq_natAbs]
  exact_mod_cast Iff.rfl

/-- Every word is a magnitude, or the sign bit and a magnitude. -/
theorem signedWord_cases {w : ℤ} (h : w < 2 ^ (signBit + 1)) (hne : w ≠ 2 ^ signBit) :
    w < 2 ^ signBit ∨ ∃ m, w = 2 ^ signBit + m ∧ 0 < m ∧ m < 2 ^ signBit := by
  rcases lt_or_ge w (2 ^ signBit) with hlt | hge
  · exact .inl hlt
  · refine .inr ⟨w - 2 ^ signBit, by ring, ?_, ?_⟩
    · exact sub_pos.mpr (lt_of_le_of_ne hge hne.symm)
    · rw [pow_succ] at h
      linarith

/-- A decoded word is a value below the sign bit. -/
theorem abs_decodeSignMagnitude_lt {w : ℤ} (h0 : 0 ≤ w) (h : w < 2 ^ (signBit + 1))
    (hne : w ≠ 2 ^ signBit) : |decodeSignMagnitude w signBit| < 2 ^ signBit := by
  rcases signedWord_cases h hne with hlt | ⟨m, rfl, hm0, hm⟩
  · rwa [decodeSignMagnitude_of_lt h0 hlt, abs_of_nonneg h0]
  · rwa [decodeSignMagnitude_add hm0.le hm, abs_neg, abs_of_pos hm0]

/-- Encoding undoes decoding, except at the negative zero. -/
theorem encode_of_decode {w : ℤ} (h0 : 0 ≤ w) (h : w < 2 ^ (signBit + 1)) (hne : w ≠ 2 ^ signBit) :
    encodeSignMagnitude (decodeSignMagnitude w signBit) signBit = .ok w := by
  refine encodeSignMagnitude_eq_ok_iff.mpr
    ⟨natAbs_lt_iff.mpr (abs_decodeSignMagnitude_lt h0 h hne), ?_⟩
  rcases signedWord_cases h hne with hlt | ⟨m, rfl, hm0, hm⟩
  · rw [decodeSignMagnitude_of_lt h0 hlt, if_neg (not_lt.mpr h0)]
  · rw [decodeSignMagnitude_add hm0.le hm, if_pos (neg_neg_of_pos hm0), Int.natAbs_neg,
      Int.natAbs_of_nonneg hm0.le]

/-- The word of a value. -/
def SignedValue.word (v : SignedValue signBit) : ℤ :=
  if v.1 < 0 then 2 ^ signBit + (v.1.natAbs : ℤ) else v.1

theorem SignedValue.encode_eq (v : SignedValue signBit) :
    encodeSignMagnitude v.1 signBit = .ok v.word :=
  encodeSignMagnitude_eq_ok_iff.mpr ⟨natAbs_lt_iff.mpr v.2, rfl⟩

theorem SignedValue.word_ne (v : SignedValue signBit) : v.word ≠ 2 ^ signBit := by
  have hlt := (abs_lt.mp v.2).2
  rw [word]
  split_ifs with hneg
  · omega
  · exact hlt.ne

/-- **The values and the words** are in one-to-one correspondence. -/
def signMagnitude (signBit : ℕ) : SignedValue signBit ≃ SignedWord signBit where
  toFun v := ⟨v.word, (encodeSignMagnitude_bounds v.encode_eq).1,
    (encodeSignMagnitude_bounds v.encode_eq).2, v.word_ne⟩
  invFun w := ⟨decodeSignMagnitude w.1 signBit, abs_decodeSignMagnitude_lt w.2.1 w.2.2.1 w.2.2.2⟩
  left_inv v := Subtype.ext (decode_of_encode v.encode_eq)
  right_inv w := by
    have hencode := encode_of_decode w.2.1 w.2.2.1 w.2.2.2
    rw [SignedValue.encode_eq ⟨decodeSignMagnitude w.1 signBit,
      abs_decodeSignMagnitude_lt w.2.1 w.2.2.1 w.2.2.2⟩] at hencode
    exact Subtype.ext (Except.ok.inj hencode)

/-! ## Over the bus -/

/-- A sign bit for which nothing is lost on the way through two bytes, and nothing on the way
back. -/
structure Lossless (signBit : ℕ) : Prop where
  value : ∀ value : ℤ, |value| < 2 ^ signBit → ∃ encoded,
    encodeSignMagnitude value signBit = .ok encoded ∧
      decodeSignMagnitude (fromSts (toSts encoded)) signBit = value
  word : ∀ w : ℤ, 0 ≤ w → w < 2 ^ (signBit + 1) → w ≠ 2 ^ signBit →
    encodeSignMagnitude (decodeSignMagnitude w signBit) signBit = .ok w

/-- The word of a value survives the split if its sign bit lies within two bytes. -/
theorem fromSts_toSts_word (h : signBit ≤ 15) (v : SignedValue signBit) :
    fromSts (toSts v.word) = v.word := by
  obtain ⟨h0, hlt⟩ := encodeSignMagnitude_bounds v.encode_eq
  have hpow : (2 : ℤ) ^ (signBit + 1) ≤ 2 ^ 16 := pow_le_pow_right₀ (by norm_num) (by omega)
  exact fromSts_toSts h0 (hlt.trans_le hpow)

/-- **Sign-magnitude loses nothing** under a sign bit that lies within two bytes. -/
theorem sign_magnitude_lossless (h : signBit ≤ 15) : Lossless signBit where
  value value hvalue := by
    let v : SignedValue signBit := ⟨value, hvalue⟩
    refine ⟨v.word, v.encode_eq, ?_⟩
    rw [fromSts_toSts_word h v]
    exact decode_of_encode v.encode_eq
  word _ h0 hlt hne := encode_of_decode h0 hlt hne

/-- The sign bits of the position, the speed and the homing offset. -/
theorem sign_magnitude_lossless_registers : Lossless smsStsSignBitPosition ∧
    Lossless smsStsSignBitVelocity ∧ Lossless smsStsSignBitHomingOffset :=
  ⟨sign_magnitude_lossless (by decide), sign_magnitude_lossless (by decide),
    sign_magnitude_lossless (by decide)⟩

/-! ## Reading back -/

/-- What is decoded to a value is its word, or the negative zero. -/
theorem decodeSignMagnitude_eq_iff {w : ℤ} (h0 : 0 ≤ w) (h : w < 2 ^ (signBit + 1))
    (v : SignedValue signBit) :
    decodeSignMagnitude w signBit = v.1 ↔ w = v.word ∨ w = 2 ^ signBit ∧ v.1 = 0 := by
  by_cases hne : w = 2 ^ signBit
  · have hzero : decodeSignMagnitude w signBit = 0 := by
      rw [hne, ← add_zero (2 ^ signBit), decodeSignMagnitude_add le_rfl (by positivity), neg_zero]
    rw [hzero, eq_comm]
    exact ⟨fun hv ↦ .inr ⟨hne, hv⟩,
      fun hor ↦ (hor.resolve_left fun hword ↦ v.word_ne (hword.symm.trans hne)).2⟩
  · let u : SignedWord signBit := ⟨w, h0, h, hne⟩
    have hinv : (signMagnitude signBit).symm u = v ↔ u = signMagnitude signBit v :=
      Equiv.symm_apply_eq _
    refine (Subtype.ext_iff.symm.trans (hinv.trans Subtype.ext_iff)).trans ?_
    exact ⟨.inl, fun hor ↦ hor.resolve_right fun hzero ↦ hne hzero.1⟩

/-- The packet has the word of the value, or the negative zero in its place. -/
def StatusPacket.Reports (p : StatusPacket) (v : SignedValue signBit) : Prop :=
  let w := fromSts ⟨p.data.getD 0 0, p.data.getD 1 0⟩
  w = v.word ∨ w = 2 ^ signBit ∧ v.1 = 0

theorem readWord_decode_iff {id memoryAddress : UInt8} {port : SerialPort} (v : SignedValue 15) :
    (∃ port', (do
      let w ← readWord id memoryAddress
      return decodeSignMagnitude w 15) port = .ok v.1 port') ↔
      port.CanWrite 1 ∧ ∃ p rest, TakesPacket 2 port.rx p rest ∧ p.Verifies ∧ p.Reports v := by
  have hdecode (word : WordBytes) := decodeSignMagnitude_eq_iff (fromSts_nonneg word)
    (fromSts_lt word) v
  simp only [bind_eq_ok_iff, readWord_eq_ok_iff, pure_apply]
  constructor
  · rintro ⟨port', w, mid, ⟨hcan, p, rest, htakes, hver, rfl, rfl⟩, hok⟩
    have hvalue := (EStateM.Result.ok.inj hok).1
    exact ⟨hcan, p, rest, htakes, hver, (hdecode _).mp hvalue⟩
  · rintro ⟨hcan, p, rest, htakes, hver, hreports⟩
    refine ⟨{ port.wrote 1
      (servoFrame id memoryAddress [UInt8.ofNat 2] kInstructionRead).encode with rx := rest },
      _, _, ⟨hcan, p, rest, htakes, hver, rfl, rfl⟩, ?_⟩
    rw [(hdecode _).mpr hreports]

/-- **A position is read** exactly when the servo has reported it. -/
theorem readPosition_iff {id : UInt8} {port : SerialPort}
    (v : SignedValue smsStsSignBitPosition) :
    (∃ port', readPosition id port = .ok v.1 port') ↔
      port.CanWrite 1 ∧ ∃ p rest, TakesPacket 2 port.rx p rest ∧ p.Verifies ∧ p.Reports v :=
  readWord_decode_iff v

/-- And so is a speed. -/
theorem readSpeed_iff {id : UInt8} {port : SerialPort} (v : SignedValue smsStsSignBitVelocity) :
    (∃ port', readSpeed id port = .ok v.1 port') ↔
      port.CanWrite 1 ∧ ∃ p rest, TakesPacket 2 port.rx p rest ∧ p.Verifies ∧ p.Reports v :=
  readWord_decode_iff v

end VzletUr3e.Feetech
