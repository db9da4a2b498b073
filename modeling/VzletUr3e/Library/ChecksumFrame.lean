import Mathlib

/-!
# Length-delimited frames with a complemented checksum

A frame on a byte-serial bus is two `0xff` bytes, a destination, a length byte, an instruction, its
parameters, and a checksum byte that complements the sum of everything between the header and
itself. The length byte counts what follows it, so a receiver that trusts it can cut a frame out of
a longer stream.

The length byte is the low byte of a count that may be larger. `decode_eq_some_iff` says what
that costs: the receiver recovers a frame exactly when the count fits, and it never accepts
anything that is not the encoding of the frame it returns.
-/

namespace ChecksumFrame

/-! ## Checksums -/

/-- The byte that complements the sum of `body` modulo `256`. -/
def checksum (body : List UInt8) : UInt8 := ~~~ body.sum

theorem eq_complement_iff {a c : UInt8} : c = ~~~ a ↔ a + c = 0xff := by
  rw [UInt8.not_eq_neg_sub]
  grind

/-- A closing byte is the checksum exactly when it makes the whole sum `0xff`. -/
theorem sum_concat_eq_iff {body : List UInt8} {c : UInt8} :
    (body ++ [c]).sum = 0xff ↔ c = checksum body := by
  rw [checksum, eq_complement_iff, List.sum_append, List.sum_singleton]

theorem sum_concat_checksum (body : List UInt8) : (body ++ [checksum body]).sum = 0xff :=
  sum_concat_eq_iff.mpr rfl

/-! ## Frames -/

/-- What a frame says: whom it addresses, what it asks for, and with which parameters. -/
structure Frame where
  /-- The addressed device. -/
  id : UInt8
  /-- The instruction byte. -/
  instruction : UInt8
  /-- The parameter bytes. -/
  parameters : List UInt8
deriving DecidableEq, Repr

namespace Frame

/-- The length byte: the number of bytes after it, narrowed to one byte. -/
def lengthByte (f : Frame) : UInt8 := UInt8.ofNat (f.parameters.length + 2)

/-- Everything between the header and the checksum. -/
def body (f : Frame) : List UInt8 := f.id :: f.lengthByte :: f.instruction :: f.parameters

/-- The bytes on the wire. -/
def encode (f : Frame) : List UInt8 := 0xff :: 0xff :: (f.body ++ [checksum f.body])

@[simp] theorem length_encode (f : Frame) : f.encode.length = f.parameters.length + 6 := by
  simp [encode, body]

/-- The count the length byte stands for fits in it. -/
def Fits (f : Frame) : Prop := f.parameters.length + 2 ≤ 255

instance (f : Frame) : Decidable f.Fits := inferInstanceAs (Decidable (_ ≤ _))

theorem toNat_lengthByte (f : Frame) :
    f.lengthByte.toNat = (f.parameters.length + 2) % 256 := by
  simp [lengthByte]

theorem toNat_lengthByte_eq_iff (f : Frame) :
    f.lengthByte.toNat = f.parameters.length + 2 ↔ f.Fits := by
  rw [toNat_lengthByte, Fits]
  omega

end Frame

/-! ## The length-delimited receiver -/

/-- Cut one frame from the front of a stream, trusting the length byte. The remaining bytes are
returned with it. -/
def decode : List UInt8 → Option (Frame × List UInt8)
  | h₀ :: h₁ :: id :: len :: instruction :: rest =>
    if h₀ = 0xff ∧ h₁ = 0xff ∧ 2 ≤ len.toNat ∧ len.toNat ≤ rest.length + 1
        ∧ (id :: len :: instruction :: rest.take (len.toNat - 1)).sum = 0xff then
      some (⟨id, instruction, rest.take (len.toNat - 2)⟩, rest.drop (len.toNat - 1))
    else none
  | _ => none

/-- The bytes the length byte announces after the instruction are the parameters and one more. -/
private theorem take_announced {rest : List UInt8} {k : ℕ} (h2 : 2 ≤ k) (hk : k ≤ rest.length + 1) :
    ∃ c, rest.take (k - 1) = rest.take (k - 2) ++ [c] := by
  have hlt : k - 2 < rest.length := by omega
  refine ⟨rest[k - 2], ?_⟩
  rw [show k - 1 = k - 2 + 1 from by omega, List.take_add_one, List.getElem?_eq_getElem hlt,
    Option.toList_some]

/-- **Soundness.** Whatever the receiver cuts off is the encoding of the frame it returns. -/
theorem eq_encode_of_decode {bytes rest : List UInt8} {f : Frame}
    (h : decode bytes = some (f, rest)) : f.Fits ∧ bytes = f.encode ++ rest := by
  unfold decode at h
  split at h
  case h_2 => exact absurd h (by simp)
  case h_1 h₀ h₁ id len instruction tail =>
    split at h
    case isFalse => exact absurd h (by simp)
    case isTrue hc =>
      obtain ⟨rfl, rfl, h2, hle, hsum⟩ := hc
      obtain ⟨rfl, rfl⟩ := Prod.mk.inj (Option.some.inj h)
      -- the last announced byte is the checksum
      obtain ⟨c, hc⟩ := take_announced h2 hle
      have hlen : (tail.take (len.toNat - 2)).length + 2 = len.toNat := by
        rw [List.length_take]
        omega
      have hbyte : Frame.lengthByte ⟨id, instruction, tail.take (len.toNat - 2)⟩ = len := by
        rw [Frame.lengthByte, hlen, UInt8.ofNat_toNat]
      refine ⟨?_, ?_⟩
      · rw [Frame.Fits, hlen]
        exact Nat.le_of_lt_succ len.toNat_lt
      · have hck : c = checksum (Frame.body ⟨id, instruction, tail.take (len.toNat - 2)⟩) := by
          rw [← sum_concat_eq_iff, Frame.body, hbyte]
          rwa [hc] at hsum
        rw [Frame.encode, ← hck, Frame.body, hbyte]
        have hsplit := List.take_append_drop (len.toNat - 1) tail
        rw [hc] at hsplit
        simpa using hsplit.symm

/-- **Completeness.** A frame whose length fits is cut from the front of any stream. -/
theorem decode_encode {f : Frame} (hf : f.Fits) (rest : List UInt8) :
    decode (f.encode ++ rest) = some (f, rest) := by
  have hlen : f.lengthByte.toNat = f.parameters.length + 2 := f.toNat_lengthByte_eq_iff.mpr hf
  have htake : (f.parameters ++ checksum f.body :: rest).take (f.lengthByte.toNat - 1)
      = f.parameters ++ [checksum f.body] := by
    rw [hlen, List.take_append, List.take_of_length_le (by omega)]
    simp
  have hparams : (f.parameters ++ checksum f.body :: rest).take (f.lengthByte.toNat - 2)
      = f.parameters := by
    rw [hlen, Nat.add_sub_cancel, List.take_left]
  have hdrop : (f.parameters ++ checksum f.body :: rest).drop (f.lengthByte.toNat - 1) = rest := by
    rw [hlen, List.drop_append, List.drop_of_length_le (by omega)]
    simp
  have hsum : (f.id :: f.lengthByte :: f.instruction ::
      (f.parameters ++ [checksum f.body])).sum = 0xff := sum_concat_checksum f.body
  have hcons : f.encode ++ rest = 0xff :: 0xff :: f.id :: f.lengthByte :: f.instruction ::
      (f.parameters ++ checksum f.body :: rest) := by
    simp [Frame.encode, Frame.body]
  rw [hcons, decode, if_pos ⟨rfl, rfl, by omega, by simp [hlen], by rw [htake]; exact hsum⟩,
    hparams, hdrop]

/-- **The receiver, exactly.** -/
theorem decode_eq_some_iff {bytes rest : List UInt8} {f : Frame} :
    decode bytes = some (f, rest) ↔ f.Fits ∧ bytes = f.encode ++ rest := by
  refine ⟨eq_encode_of_decode, ?_⟩
  rintro ⟨hf, rfl⟩
  exact decode_encode hf rest

/-! ## Tagged blocks of one width

The parameters of a broadcast frame are a run of records, each a device id and a block of `N`
bytes. -/

/-- The records one after the other. -/
def joinBlocks (records : List (UInt8 × List UInt8)) : List UInt8 :=
  records.flatMap fun r ↦ r.1 :: r.2

/-- Cut a byte string into records of one id and `N` bytes. The first argument bounds the number of
records. -/
def splitBlocks (N : ℕ) : ℕ → List UInt8 → Option (List (UInt8 × List UInt8))
  | _, [] => some []
  | 0, _ :: _ => none
  | k + 1, id :: rest =>
    if rest.length < N then none
    else (splitBlocks N k (rest.drop N)).map ((id, rest.take N) :: ·)

@[simp] theorem joinBlocks_nil : joinBlocks [] = [] := rfl

@[simp] theorem joinBlocks_cons (r : UInt8 × List UInt8) (records : List (UInt8 × List UInt8)) :
    joinBlocks (r :: records) = r.1 :: (r.2 ++ joinBlocks records) := rfl

theorem length_joinBlocks {N : ℕ} : ∀ {records : List (UInt8 × List UInt8)},
    (∀ r ∈ records, r.2.length = N) → (joinBlocks records).length = (N + 1) * records.length := by
  intro records
  induction records with
  | nil => intro _; simp
  | cons r records ih =>
    intro h
    rw [joinBlocks_cons, List.length_cons, List.length_append, h r List.mem_cons_self,
      ih fun q hq ↦ h q (List.mem_cons_of_mem r hq), List.length_cons]
    ring

theorem splitBlocks_joinBlocks {N : ℕ} : ∀ {records : List (UInt8 × List UInt8)} {k : ℕ},
    (∀ r ∈ records, r.2.length = N) → records.length ≤ k →
    splitBlocks N k (joinBlocks records) = some records := by
  intro records
  induction records with
  | nil => intro k _ _; cases k <;> rfl
  | cons r records ih =>
    intro k h hk
    obtain ⟨k, rfl⟩ : ∃ j, k = j + 1 := ⟨k - 1, by rw [List.length_cons] at hk; omega⟩
    have hr : r.2.length = N := h r List.mem_cons_self
    have hrest : splitBlocks N k (joinBlocks records) = some records :=
      ih (fun q hq ↦ h q (List.mem_cons_of_mem r hq)) (by rw [List.length_cons] at hk; omega)
    rw [joinBlocks_cons, splitBlocks, if_neg (by rw [List.length_append]; omega), ← hr,
      List.take_left, List.drop_left, hr, hrest, Option.map_some]

end ChecksumFrame
