import VzletUr3e.Feetech.Replies

/-!
# Noise in front of a reply

The header scan stops at the first two `0xff` bytes next to each other. Noise without such a pair is
skipped, unless it ends with a `0xff`: that byte and the first one of the header are then taken for
the header, and everything behind them is read one byte too early. What is read as the packet is
`StatusPacket.misread`, and the checksum byte stays on the line.

`readResponse` refuses such a packet, since no servo has the id `0xff` (`readResponse_misread`).
The byte that stays behind is noise for the next one. When the servo reports no error this byte is
not a `0xff`, and no other packet is lost (`readResponse_readResponse_misread`). `readServo` does
not look at the id: it accepts the packet when the byte is a `0xff` (`readServo_misread_iff`).
-/

namespace VzletUr3e.Feetech

open StateError ChecksumFrame

/-! ## Noise -/

/-- No two `0xff` bytes are next to each other. -/
def NoPair (noise : List UInt8) : Prop := noise.IsChain fun a b ↦ ¬(b = 0xff ∧ a = 0xff)

instance (noise : List UInt8) : Decidable (NoPair noise) :=
  inferInstanceAs (Decidable (List.IsChain _ _))

/-- The header is found where it is, when no pair comes before it and the noise does not make one
with it. -/
theorem headerFree_iff {noise : List UInt8} :
    HeaderFree noise ↔ NoPair noise ∧ noise.getLast? ≠ some 0xff := by
  rw [HeaderFree, List.isChain_append, NoPair]
  refine and_congr_right fun _ ↦ ⟨?_, ?_⟩
  · rintro ⟨-, h⟩ hlast
    exact h 0xff hlast 0xff rfl ⟨rfl, rfl⟩
  · refine fun h ↦ ⟨List.isChain_singleton _, ?_⟩
    rintro a ha _ - ⟨-, rfl⟩
    exact h ha

/-- Noise without a pair that ends with a `0xff` is free of headers in front of it. -/
theorem exists_headerFree_of_getLast? {noise : List UInt8} (h : NoPair noise)
    (hlast : noise.getLast? = some 0xff) :
    ∃ front, noise = front ++ [0xff] ∧ HeaderFree front := by
  obtain ⟨front, rfl⟩ := List.getLast?_eq_some_iff.mp hlast
  exact ⟨front, rfl, h⟩

/-! ## Packets that are read too early -/

/-- A packet as it is read behind the second byte of its header. -/
def StatusPacket.misread (p : StatusPacket) : StatusPacket where
  id := 0xff
  length := p.id
  status := p.length
  data := (p.status :: p.data).dropLast
  checksum := (p.status :: p.data).getLast (List.cons_ne_nil _ _)

theorem StatusPacket.bytes_misread (p : StatusPacket) :
    p.misread.bytes ++ [p.checksum] = 0xff :: p.bytes := by
  have hsplit := List.dropLast_append_getLast (List.cons_ne_nil p.status p.data)
  rw [bytes, bytes, misread, List.append_assoc _ _ [List.getLast _ _], hsplit]
  simp

/-- The sum is right only when the byte that is left behind is a `0xff`. -/
theorem StatusPacket.verifies_misread_iff {p : StatusPacket} (h : p.Verifies) :
    p.misread.Verifies ↔ p.checksum = 0xff := by
  have hsum := congrArg List.sum p.bytes_misread
  rw [List.sum_append, List.sum_singleton, List.sum_cons, h] at hsum
  rw [Verifies]
  constructor
  · intro hmisread
    rw [hmisread] at hsum
    exact add_left_cancel hsum
  · intro hchecksum
    rw [hchecksum] at hsum
    exact add_right_cancel hsum

/-- **One byte too early.** -/
theorem takesPacket_misread {front : List UInt8} (hfree : HeaderFree front)
    (hlen : front.length ≤ 9) (p : StatusPacket) (rest : List RxEvent) :
    TakesPacket p.data.length ((front ++ [0xff] ++ [0xff, 0xff] ++ p.bytes).map .byte ++ rest)
      p.misread (.byte p.checksum :: rest) where
  size := by simp [StatusPacket.misread]
  found := by
    refine ⟨front, hlen, hfree, ?_⟩
    have hbytes : front ++ [0xff] ++ [0xff, 0xff] ++ p.bytes
        = front ++ [0xff, 0xff] ++ p.misread.bytes ++ [p.checksum] := by
      rw [List.append_assoc _ p.misread.bytes, p.bytes_misread]
      simp
    rw [hbytes, List.map_append, List.append_assoc]
    rfl

/-! ## Acknowledgements -/

/-- A well-formed packet of the servo, without parameters. -/
structure StatusPacket.Acknowledges (p : StatusPacket) (id : UInt8) : Prop where
  data : p.data = []
  verifies : p.Verifies
  answers : p.Answers 0 id

variable {id : UInt8} {p : StatusPacket} {noise front : List UInt8} {port : SerialPort}
  {rest : List RxEvent}

theorem ne_kBroadcastId (hid : id.toNat ≤ 253) : id ≠ kBroadcastId := by
  rintro rfl
  exact absurd hid (by decide)

/-- An acknowledgement behind noise that is free of headers is accepted. -/
theorem readResponse_of_headerFree (hid : id.toNat ≤ 253) (hp : p.Acknowledges id)
    (hlen : noise.length ≤ 9) (hfree : HeaderFree noise) (hopen : port.isOpen = true)
    (hrx : port.rx = (noise ++ [0xff, 0xff] ++ p.bytes).map .byte ++ rest) :
    readResponse id port = .ok () { port with rx := rest } := by
  have hsize : p.data.length = 0 := congrArg List.length hp.data
  exact (readResponse_eq_ok_iff (ne_kBroadcastId hid)).mpr
    ⟨hopen, p, rest, ⟨hsize, noise, hlen, hfree, hrx⟩, hp.verifies, hp.answers, rfl⟩

/-- One that is read too early is refused for its id, and its checksum byte is left on the line. -/
theorem readResponse_misread (hid : id.toNat ≤ 253) (hp : p.data = []) (hlen : front.length ≤ 9)
    (hfree : HeaderFree front) (hopen : port.isOpen = true)
    (hrx : port.rx = (front ++ [0xff] ++ [0xff, 0xff] ++ p.bytes).map .byte ++ rest) :
    readResponse id port = .error (.unexpected s!"buffer[0][={(0xff : UInt8)}] != id[={id}]")
      { port with rx := .byte p.checksum :: rest } := by
  have htakes := takesPacket_misread hfree hlen p rest
  rw [hp, ← hrx] at htakes
  obtain ⟨mid, hhead, hfour⟩ := acknowledgement_reads_iff.mpr ⟨hopen, _, _, htakes, rfl, rfl⟩
  have hfirst : p.misread.bytes.getD 0 0 = 0xff := rfl
  have hne : p.misread.bytes.getD 0 0 ≠ id := by
    rw [hfirst]
    rintro rfl
    exact absurd hid (by decide)
  rw [readResponse, if_neg (ne_kBroadcastId hid), bind_of_ok hhead, bind_of_ok hfour]
  dsimp only
  rw [if_pos hne]
  rfl

/-- The checksum of a servo that reports no error is not taken for a part of a header. -/
theorem StatusPacket.Acknowledges.checksum_ne (hid : id.toNat ≤ 253) (hp : p.Acknowledges id)
    (hstatus : p.status = 0) : p.checksum ≠ 0xff := by
  intro hchecksum
  have hlength : p.length = 2 := UInt8.toNat_inj.mp hp.answers.2
  have hsum := hp.verifies
  rw [Verifies, bytes, hp.answers.1, hlength, hstatus, hp.data, hchecksum] at hsum
  -- the id would be the one of the broadcast
  have hnext : id + 1 = 255 := by simpa using hsum
  have hnat := congrArg UInt8.toNat hnext
  rw [UInt8.toNat_add] at hnat
  change (id.toNat + 1) % 256 = 255 at hnat
  omega

/-- **One refusal.** Noise that ends with a `0xff` costs one acknowledgement when it reports no
error: the next one is accepted. -/
theorem readResponse_readResponse_misread {q : StatusPacket} {id' : UInt8}
    (hid : id.toNat ≤ 253) (hid' : id'.toNat ≤ 253) (hp : p.Acknowledges id)
    (hq : q.Acknowledges id') (hstatus : p.status = 0) (hlen : front.length ≤ 9)
    (hfree : HeaderFree front) (hopen : port.isOpen = true)
    (hrx : port.rx = (front ++ [0xff] ++ [0xff, 0xff] ++ p.bytes).map .byte
      ++ (([0xff, 0xff] ++ q.bytes).map .byte ++ rest)) :
    ∃ message port', readResponse id port = .error (.unexpected message) port' ∧
      readResponse id' port' = .ok () { port with rx := rest } := by
  refine ⟨_, _, readResponse_misread hid hp.data hlen hfree hopen hrx, ?_⟩
  have hchecksum := hp.checksum_ne hid hstatus
  have hleft : HeaderFree [p.checksum] :=
    headerFree_iff.mpr ⟨List.isChain_singleton _, by simpa using hchecksum⟩
  have hlong : [p.checksum].length ≤ 9 := by simp
  exact readResponse_of_headerFree hid' hq hlong hleft (by exact hopen) rfl

/-- **Noise in front of an acknowledgement.** Behind noise without a pair, `read_response` accepts
the acknowledgement and takes nothing but the two, exactly when the noise does not end with a
`0xff`. -/
theorem acknowledged_behind_noise_iff (hid : id.toNat ≤ 253) (hp : p.Acknowledges id)
    (hlen : noise.length ≤ 9) (hnoise : NoPair noise) (hopen : port.isOpen = true)
    (hrx : port.rx = (noise ++ [0xff, 0xff] ++ p.bytes).map .byte ++ rest) :
    readResponse id port = .ok () { port with rx := rest } ↔ noise.getLast? ≠ some 0xff := by
  constructor
  · intro hok hlast
    obtain ⟨front, rfl, hfree⟩ := exists_headerFree_of_getLast? hnoise hlast
    rw [List.length_append] at hlen
    rw [readResponse_misread hid hp.data (by omega) hfree hopen hrx] at hok
    cases hok
  · exact fun hlast ↦
      readResponse_of_headerFree hid hp hlen (headerFree_iff.mpr ⟨hnoise, hlast⟩) hopen hrx

/-- The acknowledgement of servo 1. -/
def acknowledgementOfOne : StatusPacket := ⟨1, 2, 0, [], 0xfc⟩

theorem acknowledgementOfOne_acknowledges : acknowledgementOfOne.Acknowledges 1 :=
  ⟨rfl, by decide, by decide⟩

/-- Behind a zero the acknowledgement is accepted. -/
theorem acknowledged_behind_zero :
    readResponse 1 (openPort (([0x00] ++ [0xff, 0xff] ++ acknowledgementOfOne.bytes).map .byte))
      = .ok () (openPort []) :=
  (acknowledged_behind_noise_iff (by decide) acknowledgementOfOne_acknowledges (by decide)
    (by decide) rfl (List.append_nil _).symm).mpr (by decide)

/-- Behind a `0xff` it is refused. -/
theorem refused_behind_ff : NoPair [0xff] ∧ acknowledgementOfOne.Acknowledges 1 ∧
    ¬ readResponse 1 (openPort (([0xff] ++ [0xff, 0xff] ++ acknowledgementOfOne.bytes).map .byte))
      = .ok () (openPort []) := by
  refine ⟨by decide, acknowledgementOfOne_acknowledges, ?_⟩
  have hid : (1 : UInt8).toNat ≤ 253 := by decide
  have hlen : ([] : List UInt8).length ≤ 9 := by decide
  -- nothing comes before the `0xff`, and nothing after the packet
  have hrx : (openPort (([0xff] ++ [0xff, 0xff] ++ acknowledgementOfOne.bytes).map .byte)).rx
      = ([] ++ [0xff] ++ [0xff, 0xff] ++ acknowledgementOfOne.bytes).map .byte ++ [] := rfl
  rw [readResponse_misread hid rfl hlen (by decide) rfl hrx]
  rintro ⟨⟩

/-! ## Replies with a payload -/

/-- **A reply that is read too early.** `read` does not look at the id, and takes the packet for
the reply exactly when the byte that is left behind is a `0xff`. -/
theorem readServo_misread_iff {memoryAddress : UInt8} (hp : p.Verifies) (hlen : front.length ≤ 9)
    (hfree : HeaderFree front) (hcan : port.CanWrite 1)
    (hrx : port.rx = (front ++ [0xff] ++ [0xff, 0xff] ++ p.bytes).map .byte ++ rest) :
    (∃ port', readServo p.data.length id memoryAddress port = .ok p.misread.data port') ↔
      p.checksum = 0xff := by
  have htakes := takesPacket_misread hfree hlen p rest
  rw [← hrx] at htakes
  rw [← StatusPacket.verifies_misread_iff hp]
  constructor
  · rintro ⟨_, hread⟩
    obtain ⟨-, p', _, htakes', hverifies, -, -⟩ := readServo_eq_ok_iff.mp hread
    obtain ⟨rfl, -⟩ := htakes'.unique htakes
    exact hverifies
  · intro hverifies
    exact ⟨_, readServo_eq_ok_iff.mpr ⟨hcan, _, _, htakes, hverifies, rfl, rfl⟩⟩

end VzletUr3e.Feetech
