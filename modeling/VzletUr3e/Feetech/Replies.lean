import VzletUr3e.Feetech.Requests

/-!
# What the protocol takes for a reply

The reading functions find a packet by its header and take it as it comes. `TakesPacket` says what
that means for a line: some noise without a header in it, the header, and the bytes of one status
packet. `Delivers` repeats it. A run of `syncRead` or `readServo` succeeds exactly when the line
delivers packets whose checksums verify, and these packets are determined by the line.

Nothing in this looks at the id or the length of a packet. What the results are worth therefore
depends on the line: the last section says exactly when they are the replies of the servos that were
asked.
-/

namespace VzletUr3e.Feetech

open StateError ChecksumFrame

/-! ## Status packets -/

/-- A reply after its header: the servo, the number of bytes that follow the length byte, the
working status, the payload and the checksum. -/
structure StatusPacket where
  id : UInt8
  length : UInt8
  status : UInt8
  data : List UInt8
  checksum : UInt8
deriving DecidableEq, Repr

namespace StatusPacket

def bytes (p : StatusPacket) : List UInt8 := [p.id, p.length, p.status] ++ p.data ++ [p.checksum]

/-- The checksum complements the sum of everything before it. -/
def Verifies (p : StatusPacket) : Prop := p.bytes.sum = 0xff

instance (p : StatusPacket) : Decidable p.Verifies := inferInstanceAs (Decidable (_ = _))

/-- A packet of the servo `id` with a payload of `N` bytes. -/
def Answers (p : StatusPacket) (N : ℕ) (id : UInt8) : Prop := p.id = id ∧ p.length.toNat = N + 2

instance (p : StatusPacket) (N : ℕ) (id : UInt8) : Decidable (p.Answers N id) :=
  inferInstanceAs (Decidable (_ ∧ _))

/-- The comparison of the reading functions is the checksum test. -/
theorem verifies_iff {p : StatusPacket} :
    p.Verifies ↔ UInt8.ofInt (-(((sumBytes [p.id, p.length, p.status]).toNat
      + (sumBytes p.data).toNat : ℕ) : ℤ) - 1) = p.checksum := by
  have hsum : UInt8.ofNat ((sumBytes [p.id, p.length, p.status]).toNat + (sumBytes p.data).toNat)
      = ([p.id, p.length, p.status] ++ p.data).sum := by
    rw [UInt8.ofNat_add, UInt8.ofNat_toNat, UInt8.ofNat_toNat, sumBytes_eq_sum, sumBytes_eq_sum,
      List.sum_append]
  rw [ofInt_complement, hsum, Verifies, bytes, sum_concat_eq_iff, ChecksumFrame.checksum]
  exact eq_comm

/-- The three checks of `read_response` on the four bytes of an empty packet. -/
theorem acknowledges_iff (p : StatusPacket) {id : UInt8} (hp : p.data.length = 0) :
    (¬ p.bytes.getD 0 0 ≠ id ∧ ¬ p.bytes.getD 1 0 ≠ 2 ∧
        ¬ UInt8.ofInt (-(((p.bytes.getD 0 0).toNat + (p.bytes.getD 1 0).toNat
          + (p.bytes.getD 2 0).toNat : ℕ) : ℤ) - 1) ≠ p.bytes.getD 3 0) ↔
      p.Verifies ∧ p.Answers 0 id := by
  obtain ⟨i, l, s, data, c⟩ := p
  obtain rfl : data = [] := List.length_eq_zero_iff.mp hp
  have hlength : l = 2 ↔ l.toNat = 0 + 2 := by
    rw [← UInt8.toNat_inj]
    rfl
  have hsum : UInt8.ofInt (-((i.toNat + l.toNat + s.toNat : ℕ) : ℤ) - 1) = c ↔
      Verifies ⟨i, l, s, [], c⟩ := by
    rw [ofInt_complement, UInt8.ofNat_add, UInt8.ofNat_add, UInt8.ofNat_toNat, UInt8.ofNat_toNat,
      UInt8.ofNat_toNat, eq_comm, eq_complement_iff, Verifies, bytes]
    simp [UInt8.add_assoc]
  rw [Answers]
  simp only [not_not, ← hsum, ← hlength, bytes]
  simp
  tauto

end StatusPacket

/-! ## Packets on a line -/

/-- The first header after `noise` is the one that follows it. -/
def HeaderFree (noise : List UInt8) : Prop :=
  (noise ++ [0xff]).IsChain fun a b ↦ ¬ (b = 0xff ∧ a = 0xff)

instance (noise : List UInt8) : Decidable (HeaderFree noise) :=
  inferInstanceAs (Decidable (List.IsChain _ _))

/-- Noise that goes on with another header is not free of headers. -/
private theorem not_headerFree_cons {x : UInt8} {n r r' : List UInt8}
    (h : 0xff :: 0xff :: r = (x :: n) ++ 0xff :: 0xff :: r') : ¬ HeaderFree (x :: n) := by
  rw [List.cons_append, List.cons.injEq] at h
  obtain ⟨rfl, h⟩ := h
  cases n with
  | nil => decide
  | cons y n =>
    rw [List.cons_append, List.cons.injEq] at h
    obtain ⟨rfl, -⟩ := h
    intro hfree
    exact (List.isChain_cons_cons.mp hfree).1 ⟨rfl, rfl⟩

theorem HeaderFree.tail {x : UInt8} {n : List UInt8} (h : HeaderFree (x :: n)) : HeaderFree n :=
  (List.isChain_cons.mp h).2

/-- The first header of a byte string is in one place. -/
theorem HeaderFree.unique : ∀ {n n' r r' : List UInt8}, HeaderFree n → HeaderFree n' →
    n ++ 0xff :: 0xff :: r = n' ++ 0xff :: 0xff :: r' → n = n' := by
  intro n
  induction n with
  | nil =>
    intro n' r r' _ hfree' h
    cases n' with
    | nil => rfl
    | cons x n' => exact absurd hfree' (not_headerFree_cons h)
  | cons a n ih =>
    intro n' r r' hfree hfree' h
    cases n' with
    | nil => exact absurd hfree (not_headerFree_cons h.symm)
    | cons x n' =>
      rw [List.cons_append, List.cons_append, List.cons.injEq] at h
      obtain ⟨rfl, h⟩ := h
      rw [ih hfree.tail hfree'.tail h]

theorem HeaderFree.not_header {n r : List UInt8} : ¬ HeaderFree (n ++ 0xff :: 0xff :: r) := by
  intro h
  rw [HeaderFree, List.append_assoc] at h
  exact (List.isChain_cons_cons.mp (List.isChain_append.mp h).2.1).1 ⟨rfl, rfl⟩

/-- What comes before a `0xff` in noise is noise. -/
theorem HeaderFree.of_append {n r : List UInt8} (h : HeaderFree (n ++ 0xff :: r)) :
    HeaderFree n := by
  -- the `0xff` behind `n` is the one that the definition puts there
  have hsplit : n ++ 0xff :: r ++ [0xff] = (n ++ [0xff]) ++ (r ++ [0xff]) := by simp
  rw [HeaderFree, hsplit] at h
  exact (List.isChain_append.mp h).1

/-- The first packet of a line, with `N` bytes of payload, behind at most nine bytes of noise. -/
structure TakesPacket (N : ℕ) (line : List RxEvent) (p : StatusPacket) (rest : List RxEvent) :
    Prop where
  size : p.data.length = N
  found : ∃ noise, noise.length ≤ 9 ∧ HeaderFree noise ∧
    line = (noise ++ [0xff, 0xff] ++ p.bytes).map .byte ++ rest

/-- The first packets of a line. -/
inductive Delivers (N : ℕ) : List RxEvent → List StatusPacket → List RxEvent → Prop
  | nil (line : List RxEvent) : Delivers N line [] line
  | cons {line mid rest : List RxEvent} {p : StatusPacket} {ps : List StatusPacket} :
    TakesPacket N line p mid → Delivers N mid ps rest → Delivers N line (p :: ps) rest

/-! ## The header scan

The scan keeps one byte, so what it has passed is a chain in which no two neighbours are a header.
The byte it starts with counts as one of them; it is zero, and a header takes two bytes of the
line. -/

/-- The scan reads up to the first byte that closes a header. -/
theorem checkHeadLoop_eq_ok_iff {tries : ℕ} : ∀ {previous : UInt8} {port port' : SerialPort},
    checkHeadLoop tries previous port = .ok () port' ↔ port.isOpen = true ∧
      ∃ scanned rest, scanned.length < tries ∧ (previous :: scanned).getLast (by simp) = 0xff ∧
        (previous :: scanned).IsChain (fun a b ↦ ¬ (b = 0xff ∧ a = 0xff)) ∧
        port.rx = scanned.map .byte ++ .byte 0xff :: rest ∧ port' = { port with rx := rest } := by
  -- every byte that closes no header becomes the `previous` of the next try
  induction tries with
  | zero =>
    intro previous port port'
    rw [checkHeadLoop, throw_apply]
    simp
  | succ tries ih =>
    intro previous port port'
    rw [checkHeadLoop, bind_eq_ok_iff]
    simp only [mapUnexpected_eq_ok_iff, read_eq_ok_iff]
    constructor
    · rintro ⟨bDat, _, ⟨hopen, hlen, rest, hrx, rfl⟩, h⟩
      obtain ⟨current, rfl⟩ := List.length_eq_one_iff.mp hlen
      refine ⟨hopen, ?_⟩
      rw [show [current].getD 0 0 = current from rfl] at h
      by_cases hhead : current = 0xff ∧ previous = 0xff
      · rw [if_pos hhead] at h
        cases h
        obtain ⟨rfl, rfl⟩ := hhead
        exact ⟨[], rest, Nat.succ_pos _, rfl, by simp, hrx, rfl⟩
      · rw [if_neg hhead] at h
        obtain ⟨-, scanned, rest', hlt, hlast, hchain, hrest, rfl⟩ := ih.mp h
        refine ⟨current :: scanned, rest', by simpa using hlt, ?_, ?_, ?_, rfl⟩
        · rwa [List.getLast_cons (List.cons_ne_nil _ _)]
        · rw [List.isChain_cons_cons]
          exact ⟨hhead, hchain⟩
        · rw [hrx]
          simpa using hrest
    · rintro ⟨hopen, scanned, rest, hlt, hlast, hchain, hrx, rfl⟩
      cases scanned with
      | nil =>
        refine ⟨[0xff], { port with rx := rest }, ⟨hopen, rfl, rest, hrx, rfl⟩, ?_⟩
        rw [List.getLast_singleton] at hlast
        rw [show [(0xff : UInt8)].getD 0 0 = 0xff from rfl, if_pos ⟨rfl, hlast⟩]
        rfl
      | cons current scanned =>
        rw [List.isChain_cons_cons] at hchain
        rw [List.getLast_cons (List.cons_ne_nil _ _)] at hlast
        refine ⟨[current], { port with rx := scanned.map .byte ++ .byte 0xff :: rest },
          ⟨hopen, rfl, _, hrx, rfl⟩, ?_⟩
        rw [show [current].getD 0 0 = current from rfl, if_neg hchain.1]
        exact ih.mpr ⟨hopen, scanned, rest, by simpa using hlt, hlast, hchain.2, rfl, rfl⟩

theorem checkHead_eq_ok_iff {port port' : SerialPort} :
    checkHead port = .ok () port' ↔ port.isOpen = true ∧ ∃ noise rest, noise.length ≤ 9 ∧
      HeaderFree noise ∧ port.rx = (noise ++ [0xff, 0xff]).map .byte ++ rest ∧
      port' = { port with rx := rest } := by
  rw [checkHead, checkHeadLoop_eq_ok_iff]
  refine and_congr_right fun _ ↦ ⟨?_, ?_⟩
  · rintro ⟨scanned, rest, hlt, hlast, hchain, hrx, rfl⟩
    -- the scan starts with a zero, so a header needs two scanned bytes
    rcases List.eq_nil_or_concat' scanned with rfl | ⟨noise, last, rfl⟩
    · exact absurd hlast (by decide)
    · obtain rfl : last = 0xff := by simpa using hlast
      refine ⟨noise, rest, by simp at hlt; omega, (List.isChain_cons.mp hchain).2, ?_, rfl⟩
      rw [hrx]
      simp
  · rintro ⟨noise, rest, hlen, hfree, hrx, rfl⟩
    refine ⟨noise ++ [0xff], rest, by simp; omega, by simp, ?_, by rw [hrx]; simp, rfl⟩
    refine List.isChain_cons.mpr ⟨fun b _ h ↦ ?_, hfree⟩
    exact absurd h.2 (by decide)

/-! ## One packet

The two reading functions do the same after the header: three bytes, the payload, the checksum
byte. -/

theorem bytes_of_length_three {bs : List UInt8} (h : bs.length = 3) :
    ∃ id length status, bs = [id, length, status] := by
  match bs, h with
  | [id, length, status], _ => exact ⟨id, length, status, rfl⟩

/-- The reads of one packet, as both functions make them. -/
theorem packet_reads_iff {N : ℕ} {port port' : SerialPort} {head data : List UInt8} {c : UInt8} :
    (∃ p₁ p₂ p₃, checkHead port = .ok () p₁ ∧ read 3 p₁ = .ok head p₂ ∧ read N p₂ = .ok data p₃ ∧
        readByte p₃ = .ok c port') ↔
      port.isOpen = true ∧ ∃ p rest, TakesPacket N port.rx p rest ∧
        head = [p.id, p.length, p.status] ∧ data = p.data ∧ c = p.checksum ∧
        port' = { port with rx := rest } := by
  simp only [checkHead_eq_ok_iff, read_eq_ok_iff, readByte_eq_ok_iff]
  constructor
  · rintro ⟨p₁, p₂, p₃, ⟨hopen, noise, r₁, hlen, hfree, hrx, rfl⟩, ⟨-, hhead, r₂, hr₁, rfl⟩,
      ⟨-, hdata, r₃, hr₂, rfl⟩, -, rest, hr₃, rfl⟩
    obtain ⟨id, length, status, rfl⟩ := bytes_of_length_three hhead
    refine ⟨hopen, ⟨id, length, status, data, c⟩, rest, ⟨hdata, noise, hlen, hfree, ?_⟩, rfl, rfl,
      rfl, rfl⟩
    simp only at hr₁ hr₂ hr₃
    rw [hrx, hr₁, hr₂, hr₃]
    simp [StatusPacket.bytes]
  · rintro ⟨hopen, p, rest, ⟨hsize, noise, hlen, hfree, hrx⟩, rfl, rfl, rfl, rfl⟩
    refine ⟨{ port with rx := p.bytes.map .byte ++ rest },
      { port with rx := p.data.map .byte ++ .byte p.checksum :: rest },
      { port with rx := .byte p.checksum :: rest }, ⟨hopen, noise, _, hlen, hfree, ?_, rfl⟩,
      ⟨hopen, rfl, _, ?_, rfl⟩, ⟨hopen, hsize, _, rfl, rfl⟩, hopen, rest, rfl, rfl⟩
    · rw [hrx]
      simp
    · simp [StatusPacket.bytes]

/-- One turn of the reply loop takes the next packet and checks its sum. -/
theorem syncReadReply_eq_ok_iff {N : ℕ} {port port' : SerialPort} {data : List UInt8} :
    syncReadReply N port = .ok data port' ↔ port.isOpen = true ∧ ∃ p rest,
      TakesPacket N port.rx p rest ∧ p.Verifies ∧ data = p.data ∧
      port' = { port with rx := rest } := by
  unfold syncReadReply
  simp only [bind_eq_ok_iff, mapUnexpected_eq_ok_iff, pure_apply, throw_bind, ite_throw_eq_ok_iff]
  constructor
  · rintro ⟨_, _, ⟨_, p₁, hhead, _, p₂, hthree, _, p₃, hdata, _, _, hsum, ⟨⟩⟩, h⟩
    obtain ⟨hopen, p, rest, htakes, rfl, rfl, rfl, rfl⟩ :=
      packet_reads_iff.mp ⟨p₁, p₂, p₃, hhead, hthree, hdata, hsum⟩
    obtain ⟨hcheck, ⟨⟩⟩ := h
    exact ⟨hopen, p, rest, htakes, StatusPacket.verifies_iff.mpr (not_not.mp hcheck), rfl, rfl⟩
  · rintro ⟨hopen, p, rest, htakes, hver, rfl, rfl⟩
    obtain ⟨p₁, p₂, p₃, hhead, hthree, hdata, hsum⟩ :=
      packet_reads_iff.mpr ⟨hopen, p, rest, htakes, rfl, rfl, rfl, rfl⟩
    refine ⟨_, _, ⟨(), p₁, hhead, _, p₂, hthree, _, p₃, hdata, _, _, hsum, rfl⟩, ?_⟩
    exact ⟨not_not.mpr (StatusPacket.verifies_iff.mp hver), rfl⟩

/-! ## Many packets

The reply loop takes one packet for each id and compares none of them with it. By induction over the
ids, a run succeeds exactly when the line delivers as many packets that verify as there are ids. -/

theorem syncReadReplies_eq_ok_iff {N : ℕ} {ids : List UInt8} :
    ∀ {port port' : SerialPort} {data : List (List UInt8)}, port.isOpen = true →
      (syncReadReplies N ids port = .ok data port' ↔ ∃ packets rest,
        Delivers N port.rx packets rest ∧ packets.length = ids.length ∧
        (∀ p ∈ packets, p.Verifies) ∧ data = packets.map StatusPacket.data ∧
        port' = { port with rx := rest }) := by
  induction ids with
  | nil =>
    intro port port' data _
    rw [syncReadReplies, pure_apply]
    constructor
    · rintro ⟨⟩
      exact ⟨[], port.rx, .nil _, rfl, by simp, rfl, rfl⟩
    · rintro ⟨packets, rest, hdel, hlen, -, rfl, rfl⟩
      obtain rfl := List.length_eq_zero_iff.mp hlen
      cases hdel
      rfl
  | cons id ids ih =>
    intro port port' data hopen
    rw [syncReadReplies, bind_eq_ok_iff]
    constructor
    · rintro ⟨_, _, hreply, h⟩
      obtain ⟨_, _, hrest, ⟨⟩⟩ := bind_eq_ok_iff.mp h
      obtain ⟨-, p, mid, htakes, hver, rfl, rfl⟩ := syncReadReply_eq_ok_iff.mp hreply
      have hmid : ({ port with rx := mid } : SerialPort).isOpen = true := hopen
      obtain ⟨packets, rest, hdel, hlen, hall, rfl, rfl⟩ := (ih hmid).mp hrest
      refine ⟨p :: packets, rest, .cons htakes hdel, by simp [hlen], ?_, rfl, rfl⟩
      exact List.forall_mem_cons.mpr ⟨hver, hall⟩
    · rintro ⟨packets, rest, hdel, hlen, hall, rfl, rfl⟩
      cases hdel with
      | nil => simp at hlen
      | @cons _ mid _ p packets htakes hdel =>
        obtain ⟨hver, hall⟩ := List.forall_mem_cons.mp hall
        have hmid : ({ port with rx := mid } : SerialPort).isOpen = true := hopen
        refine ⟨p.data, { port with rx := mid },
          syncReadReply_eq_ok_iff.mpr ⟨hopen, p, mid, htakes, hver, rfl, rfl⟩, ?_⟩
        rw [bind_eq_ok_iff]
        exact ⟨packets.map StatusPacket.data, { port with rx := rest },
          (ih hmid).mpr ⟨packets, rest, hdel, by simpa using hlen, hall, rfl, rfl⟩, rfl⟩

/-- **`sync_read` succeeds** exactly when its request is written and the line delivers one packet
for each id, all of whose checksums verify. -/
theorem syncRead_eq_ok_iff {N : ℕ} {ids : List UInt8} {memoryAddress : UInt8}
    {port port' : SerialPort} {data : List (List UInt8)} :
    syncRead N ids memoryAddress port = .ok data port' ↔
      port.CanWrite (ids.length + 2) ∧ ∃ packets rest, Delivers N port.rx packets rest ∧
        packets.length = ids.length ∧ (∀ p ∈ packets, p.Verifies) ∧
        data = packets.map StatusPacket.data ∧
        port' = { port.wrote (ids.length + 2) (syncReadFrame N ids memoryAddress).encode with
          rx := rest } := by
  rw [syncRead, bind_eq_ok_iff]
  constructor
  · rintro ⟨_, _, hrequest, hreplies⟩
    obtain ⟨hcan, -, rfl⟩ := (writes_syncReadRequest N ids memoryAddress _ _ _).mp hrequest
    have hopen : (port.wrote (ids.length + 2)
      (syncReadFrame N ids memoryAddress).encode).isOpen = true := hcan.isOpen (by omega)
    exact ⟨hcan, (syncReadReplies_eq_ok_iff hopen).mp hreplies⟩
  · rintro ⟨hcan, h⟩
    have hopen : (port.wrote (ids.length + 2)
      (syncReadFrame N ids memoryAddress).encode).isOpen = true := hcan.isOpen (by omega)
    exact ⟨(), _, (writes_syncReadRequest N ids memoryAddress _ _ _).mpr ⟨hcan, rfl, rfl⟩,
      (syncReadReplies_eq_ok_iff hopen).mpr h⟩

theorem delivers_singleton_iff {N : ℕ} {line rest : List RxEvent} {p : StatusPacket} :
    Delivers N line [p] rest ↔ TakesPacket N line p rest := by
  constructor
  · rintro (_ | ⟨h, ⟨⟩⟩)
    exact h
  · exact fun h ↦ .cons h (.nil rest)

/-- **`read` succeeds** exactly when its request is written and the line delivers one packet whose
checksum verifies. -/
theorem readServo_eq_ok_iff {N : ℕ} {id memoryAddress : UInt8} {port port' : SerialPort}
    {data : List UInt8} :
    readServo N id memoryAddress port = .ok data port' ↔
      port.CanWrite 1 ∧ ∃ p rest, TakesPacket N port.rx p rest ∧ p.Verifies ∧ data = p.data ∧
        port' = { port.wrote 1
          (servoFrame id memoryAddress [UInt8.ofNat N] kInstructionRead).encode with
            rx := rest } := by
  unfold readServo
  simp only [bind_eq_ok_iff, mapUnexpected_eq_ok_iff, pure_apply, throw_bind, ite_throw_eq_ok_iff]
  constructor
  · rintro ⟨_, p₁, ⟨_, _, hwrite, hhead⟩, _, p₂, hthree, _, p₃, hdata, _, _, hsum, h⟩
    obtain ⟨hcan, -, rfl⟩ := (writes_writeBuffer id memoryAddress _ _ _ _ _).mp hwrite
    obtain ⟨-, p, rest, htakes, rfl, rfl, rfl, rfl⟩ :=
      packet_reads_iff.mp ⟨p₁, p₂, p₃, hhead, hthree, hdata, hsum⟩
    obtain ⟨hcheck, ⟨⟩⟩ := h
    exact ⟨hcan, p, rest, htakes, StatusPacket.verifies_iff.mpr (not_not.mp hcheck), rfl, rfl⟩
  · rintro ⟨hcan, p, rest, htakes, hver, rfl, rfl⟩
    have hopen : (port.wrote 1 (servoFrame id memoryAddress [UInt8.ofNat N]
      kInstructionRead).encode).isOpen = true := hcan.isOpen Nat.one_pos
    obtain ⟨p₁, p₂, p₃, hhead, hthree, hdata, hsum⟩ :=
      packet_reads_iff.mpr ⟨hopen, p, rest, htakes, rfl, rfl, rfl, rfl⟩
    refine ⟨(), p₁, ⟨(), _, (writes_writeBuffer id memoryAddress _ _ _ _ _).mpr ⟨hcan, rfl, rfl⟩,
      hhead⟩, _, p₂, hthree, _, p₃, hdata, _, _, hsum, ?_⟩
    exact ⟨not_not.mpr (StatusPacket.verifies_iff.mp hver), rfl⟩

/-- A word is read with the two bytes of such a packet. -/
theorem readWord_eq_ok_iff {id memoryAddress : UInt8} {port port' : SerialPort} {w : ℤ} :
    readWord id memoryAddress port = .ok w port' ↔
      port.CanWrite 1 ∧ ∃ p rest, TakesPacket 2 port.rx p rest ∧ p.Verifies ∧
        w = fromSts ⟨p.data.getD 0 0, p.data.getD 1 0⟩ ∧
        port' = { port.wrote 1
          (servoFrame id memoryAddress [UInt8.ofNat 2] kInstructionRead).encode with
            rx := rest } := by
  rw [readWord, bind_eq_ok_iff]
  simp only [readServo_eq_ok_iff]
  constructor
  · rintro ⟨_, _, ⟨hcan, p, rest, htakes, hver, rfl, rfl⟩, ⟨⟩⟩
    exact ⟨hcan, p, rest, htakes, hver, rfl, rfl⟩
  · rintro ⟨hcan, p, rest, htakes, hver, rfl, rfl⟩
    exact ⟨_, _, ⟨hcan, p, rest, htakes, hver, rfl, rfl⟩, rfl⟩

/-- The reads of an acknowledgement, four bytes at once. -/
theorem acknowledgement_reads_iff {port port' : SerialPort} {buffer : List UInt8} :
    (∃ p₁, checkHead port = .ok () p₁ ∧ read 4 p₁ = .ok buffer port') ↔
      port.isOpen = true ∧ ∃ p rest, TakesPacket 0 port.rx p rest ∧ buffer = p.bytes ∧
        port' = { port with rx := rest } := by
  simp only [checkHead_eq_ok_iff, read_eq_ok_iff]
  constructor
  · rintro ⟨_, ⟨hopen, noise, r₁, hlen, hfree, hrx, rfl⟩, -, hfour, rest, hr₁, rfl⟩
    match buffer, hfour with
    | [id, length, status, checksum], _ =>
      refine ⟨hopen, ⟨id, length, status, [], checksum⟩, rest, ⟨rfl, noise, hlen, hfree, ?_⟩, rfl,
        rfl⟩
      simp only at hr₁
      rw [hrx, hr₁]
      simp [StatusPacket.bytes]
  · rintro ⟨hopen, p, rest, ⟨hsize, noise, hlen, hfree, hrx⟩, rfl, rfl⟩
    refine ⟨{ port with rx := p.bytes.map .byte ++ rest }, ⟨hopen, noise, _, hlen, hfree, ?_, rfl⟩,
      hopen, ?_, rest, rfl, rfl⟩
    · rw [hrx]
      simp
    · simp [StatusPacket.bytes, hsize]

/-- `read_response` accepts exactly an empty packet of the servo that was asked. -/
theorem readResponse_eq_ok_iff {id : UInt8} {port port' : SerialPort} (hid : id ≠ kBroadcastId) :
    readResponse id port = .ok () port' ↔ port.isOpen = true ∧ ∃ p rest,
      TakesPacket 0 port.rx p rest ∧ p.Verifies ∧ p.Answers 0 id ∧
      port' = { port with rx := rest } := by
  unfold readResponse
  rw [if_neg hid]
  simp only [bind_eq_ok_iff, pure_apply, throw_bind, ite_throw_eq_ok_iff]
  constructor
  · rintro ⟨_, p₁, hhead, _, _, hfour, hid', hlength, hsum, ⟨⟩⟩
    obtain ⟨hopen, p, rest, htakes, rfl, rfl⟩ :=
      acknowledgement_reads_iff.mp ⟨p₁, hhead, hfour⟩
    obtain ⟨hver, hans⟩ := (p.acknowledges_iff htakes.size).mp ⟨hid', hlength, hsum⟩
    exact ⟨hopen, p, rest, htakes, hver, hans, rfl⟩
  · rintro ⟨hopen, p, rest, htakes, hver, hans, rfl⟩
    obtain ⟨p₁, hhead, hfour⟩ := acknowledgement_reads_iff.mpr ⟨hopen, p, rest, htakes, rfl, rfl⟩
    obtain ⟨hid', hlength, hsum⟩ := (p.acknowledges_iff htakes.size).mpr ⟨hver, hans⟩
    exact ⟨(), p₁, hhead, p.bytes, _, hfour, hid', hlength, hsum, rfl⟩

/-- **`write` succeeds** exactly when its request is written and, unless it was a broadcast, the
line delivers an empty packet of the servo that was asked. -/
theorem writeServo_eq_ok_iff {id memoryAddress : UInt8} {parameters : List UInt8}
    {port port' : SerialPort} :
    writeServo id memoryAddress parameters port = .ok () port' ↔
      port.CanWrite 1 ∧ ∃ rest, port' = { port.wrote 1
          (servoFrame id memoryAddress parameters kInstructionWrite).encode with rx := rest } ∧
        if id = kBroadcastId then rest = port.rx
        else ∃ p, TakesPacket 0 port.rx p rest ∧ p.Verifies ∧ p.Answers 0 id := by
  unfold writeServo
  rw [bind_eq_ok_iff]
  by_cases hid : id = kBroadcastId
  · simp only [if_pos hid]
    constructor
    · rintro ⟨_, _, hwrite, h⟩
      obtain ⟨hcan, -, rfl⟩ := (writes_writeBuffer id memoryAddress _ _ _ _ _).mp hwrite
      rw [readResponse, if_pos hid] at h
      cases h
      exact ⟨hcan, _, rfl, rfl⟩
    · rintro ⟨hcan, rest, rfl, rfl⟩
      refine ⟨(), _, (writes_writeBuffer id memoryAddress _ _ _ _ _).mpr ⟨hcan, rfl, rfl⟩, ?_⟩
      rw [readResponse, if_pos hid]
      rfl
  · simp only [if_neg hid]
    constructor
    · rintro ⟨_, _, hwrite, h⟩
      obtain ⟨hcan, -, rfl⟩ := (writes_writeBuffer id memoryAddress _ _ _ _ _).mp hwrite
      obtain ⟨-, p, rest, htakes, hver, hans, rfl⟩ := (readResponse_eq_ok_iff hid).mp h
      exact ⟨hcan, rest, rfl, p, htakes, hver, hans⟩
    · rintro ⟨hcan, rest, rfl, p, htakes, hver, hans⟩
      have hopen : (port.wrote 1 (servoFrame id memoryAddress parameters
        kInstructionWrite).encode).isOpen = true := hcan.isOpen Nat.one_pos
      exact ⟨(), _, (writes_writeBuffer id memoryAddress _ _ _ _ _).mpr ⟨hcan, rfl, rfl⟩,
        (readResponse_eq_ok_iff hid).mpr ⟨hopen, p, rest, htakes, hver, hans, rfl⟩⟩

/-! ## The packets of a line

That a line has at most one division into packets needs no look at the bytes: `packet_reads_iff`
says that the reads find every packet there is, and the reads are a function. -/

/-- A line has only one first packet. -/
theorem TakesPacket.unique {N : ℕ} {line rest rest' : List RxEvent} {p p' : StatusPacket}
    (h : TakesPacket N line p rest) (h' : TakesPacket N line p' rest') :
    p = p' ∧ rest = rest' := by
  -- the reads that find a packet are deterministic
  obtain ⟨p₁, p₂, p₃, h₁, h₂, h₃, h₄⟩ :=
    packet_reads_iff.mpr ⟨(rfl : (openPort line).isOpen = true), p, rest, h, rfl, rfl, rfl, rfl⟩
  obtain ⟨q₁, q₂, q₃, h₁', h₂', h₃', h₄'⟩ :=
    packet_reads_iff.mpr ⟨(rfl : (openPort line).isOpen = true), p', rest', h', rfl, rfl, rfl, rfl⟩
  cases h₁.symm.trans h₁'
  obtain ⟨hhead, rfl⟩ := EStateM.Result.ok.inj (h₂.symm.trans h₂')
  obtain ⟨hdata, rfl⟩ := EStateM.Result.ok.inj (h₃.symm.trans h₃')
  obtain ⟨hsum, hport⟩ := EStateM.Result.ok.inj (h₄.symm.trans h₄')
  cases p
  cases p'
  simp_all

theorem Delivers.unique {N : ℕ} {line : List RxEvent} {ps : List StatusPacket}
    {rest : List RxEvent} (h : Delivers N line ps rest) :
    ∀ {rest' : List RxEvent} {ps' : List StatusPacket}, Delivers N line ps' rest' →
      ps.length = ps'.length → ps = ps' ∧ rest = rest' := by
  induction h with
  | nil line =>
    intro rest' ps' h' hlen
    obtain rfl := List.length_eq_zero_iff.mp hlen.symm
    cases h'
    exact ⟨rfl, rfl⟩
  | cons htakes _ ih =>
    intro rest' ps' h' hlen
    cases h' with
    | nil => simp at hlen
    | cons htakes' hdel' =>
      obtain ⟨rfl, rfl⟩ := htakes.unique htakes'
      obtain ⟨rfl, rfl⟩ := ih hdel' (by simpa using hlen)
      exact ⟨rfl, rfl⟩

/-! ## Exceptions

Of the reads of a packet, only the one of the checksum byte can let an exception out. -/

/-- The device fails on the checksum byte of the first packet of the line. -/
def FailsAtChecksum (N : ℕ) (line : List RxEvent) : Prop :=
  ∃ noise bytes what rest, noise.length ≤ 9 ∧ HeaderFree noise ∧ bytes.length = N + 3 ∧
    line = (noise ++ [0xff, 0xff] ++ bytes).map .byte ++ .failure what :: rest

@[simp] theorem not_escapes_checkHead (port : SerialPort) : ¬ Escapes checkHead port := by
  have hloop : ∀ (tries : ℕ) (previous : UInt8) (p : SerialPort),
      ¬ Escapes (checkHeadLoop tries previous) p := by
    intro tries
    induction tries with
    | zero => exact fun _ p ↦ not_escapes_unexpected _ p
    | succ tries ih =>
      intro previous p
      rw [checkHeadLoop, escapes_bind_iff]
      rintro (h | ⟨bDat, q, -, h⟩)
      · exact not_escapes_read 1 p (escapes_mapUnexpected_iff.mp h)
      · exact not_escapes_ite (not_escapes_pure () q) (ih _ q) h
  exact hloop 11 0 port

/-- Only the read of the checksum byte can let an exception out of the reads of a packet. -/
theorem escapes_syncReadReply_reads {N : ℕ} {port : SerialPort} :
    Escapes (syncReadReply N) port ↔ ∃ p₁ p₂ p₃ head data, checkHead port = .ok () p₁ ∧
      read 3 p₁ = .ok head p₂ ∧ read N p₂ = .ok data p₃ ∧ Escapes readByte p₃ := by
  unfold syncReadReply
  simp only [escapes_bind_iff, escapes_mapUnexpected_iff, not_escapes_checkHead,
    not_escapes_read, not_escapes_pure, throw_bind, false_or]
  constructor
  · rintro (⟨_, p₁, hhead, head, p₂, hthree, data, p₃, hdata, h | ⟨_, _, -, h⟩⟩ | ⟨_, q, -, h⟩)
    · exact ⟨p₁, p₂, p₃, head, data, hhead, hthree, hdata, h⟩
    · exact h.elim
    · exact absurd h (not_escapes_ite (not_escapes_unexpected _ q) (not_escapes_pure _ q))
  · rintro ⟨p₁, p₂, p₃, head, data, hhead, hthree, hdata, h⟩
    exact Or.inl ⟨(), p₁, hhead, head, p₂, hthree, data, p₃, hdata, Or.inl h⟩

theorem escapes_syncReadReply_iff {N : ℕ} {port : SerialPort} (hopen : port.isOpen = true) :
    Escapes (syncReadReply N) port ↔ FailsAtChecksum N port.rx := by
  rw [escapes_syncReadReply_reads]
  simp only [checkHead_eq_ok_iff, read_eq_ok_iff]
  constructor
  · rintro ⟨p₁, p₂, p₃, head, data, ⟨-, noise, r₁, hlen, hfree, hrx, rfl⟩, ⟨-, hhead, r₂, hr₁, rfl⟩,
      ⟨-, hdata, r₃, hr₂, rfl⟩, h⟩
    obtain ⟨what, rest, hr₃⟩ := (escapes_readByte_iff (by exact hopen)).mp h
    refine ⟨noise, head ++ data, what, rest, hlen, hfree, by simp [hhead, hdata]; omega, ?_⟩
    simp only at hr₁ hr₂ hr₃
    rw [hrx, hr₁, hr₂, hr₃]
    simp
  · rintro ⟨noise, bytes, what, rest, hlen, hfree, hbytes, hrx⟩
    refine ⟨{ port with rx := bytes.map .byte ++ .failure what :: rest },
      { port with rx := (bytes.drop 3).map .byte ++ .failure what :: rest },
      { port with rx := .failure what :: rest }, bytes.take 3, bytes.drop 3,
      ⟨hopen, noise, _, hlen, hfree, ?_, rfl⟩, ⟨hopen, by simp; omega, _, ?_, rfl⟩,
      ⟨hopen, by simp; omega, _, rfl, rfl⟩, ?_⟩
    · rw [hrx]
      simp
    · rw [← List.append_assoc, ← List.map_append, List.take_append_drop]
    · exact (escapes_readByte_iff (by exact hopen)).mpr ⟨what, rest, rfl⟩

theorem escapes_syncReadReplies_iff {N : ℕ} {ids : List UInt8} :
    ∀ {port : SerialPort}, port.isOpen = true →
      (Escapes (syncReadReplies N ids) port ↔ ∃ packets rest, Delivers N port.rx packets rest ∧
        packets.length < ids.length ∧ (∀ p ∈ packets, p.Verifies) ∧ FailsAtChecksum N rest) := by
  induction ids with
  | nil =>
    intro port _
    simp [syncReadReplies]
  | cons id ids ih =>
    intro port hopen
    rw [syncReadReplies, escapes_bind_iff, escapes_syncReadReply_iff hopen]
    constructor
    · rintro (h | ⟨_, _, hreply, h⟩)
      · exact ⟨[], _, .nil _, by simp, by simp, h⟩
      · obtain ⟨-, p, mid, htakes, hver, rfl, rfl⟩ := syncReadReply_eq_ok_iff.mp hreply
        have hmid : ({ port with rx := mid } : SerialPort).isOpen = true := hopen
        rw [escapes_bind_iff] at h
        rcases h with h | ⟨_, _, -, h⟩
        · obtain ⟨packets, rest, hdel, hlen, hall, hfail⟩ := (ih hmid).mp h
          exact ⟨p :: packets, rest, .cons htakes hdel, by simpa using hlen,
            List.forall_mem_cons.mpr ⟨hver, hall⟩, hfail⟩
        · exact absurd h (not_escapes_pure _ _)
    · rintro ⟨packets, rest, hdel, hlen, hall, hfail⟩
      cases hdel with
      | nil =>
        -- no packet before the failure: it is in this turn
        exact Or.inl hfail
      | @cons _ mid _ p packets htakes hdel =>
        obtain ⟨hver, hall⟩ := List.forall_mem_cons.mp hall
        have hmid : ({ port with rx := mid } : SerialPort).isOpen = true := hopen
        refine Or.inr ⟨p.data, { port with rx := mid },
          syncReadReply_eq_ok_iff.mpr ⟨hopen, p, mid, htakes, hver, rfl, rfl⟩, ?_⟩
        rw [escapes_bind_iff]
        exact Or.inl ((ih hmid).mpr ⟨packets, rest, hdel, by simpa using hlen, hall, hfail⟩)

/-- The request of a sync read lets nothing out. -/
theorem not_escapes_syncReadRequest {N : ℕ} {ids : List UInt8} {memoryAddress : UInt8}
    {port : SerialPort} : ¬ Escapes (syncReadRequest N ids memoryAddress) port := by
  have hids : ∀ (ids : List UInt8) (c : UInt8) (p : SerialPort),
        ¬ Escapes (syncReadIds ids c) p := by
    intro ids
    induction ids with
    | nil => exact fun c p ↦ not_escapes_pure c p
    | cons id ids ih =>
      intro c p
      rw [syncReadIds, escapes_bind_iff]
      rintro (h | ⟨_, q, -, h⟩)
      · exact not_escapes_write _ _ (escapes_mapUnexpected_iff.mp h)
      · exact ih _ q h
  unfold syncReadRequest
  simp only [escapes_bind_iff, not_escapes_write, hids]
  simp

/-- **An exception escapes from `sync_read`** exactly when its request is written and the device
fails on a checksum byte behind packets that verify. -/
theorem escapes_syncRead_iff {N : ℕ} {ids : List UInt8} {memoryAddress : UInt8}
    {port : SerialPort} : Escapes (syncRead N ids memoryAddress) port ↔
      port.CanWrite (ids.length + 2) ∧ ∃ packets rest, Delivers N port.rx packets rest ∧
        packets.length < ids.length ∧ (∀ p ∈ packets, p.Verifies) ∧ FailsAtChecksum N rest := by
  rw [syncRead, escapes_bind_iff, or_iff_right not_escapes_syncReadRequest]
  constructor
  · rintro ⟨_, _, hrequest, h⟩
    obtain ⟨hcan, -, rfl⟩ := (writes_syncReadRequest N ids memoryAddress _ _ _).mp hrequest
    have hopen : (port.wrote (ids.length + 2)
      (syncReadFrame N ids memoryAddress).encode).isOpen = true := hcan.isOpen (by omega)
    exact ⟨hcan, (escapes_syncReadReplies_iff hopen).mp h⟩
  · rintro ⟨hcan, h⟩
    have hopen : (port.wrote (ids.length + 2)
      (syncReadFrame N ids memoryAddress).encode).isOpen = true := hcan.isOpen (by omega)
    exact ⟨(), _, (writes_syncReadRequest N ids memoryAddress _ _ _).mpr ⟨hcan, rfl, rfl⟩,
      (escapes_syncReadReplies_iff hopen).mpr h⟩

/-! ## Whose packets they are

As no id is compared, a result is what was asked for exactly when the line happens to begin with the
right packets. By uniqueness, these are the packets that the run has taken. -/

/-- Each packet is of the servo at its place, with a payload of `N` bytes. -/
def InOrder (N : ℕ) (ids : List UInt8) (packets : List StatusPacket) : Prop :=
  List.Forall₂ (fun p id ↦ p.Answers N id) packets ids

/-- The line does not begin with verifying packets one of which is of another servo than the one at
its place, or of another length. -/
def AnsweredInOrder (N : ℕ) (ids : List UInt8) (line : List RxEvent) : Prop :=
  ∀ packets rest, Delivers N line packets rest → packets.length = ids.length →
    (∀ p ∈ packets, p.Verifies) → InOrder N ids packets

/-- What `sync_read` returns are the payloads of verifying packets of the servos asked, in order. -/
def SyncReadAddressed (N : ℕ) (ids : List UInt8) (memoryAddress : UInt8) (port : SerialPort) :
    Prop :=
  ∀ data port', syncRead N ids memoryAddress port = .ok data port' →
    ∃ packets rest, Delivers N port.rx packets rest ∧ (∀ p ∈ packets, p.Verifies) ∧
      InOrder N ids packets ∧ data = packets.map StatusPacket.data

/-- What `read` returns is the payload of a verifying packet of the servo asked. -/
def ReadAddressed (N : ℕ) (id memoryAddress : UInt8) (port : SerialPort) : Prop :=
  ∀ data port', readServo N id memoryAddress port = .ok data port' →
    ∃ p rest, TakesPacket N port.rx p rest ∧ p.Verifies ∧ p.Answers N id ∧ data = p.data

theorem syncReadAddressed_iff {N : ℕ} {ids : List UInt8} {memoryAddress : UInt8}
    {port : SerialPort} : SyncReadAddressed N ids memoryAddress port ↔
      (port.CanWrite (ids.length + 2) → AnsweredInOrder N ids port.rx) := by
  constructor
  · intro h hcan packets rest hdel hlen hver
    obtain ⟨packets', rest', hdel', -, horder, -⟩ := h _ _
      (syncRead_eq_ok_iff.mpr ⟨hcan, packets, rest, hdel, hlen, hver, rfl, rfl⟩)
    obtain ⟨rfl, -⟩ := hdel.unique hdel' (hlen.trans horder.length_eq.symm)
    exact horder
  · intro h data port' hrun
    obtain ⟨hcan, packets, rest, hdel, hlen, hver, rfl, -⟩ := syncRead_eq_ok_iff.mp hrun
    exact ⟨packets, rest, hdel, hver, h hcan packets rest hdel hlen hver, rfl⟩

theorem readAddressed_iff {N : ℕ} {id memoryAddress : UInt8} {port : SerialPort} :
    ReadAddressed N id memoryAddress port ↔
      (port.CanWrite 1 → AnsweredInOrder N [id] port.rx) := by
  constructor
  · intro h hcan packets rest hdel hlen hver
    obtain ⟨p, rfl⟩ := List.length_eq_one_iff.mp hlen
    have htakes := delivers_singleton_iff.mp hdel
    obtain ⟨p', rest', htakes', -, hans, -⟩ := h _ _ (readServo_eq_ok_iff.mpr
      ⟨hcan, p, rest, htakes, hver p List.mem_cons_self, rfl, rfl⟩)
    obtain ⟨rfl, -⟩ := htakes.unique htakes'
    exact .cons hans .nil
  · intro h data port' hrun
    obtain ⟨hcan, p, rest, htakes, hver, rfl, -⟩ := readServo_eq_ok_iff.mp hrun
    have horder := h hcan [p] rest (delivers_singleton_iff.mpr htakes) rfl (by simpa using hver)
    exact ⟨p, rest, htakes, hver, (List.forall₂_cons.mp horder).1, rfl⟩

/-- **When the results are the replies of the servos asked.** A read whose request goes out keeps to
the ids exactly when the line does: the bytes themselves are not checked against them. -/
theorem replies_addressed_iff {N : ℕ} {ids : List UInt8} {id memoryAddress : UInt8}
    {port : SerialPort} :
    (SyncReadAddressed N ids memoryAddress port ↔
        (port.CanWrite (ids.length + 2) → AnsweredInOrder N ids port.rx)) ∧
      (ReadAddressed N id memoryAddress port ↔
        (port.CanWrite 1 → AnsweredInOrder N [id] port.rx)) :=
  ⟨syncReadAddressed_iff, readAddressed_iff⟩

/-- The position reply of servo 2. -/
def replyOfTwo : StatusPacket := ⟨2, 4, 0, [0x00, 0x08], 0xf1⟩

/-- Asked for servo 1, both functions take the reply of servo 2 for its position. -/
theorem reply_of_another_servo :
    ¬ SyncReadAddressed 2 [1] smsStsPresentPositionL
        (openPort (([0xff, 0xff] ++ replyOfTwo.bytes).map .byte)) ∧
      ¬ ReadAddressed 2 1 smsStsPresentPositionL
        (openPort (([0xff, 0xff] ++ replyOfTwo.bytes).map .byte)) := by
  have htakes : TakesPacket 2 (([0xff, 0xff] ++ replyOfTwo.bytes).map .byte) replyOfTwo [] :=
    ⟨rfl, [], by simp, by decide, by simp⟩
  have hline : ¬ AnsweredInOrder 2 [1] (([0xff, 0xff] ++ replyOfTwo.bytes).map .byte) := by
    intro h
    have horder := h [replyOfTwo] [] (delivers_singleton_iff.mpr htakes) rfl (by decide)
    exact absurd (List.forall₂_cons.mp horder).1 (by decide)
  have hwrites := openPort_writesSucceed (([0xff, 0xff] ++ replyOfTwo.bytes).map .byte)
  rw [syncReadAddressed_iff, readAddressed_iff]
  exact ⟨fun h ↦ hline (h (hwrites.canWrite _)), fun h ↦ hline (h (hwrites.canWrite _))⟩

end VzletUr3e.Feetech
