import VzletUr3e.Feetech.Protocol

/-!
# What the broadcast instructions put on the wire

`sync_write` and the request of `sync_read` stream one frame through many small writes. `Writes`
says what a writing function does in one line: how many writes it makes, which bytes they add up to,
and what it returns; it composes along binds. The bytes turn out to be the encoding of one
`ChecksumFrame.Frame` in every case. What may be wrong is the length byte, which is a narrowed
count: a receiver recovers the request exactly when the count fits in it.
-/

namespace VzletUr3e.Feetech

open StateError ChecksumFrame

/-! ## Writing functions

A function that only writes is known by three things, and they add up along a bind: the counts, the
bytes, and the condition that as many writes of the port succeed. Split in two, that condition is
about the port now and about the port after the first part, so `Writes` is closed under bind without
a look at what the port does in between. -/

/-- The next `k` writes succeed. -/
structure SerialPort.CanWrite (port : SerialPort) (k : ℕ) : Prop where
  isOpen : 0 < k → port.isOpen = true
  accepted : ∀ i < k, port.outcome (port.writeCount + i) = .accepted

/-- The port after `k` writes that put `bytes` on the wire. -/
def SerialPort.wrote (port : SerialPort) (k : ℕ) (bytes : List UInt8) : SerialPort :=
  { port with writeCount := port.writeCount + k, tx := port.tx ++ bytes }

@[simp] theorem SerialPort.wrote_rx (port : SerialPort) (k : ℕ) (bytes : List UInt8) :
    (port.wrote k bytes).rx = port.rx := rfl

@[simp] theorem SerialPort.wrote_isOpen (port : SerialPort) (k : ℕ) (bytes : List UInt8) :
    (port.wrote k bytes).isOpen = port.isOpen := rfl

@[simp] theorem SerialPort.wrote_tx (port : SerialPort) (k : ℕ) (bytes : List UInt8) :
    (port.wrote k bytes).tx = port.tx ++ bytes := rfl

theorem SerialPort.wrote_wrote (port : SerialPort) (k k' : ℕ) (bytes bytes' : List UInt8) :
    (port.wrote k bytes).wrote k' bytes' = port.wrote (k + k') (bytes ++ bytes') := by
  simp [wrote, Nat.add_assoc]

theorem SerialPort.canWrite_add_iff {port : SerialPort} {k k' : ℕ} (bytes : List UInt8) :
    port.CanWrite (k + k') ↔ port.CanWrite k ∧ (port.wrote k bytes).CanWrite k' := by
  constructor
  · rintro ⟨hopen, hacc⟩
    refine ⟨⟨fun _ ↦ hopen (by omega), fun i hi ↦ hacc i (by omega)⟩,
      ⟨fun _ ↦ hopen (by omega), fun i hi ↦ ?_⟩⟩
    have h := hacc (k + i) (by omega)
    rwa [← Nat.add_assoc] at h
  · rintro ⟨⟨hopen, hacc⟩, ⟨hopen', hacc'⟩⟩
    refine ⟨fun h ↦ ?_, fun i hi ↦ ?_⟩
    · rcases Nat.eq_zero_or_pos k with rfl | hk
      · exact hopen' (by omega)
      · exact hopen hk
    · by_cases hik : i < k
      · exact hacc i hik
      · have h := hacc' (i - k) (by omega)
        have hidx : (port.wrote k bytes).writeCount + (i - k) = port.writeCount + i := by
          change port.writeCount + k + (i - k) = port.writeCount + i
          omega
        rwa [hidx] at h

/-- All serial writes succeed: the port is open and every write from now on is taken whole. -/
structure SerialPort.WritesSucceed (port : SerialPort) : Prop where
  isOpen : port.isOpen = true
  acceptsAll : port.AcceptsAll

theorem SerialPort.WritesSucceed.canWrite {port : SerialPort} (h : port.WritesSucceed) (k : ℕ) :
    port.CanWrite k :=
  ⟨fun _ ↦ h.isOpen, fun _ _ ↦ h.acceptsAll _ (Nat.le_add_right _ _)⟩

/-- `x` succeeds exactly when its `k` writes do; it then returns `a` and has sent `bytes`. -/
def Writes {α : Type} (x : Cpp α) (k : ℕ) (bytes : List UInt8) (a : α) : Prop :=
  ∀ port port' r, x port = .ok r port' ↔ port.CanWrite k ∧ r = a ∧ port' = port.wrote k bytes

namespace Writes

variable {α β : Type} {x : Cpp α} {f : α → Cpp β} {k k' : ℕ} {bytes bytes' : List UInt8} {a : α}
  {b : β}

theorem pure (a : α) : Writes (Pure.pure a) 0 [] a := by
  intro port port' r
  have hw : port.wrote 0 [] = port := by simp [SerialPort.wrote]
  rw [pure_apply, hw]
  constructor
  · rintro ⟨⟩
    exact ⟨⟨fun h ↦ absurd h (by omega), fun i hi ↦ absurd hi (by omega)⟩, rfl, rfl⟩
  · rintro ⟨-, rfl, rfl⟩
    rfl

theorem bind (hx : Writes x k bytes a) (hf : Writes (f a) k' bytes' b) :
    Writes (x >>= f) (k + k') (bytes ++ bytes') b := by
  intro port port' r
  rw [bind_eq_ok_iff, SerialPort.canWrite_add_iff bytes, ← SerialPort.wrote_wrote]
  constructor
  · rintro ⟨_, _, h, h'⟩
    obtain ⟨hcan, rfl, rfl⟩ := (hx _ _ _).mp h
    obtain ⟨hcan', rfl, rfl⟩ := (hf _ _ _).mp h'
    exact ⟨⟨hcan, hcan'⟩, rfl, rfl⟩
  · rintro ⟨⟨hcan, hcan'⟩, rfl, rfl⟩
    exact ⟨a, _, (hx _ _ _).mpr ⟨hcan, rfl, rfl⟩, (hf _ _ _).mpr ⟨hcan', rfl, rfl⟩⟩

theorem mapUnexpected (g : String → String) (hx : Writes x k bytes a) :
    Writes (Feetech.mapUnexpected g x) k bytes a := by
  intro port port' r
  rw [mapUnexpected_eq_ok_iff]
  exact hx _ _ _

theorem congr (hx : Writes x k bytes a) (hk : k = k') (hb : bytes = bytes') :
    Writes x k' bytes' a := by
  subst hk hb
  exact hx

theorem run_of_canWrite (hx : Writes x k bytes a) {port : SerialPort} (hcan : port.CanWrite k) :
    x port = .ok a (port.wrote k bytes) :=
  (hx _ _ _).mpr ⟨hcan, rfl, rfl⟩

/-- Where all writes succeed, so does a function that only writes. -/
theorem run (hx : Writes x k bytes a) {port : SerialPort} (hport : port.WritesSucceed) :
    x port = .ok a (port.wrote k bytes) :=
  hx.run_of_canWrite (hport.canWrite k)

end Writes

theorem writes_write (buffer : List UInt8) : Writes (write buffer) 1 buffer () := by
  intro port port' r
  rw [write_eq_ok_iff]
  constructor
  · rintro ⟨hopen, hacc, rfl⟩
    exact ⟨⟨fun _ ↦ hopen, fun i hi ↦ by rwa [show i = 0 from by omega]⟩, rfl, rfl⟩
  · rintro ⟨⟨hopen, hacc⟩, -, rfl⟩
    exact ⟨hopen (by omega), hacc 0 (by omega), rfl⟩

/-- A port just opened on a line that takes every write. -/
def openPort (rx : List RxEvent) : SerialPort where
  dev := "/dev/ttyUSB0"
  isOpen := true
  rx := rx
  outcome := fun _ ↦ .accepted
  writeCount := 0
  tx := []

theorem openPort_writesSucceed (rx : List RxEvent) : (openPort rx).WritesSucceed :=
  ⟨rfl, fun _ _ ↦ rfl⟩

/-! ## Sync write

The frame is not built anywhere in the code: header, blocks and checksum leave one by one, with the
checksum summed up on the way. The loop over the blocks therefore returns what it was given plus the
sum of the bytes it has sent, and the last write completes the encoding of the frame. -/

/-- The records of a sync write: each id with its block. -/
def records {N : ℕ} (ids : List UInt8) (parameters : List (List.Vector UInt8 N)) :
    List (UInt8 × List UInt8) :=
  (ids.zip parameters).map fun p ↦ (p.1, p.2.toList)

theorem length_of_mem_records {N : ℕ} {ids : List UInt8} {parameters : List (List.Vector UInt8 N)}
    {r : UInt8 × List UInt8} (h : r ∈ records ids parameters) : r.2.length = N := by
  obtain ⟨p, -, rfl⟩ := List.mem_map.mp h
  exact p.2.toList_length

theorem length_records {N : ℕ} {ids : List UInt8} {parameters : List (List.Vector UInt8 N)}
    (h : ids.length = parameters.length) : (records ids parameters).length = ids.length := by
  rw [records, List.length_map, List.length_zip, h, Nat.min_self]

/-- The frame a sync write streams. -/
def syncWriteFrame {N : ℕ} (ids : List UInt8) (memoryAddress : UInt8)
    (parameters : List (List.Vector UInt8 N)) : Frame where
  id := kBroadcastId
  instruction := kInstructionSyncWrite
  parameters := memoryAddress :: UInt8.ofNat N :: joinBlocks (records ids parameters)

theorem length_syncWriteFrame {N : ℕ} {ids : List UInt8} {memoryAddress : UInt8}
    {parameters : List (List.Vector UInt8 N)} (h : ids.length = parameters.length) :
    (syncWriteFrame ids memoryAddress parameters).parameters.length + 2
      = (N + 1) * ids.length + 4 := by
  have hjoin := length_joinBlocks fun r (hr : r ∈ records ids parameters) ↦
    length_of_mem_records hr
  rw [length_records h] at hjoin
  simp only [syncWriteFrame, List.length_cons, hjoin]

theorem writes_syncWriteBlocks {N : ℕ} : ∀ (pairs : List (UInt8 × List.Vector UInt8 N))
    (checksum : UInt8), Writes (syncWriteBlocks pairs checksum) (2 * pairs.length)
      (joinBlocks (pairs.map fun p ↦ (p.1, p.2.toList)))
      (checksum + (joinBlocks (pairs.map fun p ↦ (p.1, p.2.toList))).sum) := by
  intro pairs
  induction pairs with
  | nil =>
    intro checksum
    rw [syncWriteBlocks, List.map_nil, joinBlocks_nil, List.sum_nil, UInt8.add_zero]
    exact Writes.pure checksum
  | cons p pairs ih =>
    intro checksum
    obtain ⟨id, block⟩ := p
    have hone : Writes (write [id] >>= fun _ ↦ write block.toList) (1 + 1)
        ([id] ++ block.toList) () := (writes_write [id]).bind (writes_write block.toList)
    have hrest := ih (checksum + (id + sumBytes block.toList))
    -- the running checksum is the sum of all that was sent
    have hsum : checksum + (id + sumBytes block.toList)
          + (joinBlocks (pairs.map fun p ↦ (p.1, p.2.toList))).sum
        = checksum + (joinBlocks (((id, block) :: pairs).map fun p ↦ (p.1, p.2.toList))).sum := by
      rw [sumBytes_eq_sum, List.map_cons, joinBlocks_cons, List.sum_cons, List.sum_append]
      grind
    rw [hsum] at hrest
    refine ((hone.mapUnexpected _).bind hrest).congr ?_ ?_
    · rw [List.length_cons]
      ring
    · simp

/-- **A sync write streams one frame.** -/
theorem writes_syncWrite {N : ℕ} {ids : List UInt8} {parameters : List (List.Vector UInt8 N)}
    (memoryAddress : UInt8) (h : ids.length = parameters.length) :
    Writes (syncWrite ids memoryAddress parameters) (2 * ids.length + 2)
      (syncWriteFrame ids memoryAddress parameters).encode () := by
  have hbyte : UInt8.ofNat ((N + 1) * ids.length + 4)
      = (syncWriteFrame ids memoryAddress parameters).lengthByte := by
    rw [Frame.lengthByte, length_syncWriteFrame h]
  have hbody : (syncWriteFrame ids memoryAddress parameters).body
      = [kBroadcastId, UInt8.ofNat ((N + 1) * ids.length + 4), kInstructionSyncWrite,
          memoryAddress, UInt8.ofNat N] ++ joinBlocks (records ids parameters) := by
    rw [hbyte]
    rfl
  have hblocks := writes_syncWriteBlocks (ids.zip parameters)
    (sumBytes [kBroadcastId, UInt8.ofNat ((N + 1) * ids.length + 4), kInstructionSyncWrite,
      memoryAddress, UInt8.ofNat N])
  have hsum : sumBytes [kBroadcastId, UInt8.ofNat ((N + 1) * ids.length + 4),
        kInstructionSyncWrite, memoryAddress, UInt8.ofNat N]
      + (joinBlocks ((ids.zip parameters).map fun p ↦ (p.1, p.2.toList))).sum
      = (syncWriteFrame ids memoryAddress parameters).body.sum := by
    rw [hbody, sumBytes_eq_sum, List.sum_append]
    rfl
  rw [hsum] at hblocks
  unfold syncWrite
  rw [if_neg (by simpa using h)]
  refine Writes.congr ((writes_write _).bind (hblocks.bind (writes_write _))) ?_ ?_
  · rw [List.length_zip, h, Nat.min_self]
    omega
  · have hcat : [0xff, 0xff] ++ (syncWriteFrame ids memoryAddress parameters).body
        ++ [~~~ (syncWriteFrame ids memoryAddress parameters).body.sum]
        = (syncWriteFrame ids memoryAddress parameters).encode := rfl
    rw [← hcat]
    generalize ~~~ (syncWriteFrame ids memoryAddress parameters).body.sum = c
    rw [hbody]
    simp only [records, List.cons_append, List.nil_append]

/-! ## The request of a sync read -/

/-- The frame a sync read streams. -/
def syncReadFrame (N : ℕ) (ids : List UInt8) (memoryAddress : UInt8) : Frame where
  id := kBroadcastId
  instruction := kInstructionSyncRead
  parameters := memoryAddress :: UInt8.ofNat N :: ids

theorem writes_syncReadIds : ∀ (ids : List UInt8) (requestChecksum : UInt8),
    Writes (syncReadIds ids requestChecksum) ids.length ids (requestChecksum + ids.sum) := by
  intro ids
  induction ids with
  | nil =>
    intro requestChecksum
    rw [syncReadIds, List.sum_nil, UInt8.add_zero]
    exact Writes.pure requestChecksum
  | cons id ids ih =>
    intro requestChecksum
    have hrest := ih (requestChecksum + id)
    rw [UInt8.add_assoc, ← List.sum_cons] at hrest
    refine (((writes_write [id]).mapUnexpected _).bind hrest).congr ?_ rfl
    rw [List.length_cons, Nat.add_comm]

/-- **The request of a sync read is one frame.** -/
theorem writes_syncReadRequest (N : ℕ) (ids : List UInt8) (memoryAddress : UInt8) :
    Writes (syncReadRequest N ids memoryAddress) (ids.length + 2)
      (syncReadFrame N ids memoryAddress).encode () := by
  have hids := writes_syncReadIds ids (sumBytes [0, 0, kBroadcastId, UInt8.ofNat (ids.length + 4),
    kInstructionSyncRead, memoryAddress, UInt8.ofNat N])
  have hbody : (syncReadFrame N ids memoryAddress).body
      = [kBroadcastId, UInt8.ofNat (ids.length + 4), kInstructionSyncRead, memoryAddress,
          UInt8.ofNat N] ++ ids := rfl
  have hsum : sumBytes [0, 0, kBroadcastId, UInt8.ofNat (ids.length + 4), kInstructionSyncRead,
        memoryAddress, UInt8.ofNat N] + ids.sum = (syncReadFrame N ids memoryAddress).body.sum := by
    rw [hbody, sumBytes_eq_sum, List.sum_append, List.sum_cons, List.sum_cons, UInt8.zero_add,
      UInt8.zero_add]
  rw [hsum] at hids
  unfold syncReadRequest
  refine Writes.congr ((writes_write _).bind (hids.bind (writes_write _))) (by omega) ?_
  have hcat : [0xff, 0xff] ++ (syncReadFrame N ids memoryAddress).body
      ++ [~~~ (syncReadFrame N ids memoryAddress).body.sum]
      = (syncReadFrame N ids memoryAddress).encode := rfl
  rw [← hcat]
  generalize ~~~ (syncReadFrame N ids memoryAddress).body.sum = c
  rw [hbody]
  simp

/-! ## Single servos -/

/-- The frame of an instruction to one servo. -/
def servoFrame (id memoryAddress : UInt8) (parameters : List UInt8) (instruction : UInt8) :
    Frame where
  id := id
  instruction := instruction
  parameters := memoryAddress :: parameters

theorem writes_writeBuffer (id memoryAddress : UInt8) (parameters : List UInt8)
    (instruction : UInt8) : Writes (writeBuffer id memoryAddress parameters instruction) 1
      (servoFrame id memoryAddress parameters instruction).encode () := by
  have hbody : (servoFrame id memoryAddress parameters instruction).body
      = [id, UInt8.ofNat (3 + parameters.length), instruction, memoryAddress] ++ parameters := by
    rw [Nat.add_comm 3]
    rfl
  have hsum : sumBytes ([0, 0] ++ ([id, UInt8.ofNat (3 + parameters.length), instruction,
        memoryAddress] ++ parameters) ++ [0])
      = (servoFrame id memoryAddress parameters instruction).body.sum := by
    rw [sumBytes_eq_sum, List.sum_append, List.sum_append, ← hbody]
    simp
  unfold writeBuffer
  refine (writes_write _).congr rfl ?_
  rw [hsum, ← hbody]
  rfl

/-! ## What a receiver makes of them

The receiver knows the bytes only. Where the frame fits its length byte, the decoder gives the frame
back; where it does not, the bytes are no frame at all, since the length byte of anything that is
decoded counts the bytes that are there. -/

/-- A length-delimited receiver of one broadcast instruction: the parameters, if the bytes are
exactly one frame of it. -/
def receiveBroadcast (instruction : UInt8) (bytes : List UInt8) : Option (List UInt8) :=
  match decode bytes with
  | some (f, []) =>
    if f.id = kBroadcastId ∧ f.instruction = instruction then some f.parameters else none
  | _ => none

/-- The start address of a sync write, and the block for each id. -/
def receiveSyncWrite (bytes : List UInt8) : Option (UInt8 × List (UInt8 × List UInt8)) :=
  match receiveBroadcast kInstructionSyncWrite bytes with
  | some (address :: width :: blocks) =>
    (splitBlocks width.toNat blocks.length blocks).map fun records ↦ (address, records)
  | _ => none

/-- The start address of a sync read, the number of bytes it asks for, and the ids. -/
def receiveSyncRead (bytes : List UInt8) : Option (UInt8 × UInt8 × List UInt8) :=
  match receiveBroadcast kInstructionSyncRead bytes with
  | some (address :: width :: ids) => some (address, width, ids)
  | _ => none

theorem receiveBroadcast_encode {f : Frame} (hf : f.Fits) (hid : f.id = kBroadcastId) :
    receiveBroadcast f.instruction f.encode = some f.parameters := by
  have h := decode_encode hf []
  rw [List.append_nil] at h
  rw [receiveBroadcast, h]
  exact if_pos ⟨hid, rfl⟩

/-- A frame that does not fit is no message to anybody. -/
theorem receiveBroadcast_of_not_fits {f : Frame} (hf : ¬f.Fits) (instruction : UInt8) :
    receiveBroadcast instruction f.encode = none := by
  unfold receiveBroadcast
  split
  · rename_i f' hdecode
    -- it would have the length byte of a frame that fits and is as long
    obtain ⟨hf', hencode⟩ := decode_eq_some_iff.mp hdecode
    rw [List.append_nil] at hencode
    have hbyte : f.lengthByte = f'.lengthByte := by
      have hget := congrArg (·[3]?) hencode
      simpa [Frame.encode, Frame.body] using hget
    have hcount : f.parameters.length = f'.parameters.length := by
      have hlength := congrArg List.length hencode
      rw [Frame.length_encode, Frame.length_encode] at hlength
      omega
    have hfits := f'.toNat_lengthByte_eq_iff.mpr hf'
    rw [← hbyte, ← hcount, f.toNat_lengthByte_eq_iff] at hfits
    exact absurd hfits hf
  · rfl

theorem receiveSyncWrite_encode {N : ℕ} {ids : List UInt8} {memoryAddress : UInt8}
    {parameters : List (List.Vector UInt8 N)} (h : ids.length = parameters.length)
    (hf : (syncWriteFrame ids memoryAddress parameters).Fits) :
    receiveSyncWrite (syncWriteFrame ids memoryAddress parameters).encode
      = some (memoryAddress, records ids parameters) := by
  have hparams : receiveBroadcast kInstructionSyncWrite
      (syncWriteFrame ids memoryAddress parameters).encode
      = some (memoryAddress :: UInt8.ofNat N :: joinBlocks (records ids parameters)) :=
    receiveBroadcast_encode hf rfl
  rw [Frame.Fits, length_syncWriteFrame h] at hf
  rw [receiveSyncWrite, hparams]
  have hsplit : splitBlocks (UInt8.ofNat N).toNat (joinBlocks (records ids parameters)).length
      (joinBlocks (records ids parameters)) = some (records ids parameters) := by
    rcases Nat.eq_zero_or_pos ids.length with h0 | hpos
    · -- without servos the block size is never used
      have hnil : records ids parameters = [] := by
        rw [← List.length_eq_zero_iff, length_records h, h0]
      rw [hnil]
      rfl
    · have hN : N + 1 ≤ (N + 1) * ids.length := Nat.le_mul_of_pos_right _ hpos
      have hwidth : (UInt8.ofNat N).toNat = N := by
        rw [UInt8.toNat_ofNat', show 2 ^ 8 = 256 from rfl]
        exact Nat.mod_eq_of_lt (by omega)
      have hlen := length_joinBlocks fun r (hr : r ∈ records ids parameters) ↦
        length_of_mem_records hr
      rw [hwidth]
      refine splitBlocks_joinBlocks (fun r hr ↦ length_of_mem_records hr) ?_
      rw [hlen]
      exact Nat.le_mul_of_pos_left _ (Nat.succ_pos N)
  change (splitBlocks (UInt8.ofNat N).toNat _ _).map _ = _
  rw [hsplit]
  rfl

theorem receiveSyncRead_encode {N : ℕ} {ids : List UInt8} {memoryAddress : UInt8}
    (hf : (syncReadFrame N ids memoryAddress).Fits) :
    receiveSyncRead (syncReadFrame N ids memoryAddress).encode
      = some (memoryAddress, UInt8.ofNat N, ids) := by
  have hparams : receiveBroadcast kInstructionSyncRead
      (syncReadFrame N ids memoryAddress).encode
      = some (memoryAddress :: UInt8.ofNat N :: ids) := receiveBroadcast_encode hf rfl
  rw [receiveSyncRead, hparams]

/-! ## The framing contract

Both instructions end in the same question, so it is answered for any function that sends the
encoding of a frame: the contract comes down to whether the frame fits. What is left for each
instruction is a count. -/

/-- One frame that says its own length: the length byte counts the bytes after it, and the last
byte makes the checksum verify. -/
def Delimited (sent : List UInt8) : Prop :=
  ∃ id len rest, sent = 0xff :: 0xff :: id :: len :: rest ∧ len.toNat = rest.length ∧
    (id :: len :: rest).sum = 0xff

/-- A request either fails before it sends anything, or it has sent one delimited frame that a
receiver takes for `request`. -/
def SendsRequest {α β : Type} (x : Cpp α) (receive : List UInt8 → Option β) (request : β)
    (port : SerialPort) : Prop :=
  (∃ message port', x port = .error (.unexpected message) port' ∧ port'.tx = port.tx) ∨
    ∃ sent, (finalState (x port)).tx = port.tx ++ sent ∧ Delimited sent ∧
      receive sent = some request

theorem delimited_encode_iff {f : Frame} : Delimited f.encode ↔ f.Fits := by
  constructor
  · rintro ⟨id, len, rest, h, hlen, -⟩
    have hcons : f.encode = 0xff :: 0xff :: f.id :: f.lengthByte :: f.instruction ::
        (f.parameters ++ [checksum f.body]) := rfl
    rw [hcons] at h
    simp only [List.cons.injEq, true_and] at h
    obtain ⟨-, rfl, rfl⟩ := h
    rw [← Frame.toNat_lengthByte_eq_iff, hlen]
    simp
  · intro hf
    refine ⟨f.id, f.lengthByte, f.instruction :: (f.parameters ++ [checksum f.body]), rfl, ?_,
      sum_concat_checksum f.body⟩
    rw [f.toNat_lengthByte_eq_iff.mpr hf]
    simp

/-- A function that sends the encoding of a frame keeps the contract exactly when the frame
fits. -/
theorem sendsRequest_iff_fits {α β : Type} {x : Cpp α} {receive : List UInt8 → Option β}
    {request : β} {port : SerialPort} {f : Frame}
    (htx : (finalState (x port)).tx = port.tx ++ f.encode)
    (hreceive : f.Fits → receive f.encode = some request) :
    SendsRequest x receive request port ↔ f.Fits := by
  constructor
  · rintro (⟨message, port', hx, hsame⟩ | ⟨sent, hsent, hdelim, -⟩)
    · rw [hx, finalState_error, hsame] at htx
      have hlen := congrArg List.length htx
      rw [List.length_append, Frame.length_encode] at hlen
      omega
    · obtain rfl := List.append_cancel_left (htx.symm.trans hsent)
      exact delimited_encode_iff.mp hdelim
  · intro hf
    exact Or.inr ⟨f.encode, htx, delimited_encode_iff.mpr hf, hreceive hf⟩

theorem syncWrite_sendsRequest_iff {N : ℕ} {ids : List UInt8} {memoryAddress : UInt8}
    {parameters : List (List.Vector UInt8 N)} {port : SerialPort}
    (h : ids.length = parameters.length) (hport : port.WritesSucceed) :
    SendsRequest (syncWrite ids memoryAddress parameters) receiveSyncWrite
        (memoryAddress, records ids parameters) port ↔ (N + 1) * ids.length + 4 ≤ 255 := by
  have hrun := (writes_syncWrite memoryAddress h).run hport
  have hlen : (syncWriteFrame ids memoryAddress parameters).parameters.length + 2
      = (N + 1) * ids.length + 4 := length_syncWriteFrame h
  rw [← hlen]
  exact sendsRequest_iff_fits (by rw [hrun]; rfl) fun hf ↦ receiveSyncWrite_encode h hf

theorem syncRead_sendsRequest_iff {N : ℕ} {ids : List UInt8} {memoryAddress : UInt8}
    {port : SerialPort} (hport : port.WritesSucceed) :
    SendsRequest (syncRead N ids memoryAddress) receiveSyncRead
        (memoryAddress, UInt8.ofNat N, ids) port ↔ ids.length + 4 ≤ 255 := by
  have hrun := (writes_syncReadRequest N ids memoryAddress).run hport
  refine sendsRequest_iff_fits (f := syncReadFrame N ids memoryAddress) ?_
    fun hf ↦ receiveSyncRead_encode hf
  have hreplies := (readsOnly_syncReadReplies N ids).tx_eq (port.wrote (ids.length + 2)
    (syncReadFrame N ids memoryAddress).encode)
  rw [syncRead, bind_of_ok hrun, hreplies, SerialPort.wrote_tx]

/-- **The framing contract, exactly.** With all serial writes succeeding, a sync write keeps it
when the blocks leave room in the length byte, and the request of a sync read when the ids do. -/
theorem requests_framed_iff {N : ℕ} {ids : List UInt8} {memoryAddress : UInt8}
    {parameters : List (List.Vector UInt8 N)} {port : SerialPort}
    (h : ids.length = parameters.length) (hport : port.WritesSucceed) :
    (SendsRequest (syncWrite ids memoryAddress parameters) receiveSyncWrite
        (memoryAddress, records ids parameters) port ↔ (N + 1) * ids.length + 4 ≤ 255) ∧
      (SendsRequest (syncRead N ids memoryAddress) receiveSyncRead
        (memoryAddress, UInt8.ofNat N, ids) port ↔ ids.length + 4 ≤ 255) :=
  ⟨syncWrite_sendsRequest_iff h hport, syncRead_sendsRequest_iff hport⟩

/-- The block that sends a servo to its midpoint at the driver's speed and acceleration. -/
def midpointBlock : List.Vector UInt8 7 := ⟨[50, 0, 8, 0, 0, 96, 9], rfl⟩

theorem requests_framed_one_servo :
    (SendsRequest (syncWrite [1] smsStsAcc [midpointBlock]) receiveSyncWrite
        (smsStsAcc, records [1] [midpointBlock]) (openPort []) ↔
          (7 + 1) * [(1 : UInt8)].length + 4 ≤ 255) ∧
      (SendsRequest (syncRead 7 [1] smsStsAcc) receiveSyncRead
        (smsStsAcc, UInt8.ofNat 7, [1]) (openPort []) ↔ [(1 : UInt8)].length + 4 ≤ 255) :=
  requests_framed_iff rfl (openPort_writesSucceed [])

/-- The ids of 32 servos. -/
def manyIds : List UInt8 := (List.range 32).map fun i ↦ UInt8.ofNat (i + 1)

/-- With 32 servos the frame needs a length of 260, and its length byte is 4. -/
theorem syncWrite_overflows :
    (openPort []).WritesSucceed ∧ manyIds.length = (List.replicate 32 midpointBlock).length ∧
      ¬ SendsRequest (syncWrite manyIds smsStsAcc (List.replicate 32 midpointBlock))
        receiveSyncWrite (smsStsAcc, records manyIds (List.replicate 32 midpointBlock))
        (openPort []) := by
  have hids : manyIds.length = 32 := by rw [manyIds, List.length_map, List.length_range]
  have hlen : manyIds.length = (List.replicate 32 midpointBlock).length := by
    rw [hids, List.length_replicate]
  refine ⟨openPort_writesSucceed [], hlen, ?_⟩
  rw [syncWrite_sendsRequest_iff hlen (openPort_writesSucceed []), hids]
  omega

end VzletUr3e.Feetech
