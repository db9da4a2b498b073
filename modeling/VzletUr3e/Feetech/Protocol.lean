import VzletUr3e.Feetech.SerialPort
import VzletUr3e.Library.ChecksumFrame

/-!
# The communication protocol

`CommunicationProtocol` in the order of its source: the header scan, the single-servo instructions,
and the two broadcast instructions. A `std::array<uint8_t, N>` is a list of bytes, with the length
in the type where a block goes in; the vector that `sync_read` fills is its result.

All of it runs over one `SerialPort`. The functions differ in what they check of a reply:
`readResponse` looks at the id, the length and the checksum, while `readServo` and `syncRead` look
at the checksum only.
-/

namespace VzletUr3e.Feetech

open StateError

/-! ## Constants -/

def kInstructionRead : UInt8 := 0x02
def kInstructionWrite : UInt8 := 0x03
def kInstructionSyncRead : UInt8 := 0x82
def kInstructionSyncWrite : UInt8 := 0x83

def kBroadcastId : UInt8 := 0xfe

/-! The control-table addresses and sign bits of `SMS_STS.h` that are used below. -/

def smsStsAcc : UInt8 := 41
def smsStsTorqueEnable : UInt8 := 40
def smsStsPresentPositionL : UInt8 := 56
def smsStsPresentSpeedL : UInt8 := 58

def smsStsSignBitPosition : ℕ := 15
def smsStsSignBitVelocity : ℕ := 15

/-! ## Byte sums -/

/-- The fold runs over `int` and is narrowed once. -/
def sumBytes (data : List UInt8) : UInt8 := UInt8.ofNat (data.map UInt8.toNat).sum

/-- Narrowing once is the same as adding modulo `256` throughout. -/
theorem sumBytes_eq_sum (data : List UInt8) : sumBytes data = data.sum := by
  induction data with
  | nil => rfl
  | cons b data ih =>
    rw [List.sum_cons, ← ih, sumBytes, sumBytes, List.map_cons, List.sum_cons, UInt8.ofNat_add,
      UInt8.ofNat_toNat]

/-- `static_cast<std::byte>(~(a + b))`, with the complement taken on an `int`. -/
theorem ofInt_complement (n : ℕ) : UInt8.ofInt (-(n : ℤ) - 1) = ~~~ UInt8.ofNat n := by
  apply UInt8.toNat_inj.mp
  have h := toNat_ofInt (-(n : ℤ) - 1)
  rw [UInt8.toNat_not, UInt8.toNat_ofNat', show UInt8.size = 256 from rfl]
  omega

/-! ## The header scan -/

/-- The remaining tries of `check_head`, with the byte read before. -/
def checkHeadLoop : ℕ → UInt8 → Cpp Unit
  | 0, _ => throw (.unexpected "Failed to check head after 10 tries")
  | tries + 1, previous => do
    let bDat ← mapUnexpected (fun error ↦ s!"CommunicationProtocol::check_head -> {error}") (read 1)
    let current := bDat.getD 0 0
    if current = 0xff ∧ previous = 0xff then return ()
    checkHeadLoop tries current

/-- The loop bound is inclusive: eleven bytes are looked at. -/
def checkHead : Cpp Unit := checkHeadLoop 11 0

/-! ## Single servos -/

def writeBuffer (id memoryAddress : UInt8) (parameters : List UInt8) (instruction : UInt8) :
    Cpp Unit :=
  let content := [id, UInt8.ofNat (3 + parameters.length), instruction, memoryAddress] ++ parameters
  -- the sum is taken while the header and the checksum are still zero
  let checksum := ~~~ sumBytes ([0, 0] ++ content ++ [0])
  write ([0xff, 0xff] ++ content ++ [checksum])

def readResponse (id : UInt8) : Cpp Unit := do
  if id = kBroadcastId then return ()
  checkHead
  let buffer ← read 4
  let b0 := buffer.getD 0 0
  let b1 := buffer.getD 1 0
  let b2 := buffer.getD 2 0
  let b3 := buffer.getD 3 0
  if b0 ≠ id then throw (.unexpected s!"buffer[0][={b0}] != id[={id}]")
  if b1 ≠ 2 then throw (.unexpected s!"buffer[1][={b1}] != 2")
  let checksum : ℤ := -((b0.toNat + b1.toNat + b2.toNat : ℕ) : ℤ) - 1
  if UInt8.ofInt checksum ≠ b3 then
    throw (.unexpected s!"CommunicationProtocol::read_response [calculated_checksum={checksum} != checksum={b3}]")

/-- `CommunicationProtocol::write`. -/
def writeServo (id memoryAddress : UInt8) (parameters : List UInt8) : Cpp Unit := do
  writeBuffer id memoryAddress parameters kInstructionWrite
  readResponse id

/-- `CommunicationProtocol::read` for a buffer of `N` bytes. -/
def readServo (N : ℕ) (id memoryAddress : UInt8) : Cpp (List UInt8) := do
  mapUnexpected (fun error ↦ s!"CommunicationProtocol::read -> {error}") do
    writeBuffer id memoryAddress [UInt8.ofNat N] kInstructionRead
    checkHead
  let bBuf ← read 3
  let data ← read N
  let checksum ← readByte
  let calculated : ℤ := -(((sumBytes bBuf).toNat + (sumBytes data).toNat : ℕ) : ℤ) - 1
  if UInt8.ofInt calculated ≠ checksum then
    throw (.unexpected s!"CommunicationProtocol::read [calculated_checksum={calculated}, checksum={checksum}]")
  return data

def readWord (id memoryAddress : UInt8) : Cpp ℤ := do
  let buffer ← readServo 2 id memoryAddress
  return fromSts ⟨buffer.getD 0 0, buffer.getD 1 0⟩

def readPosition (id : UInt8) : Cpp ℤ := do
  let position ← readWord id smsStsPresentPositionL
  return decodeSignMagnitude position smsStsSignBitPosition

def readSpeed (id : UInt8) : Cpp ℤ := do
  let speed ← readWord id smsStsPresentSpeedL
  return decodeSignMagnitude speed smsStsSignBitVelocity

/-! ## Sync write -/

/-- The servos that remain, with the running checksum. -/
def syncWriteBlocks {N : ℕ} : List (UInt8 × List.Vector UInt8 N) → UInt8 → Cpp UInt8
  | [], checksum => pure checksum
  | (id, block) :: rest, checksum => do
    let parameters := block.toList
    mapUnexpected (fun error ↦
        s!"CommunicationProtocol::sync_write with [id={id}, parameters={parameters}]: [{error}]") do
      write [id]
      write parameters
    syncWriteBlocks rest (checksum + (id + sumBytes parameters))

def syncWrite {N : ℕ} (ids : List UInt8) (memoryAddress : UInt8)
    (parameters : List (List.Vector UInt8 N)) : Cpp Unit := do
  let idsSize := ids.length
  let parametersSize := parameters.length
  if idsSize ≠ parametersSize then
    throw (.unexpected
      s!"IDs[={idsSize}] and parameters[={parametersSize}] must have the same size")
  -- the message length is computed in `size_t` and narrowed
  let buffer : List UInt8 := [0xff, 0xff, kBroadcastId, UInt8.ofNat ((N + 1) * ids.length + 4),
    kInstructionSyncWrite, memoryAddress, UInt8.ofNat N]
  write buffer
  let checksum ← syncWriteBlocks (ids.zip parameters) (sumBytes (buffer.drop 2))
  write [~~~ checksum]

/-- The seven bytes from the acceleration register on: acceleration, position, time, speed. -/
def positionBlock (position speed acceleration : ℤ) : Except Exception (List.Vector UInt8 7) := do
  let p := toSts (← encodeSignMagnitude position smsStsSignBitPosition)
  let t := toSts 0
  let s := toSts (← encodeSignMagnitude speed smsStsSignBitVelocity)
  return ⟨[UInt8.ofInt acceleration, p.low, p.high, t.low, t.high, s.low, s.high], rfl⟩

/-- An exception of the codec leaves the call before anything is written. -/
def orThrow {α : Type} : Except Exception α → Cpp α
  | .ok a => pure a
  | .error e => throw (.thrown e)

def syncWritePosition (ids : List UInt8) (position speed acceleration : List ℤ) : Cpp Unit := do
  let n := ids.length
  let np := position.length
  let ns := speed.length
  let na := acceleration.length
  if n ≠ np ∨ n ≠ ns ∨ n ≠ na then
    throw (.unexpected s!"Sizes of IDs, position, speed, and acceleration must be the same - ids[{n}], position[{np}], speed[{ns}], acceleration[{na}]")
  let buffer ← orThrow ((position.zip (speed.zip acceleration)).mapM fun row ↦
    positionBlock row.1 row.2.1 row.2.2)
  syncWrite ids smsStsAcc buffer

/-! ## Sync read -/

/-- The ids of the request, with the running checksum. -/
def syncReadIds : List UInt8 → UInt8 → Cpp UInt8
  | [], requestChecksum => pure requestChecksum
  | id :: rest, requestChecksum => do
    mapUnexpected (fun error ↦ s!"CommunicationProtocol::sync_read [{error}]") (write [id])
    syncReadIds rest (requestChecksum + id)

def syncReadRequest (N : ℕ) (ids : List UInt8) (memoryAddress : UInt8) : Cpp Unit := do
  let buffer : List UInt8 := [0, 0, kBroadcastId, UInt8.ofNat (ids.length + 4),
    kInstructionSyncRead, memoryAddress, UInt8.ofNat N]
  -- the header is set after the sum
  write ([0xff, 0xff] ++ buffer.drop 2)
  let requestChecksum ← syncReadIds ids (sumBytes buffer)
  write [~~~ requestChecksum]

/-- One turn of the reply loop. -/
def syncReadReply (N : ℕ) : Cpp (List UInt8) := do
  let (responseBuffer, data, checksum) ←
    mapUnexpected (fun error ↦ s!"CommunicationProtocol::sync_read [{error}]") do
      checkHead
      let responseBuffer ← read 3
      let data ← read N
      let checksum ← readByte
      return (responseBuffer, data, checksum)
  let calculated : ℤ := -(((sumBytes responseBuffer).toNat + (sumBytes data).toNat : ℕ) : ℤ) - 1
  if UInt8.ofInt calculated ≠ checksum then
    throw (.unexpected s!"CommunicationProtocol::sync_read [calculated_checksum={calculated}, checksum={checksum}]")
  return data

/-- The reply loop, once for each id. The id itself is not looked at. -/
def syncReadReplies (N : ℕ) : List UInt8 → Cpp (List (List UInt8))
  | [] => pure []
  | _ :: rest => do
    let data ← syncReadReply N
    return data :: (← syncReadReplies N rest)

/-- `CommunicationProtocol::sync_read`, with `*data` as its result. -/
def syncRead (N : ℕ) (ids : List UInt8) (memoryAddress : UInt8) : Cpp (List (List UInt8)) := do
  syncReadRequest N ids memoryAddress
  syncReadReplies N ids

/-! ## What a reply loop leaves alone -/

theorem readsOnly_checkHeadLoop : ∀ (tries : ℕ) (previous : UInt8),
    ReadsOnly (checkHeadLoop tries previous) := by
  intro tries
  induction tries with
  | zero => exact fun _ ↦ Preserves.throw _
  | succ tries ih =>
    intro previous
    unfold checkHeadLoop
    refine Preserves.bind ((readsOnly_read 1).mapUnexpected _) fun bDat ↦ ?_
    exact Preserves.ite (Preserves.pure ()) (Preserves.bind (Preserves.pure _) fun _ ↦ ih _)

theorem readsOnly_syncReadReply (N : ℕ) : ReadsOnly (syncReadReply N) := by
  unfold syncReadReply
  refine Preserves.bind (ReadsOnly.mapUnexpected _ ?_) fun r ↦ ?_
  · exact Preserves.bind (readsOnly_checkHeadLoop 11 0) fun _ ↦
      Preserves.bind (readsOnly_read 3) fun _ ↦ Preserves.bind (readsOnly_read N) fun _ ↦
        Preserves.bind readsOnly_readByte fun _ ↦ Preserves.pure _
  · exact Preserves.ite (Preserves.bind (Preserves.throw _) fun _ ↦ Preserves.pure _)
      (Preserves.pure _)

theorem readsOnly_syncReadReplies (N : ℕ) (ids : List UInt8) :
    ReadsOnly (syncReadReplies N ids) := by
  induction ids with
  | nil => exact Preserves.pure []
  | cons id ids ih =>
    exact Preserves.bind (readsOnly_syncReadReply N) fun _ ↦ Preserves.bind ih fun _ ↦
      Preserves.pure _

end VzletUr3e.Feetech
