import VzletUr3e.Feetech.Driver
import VzletUr3e.Library.Loops

/-!
# The goals that are commanded

One `write` of the hardware interface is one sync write to the joints that have a command interface.
A receiver that decodes the blocks gets back, for each of these joints, its own tick: four parallel
vectors, the codec, the streamed frame and its checksum lose nothing as long as the frame and the
ticks fit.

Copying the measured positions into the commanded ones is meant to hold the joints where they are.
Over the reals it does, except that `read` takes a position word for an unsigned number where the
servo means a sign and a magnitude.
-/

namespace VzletUr3e.Feetech

open StateError ChecksumFrame Loops

/-! ## Blocks -/

/-- The word that stands for a tick in sign-magnitude. -/
def tickWord (tick : ℤ) : ℤ := if tick < 0 then 2 ^ 15 + (tick.natAbs : ℤ) else tick

/-- The block of one joint: acceleration 50, the tick, no time, speed 2400. -/
def goalBlock (tick : ℤ) : List.Vector UInt8 7 :=
  ⟨[50, (toSts (tickWord tick)).low, (toSts (tickWord tick)).high, 0, 0, 0x60, 0x09], rfl⟩

theorem encode_tick {tick : ℤ} (h : tick.natAbs ≤ 32767) :
    encodeSignMagnitude tick smsStsSignBitPosition = .ok (tickWord tick) :=
  encodeSignMagnitude_eq_ok_iff.mpr ⟨Nat.lt_succ_of_le h, rfl⟩

theorem encode_speed : encodeSignMagnitude 2400 smsStsSignBitVelocity = .ok 2400 :=
  encodeSignMagnitude_eq_ok_iff.mpr ⟨by decide, rfl⟩

/-- A tick that fits is encoded as its block. -/
theorem positionBlock_of_le {tick : ℤ} (h : tick.natAbs ≤ 32767) :
    positionBlock tick 2400 50 = .ok (goalBlock tick) := by
  rw [positionBlock, encode_tick h, encode_speed]
  rfl

theorem positionBlock_of_lt {tick : ℤ} (h : 32767 < tick.natAbs) :
    positionBlock tick 2400 50 = .error (.outOfRange "Magnitude exceeds max for sign bit") := by
  have hle : 2 ^ smsStsSignBitPosition ≤ tick.natAbs := Nat.succ_le_of_lt h
  rw [positionBlock, encodeSignMagnitude_of_le hle]
  rfl

/-- The word of a tick decodes to it. -/
theorem decode_tickWord {tick : ℤ} (h : tick.natAbs ≤ 32767) :
    decodeSignMagnitude (fromSts (toSts (tickWord tick))) smsStsSignBitPosition = tick := by
  have hencode := encode_tick h
  obtain ⟨h0, hlt⟩ := encodeSignMagnitude_bounds hencode
  rw [fromSts_toSts h0 hlt]
  exact decode_of_encode hencode

/-! ## The decoder -/

/-- What one servo is told. -/
structure Goal where
  id : UInt8
  acceleration : UInt8
  position : ℤ
  time : ℤ
  speed : ℤ
deriving DecidableEq, Repr

/-- The registers from the acceleration on. -/
def goalOfRecord : UInt8 × List UInt8 → Option Goal
  | (id, [acceleration, pl, ph, tl, th, sl, sh]) =>
    some ⟨id, acceleration, decodeSignMagnitude (fromSts ⟨pl, ph⟩) smsStsSignBitPosition,
      fromSts ⟨tl, th⟩, decodeSignMagnitude (fromSts ⟨sl, sh⟩) smsStsSignBitVelocity⟩
  | _ => none

/-- The goals of a sync write to the registers from the acceleration on. -/
def receiveGoals (bytes : List UInt8) : Option (List Goal) :=
  match receiveSyncWrite bytes with
  | some (address, records) => if address = smsStsAcc then records.mapM goalOfRecord else none
  | none => none

theorem goalOfRecord_goalBlock {id : UInt8} {tick : ℤ} (h : tick.natAbs ≤ 32767) :
    goalOfRecord (id, (goalBlock tick).toList) = some ⟨id, 50, tick, 0, 2400⟩ := by
  have hposition := decode_tickWord h
  have hspeed : decodeSignMagnitude (fromSts ⟨0x60, 0x09⟩) smsStsSignBitVelocity = 2400 := by decide
  change some (Goal.mk id 50 (decodeSignMagnitude (fromSts (toSts (tickWord tick))) _)
    (fromSts ⟨0, 0⟩) (decodeSignMagnitude (fromSts ⟨0x60, 0x09⟩) _)) = _
  rw [hposition, hspeed]
  rfl

/-! ## The vectors of a write -/

variable {n : ℕ} {K : Type} [CppDouble K]

/-- The ids, the positions, the speeds and the accelerations that `write` passes on. -/
theorem zip_vectors {α : Type} (l : List α) (tick : α → ℤ) :
    (l.map tick).zip ((l.map fun _ ↦ (2400 : ℤ)).zip (l.map fun _ ↦ (50 : ℤ)))
      = l.map fun i ↦ (tick i, 2400, 50) := by
  rw [List.zip_map', List.zip_map']

theorem syncWritePosition_of_le {α : Type} {l : List α} {id : α → UInt8} {tick : α → ℤ}
    (h : ∀ i ∈ l, (tick i).natAbs ≤ 32767) :
    syncWritePosition (l.map id) (l.map tick) (l.map fun _ ↦ 2400) (l.map fun _ ↦ 50)
      = syncWrite (l.map id) smsStsAcc (l.map fun i ↦ goalBlock (tick i)) := by
  have hblocks : ((l.map tick).zip ((l.map fun _ ↦ (2400 : ℤ)).zip
        (l.map fun _ ↦ (50 : ℤ)))).mapM (fun row ↦ positionBlock row.1 row.2.1 row.2.2)
      = .ok (l.map fun i ↦ goalBlock (tick i)) := by
    rw [zip_vectors, List.mapM_map]
    exact mapM_eq_ok fun i hi ↦ positionBlock_of_le (h i hi)
  unfold syncWritePosition
  rw [if_neg (by simp), hblocks]
  rfl

theorem syncWritePosition_of_lt {α : Type} {l : List α} {id : α → UInt8} {tick : α → ℤ} {i : α}
    (hi : i ∈ l) (h : 32767 < (tick i).natAbs) :
    syncWritePosition (l.map id) (l.map tick) (l.map fun _ ↦ 2400) (l.map fun _ ↦ 50)
      = throw (.thrown (.outOfRange "Magnitude exceeds max for sign bit")) := by
  have hblocks : ((l.map tick).zip ((l.map fun _ ↦ (2400 : ℤ)).zip
        (l.map fun _ ↦ (50 : ℤ)))).mapM (fun row ↦ positionBlock row.1 row.2.1 row.2.2)
      = .error (.outOfRange "Magnitude exceeds max for sign bit") := by
    rw [zip_vectors, List.mapM_map]
    refine mapM_eq_error (fun j hj e he ↦ ?_) hi (positionBlock_of_lt h)
    have hblock : positionBlock (tick j) 2400 50 = .error e := he
    by_cases hle : (tick j).natAbs ≤ 32767
    · rw [positionBlock_of_le hle] at hblock
      cases hblock
    · rw [positionBlock_of_lt (by omega)] at hblock
      cases hblock
      rfl
  unfold syncWritePosition
  rw [if_neg (by simp), hblocks]
  rfl

/-! ## One write -/

/-- The frame that `write` sends. -/
def Hardware.goalFrame (hw : Hardware n K) : Frame :=
  syncWriteFrame (hw.commanded.map hw.jointIds) smsStsAcc
    (hw.commanded.map fun i ↦ goalBlock (hw.tick i))

theorem Hardware.write_of_nil {hw : Hardware n K} (h : hw.commanded = []) :
    Hardware.write hw = .ok .ok hw := by
  change (if (hw.commanded.map hw.jointIds).isEmpty = true then _ else _ : Driver n K _) hw = _
  rw [h]
  rfl

theorem Hardware.write_of_ne_nil {hw : Hardware n K} (h : hw.commanded ≠ []) :
    Hardware.write hw = (communicationProtocol (syncWritePosition (hw.commanded.map hw.jointIds)
        (hw.commanded.map hw.tick) (hw.commanded.map fun _ ↦ 2400)
        (hw.commanded.map fun _ ↦ 50)) >>= reportWrite) hw := by
  have hne : ¬ (hw.commanded.map hw.jointIds).isEmpty = true := by simpa using h
  exact congrFun (if_neg hne : (if _ then _ else _ : Driver n K ReturnType) = _) hw

/-- **When `write` has commanded the joints**, and with what. -/
theorem Hardware.write_eq_ok_iff {hw hw' : Hardware n K} (h : hw.commanded ≠ []) :
    Hardware.write hw = .ok .ok hw' ↔ (∀ i ∈ hw.commanded, (hw.tick i).natAbs ≤ 32767) ∧
      hw.port.CanWrite (2 * hw.commanded.length + 2) ∧
      hw' = { hw with
        port := hw.port.wrote (2 * hw.commanded.length + 2) hw.goalFrame.encode } := by
  rw [write_of_ne_nil h]
  by_cases hticks : ∀ i ∈ hw.commanded, (hw.tick i).natAbs ≤ 32767
  · rw [syncWritePosition_of_le hticks, and_iff_right hticks]
    have hwrites : Writes (syncWrite (hw.commanded.map hw.jointIds) smsStsAcc
        (hw.commanded.map fun i ↦ goalBlock (hw.tick i))) (2 * hw.commanded.length + 2)
        hw.goalFrame.encode () :=
      (writes_syncWrite smsStsAcc (by simp)).congr (by rw [List.length_map]) rfl
    cases hrun : syncWrite (hw.commanded.map hw.jointIds) smsStsAcc
        (hw.commanded.map fun i ↦ goalBlock (hw.tick i)) hw.port with
    | ok a port =>
      obtain ⟨hcan, -, rfl⟩ := (hwrites _ _ _).mp hrun
      rw [bind_of_ok (communicationProtocol_of_ok hrun), and_iff_right hcan]
      constructor
      · rintro ⟨⟩
        rfl
      · rintro rfl
        rfl
    | error fault port =>
      have hcan : ¬ hw.port.CanWrite (2 * hw.commanded.length + 2) := by
        intro hcan
        have hok := hwrites.run_of_canWrite hcan
        rw [hrun] at hok
        cases hok
      cases fault with
      | unexpected message =>
        rw [bind_of_ok (communicationProtocol_of_unexpected hrun)]
        exact ⟨by rintro ⟨⟩, fun h ↦ absurd h.1 hcan⟩
      | thrown e =>
        rw [bind_of_error (communicationProtocol_of_thrown hrun)]
        exact ⟨by rintro ⟨⟩, fun h ↦ absurd h.1 hcan⟩
  · -- a tick that does not fit throws before anything is written
    have hthrown := hticks
    push Not at hthrown
    obtain ⟨i, hi, hlt⟩ := hthrown
    have hrun : syncWritePosition (hw.commanded.map hw.jointIds) (hw.commanded.map hw.tick)
        (hw.commanded.map fun _ ↦ 2400) (hw.commanded.map fun _ ↦ 50) hw.port
        = .error (.thrown (.outOfRange "Magnitude exceeds max for sign bit")) hw.port := by
      rw [syncWritePosition_of_lt hi hlt, throw_apply]
    rw [bind_of_error (communicationProtocol_of_thrown hrun)]
    exact ⟨by rintro ⟨⟩, fun h ↦ absurd h.1 hticks⟩

/-! ## What the servos are told -/

theorem records_goalBlocks {α : Type} (l : List α) (id : α → UInt8) (tick : α → ℤ) :
    records (l.map id) (l.map fun i ↦ goalBlock (tick i))
      = l.map fun i ↦ (id i, (goalBlock (tick i)).toList) := by
  rw [records, List.zip_map', List.map_map]
  rfl

/-- The frame of at most 31 joints is decoded to their goals. -/
theorem Hardware.receiveGoals_goalFrame {hw : Hardware n K} (hcount : hw.commanded.length ≤ 31)
    (hticks : ∀ i ∈ hw.commanded, (hw.tick i).natAbs ≤ 32767) :
    receiveGoals hw.goalFrame.encode
      = some (hw.commanded.map fun i ↦ ⟨hw.jointIds i, 50, hw.tick i, 0, 2400⟩) := by
  have hlen : (hw.commanded.map hw.jointIds).length
      = (hw.commanded.map fun i ↦ goalBlock (hw.tick i)).length := by simp
  have hfits : hw.goalFrame.Fits := by
    rw [Frame.Fits, goalFrame, length_syncWriteFrame hlen, List.length_map]
    omega
  have hreceive : receiveSyncWrite hw.goalFrame.encode = some (smsStsAcc, _) :=
    receiveSyncWrite_encode hlen hfits
  rw [receiveGoals, hreceive, records_goalBlocks]
  change (hw.commanded.map _).mapM goalOfRecord = _
  rw [List.mapM_map]
  exact mapM_eq_some fun i hi ↦ goalOfRecord_goalBlock (hticks i hi)

/-- The goals of more than 31 joints do not fit into one frame. -/
theorem Hardware.receiveGoals_of_lt {hw : Hardware n K} (h : 31 < hw.commanded.length) :
    receiveGoals hw.goalFrame.encode = none := by
  have hlen : (hw.commanded.map hw.jointIds).length
      = (hw.commanded.map fun i ↦ goalBlock (hw.tick i)).length := by simp
  have hfits : ¬hw.goalFrame.Fits := by
    rw [Frame.Fits, goalFrame, length_syncWriteFrame hlen, List.length_map]
    omega
  have hreceive : receiveSyncWrite hw.goalFrame.encode = none := by
    rw [receiveSyncWrite, receiveBroadcast_of_not_fits hfits]
  rw [receiveGoals, hreceive]

/-- **Every commanded joint is told its own tick.** With at most 31 joints that have a command
interface, ticks that fit and serial writes that succeed, `write` sends the goals of exactly these
joints in joint order, and nothing if there are none. -/
theorem write_sends_goals (hw : Hardware n K) (hcount : hw.commanded.length ≤ 31)
    (hticks : ∀ i ∈ hw.commanded, (hw.tick i).natAbs ≤ 32767) (hport : hw.port.WritesSucceed) :
    ∃ hw' sent, Hardware.write hw = .ok .ok hw' ∧ hw'.port.tx = hw.port.tx ++ sent ∧
      (hw.commanded = [] → sent = []) ∧
      (hw.commanded ≠ [] → receiveGoals sent
        = some (hw.commanded.map fun i ↦ ⟨hw.jointIds i, 50, hw.tick i, 0, 2400⟩)) := by
  by_cases h : hw.commanded = []
  · exact ⟨hw, [], Hardware.write_of_nil h, by simp, fun _ ↦ rfl, fun hne ↦ absurd h hne⟩
  · refine ⟨_, hw.goalFrame.encode,
      (Hardware.write_eq_ok_iff h).mpr ⟨hticks, hport.canWrite _, rfl⟩, rfl,
      fun hnil ↦ absurd hnil h, fun _ ↦ ?_⟩
    exact Hardware.receiveGoals_goalFrame hcount hticks

/-- Three joints, of which the middle one has no command interface. -/
noncomputable def twoOfThree : Hardware 3 ℝ where
  commandInterfaces := ![["position"], [], ["position"]]
  jointIds := ![1, 2, 3]
  hwPositions := ![toMeters (toRadians 0), 0, toMeters (toRadians (-300))]
  stateHwPositions := fun _ ↦ 0
  stateHwVelocities := fun _ ↦ 0
  port := openPort []
  errors := []

theorem tick_of_position {hw : Hardware n ℝ} {i : Fin n} {tick : ℤ}
    (h : hw.hwPositions i = toMeters (toRadians tick)) : hw.tick i = tick + kStsMidpoint := by
  rw [Hardware.tick, h, fromMeters_toMeters, fromRadians_toRadians]

theorem write_sends_goals_twoOfThree :
    ∃ hw' sent, Hardware.write twoOfThree = .ok .ok hw' ∧
      hw'.port.tx = twoOfThree.port.tx ++ sent ∧
      receiveGoals sent = some [⟨1, 50, 2048, 0, 2400⟩, ⟨3, 50, 1748, 0, 2400⟩] := by
  have hcommanded : twoOfThree.commanded = [0, 2] := rfl
  have hfirst : twoOfThree.tick 0 = 0 + kStsMidpoint := tick_of_position rfl
  have hlast : twoOfThree.tick 2 = -300 + kStsMidpoint := tick_of_position rfl
  have hticks : ∀ i ∈ twoOfThree.commanded, (twoOfThree.tick i).natAbs ≤ 32767 := by
    rw [hcommanded]
    simp [hfirst, hlast, kStsMidpoint]
  obtain ⟨hw', sent, hwrite, htx, -, hgoals⟩ := write_sends_goals twoOfThree
    (by rw [hcommanded]; decide) hticks (openPort_writesSucceed [])
  refine ⟨hw', sent, hwrite, htx, (hgoals (by rw [hcommanded]; simp)).trans ?_⟩
  rw [hcommanded, List.map_cons, List.map_cons, List.map_nil, hfirst, hlast]
  rfl

/-! ## Holding the position -/

/-- The position word of the reading of joint `i`. -/
def presentWord (data : List (List UInt8)) (i : Fin n) : ℤ :=
  fromSts ⟨(data.getD i []).getD 0 0, (data.getD i []).getD 1 0⟩

/-- The position word of a block. -/
def goalWord (block : List.Vector UInt8 7) : ℤ := fromSts ⟨block.get 1, block.get 2⟩

/-- After the activation that read `data`, a receiver of what `write` sends is told the position
that its word stands for, for each commanded joint, and nothing else. -/
def HoldsPositions (hw : Hardware n K) (data : List (List UInt8)) : Prop :=
  hw.commanded ≠ [] → ∃ hw' sent goals,
    (Hardware.onActivate >>= fun _ ↦ Hardware.write) hw = .ok .ok hw' ∧
    hw'.port.tx = hw.port.tx
      ++ (syncReadFrame 4 (List.ofFn hw.jointIds) smsStsPresentPositionL).encode ++ sent ∧
    receiveGoals sent = some goals ∧
    goals.map (fun goal ↦ (goal.id, goal.position)) = hw.commanded.map fun i ↦
      (hw.jointIds i, decodeSignMagnitude (presentWord data i) smsStsSignBitPosition)

theorem goalWord_goalBlock {tick : ℤ} :
    goalWord (goalBlock tick) = fromSts (toSts (tickWord tick)) := rfl

/-- Over the reals, the tick of a held joint is the word it has reported. -/
theorem tick_of_holdPositions (hw : Hardware n ℝ) (data : List (List UInt8)) (i : Fin n) :
    (hw.store data).holdPositions.tick i = presentWord data i := by
  change fromRadians (fromMeters (toMeters (toRadians (presentWord data i - kStsMidpoint)) : ℝ))
    + kStsMidpoint = presentWord data i
  rw [fromMeters_toMeters, fromRadians_toRadians]
  ring

theorem presentWord_lt_iff (data : List (List UInt8)) (i : Fin n) :
    presentWord data i < 2 ^ 15 ↔ (presentWord data i).natAbs ≤ 32767 := by
  have h0 : 0 ≤ presentWord data i := fromSts_nonneg _
  omega

/-- The goals of words without a sign bit are at the positions that the words stand for. -/
theorem goals_of_words {hw : Hardware n K} {data : List (List UInt8)}
    (htick : ∀ i, hw.tick i = presentWord data i)
    (hwords : ∀ i ∈ hw.commanded, presentWord data i < 2 ^ 15) :
    (hw.commanded.map fun i ↦ (⟨hw.jointIds i, 50, hw.tick i, 0, 2400⟩ : Goal)).map
        (fun goal ↦ (goal.id, goal.position)) = hw.commanded.map fun i ↦
      (hw.jointIds i, decodeSignMagnitude (presentWord data i) smsStsSignBitPosition) := by
  rw [List.map_map]
  refine List.map_congr_left fun i hi ↦ ?_
  have hdecode : decodeSignMagnitude (presentWord data i) smsStsSignBitPosition
      = presentWord data i := decodeSignMagnitude_of_lt (fromSts_nonneg _) (hwords i hi)
  rw [hdecode, ← htick]
  rfl

theorem holdsPositions_iff {hw : Hardware n ℝ} {data : List (List UInt8)} {port : SerialPort}
    (hread : syncRead 4 (List.ofFn hw.jointIds) smsStsPresentPositionL hw.port = .ok data port) :
    HoldsPositions hw data ↔ (hw.commanded ≠ [] → hw.commanded.length ≤ 31 ∧
      hw.port.CanWrite (n + 2 + (2 * hw.commanded.length + 2)) ∧
        ∀ i ∈ hw.commanded, presentWord data i < 2 ^ 15) := by
  obtain ⟨hcan, packets, rest, -, -, -, -, rfl⟩ := syncRead_eq_ok_iff.mp hread
  rw [List.length_ofFn] at hcan hread
  set request := (syncReadFrame 4 (List.ofFn hw.jointIds) smsStsPresentPositionL).encode
  -- the activation leaves `held`, whose ticks are the words that were reported
  let held : Hardware n ℝ := ({ hw with
    port := { hw.port.wrote (n + 2) request with rx := rest } }.store data).holdPositions
  have hact : (Hardware.onActivate >>= fun _ ↦ Hardware.write) hw = Hardware.write held :=
    bind_of_ok (Hardware.onActivate_of_read (Hardware.read_of_ok hread))
  have htick : ∀ i, held.tick i = presentWord data i := fun i ↦ tick_of_holdPositions _ data i
  have hcanWrite : ∀ k, held.port.CanWrite k ↔ hw.port.CanWrite (n + 2 + k) := by
    intro k
    rw [SerialPort.canWrite_add_iff request, and_iff_right hcan]
    exact ⟨fun ⟨hopen, hacc⟩ ↦ ⟨hopen, hacc⟩, fun ⟨hopen, hacc⟩ ↦ ⟨hopen, hacc⟩⟩
  rw [HoldsPositions, hact]
  refine forall_congr' fun hne ↦ ?_
  have hwrite : ∀ hw', Hardware.write held = .ok .ok hw' ↔
      (∀ i ∈ hw.commanded, presentWord data i < 2 ^ 15) ∧
        hw.port.CanWrite (n + 2 + (2 * hw.commanded.length + 2)) ∧
        hw' = { held with
          port := held.port.wrote (2 * hw.commanded.length + 2) held.goalFrame.encode } := by
    intro hw'
    rw [Hardware.write_eq_ok_iff (by exact hne), hcanWrite]
    simp only [htick, presentWord_lt_iff]
    rfl
  constructor
  · rintro ⟨hw', sent, goals, hrun, htx, hgoals, -⟩
    obtain ⟨hwords, hcan', rfl⟩ := (hwrite hw').mp hrun
    obtain rfl : held.goalFrame.encode = sent := List.append_cancel_left htx
    refine ⟨not_lt.mp fun hlt ↦ ?_, hcan', hwords⟩
    -- no receiver decodes a frame of more than 31 joints
    have hnone : receiveGoals held.goalFrame.encode = none := Hardware.receiveGoals_of_lt hlt
    rw [hnone] at hgoals
    cases hgoals
  · rintro ⟨hcount, hcan', hwords⟩
    have hticks : ∀ i ∈ held.commanded, (held.tick i).natAbs ≤ 32767 := fun i hi ↦ by
      rw [htick]
      exact (presentWord_lt_iff data i).mp (hwords i hi)
    exact ⟨_, _, _, (hwrite _).mpr ⟨hwords, hcan', rfl⟩, rfl,
      Hardware.receiveGoals_goalFrame hcount hticks, goals_of_words htick hwords⟩

/-- **When the gripper is told to stay where it is.** After a successful read, over the reals: when
there are at most 31 commanded joints, the serial writes of `write` go out and no commanded joint
has reported a word with its sign bit set. -/
theorem positions_held_iff {hw : Hardware n ℝ} {data : List (List UInt8)} {port : SerialPort}
    (hread : syncRead 4 (List.ofFn hw.jointIds) smsStsPresentPositionL hw.port = .ok data port) :
    HoldsPositions hw data ↔ (hw.commanded ≠ [] → hw.commanded.length ≤ 31 ∧
      hw.port.CanWrite (n + 2 + (2 * hw.commanded.length + 2)) ∧
        ∀ i ∈ hw.commanded, presentWord data i < 2 ^ 15) :=
  holdsPositions_iff hread

/-- The reply of servo 1 that reports the position word `low`, `high` and no speed. -/
def positionReply (low high checksum : UInt8) : StatusPacket :=
  ⟨1, 6, 0, [low, high, 0, 0], checksum⟩

/-- The line on which it arrives. -/
def positionLine (low high checksum : UInt8) : List RxEvent :=
  ([0xff, 0xff] ++ (positionReply low high checksum).bytes).map .byte

/-- A gripper whose servo reports it. -/
noncomputable def reportingGripper (low high checksum : UInt8) : Hardware 1 ℝ :=
  gripper (positionLine low high checksum) 0 0

theorem syncRead_reportingGripper {low high c : UInt8}
    (hver : (positionReply low high c).Verifies) :
    ∃ port, syncRead 4 (List.ofFn (reportingGripper low high c).jointIds) smsStsPresentPositionL
      (reportingGripper low high c).port = .ok [[low, high, 0, 0]] port := by
  have htakes : TakesPacket 4 (positionLine low high c) (positionReply low high c) [] :=
    ⟨rfl, [], by simp, by decide, by simp [positionLine]⟩
  exact ⟨_, syncRead_eq_ok_iff.mpr ⟨(openPort_writesSucceed _).canWrite _,
    [positionReply low high c], [], delivers_singleton_iff.mpr htakes, rfl, by simpa using hver,
    rfl, rfl⟩⟩

/-- A servo that reports its midpoint is held there. -/
theorem positions_held_midpoint :
    HoldsPositions (reportingGripper 0x00 0x08 0xf0) [[0x00, 0x08, 0, 0]] := by
  have hver : (positionReply 0x00 0x08 0xf0).Verifies := by decide
  obtain ⟨port, hread⟩ := syncRead_reportingGripper hver
  have hcommanded : (reportingGripper 0x00 0x08 0xf0).commanded = [0] := gripper_commanded _ _ _
  refine (positions_held_iff hread).mpr fun _ ↦ ⟨by rw [hcommanded]; decide,
    (openPort_writesSucceed _).canWrite _, ?_⟩
  rw [hcommanded]
  decide

/-- A servo that reports one tick below zero is not held: the encoder refuses its word. -/
theorem negative_position_not_held :
    (∃ port, syncRead 4 (List.ofFn (reportingGripper 0x01 0x80 0x77).jointIds)
        smsStsPresentPositionL (reportingGripper 0x01 0x80 0x77).port
        = .ok [[0x01, 0x80, 0, 0]] port) ∧
      ¬ HoldsPositions (reportingGripper 0x01 0x80 0x77) [[0x01, 0x80, 0, 0]] := by
  have hver : (positionReply 0x01 0x80 0x77).Verifies := by decide
  obtain ⟨port, hread⟩ := syncRead_reportingGripper hver
  refine ⟨⟨port, hread⟩, fun h ↦ ?_⟩
  have hcommanded : (reportingGripper 0x01 0x80 0x77).commanded = [0] := gripper_commanded _ _ _
  have hwords := ((holdsPositions_iff hread).mp h (by rw [hcommanded]; simp)).2.2
  exact absurd (hwords 0 (by rw [hcommanded]; simp)) (by decide)

end VzletUr3e.Feetech
