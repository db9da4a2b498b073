import VzletUr3e.Feetech.Replies

/-!
# The hardware interface

`FeetechHardwareInterface` keeps parallel vectors over the joints: the servo ids, the commanded
positions `hw_positions_`, and the measured positions and velocities. `read` fills the measured ones
from one sync read, `write` sends the commanded ones of the joints that have a command interface,
and `on_activate` makes the measured positions the commanded ones.

`on_activate` does not look at what `read` returned. The last section says when that is harmless.
-/

namespace VzletUr3e.Feetech

open StateError

/-! ## The interface -/

/-- `hardware_interface::return_type`. -/
inductive ReturnType
  | ok
  | error
deriving DecidableEq, Repr

inductive CallbackReturn
  | success
  | failure
  | error
deriving DecidableEq, Repr

/-- The interface for `n` joints, with doubles in `K`. -/
structure Hardware (n : ℕ) (K : Type) where
  /-- The command interfaces of each joint of `info_`. -/
  commandInterfaces : Fin n → List String
  jointIds : Fin n → UInt8
  hwPositions : Fin n → K
  stateHwPositions : Fin n → K
  stateHwVelocities : Fin n → K
  port : SerialPort
  /-- What was logged as an error. -/
  errors : List String

/-- Code of the interface. Only exceptions end it early. -/
abbrev Driver (n : ℕ) (K : Type) := EStateM Exception (Hardware n K)

variable {n : ℕ} {K : Type}

/-- A call of the protocol, with its error as a value. -/
def communicationProtocol {α : Type} (x : Cpp α) : Driver n K (Except String α) := fun hw ↦
  match x hw.port with
  | .ok a port => .ok (.ok a) { hw with port := port }
  | .error (.unexpected message) port => .ok (.error message) { hw with port := port }
  | .error (.thrown e) port => .error e { hw with port := port }

/-- `spdlog::error`. -/
def logError (message : String) : Driver n K Unit :=
  modify fun hw ↦ { hw with errors := hw.errors ++ [message] }

section Operations

variable [CppDouble K]

/-- The position that the first two bytes of a reading stand for. -/
def positionOfReading (readings : List UInt8) : K :=
  toMeters (toRadians (fromSts ⟨readings.getD 0 0, readings.getD 1 0⟩ - kStsMidpoint))

/-- The velocity that its last two bytes stand for. The conversion is the one of a position. -/
def velocityOfReading (readings : List UInt8) : K :=
  toMeters (toRadians (fromSts ⟨readings.getD 2 0, readings.getD 3 0⟩))

/-- The loop over the readings. -/
def Hardware.store (hw : Hardware n K) (data : List (List UInt8)) : Hardware n K :=
  { hw with
    stateHwPositions := fun i ↦ positionOfReading (data.getD i [])
    stateHwVelocities := fun i ↦ velocityOfReading (data.getD i []) }

/-- `FeetechHardwareInterface::read`. -/
def Hardware.read : Driver n K ReturnType := do
  let hw ← get
  let result ← communicationProtocol
    (syncRead 4 (List.ofFn hw.jointIds) smsStsPresentPositionL)
  match result with
  | .error error =>
    logError s!"FeetechHardwareInterface::read -> {error}"
    return .error
  | .ok data =>
    modify fun hw ↦ hw.store data
    return .ok

/-- The joints that have a command interface, in joint order. -/
def Hardware.commanded (hw : Hardware n K) : List (Fin n) :=
  (List.finRange n).filter fun i ↦ !(hw.commandInterfaces i).isEmpty

/-- The tick that joint `i` is sent to. -/
def Hardware.tick (hw : Hardware n K) (i : Fin n) : ℤ :=
  fromRadians (fromMeters (hw.hwPositions i)) + kStsMidpoint

/-- The end of `write`. -/
def reportWrite : Except String Unit → Driver n K ReturnType
  | .error error => do
    logError s!"FeetechHardwareInterface::write -> {error}"
    return .error
  | .ok () => return .ok

/-- `FeetechHardwareInterface::write`. -/
def Hardware.write : Driver n K ReturnType := do
  let hw ← get
  let commandedJointIds := hw.commanded.map hw.jointIds
  let commandedPositions := hw.commanded.map hw.tick
  let commandedSpeeds := hw.commanded.map fun _ ↦ (2400 : ℤ)
  let commandedAccelerations := hw.commanded.map fun _ ↦ (50 : ℤ)
  if commandedJointIds.isEmpty then return .ok
  let writeResult ← communicationProtocol
    (syncWritePosition commandedJointIds commandedPositions commandedSpeeds commandedAccelerations)
  reportWrite writeResult

/-- `hw_positions_ = state_hw_positions_`. -/
def Hardware.holdPositions (hw : Hardware n K) : Hardware n K :=
  { hw with hwPositions := hw.stateHwPositions }

/-- `FeetechHardwareInterface::on_activate`. The result of the read is dropped. -/
def Hardware.onActivate : Driver n K CallbackReturn := do
  let _ ← Hardware.read
  modify Hardware.holdPositions
  return .success

end Operations

/-! ## Runs of the operations -/

theorem communicationProtocol_of_ok {α : Type} {x : Cpp α} {hw : Hardware n K} {a : α}
    {port : SerialPort} (h : x hw.port = .ok a port) :
    communicationProtocol x hw = .ok (.ok a) { hw with port := port } := by
  rw [communicationProtocol, h]

theorem communicationProtocol_of_unexpected {α : Type} {x : Cpp α} {hw : Hardware n K}
    {message : String} {port : SerialPort} (h : x hw.port = .error (.unexpected message) port) :
    communicationProtocol x hw = .ok (.error message) { hw with port := port } := by
  rw [communicationProtocol, h]

theorem communicationProtocol_of_thrown {α : Type} {x : Cpp α} {hw : Hardware n K}
    {e : Exception} {port : SerialPort} (h : x hw.port = .error (.thrown e) port) :
    communicationProtocol x hw = .error e { hw with port := port } := by
  rw [communicationProtocol, h]

section Operations

variable [CppDouble K]

theorem Hardware.read_of_ok {hw : Hardware n K} {data : List (List UInt8)} {port : SerialPort}
    (h : syncRead 4 (List.ofFn hw.jointIds) smsStsPresentPositionL hw.port = .ok data port) :
    Hardware.read hw = .ok .ok ({ hw with port := port }.store data) := by
  change (communicationProtocol _ >>= _) hw = _
  rw [bind_of_ok (communicationProtocol_of_ok h)]
  rfl

theorem Hardware.read_of_unexpected {hw : Hardware n K} {message : String} {port : SerialPort}
    (h : syncRead 4 (List.ofFn hw.jointIds) smsStsPresentPositionL hw.port
      = .error (.unexpected message) port) :
    ∃ hw', Hardware.read hw = .ok .error hw' := by
  change ∃ hw', (communicationProtocol _ >>= _) hw = _
  rw [bind_of_ok (communicationProtocol_of_unexpected h)]
  exact ⟨_, rfl⟩

theorem Hardware.read_of_thrown {hw : Hardware n K} {e : Exception} {port : SerialPort}
    (h : syncRead 4 (List.ofFn hw.jointIds) smsStsPresentPositionL hw.port
      = .error (.thrown e) port) :
    Hardware.read hw = .error e { hw with port := port } := by
  change (communicationProtocol _ >>= _) hw = _
  rw [bind_of_error (communicationProtocol_of_thrown h)]

/-- `on_activate` succeeds whenever `read` returns, whatever it returns. -/
theorem Hardware.onActivate_of_read {hw hw' : Hardware n K} {r : ReturnType}
    (h : Hardware.read hw = .ok r hw') :
    Hardware.onActivate hw = .ok .success hw'.holdPositions := by
  rw [onActivate, bind_of_ok h]
  rfl

theorem Hardware.onActivate_of_thrown {hw hw' : Hardware n K} {e : Exception}
    (h : Hardware.read hw = .error e hw') : Hardware.onActivate hw = .error e hw' := by
  rw [onActivate, bind_of_error h]

/-! ## Activation -/

/-- If `on_activate` returns `SUCCESS`, the read has succeeded, and every commanded position is the
one in the packet that the call received for the joint. -/
def ActivationSound (hw : Hardware n K) : Prop :=
  ∀ hw', Hardware.onActivate hw = .ok .success hw' →
    (∃ hw'', Hardware.read hw = .ok .ok hw'') ∧
      ∃ packets rest, Delivers 4 hw.port.rx packets rest ∧ packets.length = n ∧
        (∀ p ∈ packets, p.Verifies) ∧
        ∀ i : Fin n, ∃ p, packets[i]? = some p ∧ hw'.hwPositions i = positionOfReading p.data

/-- A sound activation has been read off the line, or has not returned. -/
theorem ActivationSound.delivered {hw : Hardware n K} (h : ActivationSound hw) :
    hw.port.CanWrite (n + 2) ∧
      ((∃ packets rest, Delivers 4 hw.port.rx packets rest ∧ packets.length = n ∧
          ∀ p ∈ packets, p.Verifies) ∨
        ∃ packets rest, Delivers 4 hw.port.rx packets rest ∧ packets.length < n ∧
          (∀ p ∈ packets, p.Verifies) ∧ FailsAtChecksum 4 rest) := by
  have hn : (List.ofFn hw.jointIds).length = n := List.length_ofFn
  cases hrun : syncRead 4 (List.ofFn hw.jointIds) smsStsPresentPositionL hw.port with
  | ok data port =>
    obtain ⟨hcan, packets, rest, hdel, hlen, hver, -⟩ := syncRead_eq_ok_iff.mp hrun
    rw [hn] at hcan hlen
    exact ⟨hcan, Or.inl ⟨packets, rest, hdel, hlen, hver⟩⟩
  | error fault port =>
    cases fault with
    | unexpected message =>
      -- the failed read is dropped, and the activation succeeds without it
      obtain ⟨hw', hread⟩ := Hardware.read_of_unexpected hrun
      obtain ⟨⟨hw'', hok⟩, -⟩ := h _ (Hardware.onActivate_of_read hread)
      rw [hread] at hok
      cases hok
    | thrown e =>
      obtain ⟨hcan, hfail⟩ := escapes_syncRead_iff.mp ⟨e, port, hrun⟩
      rw [hn] at hcan hfail
      exact ⟨hcan, Or.inr hfail⟩

theorem activationSound_of_delivers {hw : Hardware n K} {packets : List StatusPacket}
    {rest : List RxEvent} (hcan : hw.port.CanWrite (n + 2))
    (hdel : Delivers 4 hw.port.rx packets rest) (hlen : packets.length = n)
    (hver : ∀ p ∈ packets, p.Verifies) : ActivationSound hw := by
  intro hw' hact
  have hn : (List.ofFn hw.jointIds).length = n := List.length_ofFn
  have hrun : syncRead 4 (List.ofFn hw.jointIds) smsStsPresentPositionL hw.port
      = .ok (packets.map StatusPacket.data) _ := syncRead_eq_ok_iff.mpr
    ⟨by rwa [hn], packets, rest, hdel, by rwa [hn], hver, rfl, rfl⟩
  have hread := Hardware.read_of_ok hrun
  rw [Hardware.onActivate_of_read hread] at hact
  cases hact
  refine ⟨⟨_, hread⟩, packets, rest, hdel, hlen, hver, fun i ↦ ?_⟩
  have hi : i < packets.length := by omega
  refine ⟨packets[i], List.getElem?_eq_getElem hi, ?_⟩
  have hdata : (packets.map StatusPacket.data).getD i [] = packets[i].data := by
    rw [List.getD_eq_getElem _ _ (by rwa [List.length_map]), List.getElem_map]
    rfl
  exact congrArg positionOfReading hdata

/-- An exception of the read keeps `on_activate` from returning. -/
theorem activationSound_of_escapes {hw : Hardware n K}
    (h : Escapes (syncRead 4 (List.ofFn hw.jointIds) smsStsPresentPositionL) hw.port) :
    ActivationSound hw := by
  intro hw' hact
  obtain ⟨e, port, hrun⟩ := h
  rw [Hardware.onActivate_of_thrown (Hardware.read_of_thrown hrun)] at hact
  cases hact

/-- **When an activation is sound.** The request is written, and either the line delivers a
verifying packet for each joint, or the device fails on a checksum byte, in which case an exception
keeps `on_activate` from returning. -/
theorem activation_sound_iff (hw : Hardware n K) : ActivationSound hw ↔
    hw.port.CanWrite (n + 2) ∧
      ((∃ packets rest, Delivers 4 hw.port.rx packets rest ∧ packets.length = n ∧
          ∀ p ∈ packets, p.Verifies) ∨
        ∃ packets rest, Delivers 4 hw.port.rx packets rest ∧ packets.length < n ∧
          (∀ p ∈ packets, p.Verifies) ∧ FailsAtChecksum 4 rest) := by
  refine ⟨ActivationSound.delivered, ?_⟩
  rintro ⟨hcan, ⟨packets, rest, hdel, hlen, hver⟩ | hfail⟩
  · exact activationSound_of_delivers hcan hdel hlen hver
  · have hn : (List.ofFn hw.jointIds).length = n := List.length_ofFn
    exact activationSound_of_escapes (escapes_syncRead_iff.mpr ⟨by rwa [hn], by rwa [hn]⟩)

end Operations

/-! ### A gripper -/

/-- One joint with a command interface on the line `rx`, with the positions it starts from. -/
def gripper (rx : List RxEvent) (initial stored : K) : Hardware 1 K where
  commandInterfaces := fun _ ↦ ["position"]
  jointIds := fun _ ↦ 1
  hwPositions := fun _ ↦ initial
  stateHwPositions := fun _ ↦ stored
  stateHwVelocities := fun _ ↦ stored
  port := openPort rx
  errors := []

theorem gripper_commanded (rx : List RxEvent) (initial stored : K) :
    (gripper rx initial stored).commanded = [0] := rfl

theorem silent_gripper_unsound [CppDouble K] (initial stored : K) :
    ¬ ActivationSound (gripper [] initial stored) := by
  intro h
  obtain ⟨-, ⟨packets, rest, hdel, hlen, -⟩ | ⟨packets, rest, hdel, hlen, -, hfail⟩⟩ := h.delivered
  · obtain ⟨p, rfl⟩ := List.length_eq_one_iff.mp hlen
    obtain ⟨noise, -, -, h⟩ := (delivers_singleton_iff.mp hdel).found
    exact absurd (congrArg List.length h) (by simp [gripper, openPort])
  · obtain rfl : packets = [] := List.length_eq_zero_iff.mp (by omega)
    cases hdel
    obtain ⟨noise, bytes, what, tail, -, -, -, h⟩ := hfail
    exact absurd (congrArg List.length h) (by simp [gripper, openPort])

/-- A reply that is lost leaves the default of zero metres in place, and the activation succeeds. -/
theorem activation_without_reply : ¬ ActivationSound (gripper [] (0 : ℝ) 0) :=
  silent_gripper_unsound 0 0

end VzletUr3e.Feetech
