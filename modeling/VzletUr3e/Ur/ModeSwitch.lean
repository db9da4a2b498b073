import VzletUr3e.Ur.Passthrough

/-!
# Switching between the modes of the robot

A controller claims interfaces of the hardware, and by which of them it claims the hardware
interface tells which modes start and stop. `prepareCommandModeSwitch` refuses what may not run
together, and `performCommandModeSwitch` does the switch. In each cycle `write` looks at what is
running for what it sends to the robot: one motion command, and besides it the messages of force
mode and of tool contact that their controllers have asked for.

Freedrive is the one mode that is not started by the switch. The robot is told by the thread that
`checkAsyncIO` runs in.
-/

namespace VzletUr3e.Ur

open UrDouble

/-! ## Modes -/

inductive Mode
  | position
  | velocity
  | effort
  | forceMode
  | passthrough
  | freedrive
  | toolContact
deriving DecidableEq, Repr

/-- The modes, in the order in which interfaces are compared with theirs. -/
def Mode.all : List Mode :=
  [.position, .velocity, .effort, .forceMode, .passthrough, .freedrive, .toolContact]

instance : Fintype Mode := ⟨Mode.all.toFinset, fun mode ↦ by rcases mode <;> decide⟩

/-- `mode_compatibility_`. -/
def modeCompatibility : Mode → Mode → Bool
  | .position, .toolContact => true
  | .velocity, .toolContact => true
  | .effort, .toolContact => true
  | .forceMode, .passthrough => true
  | .passthrough, .forceMode => true
  | .passthrough, .toolContact => true
  | .toolContact, .position => true
  | .toolContact, .velocity => true
  | .toolContact, .effort => true
  | .toolContact, .passthrough => true
  | _, _ => false

/-- `is_mode_compatible`. -/
def isModeCompatible (mode : Mode) (otherModes : List Mode) : Bool :=
  otherModes.all fun other ↦ mode == other || modeCompatibility mode other

/-- What is fixed: the names of interfaces are made of `tf_prefix` and the names of the joints, and
the version of the robot says what it supports. -/
structure HardwareInfo (n : ℕ) where
  tfPrefix : String
  joints : Fin (n + 1) → String
  major : ℕ
  minor : ℕ

variable {n : ℕ}

/-- The first joint, whose modes are taken for those of all joints. -/
def first : Fin (n + 1) := ⟨0, n.succ_pos⟩

/-- The interface by which a mode starts at a joint. -/
def HardwareInfo.startInterface (info : HardwareInfo n) (i : Fin (n + 1)) : Mode → String
  | .position => info.joints i ++ "/position"
  | .velocity => info.joints i ++ "/velocity"
  | .effort => info.joints i ++ "/effort"
  | .forceMode => info.tfPrefix ++ "force_mode" ++ "/type"
  | .passthrough =>
    info.tfPrefix ++ "trajectory_passthrough" ++ "/setpoint_positions_" ++ toString i.val
  | .freedrive => info.tfPrefix ++ "freedrive_mode" ++ "/async_success"
  | .toolContact => info.tfPrefix ++ "tool_contact" ++ "/tool_contact_set_state"

/-- The interface by which a mode stops at a joint. -/
def HardwareInfo.stopInterface (info : HardwareInfo n) (i : Fin (n + 1)) : Mode → String
  | .forceMode => info.tfPrefix ++ "force_mode" ++ "/disable_cmd"
  | mode => info.startInterface i mode

/-- Torque control is available from robot software 5.23.0 / 10.10.0 on. -/
def HardwareInfo.effortRefused (info : HardwareInfo n) : Bool :=
  info.major == 5 && info.minor < 23 || info.major == 10 && info.minor < 10 || info.major < 5

/-! ## State -/

/-- The command interfaces of force mode. A value that is not given is a NaN. `asyncWaiting` stands
for `force_mode_async_success_ == 2.0`. -/
structure ForceMode (K : Type) where
  taskFrame : Vec K
  selectionVector : Vec K
  wrench : Vec K
  type : K
  limits : Vec K
  damping : K
  gainScaling : K
  disableCmd : K
  asyncWaiting : Bool

/-- The values of `tool_contact_set_state_`. The zero of `on_init` means no more than `standby`. -/
inductive ToolContactState
  | standby
  | waitingBegin
  | executing
  | failureBegin
  | waitingEnd
  | successEnd
  | failureEnd
deriving DecidableEq, Repr

/-- What the hardware interface tells the driver to send. `trajectory` stands for all that the
passthrough branch sends. -/
inductive DriverCall (K : Type)
  | servoj (commands : Vec K)
  | speedj (commands : Vec K)
  | torque (commands : Vec K)
  | freedriveNoop
  | freedriveStart
  | freedriveStop
  | trajectory
  | keepalive
  /-- Below version 5 there is no gain scaling. -/
  | startForceMode (taskFrame selectionVector wrench : Vec K) (type : K) (limits : Vec K)
      (damping : K) (gainScaling : Option K)
  | endForceMode
  | startToolContact
  | endToolContact

/-- The members of the hardware interface. A command interface of freedrive that has no new command
is `false`. -/
structure Hardware (K : Type) (n : ℕ) where
  running : Mode → Bool
  jointPositions : Vec K
  positionCommands : Vec K
  velocityCommands : Vec K
  torqueCommands : Vec K
  freedriveActivated : Bool
  freedriveEnable : Bool
  freedriveAbort : Bool
  passthroughAbort : Bool
  forceMode : ForceMode K
  toolContactSetState : ToolContactState
  initialized : Bool
  startModes : Fin (n + 1) → List Mode
  stopModes : Fin (n + 1) → List Mode
  /-- What was sent, the newest first. -/
  sent : List (DriverCall K)

variable {K : Type} [UrDouble K]

/-- The command interfaces behind a start of force mode. The casts make numbers of two of them. -/
def ForceMode.reset (f : ForceMode K) : ForceMode K :=
  { f with taskFrame := fun _ ↦ nan, selectionVector := fun _ ↦ uintOfNaN, wrench := fun _ ↦ nan,
           limits := fun _ ↦ nan, type := uintOfNaN, damping := nan, gainScaling := nan }

/-- `on_init`. The members that it leaves out are taken for not given. -/
def Hardware.initial : Hardware K n where
  running _ := false
  jointPositions := Vec.zero
  positionCommands := Vec.zero
  velocityCommands := Vec.zero
  torqueCommands := Vec.zero
  freedriveActivated := false
  freedriveEnable := false
  freedriveAbort := false
  passthroughAbort := false
  forceMode := ⟨fun _ ↦ nan, fun _ ↦ uintOfNaN, fun _ ↦ nan, uintOfNaN, fun _ ↦ nan, nan, nan, nan,
    false⟩
  toolContactSetState := .standby
  initialized := false
  startModes _ := []
  stopModes _ := []
  sent := []

def Hardware.send (s : Hardware K n) (call : DriverCall K) : Hardware K n :=
  { s with sent := call :: s.sent }

def Hardware.setRunning (s : Hardware K n) (mode : Mode) (value : Bool) : Hardware K n :=
  { s with running := Function.update s.running mode value }

/-! ## The switch -/

/-- The three loops over interfaces, joints and modes, in their order. -/
def slots (n : ℕ) (interfaces : List String) : List (String × Fin (n + 1) × Mode) :=
  interfaces.flatMap fun key ↦ (List.finRange (n + 1)).flatMap fun i ↦
    Mode.all.map fun mode ↦ (key, i, mode)

/-- One turn of the loops over the interfaces that start. -/
def reserve (info : HardwareInfo n) (modes : Fin (n + 1) → List Mode) :
    String × Fin (n + 1) × Mode → Option (Fin (n + 1) → List Mode)
  | (key, i, mode) =>
    if key = info.startInterface i mode then
      if isModeCompatible mode (modes i) then some (Function.update modes i (modes i ++ [mode]))
      else none
    else some modes

/-- One turn of the loops over the interfaces that stop. -/
def release (info : HardwareInfo n)
    (modes : (Fin (n + 1) → List Mode) × (Fin (n + 1) → List Mode)) :
    String × Fin (n + 1) × Mode → (Fin (n + 1) → List Mode) × (Fin (n + 1) → List Mode)
  | (key, i, mode) =>
    if key = info.stopInterface i mode then
      (Function.update modes.1 i (modes.1 i ++ [mode]),
        Function.update modes.2 i ((modes.2 i).filter (· ≠ mode)))
    else modes

/-- The modes that are running, as each joint sees them. -/
def Hardware.controlModes (s : Hardware K n) : List Mode :=
  let modes := if s.running .position then [.position] else []
  let modes := if s.running .velocity then [.velocity] else modes
  let modes := if s.running .effort then [.effort] else modes
  let modes := if s.running .forceMode then modes ++ [.forceMode] else modes
  let modes := if s.running .passthrough then modes ++ [.passthrough] else modes
  let modes := if s.running .freedrive then modes ++ [.freedrive] else modes
  if s.running .toolContact then modes ++ [.toolContact] else modes

/-- `prepare_command_mode_switch`. The members of a request that is refused are not read. -/
def Hardware.prepareCommandModeSwitch (info : HardwareInfo n) (s : Hardware K n)
    (startInterfaces stopInterfaces : List String) : Option (Hardware K n) := do
  let startModes ← (slots n startInterfaces).foldlM (reserve info) fun _ ↦ []
  if (List.finRange (n + 1)).any (fun i ↦ Mode.effort ∈ startModes i) && info.effortRefused then
    none
  else if ¬∀ i, startModes i = startModes first then none
  else
    let (stopModes, controlModes) :=
      (slots n stopInterfaces).foldl (release info) (fun _ ↦ [], fun _ ↦ s.controlModes)
    if (startModes first).all (isModeCompatible · (controlModes first)) then
      some { s with startModes := startModes, stopModes := stopModes }
    else none

/-- `stop_force_mode`. What `endForceMode` returns is no `2.0`. -/
def Hardware.stopForceMode (s : Hardware K n) : Hardware K n :=
  { s.send .endForceMode with
    forceMode := { s.forceMode with asyncWaiting := false, disableCmd := nan } }

/-- What is done for a mode that stops. -/
def Hardware.stop (s : Hardware K n) : Mode → Hardware K n
  | .position => { s.setRunning .position false with positionCommands := s.jointPositions }
  | .velocity => { s.setRunning .velocity false with velocityCommands := Vec.zero }
  | .effort => { s.setRunning .effort false with torqueCommands := Vec.zero }
  | .forceMode => (s.setRunning .forceMode false).stopForceMode
  | .passthrough => { s.setRunning .passthrough false with passthroughAbort := true }
  | .freedrive => { s.setRunning .freedrive false with freedriveActivated := false
                                                       freedriveAbort := true }
  | .toolContact => (s.setRunning .toolContact false).send .endToolContact

/-- What is done for a mode that starts. -/
def Hardware.start (s : Hardware K n) : Mode → Hardware K n
  | .position =>
    { (((s.setRunning .velocity false).setRunning .effort false).setRunning .passthrough
        false).setRunning .position true with positionCommands := s.jointPositions }
  | .velocity =>
    { (((s.setRunning .position false).setRunning .effort false).setRunning .passthrough
        false).setRunning .velocity true with velocityCommands := Vec.zero }
  | .effort =>
    { (((s.setRunning .position false).setRunning .velocity false).setRunning .effort
        true).setRunning .passthrough false with torqueCommands := Vec.zero }
  | .forceMode => s.setRunning .forceMode true
  | .passthrough =>
    { (((s.setRunning .velocity false).setRunning .position false).setRunning .effort
        false).setRunning .passthrough true with passthroughAbort := false }
  | .freedrive =>
    { (((s.setRunning .velocity false).setRunning .position false).setRunning .effort
        false).setRunning .freedrive true with freedriveActivated := false }
  | .toolContact => s.setRunning .toolContact true

/-- `perform_command_mode_switch`. -/
def Hardware.performCommandModeSwitch (s : Hardware K n) : Hardware K n :=
  let stopModes := s.stopModes first
  let startModes := s.startModes first
  let stopping (s : Hardware K n) (mode : Mode) := if mode ∈ stopModes then s.stop mode else s
  let starting (s : Hardware K n) (mode : Mode) := if mode ∈ startModes then s.start mode else s
  let s := Mode.all.foldl stopping s
  let s := if .position ∈ startModes then s.start .position
    else if .velocity ∈ startModes then s.start .velocity
    else if .effort ∈ startModes then s.start .effort
    else s
  let s := [.forceMode, .passthrough, .freedrive, .toolContact].foldl starting s
  { s with startModes := fun _ ↦ [], stopModes := fun _ ↦ [] }

/-- A request for a switch, as it is prepared and, if it is not refused, performed. -/
def Hardware.switch (info : HardwareInfo n) (s : Hardware K n)
    (startInterfaces stopInterfaces : List String) : Hardware K n :=
  match s.prepareCommandModeSwitch info startInterfaces stopInterfaces with
  | some s => s.performCommandModeSwitch
  | none => s

/-! ## Cycles -/

/-- `read`, as far as the commands go. -/
def Hardware.read (s : Hardware K n) (jointPositions : Vec K) : Hardware K n :=
  let s := { s with jointPositions := jointPositions }
  if s.initialized then s
  else { s with positionCommands := jointPositions
                velocityCommands := Vec.zero
                torqueCommands := Vec.zero
                forceMode := { s.forceMode with disableCmd := nan }
                freedriveAbort := false
                freedriveEnable := false
                initialized := true }

/-- The first part of `write`, which tells the robot how to move. -/
def Hardware.writeMotion (s : Hardware K n) : Hardware K n :=
  if s.running .position then s.send (.servoj s.positionCommands)
  else if s.running .velocity then s.send (.speedj s.velocityCommands)
  else if s.running .effort then s.send (.torque s.torqueCommands)
  else if s.running .freedrive && s.freedriveActivated then s.send .freedriveNoop
  else if s.running .passthrough then s.send .trajectory
  else s.send .keepalive

/-- `start_force_mode`. -/
def Hardware.startForceMode (info : HardwareInfo n) (s : Hardware K n) : Hardware K n :=
  let f := s.forceMode
  { s.send (.startForceMode f.taskFrame f.selectionVector f.wrench f.type f.limits f.damping
      (if info.major < 5 then none else some f.gainScaling)) with
    forceMode := { f.reset with asyncWaiting := false } }

/-- The second part of `write`. Whether force mode is running is not asked. -/
def Hardware.writeForceMode (info : HardwareInfo n) (s : Hardware K n) : Hardware K n :=
  let f := s.forceMode
  if !isNaN f.taskFrame.first && !isNaN f.selectionVector.first && !isNaN f.wrench.first
      && !isNaN f.type && !isNaN f.limits.first && !isNaN f.damping && !isNaN f.gainScaling then
    s.startForceMode info
  else if !isNaN f.disableCmd && f.asyncWaiting then s.stopForceMode
  else s

/-- `check_tool_contact_controller`. -/
def Hardware.checkToolContactController (s : Hardware K n) : Hardware K n :=
  match s.toolContactSetState with
  | .waitingBegin => s.send .startToolContact
  | .waitingEnd => s.send .endToolContact
  | _ => s

/-- `write`. `ready` is its outer condition: the program is running, and a packet was read. -/
def Hardware.write (info : HardwareInfo n) (s : Hardware K n) (ready : Bool) : Hardware K n :=
  if !ready then s
  else
    let s := s.writeMotion.writeForceMode info
    if s.running .toolContact then s.checkToolContactController else s

/-! ### What `write` does

Its three parts add to what was sent, and change nothing else but the interfaces of force mode
(`write_true`). So whatever is kept by sending is kept by `write`. -/

/-- The messages that tell the robot how to move in the next cycle. -/
def DriverCall.IsMotion : DriverCall K → Prop
  | .servoj _ => True
  | .speedj _ => True
  | .torque _ => True
  | .freedriveNoop => True
  | .trajectory => True
  | .keepalive => True
  | _ => False

/-- The messages of force mode. -/
def DriverCall.IsForceMode : DriverCall K → Prop
  | .startForceMode .. => True
  | .endForceMode => True
  | _ => False

/-- The messages of tool contact. -/
def DriverCall.IsToolContact : DriverCall K → Prop
  | .startToolContact => True
  | .endToolContact => True
  | _ => False

/-- What `write` may send besides the motion command: at most one message of force mode, and behind
it at most one of tool contact, if that is running. -/
def Hardware.Aside (s : Hardware K n) (aside : List (DriverCall K)) : Prop :=
  ∃ force tool, aside = tool ++ force ∧ force.length ≤ 1 ∧ tool.length ≤ 1 ∧
    (∀ call ∈ force, call.IsForceMode) ∧
    ∀ call ∈ tool, call.IsToolContact ∧ s.running .toolContact = true

theorem writeForceMode_eq (info : HardwareInfo n) (s : Hardware K n) : ∃ f force,
    s.writeForceMode info = { s with forceMode := f, sent := force ++ s.sent } ∧
      force.length ≤ 1 ∧ ∀ call ∈ force, call.IsForceMode := by
  rw [Hardware.writeForceMode]
  split_ifs
  · exact ⟨_, [_], rfl, le_rfl, List.forall_mem_singleton.mpr trivial⟩
  · exact ⟨_, [.endForceMode], rfl, le_rfl, List.forall_mem_singleton.mpr trivial⟩
  · exact ⟨s.forceMode, [], rfl, Nat.zero_le 1, fun _ h ↦ absurd h List.not_mem_nil⟩

omit [UrDouble K] in
theorem checkToolContactController_eq (s : Hardware K n) : ∃ tool,
    s.checkToolContactController = { s with sent := tool ++ s.sent } ∧
      tool.length ≤ 1 ∧ ∀ call ∈ tool, call.IsToolContact := by
  rw [Hardware.checkToolContactController]
  split
  · exact ⟨[.startToolContact], rfl, le_rfl, List.forall_mem_singleton.mpr trivial⟩
  · exact ⟨[.endToolContact], rfl, le_rfl, List.forall_mem_singleton.mpr trivial⟩
  · exact ⟨[], rfl, Nat.zero_le 1, fun _ h ↦ absurd h List.not_mem_nil⟩

omit [UrDouble K] in
/-- The motion command is one message. -/
theorem writeMotion_eq (s : Hardware K n) :
    ∃ call, s.writeMotion = s.send call ∧ call.IsMotion := by
  rw [Hardware.writeMotion]
  split_ifs
  all_goals exact ⟨_, rfl, trivial⟩

/-- **What `write` does** in a cycle that is ready. -/
theorem write_true (info : HardwareInfo n) (s : Hardware K n) : ∃ f aside,
    s.write info true = { s with forceMode := f, sent := aside ++ s.writeMotion.sent } ∧
      s.Aside aside := by
  obtain ⟨call, hmotion, -⟩ := writeMotion_eq s
  obtain ⟨f, force, hforce, hlength, hcalls⟩ := writeForceMode_eq info s.writeMotion
  rw [Hardware.write, if_neg (by decide), hforce, hmotion]
  dsimp only [Hardware.send]
  split_ifs with htool
  · obtain ⟨tool, heq, hlength', hcalls'⟩ := checkToolContactController_eq
      { s with forceMode := f, sent := force ++ call :: s.sent }
    refine ⟨f, tool ++ force, heq.trans ?_, force, tool, rfl, hlength, hlength', hcalls,
      fun other hother ↦ ⟨hcalls' other hother, htool⟩⟩
    rw [List.append_assoc]
  · exact ⟨f, force, rfl, force, [], rfl, hlength, Nat.zero_le 1, hcalls,
      fun _ h ↦ absurd h List.not_mem_nil⟩

omit [UrDouble K] in
/-- What both kinds of messages keep is kept by all that is sent besides. -/
theorem Hardware.Aside.induction {s : Hardware K n} {aside older : List (DriverCall K)}
    (h : s.Aside aside) {P : List (DriverCall K) → Prop} (hold : P older)
    (hcons : ∀ {call calls}, DriverCall.IsForceMode call ∨ DriverCall.IsToolContact call →
      P calls → P (call :: calls)) : P (aside ++ older) := by
  obtain ⟨force, tool, rfl, -, -, hforce, htool⟩ := h
  have hall : ∀ call ∈ tool ++ force, call.IsForceMode ∨ call.IsToolContact := by
    intro call hmem
    rcases List.mem_append.mp hmem with hmem | hmem
    · exact .inr (htool call hmem).1
    · exact .inl (hforce call hmem)
  generalize tool ++ force = calls at hall ⊢
  induction calls with
  | nil => exact hold
  | cons call calls ih =>
    obtain ⟨hcall, hcalls⟩ := List.forall_mem_cons.mp hall
    exact hcons hcall (ih hcalls)

/-! ### Freedrive -/

/-- The end of `checkAsyncIO`, which is about freedrive. -/
def Hardware.checkAsyncIo (s : Hardware K n) : Hardware K n :=
  let s := if s.freedriveEnable then
      { s.send .freedriveStart with freedriveEnable := false, freedriveActivated := true }
    else s
  if s.freedriveAbort && s.freedriveActivated then
    { s.send .freedriveStop with freedriveActivated := false, freedriveAbort := false }
  else s

/-- The commands of the controllers go to the members by their interfaces. -/
inductive HardwareEvent (K : Type)
  | switch (startInterfaces stopInterfaces : List String)
  | read (jointPositions : Vec K)
  | write (ready : Bool)
  | checkAsyncIo
  | positionCommands (commands : Vec K)
  | velocityCommands (commands : Vec K)
  | torqueCommands (commands : Vec K)
  | freedriveEnable
  | freedriveAbort (value : Bool)
  | forceMode (command : ForceMode K)
  | toolContact (state : ToolContactState)

def Hardware.step (info : HardwareInfo n) (s : Hardware K n) : HardwareEvent K → Hardware K n
  | .switch startInterfaces stopInterfaces => s.switch info startInterfaces stopInterfaces
  | .read jointPositions => s.read jointPositions
  | .write ready => s.write info ready
  | .checkAsyncIo => s.checkAsyncIo
  | .positionCommands commands => { s with positionCommands := commands }
  | .velocityCommands commands => { s with velocityCommands := commands }
  | .torqueCommands commands => { s with torqueCommands := commands }
  | .freedriveEnable => { s with freedriveEnable := true }
  | .freedriveAbort value => { s with freedriveAbort := value }
  | .forceMode command => { s with forceMode := command }
  | .toolContact state => { s with toolContactSetState := state }

end VzletUr3e.Ur
