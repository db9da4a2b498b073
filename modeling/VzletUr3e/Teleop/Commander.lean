import VzletUr3e.Library.StateError
import VzletUr3e.Teleop.Utils

/-!
# The commander

The keyboard thread: the menu, the teleop session, and the execution of a pose, up to `main`. What a
photo, a recorded pose or a gripper command does beyond the flags of the interlock is left to the
environment.
-/

namespace VzletUr3e.Teleop

open Control PyFloat StateError
open Pipeline (Raised)

variable {K : Type} [PyFloat K] (s : Schedule K) (env : Env K) (cfg : Config K)

/-! ## Velocity -/

/-- `set_velocity`. -/
def setVelocity (twist : Twist K) : M K Unit :=
  s.act fun w ↦ ((), ({ w with currentTwist := twist } : World K).emit (.velocity twist))

/-- `self.in_teleop = value`. -/
def setInTeleop (value : Bool) : M K Unit :=
  s.act fun w ↦ ((), ({ w with inTeleop := value } : World K).emit (.inTeleop value))

/-- `publish_servo_command`, called by the keyboard thread. -/
def publishServoCommand : M K Unit := do
  if ¬ (← s.act fun w ↦ (w.inTeleop, w)) then return ()
  let msg ← s.act fun w ↦ (w.currentTwist, w)
  raise (← s.ask env.publish)
  s.act fun w ↦ ((), w.emit (.keyboardTwist msg w.timer.twist))

/-- The loop of `publish_stop`. -/
def publishTimes : ℕ → M K Unit
  | 0 => return ()
  | n + 1 => do
    publishServoCommand s env
    raise (← s.ask env.sleep)
    publishTimes n

/-- `publish_stop`. -/
def publishStop : M K Unit := do
  setVelocity s Twist.zero
  publishTimes s env 5
  s.act fun w ↦ ((), w.emit (.stopped w.timer.twist))

/-! ## Photos, poses and the gripper -/

/-- `save_pose_to_csv`. -/
def savePoseToCsv : M K Unit := do
  match ← raise (← s.ask env.savePoseToCsv) with
  | none => return ()
  | some poses => s.act fun w ↦ ((), { w with poses := poses })

/-- The grasp objects of `toggle_grasp_object`. -/
def graspObjects : List String := ["body", "sensor", "mid", "wire5"]

/-- The object behind the selected one. -/
def nextGraspObject (selected : String) : String :=
  let currentIndex := if selected ∈ graspObjects then graspObjects.idxOf selected else 0
  graspObjects.getD ((currentIndex + 1) % graspObjects.length) "body"

/-- `toggle_grasp_object`. -/
def toggleGraspObject : M K Unit :=
  s.act fun w ↦ ((), { w with selectedGraspObject := nextGraspObject w.selectedGraspObject })

/-- `toggle_gripper`. -/
def toggleGripper : M K Unit := do
  let answer ← s.ask env.gripper
  if answer.busy then return ()
  if ¬ (← raise answer.available) then return ()
  let selectedGraspObject := (← get).selectedGraspObject
  let poseType := if answer.isClosed then Pipeline.PoseType.openPose else .closePose
  match cfg.getGripperPosition poseType selectedGraspObject with
  | none => return ()
  | some targetPosition =>
    s.note (.gripperGoal targetPosition)
    raise answer.send

/-- `reload_poses`. An exception leaves the table as it is. -/
def reloadPoses : M K Unit := do
  let file ← raise (← s.ask env.readCsv)
  match Poses.loadCsvPoses cfg.numbers file with
  | .error _ => throw .exception
  | .ok poses => s.act fun w ↦ ((), { w with poses := poses })

/-! ## Executing a pose -/

/-- `handle_global_hotkey`. -/
def handleGlobalHotkey (key : Char) : M K Unit :=
  if key = 'z' then do raise (← s.ask env.captureDatasetPhoto)
  else if key = 'p' then savePoseToCsv s env
  else if key = 'v' then toggleGraspObject s
  else if key = '\x03' then do
    s.act fun w ↦ ((), { w with running := false })
    throw .keyboardInterrupt
  else return ()

/-- `process_pending_global_hotkeys`. -/
def processPendingGlobalHotkeys : List Char → M K Unit
  | [] => return ()
  | key :: keys => do
    handleGlobalHotkey s env key
    processPendingGlobalHotkeys keys

/-- `execute_move` of the motion controller. -/
def executeMove (targetPose : Pipeline.Pose K) : M K Bool := do
  let goal ← raise (Pipeline.createMoveGoal cfg.toConfig targetPose "zone")
  let answer ← s.ask env.moveGoal
  s.note (.moveGoal goal)
  raise answer.send
  if ¬ (← waitFuture s (processPendingGlobalHotkeys s env) answer.wait) then return false
  if (← raise answer.handle) ≠ some true then return false
  raise answer.getResult
  if ¬ (← waitFuture s (processPendingGlobalHotkeys s env) answer.resultWait) then return false
  return (← raise answer.result) = some Pipeline.statusSucceeded

/-- `execute_pose` of the motion controller. -/
def motionExecutePose (pose : Poses.Pose K) : M K Bool := do
  if ¬ (← raise (← s.ask env.moveGroup)) then return false
  executeMove s env cfg ⟨pose.x, pose.y, pose.z, ⟨pose.qx, pose.qy, pose.qz, pose.qw⟩⟩

/-- `restore_keyboard_hotkeys`. -/
def restoreKeyboardHotkeys : M K Unit := do raise (← s.ask env.restoreKeyboardHotkeys)

/-- `execute_pose`. -/
def executePose (pose : Poses.Pose K) : M K Bool := do
  raise (← s.ask env.enableKeyboardHotkeys)
  ensuring (motionExecutePose s env cfg pose) (restoreKeyboardHotkeys s env)

/-! ## The teleop session -/

/-- What a key does in teleop mode. -/
def handleKey (key : Option Char) : M K Unit :=
  let speed := cfg.linearSpeed
  let back := lit (-1) * speed
  match key with
  | some 'w' => setVelocity s ⟨lit 0, speed, lit 0⟩
  | some 's' => setVelocity s ⟨lit 0, back, lit 0⟩
  | some 'a' => setVelocity s ⟨back, lit 0, lit 0⟩
  | some 'd' => setVelocity s ⟨speed, lit 0, lit 0⟩
  | some 'r' => setVelocity s ⟨lit 0, lit 0, speed⟩
  | some 'f' => setVelocity s ⟨lit 0, lit 0, back⟩
  | some 'g' => do
    publishStop s env
    toggleGripper s env cfg
  | some 'v' => toggleGraspObject s
  | some 'z' => do raise (← s.ask env.captureDatasetPhoto)
  | some 'p' => do
    publishStop s env
    savePoseToCsv s env
  | some 't' => do
    publishStop s env
    setInTeleop s false
  | some '\x03' => throw .keyboardInterrupt
  | _ => setVelocity s Twist.zero

/-- The loop of `enter_teleop_mode`. Behind the last turn `rclpy.ok()` is false. -/
def keyLoop : List KeyTurn → M K Unit
  | [] => s.act fun w ↦ ((), { w with ok := false })
  | turn :: turns => do
    let w ← get
    if ¬ (w.running ∧ w.inTeleop ∧ w.ok) then return ()
    s.others
    if ← raise turn.ready then
      handleKey s env cfg (← raise turn.key)
    keyLoop turns

/-- `except KeyboardInterrupt: self.running = False; raise`. -/
def stopRunning : Raised → M K Unit
  | .keyboardInterrupt => do
    s.act fun w ↦ ((), { w with running := false })
    throw .keyboardInterrupt
  | .exception => throw .exception

/-- The `finally` of `enter_teleop_mode`. -/
def leaveSession : M K Unit := do
  publishStop s env
  s.note .sessionEnded
  restoreKeyboardHotkeys s env

/-- `enter_teleop_mode`. -/
def enterTeleopMode (keys : List KeyTurn) : M K Unit := do
  if ¬ (← switchToTrajectoryMode s env cfg) then return ()
  if ¬ (← switchToTeleopMode s env cfg) then return ()
  setInTeleop s true
  publishStop s env
  raise (← s.ask env.enableKeyboardHotkeys)
  ensuring (tryCatch (keyLoop s env cfg keys) (stopRunning s)) (leaveSession s env)

/-! ## The menu -/

/-- The command of a pose id. -/
def executeId (command : Poses.Str) : M K Unit := do
  reloadPoses s env cfg
  match Poses.getPoseById cfg.numbers cfg.isdigit (← get).poses command with
  | .error _ => throw .exception
  | .ok none => return ()
  | .ok (some pose) =>
    if ¬ (← switchToTrajectoryMode s env cfg) then return ()
    let _ ← executePose s env cfg pose

/-- What the menu does with a command, unless it is to quit. -/
def handleCommand (command : Poses.Str) (keys : List KeyTurn) : M K Unit :=
  if command = [] then return ()
  else if command = "l".toList then reloadPoses s env cfg
  else if command = "z".toList then do raise (← s.ask env.captureDatasetPhoto)
  else if command = "p".toList then savePoseToCsv s env
  else if command = "v".toList then toggleGraspObject s
  else if command = "t".toList then enterTeleopMode s env cfg keys
  else executeId s env cfg command

/-- `interactive_loop`. Behind the last turn `rclpy.ok()` is false. -/
def interactiveLoop : List MenuTurn → M K Unit
  | [] => s.act fun w ↦ ((), { w with ok := false })
  | turn :: turns => do
    let w ← get
    if ¬ (w.running ∧ w.ok) then return ()
    s.others
    match turn.input with
    | .endOfFile => return ()
    | .raised .keyboardInterrupt => return ()
    | .raised .exception => throw .exception
    | .line text =>
      let command := Poses.strip text
      if command = "q".toList ∨ command = "quit".toList ∨ command = "exit".toList then
        s.act fun w ↦ ((), { w with running := false })
      else do
        handleCommand s env cfg command turn.keys
        interactiveLoop turns

/-- `stop`. -/
def stop : M K Unit := do
  s.act fun w ↦ ((), { w with running := false })
  setInTeleop s false
  publishStop s env
  raise (← s.ask env.finalizeDatasetArchive)

/-- `except KeyboardInterrupt` in `main`. -/
def shutDown : Raised → M K Unit
  | .keyboardInterrupt => return ()
  | .exception => throw .exception

/-- `main`, with the node made and until it is destroyed. -/
def main (turns : List MenuTurn) : M K Unit :=
  ensuring (ensuring (tryCatch (interactiveLoop s env cfg turns) shutDown) (stop s env)) s.others

end VzletUr3e.Teleop
