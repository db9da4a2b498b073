import VzletUr3e.Pipeline.Motion
import VzletUr3e.Poses.Lookup

/-!
# The teleop node

`TrajectoryTeleopCommander` runs in two threads. The keyboard thread is a computation over the
`World`, whose requests of the outside are answered by the environment, as in the pipeline. The
executor's thread calls `publish_servo_command` by a timer; between two steps of the keyboard thread
it takes as many steps as the schedule says.

What a step of the timer is, is left open by `Schedule`: the whole callback (`World.timerCallback`),
or one of the three things it does (`World.timerStep`).
-/

namespace VzletUr3e.Teleop

open Control PyFloat

/-! ## Twists and events -/

/-- The linear part of a twist. The angular part is never set. -/
structure Twist (K : Type) where
  x : K
  y : K
  z : K
deriving DecidableEq, Repr

inductive Mode
  | trajectory
  | teleop
deriving DecidableEq, Repr

/-- A record of the run. -/
inductive Event (K : Type)
  /-- `set_velocity`. -/
  | velocity (twist : Twist K)
  /-- `in_teleop` is set. -/
  | inTeleop (value : Bool)
  /-- The timer publishes a twist. -/
  | timerTwist (twist : Twist K)
  /-- The keyboard thread publishes a twist. The timer may have copied one that it has not
  published. -/
  | keyboardTwist (twist : Twist K) (copied : Option (Twist K))
  /-- `publish_stop` returns. The same may be the case. -/
  | stopped (copied : Option (Twist K))
  /-- `enter_teleop_mode` has stopped the arm for the last time. -/
  | sessionEnded
  /-- A switch to a mode is attempted. -/
  | modeSwitch (mode : Mode)
  /-- `call_async` on the switch client. -/
  | switchRequest (activate deactivate : List String)
  /-- The attempt returns. -/
  | modeSwitched (mode : Mode) (ok : Bool)
  /-- `send_goal_async` on the `MoveGroup` client. -/
  | moveGoal (goal : Pipeline.MoveGoal K)
  /-- `send_goal_async` on the gripper client. -/
  | gripperGoal (position : K)

/-- The twist that is published. -/
def Event.published {K : Type} : Event K → Option (Twist K)
  | .timerTwist twist => some twist
  | .keyboardTwist twist _ => some twist
  | _ => none

/-! ## The world -/

/-- Where the timer's callback is. -/
inductive TimerPhase (K : Type)
  | idle
  /-- It has found `in_teleop` set. -/
  | tested
  /-- It has copied the current twist and let go of the lock. -/
  | copied (twist : Twist K)

structure World (K : Type) where
  /-- The number of requests so far. -/
  requests : ℕ
  /-- The events so far, the newest first. -/
  trace : List (Event K)
  running : Bool
  /-- `rclpy.ok()`, which does not come back once it is gone. -/
  ok : Bool
  inTeleop : Bool
  currentTwist : Twist K
  timer : TimerPhase K
  selectedGraspObject : String
  poses : List (Poses.Str × Poses.Pose K)

variable {K : Type}

abbrev M (K : Type) := EStateM Pipeline.Raised (World K)

def World.emit (w : World K) (event : Event K) : World K := { w with trace := event :: w.trace }

/-- What the timer has copied and not published. -/
def TimerPhase.twist : TimerPhase K → Option (Twist K)
  | .copied twist => some twist
  | _ => none

/-- One step of `publish_servo_command` in the timer: the test, the copy, the publication. -/
def World.timerStep (w : World K) : World K :=
  match w.timer with
  | .idle => if w.inTeleop then { w with timer := .tested } else w
  | .tested => { w with timer := .copied w.currentTwist }
  | .copied twist => { w.emit (.timerTwist twist) with timer := .idle }

/-- All of `publish_servo_command` in the timer. -/
def World.timerCallback (w : World K) : World K :=
  if w.inTeleop then w.emit (.timerTwist w.currentTwist) else w

/-- A callback that is not interrupted takes its three steps. -/
theorem timerStep_three {w : World K} (hidle : w.timer = .idle) (h : w.inTeleop = true) :
    w.timerStep.timerStep.timerStep = w.timerCallback := by
  cases w
  cases hidle
  cases h
  rfl

/-! ## The two threads -/

/-- The steps of the timer, and how many of them come before each step of the keyboard thread. -/
structure Schedule (K : Type) where
  tick : World K → World K
  ticks : ℕ → ℕ

/-- The timer's turn. -/
def Schedule.others (s : Schedule K) : M K Unit :=
  modify fun w ↦ { (s.tick^[s.ticks w.requests] w) with requests := w.requests + 1 }

/-- A step of the keyboard thread. -/
def Schedule.act {α : Type} (s : Schedule K) (f : World K → α × World K) : M K α := do
  s.others
  modifyGet f

/-- A step that is put on record. -/
def Schedule.note (s : Schedule K) (event : Event K) : M K Unit := s.act fun w ↦ ((), w.emit event)

/-- A request of the environment, whose answer may be an exception. -/
def Schedule.ask {α : Type} (s : Schedule K) (answers : ℕ → α) : M K α := do
  let answer ← modifyGet fun w ↦ (answers w.requests, w)
  s.others
  return answer

/-- An exception, or a value. -/
def raise {α : Type} : Except Pipeline.Raised α → M K α
  | .ok a => pure a
  | .error e => throw e

/-! ## The environment -/

open Pipeline (Raised)

/-- One turn of `wait_future` while `rclpy.ok()`: the keys that are pending, whether the time is up,
and the sleep. -/
structure WaitTurn where
  done : Bool
  keys : List Char
  timedOut : Bool
  sleep : Except Raised Unit

/-- The turns of a wait, and whether the future is done when `rclpy.ok()` is false. -/
structure Wait where
  turns : List WaitTurn
  done : Bool

/-- What comes of a service call. -/
structure ServiceCall (α : Type) where
  available : Except Raised Bool
  call : Except Raised Unit
  wait : Wait
  response : Except Raised (Option α)

/-- What comes of a `MoveGroup` goal. -/
structure MoveOutcome where
  send : Except Raised Unit
  wait : Wait
  handle : Except Raised (Option Bool)
  getResult : Except Raised Unit
  resultWait : Wait
  result : Except Raised (Option ℤ)

/-- What `toggle_gripper` finds: the flags that the executor's callbacks set, and the server. -/
structure GripperAnswer where
  busy : Bool
  isClosed : Bool
  available : Except Raised Bool
  send : Except Raised Unit

/-- The answers to all requests, by their number. -/
structure Env (K : Type) where
  /-- The states of the controllers by name. -/
  listControllers : ℕ → ServiceCall (List (String × String))
  /-- Whether the switch was accepted. -/
  switchController : ℕ → ServiceCall Bool
  /-- Whether the command type was accepted. -/
  servoCommandType : ℕ → ServiceCall Bool
  publish : ℕ → Except Raised Unit
  sleep : ℕ → Except Raised Unit
  enableKeyboardHotkeys : ℕ → Except Raised Unit
  restoreKeyboardHotkeys : ℕ → Except Raised Unit
  /-- The content of the pose file, if there is one. -/
  readCsv : ℕ → Except Raised (Option Poses.Str)
  captureDatasetPhoto : ℕ → Except Raised Unit
  finalizeDatasetArchive : ℕ → Except Raised Unit
  /-- `save_pose_to_csv`: the new table, if it was loaded. -/
  savePoseToCsv : ℕ → Except Raised (Option (List (Poses.Str × Poses.Pose K)))
  gripper : ℕ → GripperAnswer
  moveGroup : ℕ → Except Raised Bool
  moveGoal : ℕ → MoveOutcome

/-- What the node is configured with. -/
structure Config (K : Type) extends Pipeline.Config K where
  linearSpeed : K
  isdigit : Poses.Str → Bool

/-! ## Keys and commands -/

/-- One turn of the loop in teleop mode: whether a key is there, and the key, unless the input is at
its end. -/
structure KeyTurn where
  ready : Except Raised Bool
  key : Except Raised (Option Char)

/-- What `input` comes to. -/
inductive Input
  | line (text : Poses.Str)
  | endOfFile
  | raised (e : Raised)

/-- One turn of the menu, with the keys of the session that it may start. -/
structure MenuTurn where
  input : Input
  keys : List KeyTurn

section Twists

variable [PyFloat K]

def Twist.zero : Twist K := ⟨lit 0, lit 0, lit 0⟩

/-- The node after `__init__`. -/
def World.initial (poses : List (Poses.Str × Poses.Pose K)) : World K where
  requests := 0
  trace := []
  running := true
  ok := true
  inTeleop := false
  currentTwist := Twist.zero
  timer := .idle
  selectedGraspObject := "body"
  poses := poses

end Twists

end VzletUr3e.Teleop
