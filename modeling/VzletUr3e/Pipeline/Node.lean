import VzletUr3e.Control.Python
import VzletUr3e.Library.StateError
import VzletUr3e.Poses.Load

/-!
# The node of the pipeline

What the pipeline knows and what it meets: poses, the parameters of `BaseRobotNode`, the events of a
run, and the environment.

A run is a computation over the `World`. Whatever the pipeline asks of the outside (a service, a
lookup, a goal) is answered by the environment, which may answer each request as it likes: the
requests are numbered, and the answer goes by the number. Every answer may be an exception. The
events are a record of the run; apart from goals and their results they say where the run is.

Clocks, stamps and log texts are left out.
-/

namespace VzletUr3e.Pipeline

open Control PyFloat

/-! ## Poses -/

structure Quaternion (K : Type) where
  x : K
  y : K
  z : K
  w : K
deriving DecidableEq, Repr

/-- A pose of the tool in the base frame. -/
structure Pose (K : Type) where
  x : K
  y : K
  z : K
  orientation : Quaternion K
deriving DecidableEq, Repr

/-! ## Parameters -/

inductive Action
  | pick
  | place
  | other (name : String)
deriving DecidableEq, Repr

inductive PoseType
  | openPose
  | closePose
deriving DecidableEq, Repr

/-- The parameters that the pipeline reads, and `float` of their texts. -/
structure Config (K : Type) where
  baseFrame : String
  toolFrame : String
  groupName : String
  planningAttempts : ℤ
  allowedPlanningTime : K
  positionTolerance : K
  orientationTolerance : K
  trajectoryController : String
  servoController : String
  addGroundPlane : Bool
  gripperBodyClosePosition : K
  gripperBodyOpenPosition : K
  gripperMidClosePosition : K
  gripperMidOpenPosition : K
  gripperSensorClosePosition : K
  gripperSensorOpenPosition : K
  gripperWireClosePosition : K
  gripperWireOpenPosition : K
  zOffsetBodyPick : K
  zOffsetBodyPlace : K
  zOffsetSensorPick : K
  zOffsetSensorPlace : K
  zOffsetPiezo : K
  zOffsetMid : K
  zOffsetWire5 : K
  zOffsetResist : K
  /-- The list under a parameter name, if it is declared. -/
  motionProfile : String → Option (List String)
  parseFloat : String → Option K
  numbers : Poses.Numbers K

/-- A configuration in which every number is zero. -/
def Config.blank {K : Type} [PyFloat K] : Config K where
  baseFrame := "base"
  toolFrame := "tool0"
  groupName := "arm"
  planningAttempts := 1
  allowedPlanningTime := lit 0
  positionTolerance := lit 0
  orientationTolerance := lit 0
  trajectoryController := "trajectory"
  servoController := "servo"
  addGroundPlane := false
  gripperBodyClosePosition := lit 0
  gripperBodyOpenPosition := lit 0
  gripperMidClosePosition := lit 0
  gripperMidOpenPosition := lit 0
  gripperSensorClosePosition := lit 0
  gripperSensorOpenPosition := lit 0
  gripperWireClosePosition := lit 0
  gripperWireOpenPosition := lit 0
  zOffsetBodyPick := lit 0
  zOffsetBodyPlace := lit 0
  zOffsetSensorPick := lit 0
  zOffsetSensorPlace := lit 0
  zOffsetPiezo := lit 0
  zOffsetMid := lit 0
  zOffsetWire5 := lit 0
  zOffsetResist := lit 0
  motionProfile _ := none
  parseFloat _ := none
  numbers := ⟨fun _ ↦ none, fun _ ↦ none, fun _ ↦ []⟩

variable {K : Type}

/-- `get_grasp_z_offset`. -/
def Config.getGraspZOffset (cfg : Config K) (action : Action) (classType : String) : Option K :=
  match classType, action with
  | "body", .pick => some cfg.zOffsetBodyPick
  | "body", .place => some cfg.zOffsetBodyPlace
  | "mid", .pick => some cfg.zOffsetMid
  | "mid", .place => some cfg.zOffsetMid
  | "sensor", .pick => some cfg.zOffsetSensorPick
  | "sensor", .place => some cfg.zOffsetSensorPlace
  | "wire5", .pick => some cfg.zOffsetWire5
  | "wire5", .place => some cfg.zOffsetWire5
  | "resist", .pick => some cfg.zOffsetResist
  | "resist", .place => some cfg.zOffsetResist
  | "piezo", .pick => some cfg.zOffsetPiezo
  | "piezo", .place => some cfg.zOffsetPiezo
  | _, _ => none

/-- `get_gripper_position`. The positions of `resist` are those of the wire. -/
def Config.getGripperPosition (cfg : Config K) (poseType : PoseType) (classType : String) :
    Option K :=
  match classType, poseType with
  | "body", .openPose => some cfg.gripperBodyOpenPosition
  | "body", .closePose => some cfg.gripperBodyClosePosition
  | "mid", .openPose => some cfg.gripperMidOpenPosition
  | "mid", .closePose => some cfg.gripperMidClosePosition
  | "sensor", .openPose => some cfg.gripperSensorOpenPosition
  | "sensor", .closePose => some cfg.gripperSensorClosePosition
  | "wire5", .openPose => some cfg.gripperWireOpenPosition
  | "wire5", .closePose => some cfg.gripperWireClosePosition
  | "resist", .openPose => some cfg.gripperWireOpenPosition
  | "resist", .closePose => some cfg.gripperWireClosePosition
  | _, _ => none

/-! ## Goals -/

/-- `get_motion_profile`. -/
structure MotionProfile (K : Type) where
  name : String
  pipelineId : String
  plannerId : String
  velocityScaling : K
  accelerationScaling : K

/-- A `MoveGroup` goal: what `create_move_goal` puts into the request. -/
structure MoveGoal (K : Type) where
  groupName : String
  profile : MotionProfile K
  numPlanningAttempts : ℤ
  allowedPlanningTime : K
  frameId : String
  linkName : String
  positionTolerance : K
  orientationTolerance : K
  pose : Pose K

/-- What a gripper command is for: the action of its stage, and the pose it commands. -/
structure GripperUse where
  action : Action
  poseType : PoseType
deriving DecidableEq, Repr

/-- The closing command of a pick. -/
def GripperUse.pickClosing : GripperUse := ⟨.pick, .closePose⟩

/-- The opening command of a place. -/
def GripperUse.placeOpening : GripperUse := ⟨.place, .openPose⟩

/-! ## Events -/

/-- The steps of a run. -/
inductive Step
  | controllerSwitch
  | csvLoad
  | tfLookup
  | visionVote
  | move
  | gripper
  | stage (name : String)
deriving DecidableEq, Repr

inductive Outcome
  | succeeded
  | failed
  | raised
deriving DecidableEq, Repr

inductive Event (K : Type)
  /-- `execute_grasp_sequence` is entered. -/
  | graspBegan (action : Action) (classType : String)
  /-- `get_current_tool0_pose` has a pose. -/
  | toolPose (pose : Pose K)
  /-- `send_goal_async` on the `MoveGroup` client. -/
  | moveGoal (goal : MoveGoal K)
  /-- The result of the goal has the status `STATUS_SUCCEEDED`. -/
  | moveSucceeded
  /-- `send_goal_async` on the gripper client. -/
  | gripperGoal (use : GripperUse) (position : K)
  | gripperSucceeded (use : GripperUse)
  /-- "already at requested position": nothing is sent. -/
  | gripperAlready (use : GripperUse)
  /-- A step has returned, or raised. -/
  | finished (step : Step) (outcome : Outcome)

/-! ## The world -/

/-- What is raised: something that `except Exception` catches, or not. -/
inductive Raised
  | exception
  | keyboardInterrupt
deriving DecidableEq, Repr

structure World (K : Type) where
  /-- The number of requests so far. -/
  requests : ℕ
  /-- The events so far, the newest first. -/
  trace : List (Event K)
  lastGripperPosition : Option K
  poses : List (Poses.Str × Poses.Pose K)

abbrev M (K : Type) := EStateM Raised (World K)

/-- A node that has done nothing yet. -/
def World.initial (lastGripperPosition : Option K) (poses : List (Poses.Str × Poses.Pose K)) :
    World K :=
  ⟨0, [], lastGripperPosition, poses⟩

def World.emit (w : World K) (event : Event K) : World K := { w with trace := event :: w.trace }

def emit (event : Event K) : M K Unit := modify (·.emit event)

/-- An exception, or a value. -/
def raise {α : Type} : Except Raised α → M K α
  | .ok a => pure a
  | .error e => throw e

/-- A request of the environment. -/
def ask {α : Type} (answers : ℕ → α) : M K α :=
  modifyGet fun w ↦ (answers w.requests, { w with requests := w.requests + 1 })

/-- How a step ended. -/
def outcome {α : Type} (ok : α → Bool) (a : α) : Outcome := if ok a then .succeeded else .failed

/-- A step, with its end on record. -/
def step {α : Type} (s : Step) (ok : α → Bool) (x : M K α) : M K α := fun w ↦
  match x w with
  | .ok a w => .ok a (w.emit (.finished s (outcome ok a)))
  | .error e w => .error e (w.emit (.finished s .raised))

/-! ## The environment -/

/-- One turn of `wait_future` while `rclpy.ok()`: whether the future is done, whether the time is
up, and the spin. -/
structure WaitTurn where
  done : Bool
  timedOut : Bool
  spin : Except Raised Unit

/-- The turns of a wait, and whether the future is done when `rclpy.ok()` is false. -/
structure Wait where
  turns : List WaitTurn
  done : Bool

/-- What comes of a service call. -/
structure ServiceCall (α : Type) where
  available : Except Raised Bool
  call : Except Raised Unit
  wait : Wait
  response : Except Raised (Option α)

/-- What comes of sending a goal. A goal handle is known by whether it was accepted. -/
structure GoalResponse where
  send : Except Raised Unit
  wait : Wait
  handle : Except Raised (Option Bool)

/-- What comes of a `MoveGroup` goal. A result is known by its status. -/
structure MoveOutcome extends GoalResponse where
  getResult : Except Raised Unit
  resultWait : Wait
  result : Except Raised (Option ℤ)

/-- What comes of a gripper goal. Its result is waited for in another way. -/
structure GripperOutcome extends GoalResponse where
  getResult : Except Raised Unit
  spinUntilComplete : Except Raised Unit
  done : Bool
  result : Except Raised (Option ℤ)

/-- One turn of the loop in `get_current_tool0_pose`. -/
structure Attempt (K : Type) where
  lookup : Except Raised (Pose K)
  spin : Except Raised Unit

/-- The answers to all requests, by their number. -/
structure Env (K : Type) where
  waitForMoveGroup : ℕ → Except Raised Unit
  waitForGripper : ℕ → Except Raised Unit
  publishGroundPlane : ℕ → Except Raised Unit
  /-- The states of the controllers by name. -/
  listControllers : ℕ → ServiceCall (List (String × String))
  /-- Whether the switch was accepted. -/
  switchController : ℕ → ServiceCall Bool
  /-- The content of the pose file, if there is one. -/
  readCsv : ℕ → Except Raised (Option Poses.Str)
  toolPose : ℕ → List (Attempt K)
  /-- `select_yolo_grid_pose`. -/
  selectYoloGridPose : ℕ → String → Except Raised (Option Poses.Str)
  moveGoal : ℕ → MoveOutcome
  gripperGoal : ℕ → GripperOutcome
  sleep : ℕ → Except Raised Unit

end VzletUr3e.Pipeline
