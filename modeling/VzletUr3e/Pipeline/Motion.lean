import VzletUr3e.Pipeline.Utils

/-!
# Motion

`MotionController`: moves, gripper commands, and the grasp sequence made of them.
-/

namespace VzletUr3e.Pipeline

open Control PyFloat

variable {K : Type} [PyFloat K]

/-! ## Orientation -/

/-- A matrix by rows. -/
abbrev Matrix3 (K : Type) := Fin 3 → Fin 3 → K

/-- `np.cross`. -/
def cross (a b : Fin 3 → K) : Fin 3 → K :=
  ![a 1 * b 2 - a 2 * b 1, a 2 * b 0 - a 0 * b 2, a 0 * b 1 - a 1 * b 0]

/-- `np.linalg.norm`. -/
def norm (a : Fin 3 → K) : K := sqrt (a 0 * a 0 + a 1 * a 1 + a 2 * a 2)

/-- `rotation_matrix_to_quaternion`. -/
def rotationMatrixToQuaternion (m : Matrix3 K) : Quaternion K :=
  let trace := m 0 0 + m 1 1 + m 2 2
  if lt (lit 0) trace then
    let s := sqrt (trace + lit 1) * lit 2
    { w := lit (1 / 4) * s
      x := (m 2 1 - m 1 2) / s
      y := (m 0 2 - m 2 0) / s
      z := (m 1 0 - m 0 1) / s }
  else if lt (m 1 1) (m 0 0) ∧ lt (m 2 2) (m 0 0) then
    let s := sqrt (lit 1 + m 0 0 - m 1 1 - m 2 2) * lit 2
    { w := (m 2 1 - m 1 2) / s
      x := lit (1 / 4) * s
      y := (m 0 1 + m 1 0) / s
      z := (m 0 2 + m 2 0) / s }
  else if lt (m 2 2) (m 1 1) then
    let s := sqrt (lit 1 + m 1 1 - m 0 0 - m 2 2) * lit 2
    { w := (m 0 2 - m 2 0) / s
      x := (m 0 1 + m 1 0) / s
      y := lit (1 / 4) * s
      z := (m 1 2 + m 2 1) / s }
  else
    let s := sqrt (lit 1 + m 2 2 - m 0 0 - m 1 1) * lit 2
    { w := (m 1 0 - m 0 1) / s
      x := (m 0 2 + m 2 0) / s
      y := (m 1 2 + m 2 1) / s
      z := lit (1 / 4) * s }

/-- `make_tool0_z_face_ground_orientation`, which does not look at the current orientation. -/
def makeTool0ZFaceGroundOrientation (_currentOrientation : Quaternion K) : Quaternion K :=
  let desiredToolZ : Fin 3 → K := ![lit 0, lit 0, lit (-1)]
  let desiredToolY : Fin 3 → K := ![lit 0, lit (-1), lit 0]
  let desiredToolX := cross desiredToolY desiredToolZ
  let length := norm desiredToolX
  let columns : Fin 3 → Fin 3 → K :=
    ![fun i ↦ desiredToolX i / length, desiredToolY, desiredToolZ]
  rotationMatrixToQuaternion fun i j ↦ columns j i

/-! ## Goals -/

/-- `STATUS_SUCCEEDED` of `GoalStatus`. -/
def statusSucceeded : ℤ := 4

/-- `get_motion_profile`. It raises when the parameter is not declared, when its list is too short,
and when a scaling is no number. -/
def getMotionProfile (cfg : Config K) (profileName : String) : Except Raised (MotionProfile K) :=
  let name := String.ofList (Poses.strip profileName.toList)
  match cfg.motionProfile (name ++ "_motion_profile") with
  | some (pipelineId :: plannerId :: velocity :: acceleration :: _) =>
    match cfg.parseFloat velocity, cfg.parseFloat acceleration with
    | some velocity, some acceleration =>
      .ok ⟨profileName, pipelineId, plannerId, velocity, acceleration⟩
    | _, _ => .error .exception
  | _ => .error .exception

/-- `create_move_goal`. -/
def createMoveGoal (cfg : Config K) (targetPose : Pose K) (motionProfile : String) :
    Except Raised (MoveGoal K) := do
  let profile ← getMotionProfile cfg motionProfile
  return {
    groupName := cfg.groupName
    profile := profile
    numPlanningAttempts := cfg.planningAttempts
    allowedPlanningTime := cfg.allowedPlanningTime
    frameId := cfg.baseFrame
    linkName := cfg.toolFrame
    positionTolerance := cfg.positionTolerance
    orientationTolerance := cfg.orientationTolerance
    pose := targetPose }

/-- The wait for the acceptance of a goal: it fails on a timeout, without a handle, and when the
goal is rejected. -/
def awaitAcceptance (response : GoalResponse) : M K Bool := do
  raise response.send
  if ¬ (← waitFuture response.wait) then return false
  return (← raise response.handle) = some true

/-- `execute_move`. -/
def executeMove (env : Env K) (cfg : Config K) (targetPose : Pose K) (motionProfile : String) :
    M K Bool :=
  step .move id do
    let goal ← raise (createMoveGoal cfg targetPose motionProfile)
    let answer ← ask env.moveGoal
    emit (.moveGoal goal)
    if ¬ (← awaitAcceptance answer.toGoalResponse) then return false
    raise answer.getResult
    if ¬ (← waitFuture answer.resultWait) then return false
    if (← raise answer.result) = some statusSucceeded then
      emit .moveSucceeded
      return true
    return false

/-- `command_gripper` without a label, which is made from the positions of the class. -/
def commandGripper (env : Env K) (cfg : Config K) (use : GripperUse) (position : K)
    (classType : String) : M K Bool :=
  step .gripper id do
    if (← get).lastGripperPosition.any fun last ↦
        lt (PyFloat.abs (position - last)) (lit (1 / 100000)) then
      emit (.gripperAlready use)
      return true
    if (cfg.getGripperPosition .closePose classType).isNone ∨
        (cfg.getGripperPosition .openPose classType).isNone then return false
    let answer ← ask env.gripperGoal
    emit (.gripperGoal use position)
    if ¬ (← awaitAcceptance answer.toGoalResponse) then return false
    raise answer.getResult
    raise answer.spinUntilComplete
    if ¬ answer.done then return false
    if (← raise answer.result) = some statusSucceeded then
      emit (.gripperSucceeded use)
      modify fun w ↦ { w with lastGripperPosition := some position }
      return true
    modify fun w ↦ { w with lastGripperPosition := none }
    return false

/-! ## Moving to a zone -/

/-- The constraint under which the tool faces the ground. -/
def zGround : String := "z_ground"

/-- `move_to_zone`. -/
def moveToZone (env : Env K) (cfg : Config K) (poseName : Poses.Str)
    (constraint : Option String) (motionProfile : String) : M K Bool := do
  let poseName := Poses.strip poseName
  match getPoseByName (← get).poses poseName with
  | none => return false
  | some selectedPose =>
    let target (orientation : Quaternion K) : Pose K :=
      ⟨selectedPose.x, selectedPose.y, selectedPose.z, orientation⟩
    if constraint = some zGround then
      match ← getCurrentTool0Pose env with
      | none => return false
      | some currentPose =>
        executeMove env cfg (target (makeTool0ZFaceGroundOrientation currentPose.orientation))
          motionProfile
    else
      executeMove env cfg
        (target ⟨selectedPose.qx, selectedPose.qy, selectedPose.qz, selectedPose.qw⟩) motionProfile

/-! ## The grasp sequence -/

/-- The gripper positions before and after the move down. -/
def graspPositions (cfg : Config K) (action : Action) (classType : String) :
    Option (Option K × Option K) :=
  match action with
  | .pick => some (cfg.getGripperPosition .openPose classType,
      cfg.getGripperPosition .closePose classType)
  | .place => some (cfg.getGripperPosition .closePose classType,
      cfg.getGripperPosition .openPose classType)
  | .other _ => none

/-- What the command behind the move down is for. -/
def Action.postUse (action : Action) : GripperUse :=
  ⟨action, if action = .pick then .closePose else .openPose⟩

/-- The command before the move down. A place leaves the gripper as it is. -/
def preGrasp (env : Env K) (cfg : Config K) (action : Action) (classType : String)
    (preGraspPos : K) : M K Bool :=
  if action = .pick then commandGripper env cfg ⟨.pick, .openPose⟩ preGraspPos classType
  else return true

/-- The moves and commands of `execute_grasp_sequence`. -/
def graspMoves (env : Env K) (cfg : Config K) (action : Action) (classType : String)
    (startPose : Pose K) (zOffset preGraspPos postGraspPos : K) : M K Bool := do
  let loweredPose := { startPose with z := zOffset }
  if ¬ (← preGrasp env cfg action classType preGraspPos) then return false
  if ¬ (← executeMove env cfg loweredPose "grasp") then return false
  if ¬ (← commandGripper env cfg action.postUse postGraspPos classType) then return false
  raise (← ask env.sleep)
  executeMove env cfg startPose "grasp"

/-- `execute_grasp_sequence`. -/
def executeGraspSequence (env : Env K) (cfg : Config K) (action : Action) (classType : String) :
    M K Bool := do
  emit (.graspBegan action classType)
  match ← getCurrentTool0Pose env with
  | none => return false
  | some startPose =>
    match cfg.getGraspZOffset action classType with
    | none => return false
    | some zOffset =>
      match graspPositions cfg action classType with
      | some (some preGraspPos, some postGraspPos) =>
        graspMoves env cfg action classType startPose zOffset preGraspPos postGraspPos
      | _ => return false

end VzletUr3e.Pipeline
