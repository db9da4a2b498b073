import VzletUr3e.Pipeline.Node

/-!
# Waiting, controllers and poses

The parts of `PipelineUtils` that a run uses, and `get_current_tool0_pose`. None of them sends a
goal.
-/

namespace VzletUr3e.Pipeline

open Control PyFloat

variable {K : Type}

/-! ## Waiting -/

/-- The loop of `wait_future`. Behind the last turn `rclpy.ok()` is false. -/
def waitTurns (done : Bool) : List WaitTurn → Except Raised Bool
  | [] => .ok done
  | turn :: turns =>
    if turn.done then .ok true
    else if turn.timedOut then .ok false
    else
      match turn.spin with
      | .error e => .error e
      | .ok () => waitTurns done turns

/-- `wait_future`. -/
def waitFuture (wait : Wait) : M K Bool := raise (waitTurns wait.done wait.turns)

/-- A service call: none when the service is not available, the wait is over in vain, or there is no
response. -/
def callService {α : Type} (call : ServiceCall α) : M K (Option α) := do
  if ¬ (← raise call.available) then return none
  raise call.call
  if ¬ (← waitFuture call.wait) then return none
  raise call.response

/-! ## Controllers -/

/-- `get_controller_states`. -/
def getControllerStates (env : Env K) : M K (Option (List (String × String))) := do
  callService (← ask env.listControllers)

/-- `controllers_already_in_state`. -/
def controllersAlreadyInState (env : Env K) (activate deactivate : List String) : M K Bool := do
  match ← getControllerStates env with
  | none => return false
  | some states =>
    return activate.all (fun controller ↦ states.lookup controller = some "active") ∧
      deactivate.all fun controller ↦ states.lookup controller ≠ some "active"

/-- `call_switch_controller`. -/
def callSwitchController (env : Env K) (activate deactivate : List String) : M K Bool := do
  if ← controllersAlreadyInState env activate deactivate then return true
  match ← callService (← ask env.switchController) with
  | none => return false
  | some true => return true
  | some false => controllersAlreadyInState env activate deactivate

/-- `switch_to_trajectory_mode`. -/
def switchToTrajectoryMode (env : Env K) (cfg : Config K) : M K Bool :=
  step .controllerSwitch id
    (callSwitchController env [cfg.trajectoryController] [cfg.servoController])

/-! ## Poses -/

/-- `self.poses = poses`, unless the file is not accepted. -/
def storePoses : Except Poses.LoadError (List (Poses.Str × Poses.Pose K)) → M K Unit
  | .error _ => throw .exception
  | .ok poses => modify fun w ↦ { w with poses := poses }

/-- `load_csv_poses` on the configured file. -/
def loadCsvPoses (env : Env K) (cfg : Config K) : M K Unit :=
  step .csvLoad (fun _ ↦ true) do
    let file ← raise (← ask env.readCsv)
    storePoses (Poses.loadCsvPoses cfg.numbers file)

/-- `get_pose_by_name`. -/
def getPoseByName (poses : List (Poses.Str × Poses.Pose K)) (poseName : Poses.Str) :
    Option (Poses.Pose K) :=
  let poseName := Poses.strip poseName
  if poseName = [] then none else poses.lookup poseName

/-- The loop of `get_current_tool0_pose`, until the time is up or `rclpy.ok()` is false. -/
def lookupToolPose : List (Attempt K) → Except Raised (Option (Pose K))
  | [] => .ok none
  | attempt :: attempts =>
    match attempt.lookup with
    | .ok pose => .ok (some pose)
    | .error .keyboardInterrupt => .error .keyboardInterrupt
    | .error .exception =>
      match attempt.spin with
      | .error e => .error e
      | .ok () => lookupToolPose attempts

/-- `get_current_tool0_pose`. -/
def getCurrentTool0Pose (env : Env K) : M K (Option (Pose K)) :=
  step .tfLookup Option.isSome do
    match ← raise (lookupToolPose (← ask env.toolPose)) with
    | none => return none
    | some pose =>
      emit (.toolPose pose)
      return some pose

end VzletUr3e.Pipeline
