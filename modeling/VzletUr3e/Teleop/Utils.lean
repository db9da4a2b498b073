import VzletUr3e.Teleop.Node

/-!
# Waiting and mode switches

The parts of `PipelineUtils` that the teleop node uses. The node has a background executor, so a
wait sleeps between two looks at the future.
-/

namespace VzletUr3e.Teleop

open Pipeline (Raised)

variable {K : Type} (s : Schedule K)

/-! ## Waiting -/

/-- The loop of `wait_future`. Behind the last turn `rclpy.ok()` is false. -/
def waitTurns (tickFn : List Char → M K Unit) (done : Bool) : List WaitTurn → M K Bool
  | [] => do
    s.act fun w ↦ ((), { w with ok := false })
    return done
  | turn :: turns => do
    if turn.done then return true
    tickFn turn.keys
    if turn.timedOut then return false
    s.others
    raise turn.sleep
    waitTurns tickFn done turns

/-- `wait_future`, with `tick_fn`. -/
def waitFuture (tickFn : List Char → M K Unit) (wait : Wait) : M K Bool :=
  waitTurns s tickFn wait.done wait.turns

/-- The default of `tick_fn`. -/
def noTick (_ : List Char) : M K Unit := pure ()

/-- A service call, with what is done where the request goes out: none when the service is not
available, the wait is over in vain, or there is no response. -/
def callService {α : Type} (request : M K Unit) (call : ServiceCall α) : M K (Option α) := do
  if ¬ (← raise call.available) then return none
  request
  raise call.call
  if ¬ (← waitFuture s noTick call.wait) then return none
  raise call.response

/-! ## Controllers -/

/-- `get_controller_states`. -/
def getControllerStates (env : Env K) : M K (Option (List (String × String))) := do
  callService s s.others (← s.ask env.listControllers)

/-- `controllers_already_in_state`. -/
def controllersAlreadyInState (env : Env K) (activate deactivate : List String) : M K Bool := do
  match ← getControllerStates s env with
  | none => return false
  | some states =>
    return activate.all (fun controller ↦ states.lookup controller = some "active") ∧
      deactivate.all fun controller ↦ states.lookup controller ≠ some "active"

/-- `call_switch_controller`. -/
def callSwitchController (env : Env K) (activate deactivate : List String) : M K Bool := do
  if ← controllersAlreadyInState s env activate deactivate then return true
  let answer ← s.ask env.switchController
  match ← callService s (s.note (.switchRequest activate deactivate)) answer with
  | none => return false
  | some true => return true
  | some false => controllersAlreadyInState s env activate deactivate

/-- A switch to a mode, with its beginning and its end on record. -/
def attempt (mode : Mode) (x : M K Bool) : M K Bool := do
  s.note (.modeSwitch mode)
  let ok ← x
  s.note (.modeSwitched mode ok)
  return ok

/-- `switch_to_trajectory_mode`. -/
def switchToTrajectoryMode (env : Env K) (cfg : Config K) : M K Bool :=
  attempt s .trajectory
    (callSwitchController s env [cfg.trajectoryController] [cfg.servoController])

/-- `set_servo_command_type`. -/
def setServoCommandType (env : Env K) : M K Bool := do
  match ← callService s s.others (← s.ask env.servoCommandType) with
  | none => return false
  | some success => return success

/-- `switch_to_teleop_mode`. -/
def switchToTeleopMode (env : Env K) (cfg : Config K) : M K Bool :=
  attempt s .teleop do
    if ¬ (← callSwitchController s env [cfg.servoController] [cfg.trajectoryController]) then
      return false
    setServoCommandType s env

end VzletUr3e.Teleop
