import VzletUr3e.Pipeline.Motion

/-!
# The pipeline

`run_pipeline`: the set-up, and then one stage after the other.
-/

namespace VzletUr3e.Pipeline

open Control PyFloat

variable {K : Type} [PyFloat K]

/-- `move_to_voted_grid_pose`. -/
def moveToVotedGridPose (env : Env K) (cfg : Config K) (classType : String) : M K Bool := do
  let voted ← step .visionVote Option.isSome do
    raise ((← ask env.selectYoloGridPose) classType)
  match voted with
  | none => return false
  | some poseName => moveToZone env cfg poseName (some zGround) "zone"

/-- A stage that moves to a zone, with the defaults of `move_to_zone`. -/
def zoneStage (env : Env K) (cfg : Config K) (poseName : String) : M K Bool :=
  moveToZone env cfg poseName.toList (some zGround) "zone"

/-- The stages of `run_pipeline`. -/
def stages (env : Env K) (cfg : Config K) : List (String × M K Bool) :=
  [("pick zone: body", zoneStage env cfg "BODY_PICK_ZONE"),
    ("voted grid pose: body", moveToVotedGridPose env cfg "body"),
    ("pick: body", executeGraspSequence env cfg .pick "body"),
    ("body cell zone", zoneStage env cfg "BODY_CELL_ZONE"),
    ("place: body", executeGraspSequence env cfg .place "body"),
    ("sensor pick zone", zoneStage env cfg "SENSOR_PICK_ZONE"),
    ("voted grid pose: sensor", moveToVotedGridPose env cfg "sensor"),
    ("pick: sensor", executeGraspSequence env cfg .pick "sensor"),
    ("body cell zone", zoneStage env cfg "BODY_CELL_ZONE"),
    ("place: sensor", executeGraspSequence env cfg .place "sensor")]

/-- `publish_ground_plane`, if it is asked for. -/
def publishGroundPlane (env : Env K) (cfg : Config K) : M K Unit :=
  if cfg.addGroundPlane then do raise (← ask env.publishGroundPlane) else return ()

end VzletUr3e.Pipeline
