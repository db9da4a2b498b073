import VzletUr3e.Poses.Load

/-!
# Poses by id

`get_pose_by_id` and `get_name_by_id` look through the table in its order. What `str.isdigit` says
of a text is a parameter, since it accepts digits that `int` does not.
-/

namespace VzletUr3e.Poses

variable {K : Type}

/-- `get_pose_by_id`. It raises when the text is digits for `isdigit` only. -/
def getPoseById (num : Numbers K) (isdigit : Str → Bool) (poses : List (Str × Pose K))
    (command : Str) : Except PyError (Option (Pose K)) :=
  let poseIdText := strip command
  if ¬ isdigit poseIdText then .ok none
  else
    match num.int poseIdText with
    | none => .error .valueError
    | some requestedId => .ok ((poses.find? fun entry ↦ entry.2.id = requestedId).map Prod.snd)

/-- `get_name_by_id`. -/
def getNameById (num : Numbers K) (poses : List (Str × Pose K)) (poseId : Str) : Option Str :=
  match num.int (strip poseId) with
  | none => none
  | some requestedId => (poses.find? fun entry ↦ entry.2.id = requestedId).map Prod.fst

end VzletUr3e.Poses
