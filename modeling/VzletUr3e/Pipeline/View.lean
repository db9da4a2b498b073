import VzletUr3e.Library.Monitor
import VzletUr3e.Pipeline.Run

/-!
# What a run may do

A monitor of runs. Its view keeps where the arm was last sent and whether it arrived, what the grasp
sequence under way started from, whether the gripper has closed on something, and whether a step has
failed. Goals are allowed by the view.

Functions are described by triples between views: `executeMove`, for instance, moves the view to one
in which the arm has arrived.
-/

namespace VzletUr3e.Pipeline

open Control PyFloat StateError

variable {K : Type}

/-! ## The monitor -/

structure View (K : Type) where
  /-- A step has failed or raised. -/
  failed : Bool
  /-- The grasp sequence under way, by action and class, and its start pose. -/
  grasp : Option (Action × String)
  startPose : Option (Pose K)
  /-- The target of the last move goal, and whether the goal has succeeded. -/
  lastMove : Option (Pose K × Bool)
  /-- A closing goal of a pick has succeeded, and no place has opened the gripper since. -/
  holding : Bool
  /-- The stages that have ended, the oldest first. -/
  stages : List (String × Outcome)

/-- The end of a step. With a stage its grasp sequence is over. -/
def View.finish (v : View K) (outcome : Outcome) : Step → View K
  | .stage name =>
    { v with
      failed := v.failed || outcome ≠ .succeeded
      grasp := none
      startPose := none
      stages := v.stages ++ [(name, outcome)] }
  | _ => { v with failed := v.failed || outcome ≠ .succeeded }

def View.observe (v : View K) : Event K → View K
  | .graspBegan action classType => { v with grasp := some (action, classType), startPose := none }
  | .toolPose pose => { v with startPose := v.startPose.or (some pose) }
  | .moveGoal goal => { v with lastMove := some (goal.pose, false) }
  | .moveSucceeded => { v with lastMove := v.lastMove.map fun move ↦ (move.1, true) }
  | .gripperGoal use _ => { v with holding := v.holding && use ≠ .placeOpening }
  | .gripperSucceeded use => { v with holding := v.holding || use = .pickClosing }
  | .gripperAlready use => { v with holding := v.holding && use ≠ .placeOpening }
  | .finished step outcome => v.finish outcome step

/-- The arm has arrived at the lowered pose of the grasp sequence under way: its start pose with
only `z` replaced by the offset. -/
def View.Lowered (cfg : Config K) (v : View K) (use : GripperUse) (position : K) : Prop :=
  ∃ classType start zOffset, v.grasp = some (use.action, classType) ∧ v.startPose = some start ∧
    cfg.getGraspZOffset use.action classType = some zOffset ∧
    v.lastMove = some ({ start with z := zOffset }, true) ∧
    cfg.getGripperPosition use.poseType classType = some position

/-- The position is that of the use, for the class of the grasp sequence under way. -/
def View.Commanded (cfg : Config K) (v : View K) (use : GripperUse) (position : K) : Prop :=
  ∃ classType, v.grasp = some (use.action, classType) ∧
    cfg.getGripperPosition use.poseType classType = some position

/-- When a gripper goal may be sent. -/
structure GripperAllowed (cfg : Config K) (v : View K) (use : GripperUse) (position : K) :
    Prop where
  notFailed : v.failed = false
  commanded : v.Commanded cfg use position
  lowered : use = .pickClosing ∨ use = .placeOpening → v.Lowered cfg use position
  notHolding : v.holding = true → use = .placeOpening

/-- When an event may come. Goals are restricted. -/
def Allowed (cfg : Config K) (v : View K) : Event K → Prop
  | .moveGoal _ => v.failed = false
  | .gripperGoal use position => GripperAllowed cfg v use position
  | _ => True

/-- The monitor of a run. -/
def monitor (cfg : Config K) : Monitor (Event K) (View K) where
  start := ⟨false, none, none, none, false, []⟩
  observe := View.observe
  Allowed := Allowed cfg

variable {cfg : Config K}

/-! ## What the view knows -/

/-- The trace so far is safe. -/
def SafeWorld (cfg : Config K) (w : World K) : Prop := (monitor cfg).Safe w.trace

/-- The trace is safe, and the view is `v`. -/
def At (cfg : Config K) (v : View K) (w : World K) : Prop :=
  SafeWorld cfg w ∧ (monitor cfg).view w.trace = v

/-- The trace is safe, and where `a` counts as a success, the view is one of `G`. -/
def Post {α : Type} (cfg : Config K) (ok : α → Bool) (G : α → View K → Prop) (a : α) (w : World K) :
    Prop :=
  SafeWorld cfg w ∧ (ok a = true → G a ((monitor cfg).view w.trace))

/-- What an exception leaves. -/
def Kept (cfg : Config K) (_ : Raised) (w : World K) : Prop := SafeWorld cfg w

theorem At.post {α : Type} {ok : α → Bool} {G : α → View K → Prop} {a : α} {v : View K}
    {w : World K} (h : At cfg v w) (hG : ok a = true → G a v) : Post cfg ok G a w := by
  obtain ⟨hsafe, rfl⟩ := h
  exact ⟨hsafe, hG⟩

/-- Code that records no event leaves the view alone. -/
theorem triple_of_preserves {α : Type} {x : M K α} (h : Preserves World.trace x) (v : View K) :
    Triple (At cfg v) x (fun _ ↦ At cfg v) (Kept cfg) := by
  rintro w ⟨hsafe, hview⟩
  have htrace := h w
  cases hx : x w with
  | ok a w' =>
    rw [hx, finalState_ok] at htrace
    exact ⟨by rwa [SafeWorld, htrace], by rwa [htrace]⟩
  | error e w' =>
    rw [hx, finalState_error] at htrace
    exact (by rwa [SafeWorld, htrace] : SafeWorld cfg w')

/-- **A step** has the triple of what it does; its end is on record then. -/
theorem triple_step {α : Type} {s : Step} {ok : α → Bool} {x : M K α} {P : World K → Prop}
    {G G' : α → View K → Prop} (hx : Triple P x (Post cfg ok G) (Kept cfg))
    (hG : ∀ a v, G a v → G' a (v.observe (.finished s .succeeded))) :
    Triple P (step s ok x) (Post cfg ok G') (Kept cfg) := by
  intro w hw
  have h := hx w hw
  rw [step]
  cases hr : x w with
  | ok a w' =>
    rw [hr] at h
    obtain ⟨hsafe, hview⟩ := h
    refine ⟨⟨trivial, hsafe⟩, fun ha ↦ ?_⟩
    have hout : outcome ok a = .succeeded := if_pos ha
    change G' a (View.observe _ (.finished s (outcome ok a)))
    rw [hout]
    exact hG a _ (hview ha)
  | error e w' =>
    rw [hr] at h
    exact Monitor.safe_cons.mpr ⟨trivial, h⟩

def Step.isStage : Step → Bool
  | .stage _ => true
  | _ => false

/-- The success of a step that is no stage leaves the view alone. -/
theorem observe_succeeded (v : View K) {s : Step} (hs : s.isStage = false) :
    v.observe (.finished s .succeeded) = v := by
  cases s with
  | stage name => cases hs
  | _ => simp [View.observe, View.finish]

end VzletUr3e.Pipeline
