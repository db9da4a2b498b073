import VzletUr3e.Library.Monitor
import VzletUr3e.Library.Script
import VzletUr3e.Pipeline.Safety

/-!
# The screw sequence

`execute_screw_sequence` lowers the tool, and grips, turns, releases and turns back until the screw
is in. The sequence is written over the commands it issues, so that the same code runs on the node
and against a record of the commands, where each command ends as the environment likes.

Two moves of the sequence, down and back up, are called in a way of their own. As they stand these
calls raise, so no run of the sequence gets behind the opening of the gripper
(`executeScrewSequence_not_true`). With the two calls made like the other moves the sequence does
what it is for (`screw_law_of_plain_moves`).
-/

namespace VzletUr3e.Pipeline

open Script StateError

variable {K σ : Type}

/-! ## The commands -/

/-- The commands, by what their labels say. -/
inductive ScrewLabel
  /-- "open before screw" -/
  | openBefore
  /-- "Move down for screw" -/
  | moveDown
  /-- "screw grip" -/
  | grip (step : ℕ)
  /-- "Screw rotate step" -/
  | rotate (step : ℕ)
  /-- "screw release" -/
  | release (step : ℕ)
  /-- "Reset screw orientation step" -/
  | reset (step : ℕ)
  /-- "Move down for screw step" -/
  | lower (step : ℕ)
  /-- "Return to upper pose after screw" -/
  | returnUp
deriving DecidableEq, Repr

/-- What the sequence asks of the node. -/
structure ScrewCommands (K σ : Type) where
  getCurrentTool0Pose : EStateM Raised σ (Option (Pose K))
  /-- `command_gripper` with a label. -/
  gripper : ScrewLabel → K → EStateM Raised σ Bool
  /-- `execute_move` with a motion profile. -/
  move : ScrewLabel → Pose K → String → EStateM Raised σ Bool

/-- `execute_move` with `pipeline_id=self.node.pilz_pipeline_id` and a `planner_id`. No class gives
the node such an attribute, and `execute_move` has no such parameters: nothing is sent. -/
def pilzMove (_label : ScrewLabel) (_targetPose : Pose K) : EStateM Raised σ Bool :=
  throw .exception

/-- The same call with the defaults of `execute_move`. -/
def plainMove (c : ScrewCommands K σ) (label : ScrewLabel) (targetPose : Pose K) :
    EStateM Raised σ Bool :=
  c.move label targetPose "zone"

/-! ## The sequence -/

/-- Where the sequence goes, and how far the gripper opens and closes. -/
structure ScrewTargets (K : Type) where
  startPose : Pose K
  loweredPose : Pose K
  rotatedPose : Pose K
  openPos : K
  closePos : K

/-- `rotate_pose_about_tool_z`. The product of the rotations is that of the library, which raises
for an orientation without a length. -/
def rotatePoseAboutToolZ (rotation : Quaternion K → K → Option (Quaternion K)) (pose : Pose K)
    (degree : K) : Except Raised (Pose K) :=
  match rotation pose.orientation degree with
  | none => .error .exception
  | some orientation => .ok { pose with orientation := orientation }

/-- What is worked out before the first command, if the class has all it takes. -/
def screwTargets (cfg : Config K) (rotation : Quaternion K → K → Option (Quaternion K))
    (startPose : Pose K) (classType : String) (degree : K) :
    Except Raised (Option (ScrewTargets K)) :=
  match cfg.getGraspZOffset .pick classType with
  | none => .ok none
  | some zOffset =>
    match cfg.getGripperPosition .openPose classType,
      cfg.getGripperPosition .closePose classType with
    | some openPos, some closePos => do
      let loweredPose := { startPose with z := zOffset }
      let rotatedPose ← rotatePoseAboutToolZ rotation loweredPose degree
      return some ⟨startPose, loweredPose, rotatedPose, openPos, closePos⟩
    | _, _ => .ok none

/-- The move down for the next step, if there is one. -/
def lowerAgain (c : ScrewCommands K σ) (t : ScrewTargets K) (count step : ℕ) :
    EStateM Raised σ Bool :=
  if step < count then c.move (.lower (step + 1)) t.loweredPose "screw" else return true

/-- One turn of the loop. -/
def screwStep (c : ScrewCommands K σ) (t : ScrewTargets K) (count step : ℕ) :
    EStateM Raised σ Bool := do
  if ¬ (← c.gripper (.grip step) t.closePos) then return false
  if ¬ (← c.move (.rotate step) t.rotatedPose "screw") then return false
  if ¬ (← c.gripper (.release step) t.openPos) then return false
  if ¬ (← c.move (.reset step) t.loweredPose "screw") then return false
  lowerAgain c t count step

/-- The loop, over the indices that are left. -/
def screwSteps (c : ScrewCommands K σ) (t : ScrewTargets K) (count : ℕ) :
    List ℕ → EStateM Raised σ Bool
  | [] => return true
  | index :: indices => do
    if ¬ (← screwStep c t count (index + 1)) then return false
    screwSteps c t count indices

/-- The commands of `execute_screw_sequence`. How the moves down and back up are called is left
open. -/
def screwMoves (c : ScrewCommands K σ)
    (zMove : ScrewLabel → Pose K → EStateM Raised σ Bool) (t : ScrewTargets K) (count : ℕ) :
    EStateM Raised σ Bool := do
  if ¬ (← c.gripper .openBefore t.openPos) then return false
  if ¬ (← zMove .moveDown t.loweredPose) then return false
  if ¬ (← screwSteps c t count (List.range count)) then return false
  if ¬ (← zMove .returnUp t.startPose) then return false
  return true

/-- `execute_screw_sequence`, up to how the moves down and back up are called. -/
def screwSequence (c : ScrewCommands K σ)
    (zMove : ScrewLabel → Pose K → EStateM Raised σ Bool) (cfg : Config K)
    (rotation : Quaternion K → K → Option (Quaternion K)) (classType : String) (count : ℕ)
    (degree : K) : EStateM Raised σ Bool := do
  match ← c.getCurrentTool0Pose with
  | none => return false
  | some startPose =>
    match screwTargets cfg rotation startPose classType degree with
    | .error e => throw e
    | .ok none => return false
    | .ok (some t) => screwMoves c zMove t count

/-- `execute_screw_sequence`. -/
def executeScrewSequence (c : ScrewCommands K σ) (cfg : Config K)
    (rotation : Quaternion K → K → Option (Quaternion K)) (classType : String) (count : ℕ)
    (degree : K) : EStateM Raised σ Bool :=
  screwSequence c pilzMove cfg rotation classType count degree

/-! ## On the node -/

/-- What a labelled gripper command is for. -/
def ScrewLabel.gripperUse : ScrewLabel → GripperUse
  | .grip _ => ⟨.other "SCREW", .closePose⟩
  | _ => ⟨.other "SCREW", .openPose⟩

/-- The commands of the node. A gripper command with a label does not look the positions of the
class up, and the sequence has found them by then. -/
def screwCommands [Control.PyFloat K] (env : Env K) (cfg : Config K) (classType : String) :
    ScrewCommands K (World K) where
  getCurrentTool0Pose := getCurrentTool0Pose env
  gripper label position := commandGripper env cfg label.gripperUse position classType
  move _ targetPose motionProfile := executeMove env cfg targetPose motionProfile

/-- A sequence whose moves down raise never returns `True`, whatever its commands do. -/
theorem executeScrewSequence_not_true (c : ScrewCommands K σ) (cfg : Config K)
    (rotation : Quaternion K → K → Option (Quaternion K)) (classType : String) (count : ℕ)
    (degree : K) : Triple (fun _ ↦ True)
      (executeScrewSequence c cfg rotation classType count degree) (fun b _ ↦ b = false)
      fun _ _ ↦ True := by
  have hany {α : Type} (x : EStateM Raised σ α) :
      Triple (fun _ ↦ True) x (fun _ _ ↦ True) fun _ _ ↦ True := by
    intro s _
    cases x s <;> trivial
  refine Triple.bind (hany c.getCurrentTool0Pose) fun startPose ↦ ?_
  rcases startPose with _ | startPose
  · exact Triple.pure fun _ _ ↦ rfl
  · dsimp only
    split
    · exact Triple.throw fun _ _ ↦ trivial
    · exact Triple.pure fun _ _ ↦ rfl
    · refine Triple.guard (hany _) (fun _ _ ↦ rfl) ?_
      exact Triple.bind (Triple.throw fun _ _ ↦ trivial) fun _ ↦ (fun _ h ↦ False.elim h)

/-- What the lookup of the pose and the gripper commands leave alone, the sequence leaves alone: it
gets to no move. -/
theorem preserves_executeScrewSequence {γ : Type} {f : σ → γ} {c : ScrewCommands K σ}
    (hpose : Preserves f c.getCurrentTool0Pose)
    (hgripper : ∀ label position, Preserves f (c.gripper label position)) (cfg : Config K)
    (rotation : Quaternion K → K → Option (Quaternion K)) (classType : String) (count : ℕ)
    (degree : K) :
    Preserves f (executeScrewSequence c cfg rotation classType count degree) := by
  refine hpose.bind fun startPose ↦ ?_
  rcases startPose with _ | startPose
  · exact Preserves.pure _
  · dsimp only
    split
    · exact Preserves.throw _
    · exact Preserves.pure _
    · exact (hgripper _ _).bind fun _ ↦ Preserves.ite (Preserves.pure _) (Preserves.throw _)

def Event.isMoveGoal : Event K → Bool
  | .moveGoal _ => true
  | _ => false

/-- The goals that have been sent for the arm. -/
def World.moveGoals (w : World K) : List (Event K) := w.trace.filter Event.isMoveGoal

theorem preserves_moveGoals {α : Type} {x : M K α} (h : Preserves World.trace x) :
    Preserves World.moveGoals x := fun w ↦ congrArg (List.filter Event.isMoveGoal) (h w)

theorem preserves_emit {e : Event K} (h : e.isMoveGoal = false) :
    Preserves World.moveGoals (emit e) :=
  fun w ↦ List.filter_cons_of_neg (l := w.trace) (by rw [h]; exact Bool.false_ne_true)

theorem preserves_step {α : Type} {s : Step} {ended : α → Bool} {x : M K α}
    (h : Preserves World.moveGoals x) : Preserves World.moveGoals (step s ended x) := by
  intro w
  have hx := h w
  rw [step]
  cases hr : x w with
  | ok a w' =>
    rw [hr] at hx
    exact hx
  | error e w' =>
    rw [hr] at hx
    exact hx

theorem preserves_getCurrentTool0Pose (env : Env K) :
    Preserves World.moveGoals (getCurrentTool0Pose env) := by
  refine preserves_step ((preserves_moveGoals (preserves_ask _)).bind fun _ ↦
    (preserves_moveGoals (preserves_raise _)).bind fun found ↦ ?_)
  cases found with
  | none => exact Preserves.pure _
  | some pose => exact (preserves_emit rfl).bind fun _ ↦ Preserves.pure _

section Node

variable [Control.PyFloat K]

theorem preserves_commandGripper (env : Env K) (cfg : Config K) (use : GripperUse) (position : K)
    (classType : String) :
    Preserves World.moveGoals (commandGripper env cfg use position classType) := by
  have hget : Preserves World.moveGoals (get : M K (World K)) := fun _ ↦ rfl
  have hset (position : Option K) := preserves_moveGoals (preserves_setGripper position)
  have hraise {α : Type} (x : Except Raised α) := preserves_moveGoals (preserves_raise (K := K) x)
  refine preserves_step (hget.bind fun _ ↦ Preserves.ite ?_ (Preserves.ite (Preserves.pure _) ?_))
  · exact (preserves_emit rfl).bind fun _ ↦ Preserves.pure _
  · refine (preserves_moveGoals (preserves_ask _)).bind fun _ ↦ (preserves_emit rfl).bind fun _ ↦
      (preserves_moveGoals (preserves_awaitAcceptance _)).bind fun _ ↦
        Preserves.ite (Preserves.pure _) ?_
    refine (hraise _).bind fun _ ↦ (hraise _).bind fun _ ↦ Preserves.ite (Preserves.pure _) ?_
    refine (hraise _).bind fun _ ↦ Preserves.ite ?_ ((hset none).bind fun _ ↦ Preserves.pure _)
    exact (preserves_emit rfl).bind fun _ ↦ (hset _).bind fun _ ↦ Preserves.pure _

/-- **The arm is never moved.** Whatever the environment answers, the sequence sends no goal for the
arm on the node. -/
theorem executeScrewSequence_moves_nothing (env : Env K) (cfg : Config K)
    (rotation : Quaternion K → K → Option (Quaternion K)) (classType : String) (count : ℕ)
    (degree : K) : Preserves World.moveGoals (executeScrewSequence
      (screwCommands env cfg classType) cfg rotation classType count degree) :=
  preserves_executeScrewSequence (preserves_getCurrentTool0Pose env)
    (fun label position ↦ preserves_commandGripper env cfg label.gripperUse position classType)
    cfg rotation classType count degree

end Node

/-! ## The record -/

/-- What a command was. -/
inductive ScrewCall (K : Type)
  | gripper (label : ScrewLabel) (position : K)
  | move (label : ScrewLabel) (targetPose : Pose K) (motionProfile : String)

/-- Commands that are written down, and that end as `ok` says by their number. -/
def recorded (ok : ℕ → Bool) (startPose : Option (Pose K)) :
    ScrewCommands K (List (ScrewCall K × Bool)) where
  getCurrentTool0Pose := pure startPose
  gripper label position := perform ok (.gripper label position)
  move label targetPose motionProfile := perform ok (.move label targetPose motionProfile)

/-- A move down between two steps. -/
def ScrewCall.isLower : ScrewCall K → Bool
  | .move (.lower _) _ _ => true
  | _ => false

/-- Grip, rotate, release, rotate back. -/
def screwCycle (t : ScrewTargets K) (step : ℕ) : List (ScrewCall K) :=
  [.gripper (.grip step) t.closePos, .move (.rotate step) t.rotatedPose "screw",
    .gripper (.release step) t.openPos, .move (.reset step) t.loweredPose "screw"]

/-- The cycles of the steps behind the indices. -/
def screwCycles (t : ScrewTargets K) (indices : List ℕ) : List (ScrewCall K) :=
  indices.flatMap fun index ↦ screwCycle t (index + 1)

/-- The whole sequence: open, move down, the cycles, and the way back. -/
def fullScrew (t : ScrewTargets K) (count : ℕ) : List (ScrewCall K) :=
  [.gripper .openBefore t.openPos, .move .moveDown t.loweredPose "zone"] ++
    (screwCycles t (List.range count) ++ [.move .returnUp t.startPose "zone"])

/-- The last gripper command. The tool turns forward only in the grip of the same step, and back
only when the step has let go. -/
def turnMonitor : Monitor (ScrewCall K) (Option ScrewLabel) where
  start := none
  observe last
    | .gripper label _ => some label
    | .move _ _ _ => last
  Allowed last
    | .move (.rotate step) _ _ => last = some (.grip step)
    | .move (.reset step) _ _ => last = some (.release step)
    | _ => True

/-- What a run of the sequence is held to, by its value and its trace. -/
structure ScrewLaw (cfg : Config K) (rotation : Quaternion K → K → Option (Quaternion K))
    (startPose : Option (Pose K)) (classType : String) (count : ℕ) (degree : K) (returned : Bool)
    (trace : List (ScrewCall K × Bool)) : Prop where
  /-- Nothing comes behind a command that failed. -/
  stops : ∀ e ∈ trace.tail, e.2 = true
  returned_iff : trace ≠ [] → (returned = true ↔ ∀ e ∈ trace, e.2 = true)
  /-- The moves down between the steps apart, a run that returns `True` is the whole sequence. -/
  full : returned = true → ∃ pose t, startPose = some pose ∧
    screwTargets cfg rotation pose classType degree = .ok (some t) ∧
    (trace.reverse.map Prod.fst).filter (fun call ↦ !call.isLower) = fullScrew t count
  turned : turnMonitor.Safe (trace.map Prod.fst)

/-- The run ends with a value, under the law. -/
def MeetsScrewLaw (cfg : Config K) (rotation : Quaternion K → K → Option (Quaternion K))
    (startPose : Option (Pose K)) (classType : String) (count : ℕ) (degree : K)
    (run : EStateM.Result Raised (List (ScrewCall K × Bool)) Bool) : Prop :=
  ∃ returned trace, run = .ok returned trace ∧
    ScrewLaw cfg rotation startPose classType count degree returned trace

/-! ## The script of the sequence -/

/-- The move down for the next step, on the record. -/
def lowerCalls (t : ScrewTargets K) (count step : ℕ) : List (ScrewCall K) :=
  if step < count then [.move (.lower (step + 1)) t.loweredPose "screw"] else []

def stepCalls (t : ScrewTargets K) (count : ℕ) (indices : List ℕ) : List (ScrewCall K) :=
  indices.flatMap fun index ↦ screwCycle t (index + 1) ++ lowerCalls t count (index + 1)

/-- All commands of the sequence, with the moves down between the steps. -/
def screwCalls (t : ScrewTargets K) (count : ℕ) : List (ScrewCall K) :=
  [.gripper .openBefore t.openPos, .move .moveDown t.loweredPose "zone"] ++
    (stepCalls t count (List.range count) ++ [.move .returnUp t.startPose "zone"])

section Script

variable {ok : ℕ → Bool} {startPose : Option (Pose K)} (t : ScrewTargets K) (count : ℕ)

theorem performs_lowerAgain (step : ℕ) :
    Performs ok (lowerAgain (recorded ok startPose) t count step) (lowerCalls t count step) := by
  rw [lowerAgain, lowerCalls]
  split
  · exact performs_perform _
  · exact performs_nil

theorem performs_screwStep (step : ℕ) : Performs ok (screwStep (recorded ok startPose) t count step)
    (screwCycle t step ++ lowerCalls t count step) :=
  (performs_perform _).guard <| (performs_perform _).guard <| (performs_perform _).guard <|
    (performs_perform _).guard <| performs_lowerAgain t count step

theorem performs_screwSteps (indices : List ℕ) :
    Performs ok (screwSteps (recorded ok startPose) t count indices)
      (stepCalls t count indices) := by
  induction indices with
  | nil => exact performs_nil
  | cons index indices ih => exact (performs_screwStep t count (index + 1)).guard ih

/-- **The script.** With plain moves down and back up the code plays its commands in order, and
returns whether all of them succeed. -/
theorem performs_screwMoves : Performs ok
    (screwMoves (recorded ok startPose) (plainMove (recorded ok startPose)) t count)
    (screwCalls t count) :=
  (performs_perform _).guard <| (performs_perform _).guard <|
    (performs_screwSteps t count (List.range count)).guard <|
    (performs_perform _).guard performs_nil

theorem filter_lowerCalls (step : ℕ) :
    (lowerCalls t count step).filter (fun call ↦ !call.isLower) = [] := by
  rw [lowerCalls]
  split <;> rfl

theorem filter_stepCalls (indices : List ℕ) :
    (stepCalls t count indices).filter (fun call ↦ !call.isLower) = screwCycles t indices := by
  induction indices with
  | nil => rfl
  | cons index indices ih =>
    rw [stepCalls, List.flatMap_cons, List.filter_append, List.filter_append, filter_lowerCalls,
      List.append_nil, screwCycles, List.flatMap_cons]
    exact congrArg (screwCycle t (index + 1) ++ ·) ih

/-- The script is the whole sequence, with moves down in between. -/
theorem filter_screwCalls :
    (screwCalls t count).filter (fun call ↦ !call.isLower) = fullScrew t count := by
  rw [screwCalls, List.filter_append, List.filter_append, filter_stepCalls]
  rfl

/-- A cycle is safe behind whatever came before it: it grips before it turns, and lets go before it
turns back. -/
theorem safe_stepCalls {older : List (ScrewCall K)} (h : turnMonitor.Safe older)
    (indices : List ℕ) : turnMonitor.Safe ((stepCalls t count indices).reverse ++ older) := by
  induction indices generalizing older with
  | nil => exact h
  | cons index indices ih =>
    have hcycle : turnMonitor.Safe ((screwCycle t (index + 1)).reverse ++ older) :=
      ⟨rfl, trivial, rfl, trivial, h⟩
    have hlower : turnMonitor.Safe ((lowerCalls t count (index + 1)).reverse ++
        ((screwCycle t (index + 1)).reverse ++ older)) := by
      rw [lowerCalls]
      split
      · exact ⟨trivial, hcycle⟩
      · exact hcycle
    rw [stepCalls, List.flatMap_cons, List.reverse_append, List.reverse_append, List.append_assoc,
      List.append_assoc]
    exact ih hlower

theorem safe_screwCalls : turnMonitor.Safe (screwCalls t count).reverse := by
  have hdown : turnMonitor.Safe
      [.move .moveDown t.loweredPose "zone", .gripper .openBefore t.openPos] :=
    ⟨trivial, trivial, trivial⟩
  rw [screwCalls, List.reverse_append, List.reverse_append, List.append_assoc]
  exact ⟨trivial, safe_stepCalls t count hdown (List.range count)⟩

end Script

/-! ## The law -/

/-- The class has a z offset and both gripper positions. -/
def Config.ScrewConfigured (cfg : Config K) (classType : String) : Prop :=
  (cfg.getGraspZOffset .pick classType).isSome ∧
    (cfg.getGripperPosition .openPose classType).isSome ∧
      (cfg.getGripperPosition .closePose classType).isSome

section Law

variable {cfg : Config K} {rotation : Quaternion K → K → Option (Quaternion K)}
  {classType : String} {count : ℕ} {degree : K} {ok : ℕ → Bool}

/-- What is worked out before the first command. -/
theorem screwTargets_cases (cfg : Config K)
    (rotation : Quaternion K → K → Option (Quaternion K)) (pose : Pose K) (classType : String)
    (degree : K) :
    ¬cfg.ScrewConfigured classType ∧
        screwTargets cfg rotation pose classType degree = .ok none ∨
      cfg.ScrewConfigured classType ∧ rotation pose.orientation degree = none ∧
        screwTargets cfg rotation pose classType degree = .error .exception ∨
      cfg.ScrewConfigured classType ∧ (rotation pose.orientation degree).isSome ∧
        ∃ t, screwTargets cfg rotation pose classType degree = .ok (some t) := by
  rw [screwTargets, Config.ScrewConfigured]
  cases cfg.getGraspZOffset .pick classType with
  | none => simp
  | some zOffset =>
    cases cfg.getGripperPosition .openPose classType with
    | none => simp
    | some openPos =>
      cases cfg.getGripperPosition .closePose classType with
      | none => simp
      | some closePos =>
        dsimp only [rotatePoseAboutToolZ]
        cases hrotation : rotation pose.orientation degree with
        | none => exact .inr (.inl ⟨⟨rfl, rfl, rfl⟩, rfl, rfl⟩)
        | some q => exact .inr (.inr ⟨⟨rfl, rfl, rfl⟩, rfl, _, rfl⟩)

/-- A run without commands may return `False`. -/
theorem screwLaw_nil {startPose : Option (Pose K)} :
    ScrewLaw cfg rotation startPose classType count degree false [] where
  stops e he := by cases he
  returned_iff h := absurd rfl h
  full h := absurd h Bool.false_ne_true
  turned := trivial

/-- So may a run that ends with the opening of the gripper. -/
theorem screwLaw_opening {startPose : Option (Pose K)} (position : K) :
    ScrewLaw cfg rotation startPose classType count degree false
      [(.gripper .openBefore position, false)] where
  stops e he := by cases he
  returned_iff _ := ⟨fun h ↦ absurd h Bool.false_ne_true,
    fun h ↦ absurd (h _ List.mem_cons_self) Bool.false_ne_true⟩
  full h := absurd h Bool.false_ne_true
  turned := ⟨trivial, trivial⟩

/-- A run that plays the script and returns whether it completes is under the law. -/
theorem screwLaw_play {pose : Pose K} {t : ScrewTargets K} {b : Bool}
    (ht : screwTargets cfg rotation pose classType degree = .ok (some t))
    (hb : b = true ↔ Completes ok 0 (screwCalls t count)) :
    ScrewLaw cfg rotation (some pose) classType count degree b
      (play ok (screwCalls t count) []) where
  stops := forall_mem_tail_play (List.forall_mem_nil _)
  returned_iff _ := hb.trans (forall_mem_play_iff (List.forall_mem_nil _)).symm
  full hreturned := by
    refine ⟨pose, t, rfl, ht, ?_⟩
    have hmap : ((screwCalls t count).map (·, true)).map Prod.fst = screwCalls t count := by
      rw [List.map_map]
      exact List.map_id _
    rw [play_of_completes (hb.mp hreturned), List.append_nil, List.reverse_reverse, hmap,
      filter_screwCalls]
  turned := by
    have hsuffix := map_fst_play_suffix ok (screwCalls t count) []
    rw [List.map_nil, List.append_nil] at hsuffix
    exact (safe_screwCalls t count).suffix hsuffix

/-- A run of the sequence goes by what is worked out first. -/
theorem screwSequence_some {c : ScrewCommands K σ}
    {zMove : ScrewLabel → Pose K → EStateM Raised σ Bool} {pose : Pose K}
    (hpose : c.getCurrentTool0Pose = pure (some pose)) (s : σ) :
    screwSequence c zMove cfg rotation classType count degree s =
      match screwTargets cfg rotation pose classType degree with
      | .error e => .error e s
      | .ok none => .ok false s
      | .ok (some t) => screwMoves c zMove t count s := by
  rw [screwSequence, hpose, pure_bind]
  dsimp only
  rcases screwTargets cfg rotation pose classType degree with e | _ | t <;> rfl

/-- **When the sequence keeps the law.** A run of `execute_screw_sequence` is under the law exactly
when no move is reached: without a pose of the tool, for a class that is not configured, and when
the gripper does not open. -/
theorem screw_law_iff (cfg : Config K) (rotation : Quaternion K → K → Option (Quaternion K))
    (startPose : Option (Pose K)) (classType : String) (count : ℕ) (degree : K) (ok : ℕ → Bool) :
    MeetsScrewLaw cfg rotation startPose classType count degree
        (executeScrewSequence (recorded ok startPose) cfg rotation classType count degree []) ↔
      startPose = none ∨ ¬cfg.ScrewConfigured classType ∨ ok 0 = false ∧
        ∀ pose, startPose = some pose → (rotation pose.orientation degree).isSome := by
  rcases startPose with _ | pose
  · exact ⟨fun _ ↦ .inl rfl, fun _ ↦ ⟨false, [], rfl, screwLaw_nil⟩⟩
  · rw [executeScrewSequence, screwSequence_some rfl]
    rcases screwTargets_cases cfg rotation pose classType degree with
      ⟨hnot, ht⟩ | ⟨hconfigured, hnone, ht⟩ | ⟨hconfigured, hsome, t, ht⟩
    · rw [ht]
      exact ⟨fun _ ↦ .inr (.inl hnot), fun _ ↦ ⟨false, [], rfl, screwLaw_nil⟩⟩
    · rw [ht]
      constructor
      · rintro ⟨returned, trace, hrun, -⟩
        cases hrun
      · rintro (h | hnot | ⟨-, hall⟩)
        · cases h
        · exact absurd hconfigured hnot
        · have hsome := hall pose rfl
          rw [hnone] at hsome
          cases hsome
    · rw [ht]
      have hopen : (recorded ok (some pose)).gripper .openBefore t.openPos [] =
          .ok (ok 0) [(.gripper .openBefore t.openPos, ok 0)] := rfl
      dsimp only
      rw [screwMoves, bind_of_ok hopen]
      cases hok : ok 0 with
      | false =>
        refine ⟨fun _ ↦ .inr (.inr ⟨rfl, ?_⟩), fun _ ↦ ⟨false, _, rfl, screwLaw_opening _⟩⟩
        rintro _ ⟨⟩
        exact hsome
      | true =>
        constructor
        · rintro ⟨returned, trace, hrun, -⟩
          cases hrun
        · rintro (h | hnot | ⟨h, -⟩)
          · cases h
          · exact absurd hconfigured hnot
          · cases h

/-- The gripper opens for a body, and the move down raises. -/
theorem screw_sequence_raises :
    ¬MeetsScrewLaw (Config.blank (K := ℝ)) (fun _ _ ↦ some ⟨0, 0, 1, 0⟩)
      (some ⟨0, 0, 1, ⟨0, 0, 0, 1⟩⟩) "body" 1 180
      (executeScrewSequence (recorded (fun _ ↦ true) (some ⟨0, 0, 1, ⟨0, 0, 0, 1⟩⟩))
        (Config.blank (K := ℝ)) (fun _ _ ↦ some ⟨0, 0, 1, 0⟩) "body" 1 180 []) := by
  rintro ⟨returned, trace, hrun, -⟩
  cases hrun

/-- **With plain moves.** Were the moves down and back up called like the others, every run would be
under the law. -/
theorem screw_law_of_plain_moves (startPose : Option (Pose K))
    (hrotation : ∀ q degree, (rotation q degree).isSome) :
    MeetsScrewLaw cfg rotation startPose classType count degree
      (screwSequence (recorded ok startPose) (plainMove (recorded ok startPose)) cfg rotation
        classType count degree []) := by
  rcases startPose with _ | pose
  · exact ⟨false, [], rfl, screwLaw_nil⟩
  · rw [screwSequence_some rfl]
    rcases screwTargets_cases cfg rotation pose classType degree with
      ⟨-, ht⟩ | ⟨-, hnone, -⟩ | ⟨-, -, t, ht⟩
    · rw [ht]
      exact ⟨false, [], rfl, screwLaw_nil⟩
    · have hsome := hrotation pose.orientation degree
      rw [hnone] at hsome
      cases hsome
    · rw [ht]
      have hscript : Performs ok (screwMoves (recorded ok (some pose))
          (plainMove (recorded ok (some pose))) t count) (screwCalls t count) :=
        performs_screwMoves t count
      obtain ⟨b, hrun, hb⟩ := hscript []
      exact ⟨b, _, hrun, screwLaw_play ht hb⟩

end Law

end VzletUr3e.Pipeline
