import VzletUr3e.Library.Runs

/-!
# Forwarding a trajectory to the robot

`PassthroughTrajectoryController` hands a trajectory over to the hardware interface, one point in a
cycle. The two share command interfaces: the point, the number of points, an abort flag and a
transfer state, which each of them reads and sets. The hardware interface keeps the points and
sends them on to the robot.

`update` is the cycle of the controller and `write` that of the hardware interface. Goals, cancel
requests and the results of the robot come from other threads, between any two cycles. All of them
are steps of one system, in any order.

The times of the trajectory are floats, of which nothing is assumed. A setpoint that is not given is
a NaN.
-/

namespace VzletUr3e.Ur

/-! ## Floats -/

/-- The operations on doubles that the hardware interface is written in. -/
class UrDouble (K : Type) where
  zero : K
  /-- `std::numeric_limits<double>::quiet_NaN()`. -/
  nan : K
  sub : K → K → K
  /-- `>`. -/
  gt : K → K → Bool
  isNaN : K → Bool
  isNaN_nan : isNaN nan = true
  /-- `static_cast<uint32_t>` of a NaN, which is some number. -/
  uintOfNaN : K
  isNaN_uintOfNaN : isNaN uintOfNaN = false

/-- Rational arithmetic with a NaN. -/
instance : UrDouble (Option ℚ) where
  zero := some 0
  nan := none
  sub x y := do return (← x) - (← y)
  gt x y := match x, y with
    | some x, some y => decide (y < x)
    | _, _ => false
  isNaN x := x.isNone
  isNaN_nan := rfl
  uintOfNaN := some 0
  isNaN_uintOfNaN := rfl

/-- `vector6d_t`. -/
abbrev Vec (K : Type) := Fin 6 → K

/-- The entry that tells whether a command is given. -/
def Vec.first {K : Type} (v : Vec K) : K := v 0

/-! ## Goals -/

/-- A point of a `JointTrajectory`, in the order of its own joint names. -/
structure TrajectoryPoint (K : Type) where
  positions : List K
  velocities : List K
  accelerations : List K
  timeFromStart : K
deriving DecidableEq, Repr

/-- What the controller reads of a `FollowJointTrajectory` goal. The tolerances are known by their
joints. -/
structure Goal (K : Type) where
  jointNames : List String
  points : List (TrajectoryPoint K)
  goalTolerance : List String
deriving DecidableEq, Repr

/-- How a goal ends. -/
inductive GoalResult
  | successful
  | goalToleranceViolated
  | aborted
  | canceled
  | invalidJoints
deriving DecidableEq, Repr

/-! ## What is shared -/

/-- The values of `transfer_state`. -/
inductive TransferState
  | idle
  | newTrajectory
  | waitingForPoint
  | transferring
  | transferDone
  | inMotion
  | done
deriving DecidableEq, Repr

/-- The setpoints of one point, in the order of the controller's joints. -/
structure Setpoint (K : Type) where
  positions : Vec K
  velocities : Vec K
  accelerations : Vec K

/-- A point as the hardware interface keeps it, with the time since the point before. -/
structure Row (K : Type) extends Setpoint K where
  time : K

/-- The arguments of `writeTrajectorySplinePoint`. -/
structure Spline (K : Type) where
  positions : Vec K
  velocities : Vec K
  accelerations : Option (Vec K)
  time : K

/-- What the hardware interface sends to the robot. -/
inductive ToRobot (K : Type)
  | noop
  | start (numberOfPoints : ℕ)
  | cancel
  | point (spline : Spline K)

/-- What is fixed: the controller's joints, and `5.0 / rw_rate`. -/
structure Rig (K : Type) where
  joints : Fin 6 → String
  fiveCycles : K

/-- The controller, the hardware interface and what they share. `crashed` stands for an index out of
range: an exception of `at` or undefined behaviour. -/
structure Transfer (K : Type) where
  transferState : TransferState
  abort : Bool
  trajectorySize : ℕ
  setpoint : Setpoint K
  timeFromStart : K
  activeGoal : Option (Goal K)
  trajectoryActive : Bool
  currentIndex : ℕ
  /-- The results of goals, the newest first. -/
  results : List (Goal K × GoalResult)
  /-- The four vectors of the trajectory, which are resized and cleared together. -/
  trajectory : List (Row K)
  lastTime : K
  pointIndexReceived : ℕ
  pointIndexSent : ℕ
  trajectoryStarted : Bool
  /-- What was sent to the robot, the newest first. -/
  sent : List (ToRobot K)
  crashed : Bool

variable {K : Type} [UrDouble K]

open UrDouble

def Vec.zero : Vec K := fun _ ↦ UrDouble.zero

def Row.zero : Row K := ⟨⟨Vec.zero, Vec.zero, Vec.zero⟩, UrDouble.zero⟩

def Transfer.initial : Transfer K where
  transferState := .idle
  abort := false
  trajectorySize := 0
  setpoint := ⟨Vec.zero, Vec.zero, Vec.zero⟩
  timeFromStart := UrDouble.zero
  activeGoal := none
  trajectoryActive := false
  currentIndex := 0
  results := []
  trajectory := []
  lastTime := UrDouble.zero
  pointIndexReceived := 0
  pointIndexSent := 0
  trajectoryStarted := false
  sent := []
  crashed := false

def Transfer.send (s : Transfer K) (message : ToRobot K) : Transfer K :=
  { s with sent := message :: s.sent }

def Transfer.report (s : Transfer K) (goal : Goal K) (result : GoalResult) : Transfer K :=
  { s with results := (goal, result) :: s.results }

/-! ## The controller -/

section Controller

variable (rig : Rig K)

omit [UrDouble K] in
/-- `create_joint_mapping` and `at`: where the goal has the values of a joint. -/
def Goal.mapping (g : Goal K) (i : Fin 6) : Option ℕ := g.jointNames.idxOf? (rig.joints i)

/-- The values of a point for the controller's joints, if there is one for each of them. -/
def Goal.column (g : Goal K) (values : List K) : Option (Vec K) :=
  let value (i : Fin 6) := (g.mapping rig i).bind (values[·]?)
  if h : ∀ i, (value i).isSome then some fun i ↦ (value i).get (h i) else none

/-- The setpoints of a point. Accelerations are passed on with velocities only. -/
def Goal.setpointOf (g : Goal K) (p : TrajectoryPoint K) : Option (Setpoint K) := do
  let positions ← g.column rig p.positions
  if 0 < p.velocities.length then
    let velocities ← g.column rig p.velocities
    if 0 < p.accelerations.length then
      let accelerations ← g.column rig p.accelerations
      return ⟨positions, velocities, accelerations⟩
    else
      return ⟨positions, velocities, fun _ ↦ nan⟩
  else
    return ⟨positions, fun _ ↦ nan, fun _ ↦ nan⟩

/-- `check_goal_positions`, `check_goal_velocities`, `check_goal_accelerations` and
`check_goal_tolerances`. -/
def checkGoal (g : Goal K) : Bool :=
  let first (f : TrajectoryPoint K → List K) := (g.points.head?.map fun p ↦ (f p).length).getD 0
  g.points.all (·.positions.length == 6) &&
    g.points.all (fun p ↦ (p.velocities.length == 6 || p.velocities.length == 0)
      && p.velocities.length == first (·.velocities)) &&
    g.points.all (fun p ↦ (p.accelerations.length == 0 || p.accelerations.length == 6)
      && p.accelerations.length == first (·.accelerations)) &&
    (g.goalTolerance.isEmpty || (g.goalTolerance.all fun name ↦
      (List.finRange 6).any (rig.joints · == name)) && g.goalTolerance.length == 6)

/-- `goal_received_callback`, and `goal_accepted_callback` for a goal that is accepted. -/
def Transfer.accept (s : Transfer K) (g : Goal K) : Transfer K :=
  if s.trajectoryActive then s
  else if !checkGoal rig g then s
  else if ∀ i, g.mapping rig i = none then
    { s with currentIndex := 0 }.report g .invalidJoints
  else
    { s with currentIndex := 0, activeGoal := some g, trajectoryActive := true }

/-- `goal_cancelled_callback` for the active goal. -/
def Transfer.cancel (s : Transfer K) : Transfer K :=
  match s.activeGoal with
  | some g => { s with activeGoal := none, trajectoryActive := false }.report g .canceled
  | none => s

/-- `end_goal`. -/
def Transfer.endGoal (s : Transfer K) : Transfer K :=
  { s with trajectoryActive := false, transferState := .idle }

/-- Which of the boxes that are shared with the other threads can be read in a cycle, and what comes
of the checks at the end of the trajectory. -/
structure UpdateEnv where
  goal : Bool
  timeTolerance : Bool
  mapping : Bool
  jointNames : Bool
  withinTolerance : Bool
  withinTime : Bool
deriving DecidableEq, Repr

/-- Everything can be read, and the checks go well. -/
def UpdateEnv.readable : UpdateEnv := ⟨true, true, true, true, true, true⟩

/-- The branch that announces a new trajectory. `back` of no points is undefined. -/
def Transfer.announce (s : Transfer K) (g : Goal K) : Transfer K :=
  if g.points = [] then { s with crashed := true }
  else { s with transferState := .newTrajectory, trajectorySize := g.points.length }

/-- The branch that writes the next point. -/
def Transfer.writePoint (s : Transfer K) (env : UpdateEnv) (g : Goal K) : Transfer K :=
  match g.points[s.currentIndex]? with
  | some p =>
    let s := { s with timeFromStart := p.timeFromStart }
    if !env.jointNames then s
    else match g.setpointOf rig p with
      | some setpoint => { s with setpoint := setpoint, transferState := .transferring,
                                  currentIndex := s.currentIndex + 1 }
      | none => { s with crashed := true }
  | none =>
    if s.currentIndex = g.points.length then { s with transferState := .transferDone } else s

/-- The branch that reports the end of the trajectory. -/
def Transfer.finish (s : Transfer K) (env : UpdateEnv) (g : Goal K) : Transfer K :=
  if !env.withinTolerance then (s.report g .goalToleranceViolated).endGoal
  else if !env.withinTime then (s.report g .goalToleranceViolated).endGoal
  else (s.report g .successful).endGoal

/-- `update` with an active goal. The transfer state is the one at the beginning of the cycle. -/
def Transfer.follow (s : Transfer K) (env : UpdateEnv) (g : Goal K) : Transfer K :=
  let current := s.transferState
  if current ≠ .idle ∧ s.abort ∧ 0 < s.currentIndex then (s.report g .aborted).endGoal
  else
    let s := if s.currentIndex = 0 ∧ current = .idle then s.announce g else s
    if !env.timeTolerance || !env.mapping then s
    else match current with
      | .waitingForPoint => s.writePoint rig env g
      | .done => s.finish env g
      | _ => s

/-- `update`. -/
def Transfer.update (s : Transfer K) (env : UpdateEnv) : Transfer K :=
  if !env.goal then s
  else match s.activeGoal, s.trajectoryActive with
    | some g, true => s.follow rig env g
    | _, _ =>
      match s.transferState with
      | .idle => s
      | .done => { s with transferState := .idle, abort := false }
      | _ => { s with abort := true }

end Controller

/-! ## The hardware interface -/

/-- `std::vector::resize`. -/
def resize (rows : List (Row K)) (n : ℕ) : List (Row K) :=
  rows.take n ++ List.replicate (n - rows.length) Row.zero

/-- How the points are written, by which of their parts are valid in the first of them. Points
without positions, or with accelerations alone, are not supported. -/
def pointWriter (first : Row K) : Option (Row K → Spline K) :=
  if isNaN (first.positions 0) then none
  else match !isNaN (first.velocities 0), !isNaN (first.accelerations 0) with
    | false, false => some fun row ↦ ⟨row.positions, Vec.zero, none, row.time⟩
    | true, false => some fun row ↦ ⟨row.positions, row.velocities, none, row.time⟩
    | false, true => none
    | true, true => some fun row ↦ ⟨row.positions, row.velocities, some row.accelerations, row.time⟩

/-- The branch that reads a point. -/
def Transfer.receivePoint (rig : Rig K) (s : Transfer K) : Transfer K :=
  if s.pointIndexReceived < s.trajectory.length then
    let row := ⟨s.setpoint, sub s.timeFromStart s.lastTime⟩
    let s := { s with abort := false
                      trajectory := s.trajectory.set s.pointIndexReceived row
                      lastTime := s.timeFromStart
                      pointIndexReceived := s.pointIndexReceived + 1
                      transferState := .waitingForPoint }
    if (gt s.timeFromStart rig.fiveCycles ∨ s.pointIndexReceived + 1 = s.trajectorySize) ∧
        ¬s.trajectoryStarted then
      { s.send (.start s.trajectory.length) with trajectoryStarted := true }
    else s
  else { s with crashed := true }

/-- The branches of `check_passthrough_trajectory_controller`. -/
def Transfer.handle (rig : Rig K) (s : Transfer K) : Transfer K :=
  if s.abort ∧ s.transferState ≠ .idle then s.send .cancel
  else match s.transferState with
    | .newTrajectory =>
      if s.trajectorySize ≠ s.trajectory.length then
        { s with trajectory := resize s.trajectory s.trajectorySize
                 pointIndexReceived := 0
                 pointIndexSent := 0
                 trajectoryStarted := false
                 lastTime := UrDouble.zero
                 transferState := .waitingForPoint }
      else s
    | .transferring => s.receivePoint rig
    | .transferDone => { s with abort := false, transferState := .inMotion }
    | .inMotion =>
      if s.pointIndexSent = s.trajectory.length then
        { s with trajectory := [], lastTime := UrDouble.zero }
      else s
    | _ => s

/-- One turn of the loop that sends points. -/
def Transfer.sendPoint (writer : Row K → Spline K) (s : Transfer K) (i : ℕ) : Transfer K :=
  match s.trajectory[i]? with
  | some row => { s.send (.point (writer row)) with pointIndexSent := s.pointIndexSent + 1 }
  | none => { s with crashed := true }

/-- The points that are there are sent. The loop breaks before its first turn or not at all, since
what is valid is read off the first point. -/
def Transfer.flush (s : Transfer K) : Transfer K :=
  if s.trajectoryStarted ∧ s.pointIndexSent ≤ s.trajectory.length ∧
      s.pointIndexSent < s.pointIndexReceived then
    match s.trajectory.head?.bind pointWriter with
    | none => { s with abort := true, transferState := .done }
    | some writer =>
      (List.range' s.pointIndexSent (s.pointIndexReceived - s.pointIndexSent)).foldl
        (Transfer.sendPoint writer) s
  else s

/-- The passthrough branch of `write`. -/
def Transfer.write (rig : Rig K) (s : Transfer K) : Transfer K :=
  ((s.send .noop).handle rig).flush

/-- `trajectory_done_callback`. -/
def Transfer.trajectoryDone (s : Transfer K) (failure : Bool) : Transfer K :=
  { s with abort := failure, transferState := .done }

/-! ## Runs -/

inductive TransferEvent (K : Type)
  | accept (goal : Goal K)
  | cancel
  | update (env : UpdateEnv)
  | write
  | trajectoryDone (failure : Bool)

def Transfer.step (rig : Rig K) (s : Transfer K) : TransferEvent K → Transfer K
  | .accept g => s.accept rig g
  | .cancel => s.cancel
  | .update env => s.update rig env
  | .write => s.write rig
  | .trajectoryDone failure => s.trajectoryDone failure

end VzletUr3e.Ur
