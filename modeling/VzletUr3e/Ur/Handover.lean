import VzletUr3e.Ur.Passthrough

/-!
# The robot gets the trajectory of the goal

`batch` is what the robot was sent since the last start of a trajectory. In every run in which goals
come while nothing is being transferred, it is a beginning of the points of one goal, each of them
once and in order (`forwarded_in_order`).

## The two sides

The controller and the hardware interface share a handful of command interfaces, among them the
transfer state, and otherwise each keeps its own account. The controller has the active goal and the
index of the next point to offer. The hardware interface has the vectors that the points are
gathered in and two indices into them, up to which points have come in and have gone out.

## The invariant

`Inv` keeps the goal that the vectors are about (`Held`) apart from the one that the controller
follows (`Following`). They are the same only while points are being transferred: a goal may be
cancelled, and the next one announced, while the vectors still hold the old one. What was sent is a
third account (`Delivered`), and it is compared with the vectors alone.
-/

namespace VzletUr3e.Ur

open Runs UrDouble

variable {K : Type}

/-! ## The points of a goal

What the robot shall get of a goal, read from the goal alone: `row?` is a point in the order of the
robot's joints with the time since the point before it, and `spline?` is the message made of it. The
state of a transfer is measured against these two. -/

/-- The points since the last start, with the number that the start announced. -/
def batch : List (ToRobot K) → Option (ℕ × List (Spline K))
  | [] => none
  | .start n :: _ => some (n, [])
  | .point p :: older => (batch older).map fun b ↦ (b.1, b.2 ++ [p])
  | _ :: older => batch older

@[simp] theorem batch_start (n : ℕ) (older : List (ToRobot K)) :
    batch (.start n :: older) = some (n, []) := rfl

@[simp] theorem batch_noop (older : List (ToRobot K)) : batch (.noop :: older) = batch older := rfl

@[simp] theorem batch_cancel (older : List (ToRobot K)) : batch (.cancel :: older) = batch older :=
  rfl

theorem batch_point {older : List (ToRobot K)} {n : ℕ} {ps : List (Spline K)} {p : Spline K}
    (h : batch older = some (n, ps)) : batch (.point p :: older) = some (n, ps ++ [p]) := by
  rw [batch, h]
  rfl

/-- A joint among the first six names has its place there. -/
theorem mapping_eq_some {rig : Rig K} {g : Goal K} {i : Fin 6}
    (h : rig.joints i ∈ g.jointNames.take 6) :
    ∃ k, k < 6 ∧ g.mapping rig i = some k := by
  have hmem := List.mem_of_mem_take h
  obtain ⟨k, hk⟩ := Option.isSome_iff_exists.mp (List.isSome_idxOf?.mpr hmem)
  refine ⟨k, ?_, hk⟩
  have hlt := (List.mem_take_iff_idxOf_lt hmem).mp h
  rwa [List.idxOf_eq_getD_idxOf?, hk] at hlt

variable [UrDouble K]

section Expected

variable (rig : Rig K) (g : Goal K)

/-- The time of the point before the point `k`. -/
def Goal.previousTime : ℕ → K
  | 0 => zero
  | k + 1 => (g.points[k]?.map (·.timeFromStart)).getD zero

/-- The point `k` as the hardware interface keeps it. -/
def Goal.row? (k : ℕ) : Option (Row K) := do
  let p ← g.points[k]?
  let setpoint ← g.setpointOf rig p
  return ⟨setpoint, sub p.timeFromStart (g.previousTime k)⟩

/-- The point `k` as the robot gets it. -/
def Goal.spline? (k : ℕ) : Option (Spline K) := do
  let writer ← (g.row? rig 0).bind pointWriter
  let row ← g.row? rig k
  return writer row

/-- `ps` are the first points of a goal, and `n` is the number of all of them. -/
def InOrder (n : ℕ) (ps : List (Spline K)) : Prop :=
  n = g.points.length ∧ ps.length ≤ n ∧ ps.map some = (List.range ps.length).map (g.spline? rig)

/-- The points of a goal can be passed on. -/
def Goal.Sendable : Prop := g.points ≠ [] ∧ ∀ p ∈ g.points, (g.setpointOf rig p).isSome

/-- A goal that has points, and names the controller's joints among its first six. -/
structure Goal.Covers : Prop where
  nonempty : g.points ≠ []
  joints : ∀ i, rig.joints i ∈ g.jointNames.take 6

end Expected

variable {rig : Rig K} {g : Goal K} {s : Transfer K} {known : Goal K → Prop}

omit [UrDouble K] in
/-- Six values can be put into the order of the controller's joints. -/
theorem column_isSome {values : List K} (hjoints : ∀ i, rig.joints i ∈ g.jointNames.take 6)
    (hlength : values.length = 6) : (g.column rig values).isSome := by
  have hvalue : ∀ i, ((g.mapping rig i).bind (values[·]?)).isSome := by
    intro i
    obtain ⟨k, hk, hmapping⟩ := mapping_eq_some (hjoints i)
    rw [hmapping, Option.bind_some, List.getElem?_eq_getElem (by omega)]
    rfl
  rw [Goal.column]
  dsimp only
  rw [dif_pos hvalue]
  rfl

/-- The checks of the controller are enough, if the goal covers its joints. -/
theorem Goal.Covers.sendable (h : g.Covers rig) (hcheck : checkGoal rig g = true) :
    g.Sendable rig := by
  refine ⟨h.nonempty, fun p hp ↦ ?_⟩
  simp only [checkGoal, Bool.and_eq_true, List.all_eq_true, Bool.or_eq_true, beq_iff_eq] at hcheck
  obtain ⟨⟨⟨hpositions, hvelocities⟩, haccelerations⟩, -⟩ := hcheck
  obtain ⟨ps, hps⟩ := Option.isSome_iff_exists.mp (column_isSome h.joints (hpositions p hp))
  rw [setpointOf, hps, Option.bind_eq_bind, Option.bind_some]
  -- with velocities and accelerations, with velocities alone, and with positions alone
  split_ifs with hv ha
  · have hsix : p.velocities.length = 6 := by
      rcases (hvelocities p hp).1 with h6 | h0
      · exact h6
      · omega
    have hsix' : p.accelerations.length = 6 := by
      rcases (haccelerations p hp).1 with h0 | h6
      · omega
      · exact h6
    obtain ⟨vs, hvs⟩ := Option.isSome_iff_exists.mp (column_isSome h.joints hsix)
    obtain ⟨as, has⟩ := Option.isSome_iff_exists.mp (column_isSome h.joints hsix')
    rw [hvs, has]
    rfl
  · have hsix : p.velocities.length = 6 := by
      rcases (hvelocities p hp).1 with h6 | h0
      · exact h6
      · omega
    obtain ⟨vs, hvs⟩ := Option.isSome_iff_exists.mp (column_isSome h.joints hsix)
    rw [hvs]
    rfl
  · rfl

theorem row?_of_setpoint {k : ℕ} {p : TrajectoryPoint K} {setpoint : Setpoint K}
    (hp : g.points[k]? = some p) (hsetpoint : g.setpointOf rig p = some setpoint) :
    g.row? rig k = some ⟨setpoint, sub p.timeFromStart (g.previousTime k)⟩ := by
  rw [Goal.row?, hp, Option.bind_eq_bind, Option.bind_some, hsetpoint]
  rfl

theorem InOrder.append {n : ℕ} {ps : List (Spline K)} {spline : Spline K} (h : InOrder rig g n ps)
    (hlt : ps.length < n) (hspline : g.spline? rig ps.length = some spline) :
    InOrder rig g n (ps ++ [spline]) := by
  refine ⟨h.1, by simpa using hlt, ?_⟩
  rw [List.map_append, h.2.2, List.length_append, List.length_singleton, List.range_succ,
    List.map_append, List.map_singleton, List.map_singleton, hspline]

/-- The first `count` points of a goal were sent since the last start. -/
def Delivered (rig : Rig K) (g : Goal K) (count : ℕ) (line : List (ToRobot K)) : Prop :=
  ∃ ps, batch line = some (g.points.length, ps) ∧ ps.length = count ∧
    InOrder rig g g.points.length ps

/-- Behind a start, no point was sent yet. -/
theorem Delivered.start {count : ℕ} (hcount : count = g.points.length) (older : List (ToRobot K)) :
    Delivered rig g 0 (.start count :: older) :=
  ⟨[], by rw [hcount]; rfl, rfl, rfl, Nat.zero_le _, rfl⟩

/-- The next point comes behind those that were sent. -/
theorem Delivered.point {count : ℕ} {line : List (ToRobot K)} {spline : Spline K}
    (h : Delivered rig g count line) (hlt : count < g.points.length)
    (hspline : g.spline? rig count = some spline) :
    Delivered rig g (count + 1) (.point spline :: line) := by
  obtain ⟨ps, hbatch, rfl, hinOrder⟩ := h
  exact ⟨ps ++ [spline], batch_point hbatch, by simp, hinOrder.append hlt hspline⟩

/-! ## The invariant

The vectors are in one of three conditions: never used (`Fresh`), being filled for a goal
(`Filled`), or cleared behind its last point (`Cleared`). The transfer state tells which of them are
possible. Points are read in the state `transferring` only, so that reading needs `Filled` and an
offer of the controller, and nothing else. -/

/-- The hardware interface has not taken up any trajectory. -/
structure Fresh (s : Transfer K) : Prop where
  trajectory : s.trajectory = []
  received : s.pointIndexReceived = 0
  sent : s.pointIndexSent = 0
  started : s.trajectoryStarted = false
  state : s.transferState = .idle ∨ s.transferState = .newTrajectory ∨ s.transferState = .done

/-- The vectors have the length of the goal, and the points so far in them. -/
structure Filled (rig : Rig K) (g : Goal K) (s : Transfer K) : Prop where
  length : s.trajectory.length = g.points.length
  rows : ∀ k < s.pointIndexReceived, s.trajectory[k]? = g.row? rig k
  lastTime : s.lastTime = g.previousTime s.pointIndexReceived

/-- The vectors are cleared behind the last point. -/
structure Cleared (g : Goal K) (s : Transfer K) : Prop where
  trajectory : s.trajectory = []
  sent : s.pointIndexSent = g.points.length
  state : s.transferState = .inMotion ∨ s.transferState = .idle ∨
    s.transferState = .newTrajectory ∨ s.transferState = .done

/-- The point that the hardware interface shall read next is in the setpoints. -/
structure Offered (rig : Rig K) (g : Goal K) (s : Transfer K) (p : TrajectoryPoint K) : Prop where
  point : g.points[s.pointIndexReceived]? = some p
  setpoint : g.setpointOf rig p = some s.setpoint
  time : s.timeFromStart = p.timeFromStart

/-- The hardware interface has taken up the trajectory of `g`. -/
structure Holding (rig : Rig K) (g : Goal K) (s : Transfer K) : Prop where
  sendable : g.Sendable rig
  received_le : s.pointIndexReceived ≤ g.points.length
  sent_le : s.pointIndexSent ≤ s.pointIndexReceived
  contents : Filled rig g s ∨ Cleared g s
  offered : s.transferState = .transferring → ∃ p, Offered rig g s p
  started : s.trajectoryStarted = true → Delivered rig g s.pointIndexSent s.sent
  notStarted : s.trajectoryStarted = false → s.pointIndexSent = 0

/-- The goal whose trajectory the hardware interface has taken up, if there is one. -/
def Held (rig : Rig K) (known : Goal K → Prop) : Option (Goal K) → Transfer K → Prop
  | none, s => Fresh s
  | some g, s => known g ∧ Holding rig g s

/-- How far the controller is with an active goal. -/
structure Following (rig : Rig K) (known : Goal K → Prop) (held : Option (Goal K)) (s : Transfer K)
    (g : Goal K) : Prop where
  active : s.activeGoal = some g
  known : known g
  sendable : g.Sendable rig
  unstarted : s.transferState = .idle ∨ s.transferState = .newTrajectory → s.currentIndex = 0
  waiting : s.transferState = .waitingForPoint → held = some g ∧
    s.currentIndex = s.pointIndexReceived
  transferring : s.transferState = .transferring → held = some g ∧
    s.currentIndex = s.pointIndexReceived + 1

/-- The trajectory that is announced to the hardware interface. -/
structure Announced (rig : Rig K) (known : Goal K → Prop) (s : Transfer K) (g : Goal K) : Prop where
  known : known g
  sendable : g.Sendable rig
  size : s.trajectorySize = g.points.length
  active : s.trajectoryActive = true → s.activeGoal = some g

/-- Nothing was read behind a trajectory, what was sent is a beginning of some goal, and both sides
know where they are. -/
structure Inv (rig : Rig K) (known : Goal K → Prop) (held : Option (Goal K)) (s : Transfer K) :
    Prop where
  crashed : s.crashed = false
  inOrder : ∀ n ps, batch s.sent = some (n, ps) → ∃ g, known g ∧ InOrder rig g n ps
  holds : Held rig known held s
  announced : s.transferState = .newTrajectory → ∃ g, Announced rig known s g
  following : s.trajectoryActive = true → ∃ g, Following rig known held s g

theorem inv_initial : Inv rig known none (Transfer.initial : Transfer K) where
  crashed := rfl
  inOrder := by simp [Transfer.initial, batch]
  holds := ⟨rfl, rfl, rfl, rfl, .inl rfl⟩
  announced := by simp [Transfer.initial]
  following := by simp [Transfer.initial]

/-! ## Frames

Most steps leave the vectors alone. `Held` then goes over to the new state by `congr`, or by
`settle` where the transfer state is set to one that ends a transfer or announces one. -/

/-- What the invariant of the hardware interface is about. -/
def Transfer.buffer (s : Transfer K) :=
  (s.trajectory, s.lastTime, s.pointIndexReceived, s.pointIndexSent, s.trajectoryStarted, s.sent,
    s.transferState, s.setpoint, s.timeFromStart)

variable {held : Option (Goal K)} {s' : Transfer K}

omit [UrDouble K] in
theorem Fresh.congr (h : Fresh s) (hbuffer : s'.buffer = s.buffer) : Fresh s' := by
  simp only [Transfer.buffer, Prod.mk.injEq] at hbuffer
  obtain ⟨htrajectory, -, hreceived, hsent, hstarted, -, hstate, -, -⟩ := hbuffer
  exact ⟨htrajectory.trans h.trajectory, hreceived.trans h.received, hsent.trans h.sent,
    hstarted.trans h.started, by rw [hstate]; exact h.state⟩

theorem Holding.congr (h : Holding rig g s) (hbuffer : s'.buffer = s.buffer) :
    Holding rig g s' := by
  simp only [Transfer.buffer, Prod.mk.injEq] at hbuffer
  obtain ⟨htrajectory, hlast, hreceived, hsent, hstarted, hline, hstate, hsetpoint, htime⟩ :=
    hbuffer
  refine ⟨h.sendable, hreceived ▸ h.received_le, by rw [hsent, hreceived]; exact h.sent_le, ?_, ?_,
    ?_, by rw [hstarted, hsent]; exact h.notStarted⟩
  · refine h.contents.imp (fun hfilled ↦ ?_) fun hcleared ↦ ?_
    · refine ⟨htrajectory ▸ hfilled.length, ?_, ?_⟩
      · rw [hreceived, htrajectory]
        exact hfilled.rows
      · rw [hlast, hreceived]
        exact hfilled.lastTime
    · exact ⟨htrajectory.trans hcleared.trajectory, hsent.trans hcleared.sent,
        by rw [hstate]; exact hcleared.state⟩
  · intro ht
    obtain ⟨p, hp⟩ := h.offered (hstate.symm.trans ht)
    refine ⟨p, ?_, ?_, htime.trans hp.time⟩
    · rw [hreceived]
      exact hp.point
    · rw [hsetpoint]
      exact hp.setpoint
  · rw [hstarted, hline, hsent]
    exact h.started

theorem Held.congr (h : Held rig known held s) (hbuffer : s'.buffer = s.buffer) :
    Held rig known held s' := by
  rcases held with _ | g
  · exact Fresh.congr h hbuffer
  · exact ⟨h.1, h.2.congr hbuffer⟩

/-- A transfer may end, or another one be announced, at any time. -/
theorem Held.settle (h : Held rig known held s) {t : TransferState}
    (ht : t = .idle ∨ t = .newTrajectory ∨ t = .done) :
    Held rig known held { s with transferState := t } := by
  rcases held with _ | g
  · exact ⟨h.trajectory, h.received, h.sent, h.started, ht⟩
  · obtain ⟨hknown, h⟩ := h
    refine ⟨hknown, h.sendable, h.received_le, h.sent_le, ?_, ?_, h.started, h.notStarted⟩
    · refine h.contents.imp (fun hf ↦ ⟨hf.length, hf.rows, hf.lastTime⟩) fun hc ↦ ?_
      exact ⟨hc.trajectory, hc.sent, .inr ht⟩
    · intro htransferring
      rcases ht with rfl | rfl | rfl <;> cases htransferring

/-- A message that is no point and no start does not matter. -/
theorem Held.send (h : Held rig known held s) {message : ToRobot K}
    (hmessage : batch (message :: s.sent) = batch s.sent) :
    Held rig known held (s.send message) := by
  rcases held with _ | g
  · exact ⟨h.trajectory, h.received, h.sent, h.started, h.state⟩
  · obtain ⟨hknown, h⟩ := h
    refine ⟨hknown, h.sendable, h.received_le, h.sent_le, ?_, ?_, ?_, h.notStarted⟩
    · exact h.contents.imp (fun hf ↦ ⟨hf.length, hf.rows, hf.lastTime⟩) fun hc ↦
        ⟨hc.trajectory, hc.sent, hc.state⟩
    · exact fun ht ↦ (h.offered ht).imp fun p hp ↦ ⟨hp.point, hp.setpoint, hp.time⟩
    · intro hstarted
      obtain ⟨ps, hbatch, hps⟩ := h.started hstarted
      exact ⟨ps, hmessage.trans hbatch, hps⟩

/-! ## Steps

First those of the controller. An accepted goal starts behind an idle transfer, which is where
`Covers` and the checks are used; from then on the goal is known to be `Sendable`. -/

theorem Inv.accept (h : Inv rig known held s)
    (haccept : s.trajectoryActive = false → checkGoal rig g = true →
      s.transferState = .idle ∧ known g ∧ g.Covers rig) :
    Inv rig known held (s.accept rig g) := by
  rw [Transfer.accept]
  split_ifs with hactive hcheck hmapping
  · exact h
  · exact h
  · have hinactive : s.trajectoryActive = false := by simpa using hactive
    refine ⟨h.crashed, h.inOrder, h.holds.congr rfl, fun hstate ↦ ?_, fun htrue ↦ ?_⟩
    · obtain ⟨g', hg'⟩ := h.announced hstate
      exact ⟨g', hg'.known, hg'.sendable, hg'.size, hg'.active⟩
    · exact absurd htrue hactive
  · have hinactive : s.trajectoryActive = false := by simpa using hactive
    have hchecked : checkGoal rig g = true := by simpa using hcheck
    obtain ⟨hidle, hknown, hcovers⟩ := haccept hinactive hchecked
    have hne : ∀ {t : TransferState}, t ≠ .idle → s.transferState ≠ t := fun ht h ↦ ht (h ▸ hidle)
    refine ⟨h.crashed, h.inOrder, h.holds.congr rfl, fun hstate ↦ absurd hstate (hne (by decide)),
      fun _ ↦ ⟨g, rfl, hknown, hcovers.sendable hchecked, fun _ ↦ rfl, ?_, ?_⟩⟩
    · exact fun hstate ↦ absurd hstate (hne (by decide))
    · exact fun hstate ↦ absurd hstate (hne (by decide))

/-- The goal is given up, and its points stay in the vectors. -/
theorem Inv.cancel (h : Inv rig known held s) : Inv rig known held s.cancel := by
  rw [Transfer.cancel]
  split
  · refine ⟨h.crashed, h.inOrder, h.holds.congr rfl, fun hstate ↦ ?_, fun htrue ↦ by cases htrue⟩
    obtain ⟨g', hg'⟩ := h.announced hstate
    exact ⟨g', hg'.known, hg'.sendable, hg'.size, fun htrue ↦ by cases htrue⟩
  · exact h

/-- A report of the robot ends the transfer wherever it is. -/
theorem Inv.trajectoryDone (h : Inv rig known held s) (failure : Bool) :
    Inv rig known held (s.trajectoryDone failure) where
  crashed := h.crashed
  inOrder := h.inOrder
  holds := (h.holds.settle (.inr (.inr rfl))).congr rfl
  announced := by simp [Transfer.trajectoryDone]
  following htrue := by
    obtain ⟨g, hg⟩ := h.following htrue
    exact ⟨g, hg.active, hg.known, hg.sendable, by simp [Transfer.trajectoryDone],
      by simp [Transfer.trajectoryDone], by simp [Transfer.trajectoryDone]⟩

theorem Inv.endGoal (h : Inv rig known held s) (result : GoalResult) :
    Inv rig known held (s.report g result).endGoal where
  crashed := h.crashed
  inOrder := h.inOrder
  holds := (h.holds.settle (.inl rfl)).congr rfl
  announced := by simp [Transfer.endGoal]
  following := by simp [Transfer.endGoal]

theorem Inv.abort (h : Inv rig known held s) : Inv rig known held { s with abort := true } where
  crashed := h.crashed
  inOrder := h.inOrder
  holds := h.holds.congr rfl
  announced hstate := (h.announced hstate).imp fun _ hg ↦ ⟨hg.known, hg.sendable, hg.size,
    hg.active⟩
  following htrue := (h.following htrue).imp fun _ hg ↦
    ⟨hg.active, hg.known, hg.sendable, hg.unstarted, hg.waiting, hg.transferring⟩

/-- The size is that of the goal, and none of its points is offered yet. -/
theorem Inv.announce (h : Inv rig known held s) (hg : Following rig known held s g)
    (hindex : s.currentIndex = 0) : Inv rig known held (s.announce g) := by
  rw [Transfer.announce, if_neg hg.sendable.1]
  refine ⟨h.crashed, h.inOrder, (h.holds.settle (.inr (.inl rfl))).congr rfl, fun _ ↦ ?_,
    fun _ ↦ ?_⟩
  · exact ⟨g, hg.known, hg.sendable, rfl, fun _ ↦ hg.active⟩
  · refine ⟨g, hg.active, hg.known, hg.sendable, fun _ ↦ hindex, ?_, ?_⟩ <;> simp

/-- The controller offers the point that the hardware interface reads next: both indices agree while
it waits. -/
theorem Inv.writePoint (h : Inv rig known held s) (hg : Following rig known held s g)
    (hwaiting : s.transferState = .waitingForPoint) (env : UpdateEnv) :
    Inv rig known held (s.writePoint rig env g) := by
  obtain ⟨rfl, hindex⟩ := hg.waiting hwaiting
  obtain ⟨hknown, hholds⟩ := h.holds
  have hfilled : Filled rig g s := by
    refine hholds.contents.resolve_right fun hcleared ↦ ?_
    have hstate := hcleared.state
    simp [hwaiting] at hstate
  rw [Transfer.writePoint]
  split
  · next p hp =>
    obtain ⟨setpoint, hsetpoint⟩ :=
      Option.isSome_iff_exists.mp (hg.sendable.2 p (List.mem_of_getElem? hp))
    dsimp only
    split_ifs with hnames
    · -- the time is written, and the rest of the point is left for the next cycle
      refine ⟨h.crashed, h.inOrder, ⟨hknown, hholds.sendable, hholds.received_le, hholds.sent_le,
        .inl ⟨hfilled.length, hfilled.rows, hfilled.lastTime⟩, ?_, hholds.started,
        hholds.notStarted⟩, ?_, fun htrue ↦ ⟨g, hg.active, hg.known, hg.sendable, hg.unstarted,
          hg.waiting, hg.transferring⟩⟩
      · intro ht
        rw [hwaiting] at ht
        cases ht
      · intro ht
        rw [hwaiting] at ht
        cases ht
    · rw [hsetpoint]
      refine ⟨h.crashed, h.inOrder, ⟨hknown, hholds.sendable, hholds.received_le, hholds.sent_le,
        .inl ⟨hfilled.length, hfilled.rows, hfilled.lastTime⟩, fun _ ↦ ⟨p, ?_, hsetpoint, rfl⟩,
        hholds.started, hholds.notStarted⟩, by simp, fun _ ↦ ⟨g, hg.active, hg.known, hg.sendable,
          by simp, by simp, fun _ ↦ ⟨rfl, ?_⟩⟩⟩
      · rw [← hindex]
        exact hp
      · simpa using hindex
  · -- behind the last point the transfer is done
    split_ifs with hlast
    · refine ⟨h.crashed, h.inOrder, ⟨hknown, hholds.sendable, hholds.received_le, hholds.sent_le,
        .inl ⟨hfilled.length, hfilled.rows, hfilled.lastTime⟩, by simp, hholds.started,
        hholds.notStarted⟩, by simp, fun _ ↦ ⟨g, hg.active, hg.known, hg.sendable, ?_, ?_, ?_⟩⟩ <;>
        simp
    · exact h

theorem Inv.follow (h : Inv rig known held s) (hg : Following rig known held s g)
    (env : UpdateEnv) : Inv rig known held (s.follow rig env g) := by
  rw [Transfer.follow]
  dsimp only
  -- an abort, then what cannot be read, and what can, each with a new goal and without one
  split_ifs with habort henv hnew hnew
  · exact h.endGoal .aborted
  · exact h.announce hg hnew.1
  · exact h
  · rw [hnew.2]
    exact h.announce hg hnew.1
  · split
    · next hwaiting => exact h.writePoint hg hwaiting env
    · rw [Transfer.finish]
      split_ifs <;> exact h.endGoal _
    · exact h

theorem Inv.update (h : Inv rig known held s) (env : UpdateEnv) :
    Inv rig known held (s.update rig env) := by
  rw [Transfer.update]
  split_ifs with hgoal
  · exact h
  · split
    · next g hactive htrue =>
      obtain ⟨g', hg'⟩ := h.following htrue
      obtain rfl : g' = g := Option.some.inj (hg'.active.symm.trans hactive)
      exact h.follow hg' env
    · next hnone =>
      split
      · exact h
      · refine ⟨h.crashed, h.inOrder, (h.holds.settle (.inl rfl)).congr rfl, by simp,
          fun htrue ↦ ?_⟩
        obtain ⟨g, hg⟩ := h.following htrue
        exact absurd htrue (hnone g hg.active)
      · exact h.abort

/-! ### The hardware interface

It sends, takes up what is announced, and reads what is offered. -/

theorem Inv.send (h : Inv rig known held s) {message : ToRobot K}
    (hmessage : batch (message :: s.sent) = batch s.sent) :
    Inv rig known held (s.send message) where
  crashed := h.crashed
  inOrder n ps hbatch := h.inOrder n ps (hmessage ▸ hbatch)
  holds := h.holds.send hmessage
  announced hstate := (h.announced hstate).imp fun _ hg ↦ ⟨hg.known, hg.sendable, hg.size,
    hg.active⟩
  following htrue := (h.following htrue).imp fun _ hg ↦
    ⟨hg.active, hg.known, hg.sendable, hg.unstarted, hg.waiting, hg.transferring⟩

/-- The vectors are resized for the trajectory that is announced. -/
theorem Inv.takeUp (h : Inv rig known held s) (hstate : s.transferState = .newTrajectory) :
    ∃ g, Inv rig known (some g)
      { s with trajectory := resize s.trajectory s.trajectorySize
               pointIndexReceived := 0
               pointIndexSent := 0
               trajectoryStarted := false
               lastTime := UrDouble.zero
               transferState := .waitingForPoint } := by
  obtain ⟨g, hg⟩ := h.announced hstate
  refine ⟨g, h.crashed, h.inOrder, ⟨hg.known, hg.sendable, Nat.zero_le _, le_rfl, .inl ?_, by simp,
    by simp, fun _ ↦ rfl⟩, by simp, fun htrue ↦ ?_⟩
  · refine ⟨?_, fun k hk ↦ absurd hk (Nat.not_lt_zero k), rfl⟩
    rw [resize, List.length_append, List.length_take, List.length_replicate, ← hg.size]
    omega
  · obtain ⟨g', hg'⟩ := h.following htrue
    obtain rfl : g' = g := Option.some.inj (hg'.active.symm.trans (hg.active htrue))
    exact ⟨g', hg'.active, hg'.known, hg'.sendable, by simp,
      fun _ ↦ ⟨rfl, hg'.unstarted (.inr hstate)⟩, by simp⟩

/-- The point in the setpoints goes to its place in the vectors. -/
theorem Filled.receive {p : TrajectoryPoint K} (hfilled : Filled rig g s)
    (hoffered : Offered rig g s p) (hlt : s.pointIndexReceived < s.trajectory.length) :
    Filled rig g
      { s with abort := false
               trajectory := s.trajectory.set s.pointIndexReceived
                 ⟨s.setpoint, sub s.timeFromStart s.lastTime⟩
               lastTime := s.timeFromStart
               pointIndexReceived := s.pointIndexReceived + 1
               transferState := .waitingForPoint } where
  length := by
    rw [List.length_set]
    exact hfilled.length
  rows k hk := by
    rw [List.getElem?_set]
    split_ifs with heq
    · subst heq
      rw [row?_of_setpoint hoffered.point hoffered.setpoint, hoffered.time, hfilled.lastTime]
    · exact hfilled.rows k (by dsimp only at hk; omega)
  lastTime := by
    rw [Goal.previousTime, hoffered.point]
    exact hoffered.time

/-- The point is read. It is there and has a place in the vectors, so nothing is read or written
behind them. With it the robot may be told to start. -/
theorem Inv.receivePoint (h : Inv rig known held s) (hstate : s.transferState = .transferring) :
    Inv rig known held (s.receivePoint rig) := by
  rcases held with _ | g
  · have hfresh := Fresh.state h.holds
    simp [hstate] at hfresh
  · obtain ⟨hknown, hholds⟩ := h.holds
    have hfilled : Filled rig g s := by
      refine hholds.contents.resolve_right fun hcleared ↦ ?_
      have hcleared := hcleared.state
      simp [hstate] at hcleared
    -- the vectors are as long as the goal, and it has one more point
    obtain ⟨p, hoffered⟩ := hholds.offered hstate
    have hpoint := (List.getElem?_eq_some_iff.mp hoffered.point).1
    have hlt : s.pointIndexReceived < s.trajectory.length := hfilled.length ▸ hpoint
    have hfilled' := hfilled.receive hoffered hlt
    have hfollowing : ∀ htrue : s.trajectoryActive = true, ∃ g', s.activeGoal = some g' ∧
        known g' ∧ g'.Sendable rig ∧ some g = some g' ∧
          s.currentIndex = s.pointIndexReceived + 1 := by
      intro htrue
      obtain ⟨g', hg'⟩ := h.following htrue
      obtain ⟨heq, hindex⟩ := hg'.transferring hstate
      exact ⟨g', hg'.active, hg'.known, hg'.sendable, heq, hindex⟩
    rw [Transfer.receivePoint, if_pos hlt]
    dsimp only
    split_ifs with hstart
    · -- the robot is told to start, and no point was sent before
      have hzero := hholds.notStarted (by simpa using hstart.2)
      refine ⟨h.crashed, fun n ps hbatch ↦ ?_, ⟨hknown, hholds.sendable, hpoint, ?_,
        .inl ⟨hfilled'.length, hfilled'.rows, hfilled'.lastTime⟩, by simp [Transfer.send],
        fun _ ↦ ?_, by simp⟩, by simp [Transfer.send], fun htrue ↦ ?_⟩
      · simp only [Transfer.send, batch_start, List.length_set, hfilled.length,
          Option.some.injEq, Prod.mk.injEq] at hbatch
        obtain ⟨rfl, rfl⟩ := hbatch
        exact ⟨g, hknown, rfl, Nat.zero_le _, rfl⟩
      · exact hholds.sent_le.trans (Nat.le_succ _)
      · dsimp only [Transfer.send]
        rw [hzero]
        exact Delivered.start (by rw [List.length_set, hfilled.length]) s.sent
      · obtain ⟨g', hactive, hknown', hsendable, heq, hindex⟩ := hfollowing htrue
        exact ⟨g', hactive, hknown', hsendable, by simp [Transfer.send], fun _ ↦ ⟨heq, hindex⟩,
          by simp [Transfer.send]⟩
    · refine ⟨h.crashed, h.inOrder, ⟨hknown, hholds.sendable, hpoint, ?_, .inl hfilled', by simp,
        hholds.started, hholds.notStarted⟩, by simp, fun htrue ↦ ?_⟩
      · exact hholds.sent_le.trans (Nat.le_succ _)
      · obtain ⟨g', hactive, hknown', hsendable, heq, hindex⟩ := hfollowing htrue
        exact ⟨g', hactive, hknown', hsendable, by simp, fun _ ↦ ⟨heq, hindex⟩, by simp⟩

theorem Inv.transferDone (h : Inv rig known held s) (hstate : s.transferState = .transferDone) :
    Inv rig known held { s with abort := false, transferState := .inMotion } := by
  rcases held with _ | g
  · have hfresh := Fresh.state h.holds
    simp [hstate] at hfresh
  · obtain ⟨hknown, hholds⟩ := h.holds
    refine ⟨h.crashed, h.inOrder, ⟨hknown, hholds.sendable, hholds.received_le, hholds.sent_le, ?_,
      by simp, hholds.started, hholds.notStarted⟩, by simp, fun htrue ↦ ?_⟩
    · exact hholds.contents.imp (fun hf ↦ ⟨hf.length, hf.rows, hf.lastTime⟩) fun hc ↦
        ⟨hc.trajectory, hc.sent, .inl rfl⟩
    · obtain ⟨g', hg'⟩ := h.following htrue
      exact ⟨g', hg'.active, hg'.known, hg'.sendable, by simp, by simp, by simp⟩

/-- The vectors are cleared when everything was sent, and not before. -/
theorem Inv.clear (h : Inv rig known held s) (hstate : s.transferState = .inMotion)
    (hsent : s.pointIndexSent = s.trajectory.length) :
    Inv rig known held { s with trajectory := [], lastTime := UrDouble.zero } := by
  rcases held with _ | g
  · have hfresh := Fresh.state h.holds
    simp [hstate] at hfresh
  · obtain ⟨hknown, hholds⟩ := h.holds
    refine ⟨h.crashed, h.inOrder, ⟨hknown, hholds.sendable, hholds.received_le, hholds.sent_le,
      .inr ⟨rfl, ?_, .inl hstate⟩, by simp [hstate], hholds.started, hholds.notStarted⟩,
      by simp [hstate], fun htrue ↦ ?_⟩
    · rcases hholds.contents with hfilled | hcleared
      · exact hsent.trans hfilled.length
      · exact hcleared.sent
    · obtain ⟨g', hg'⟩ := h.following htrue
      exact ⟨g', hg'.active, hg'.known, hg'.sendable, hg'.unstarted, hg'.waiting, hg'.transferring⟩

/-- One lemma for each state of the transfer. -/
theorem Inv.handle (h : Inv rig known held s) : ∃ held', Inv rig known held' (s.handle rig) := by
  rw [Transfer.handle]
  by_cases habort : s.abort ∧ s.transferState ≠ .idle
  · rw [if_pos habort]
    exact ⟨held, h.send (batch_cancel _)⟩
  · rw [if_neg habort]
    split
    · next hstate =>
      split_ifs with hsize
      · obtain ⟨g, hg⟩ := h.takeUp hstate
        exact ⟨some g, hg⟩
      · exact ⟨held, h⟩
    · next hstate => exact ⟨held, h.receivePoint hstate⟩
    · next hstate => exact ⟨held, h.transferDone hstate⟩
    · next hstate =>
      split_ifs with hsent
      · exact ⟨held, h.clear hstate hsent⟩
      · exact ⟨held, h⟩
    · exact ⟨held, h⟩

/-- `count` turns of the loop send the next `count` points, and change nothing else. -/
theorem Filled.sendPoints {writer : Row K → Spline K}
    (hwriter : (g.row? rig 0).bind pointWriter = some writer) (count : ℕ) :
    ∀ {s : Transfer K}, Filled rig g s → s.pointIndexSent + count ≤ s.pointIndexReceived →
      s.pointIndexReceived ≤ g.points.length →
      ∃ points, (List.range' s.pointIndexSent count).foldl (Transfer.sendPoint writer) s
          = { s with sent := points ++ s.sent, pointIndexSent := s.pointIndexSent + count } ∧
        ∀ older, Delivered rig g s.pointIndexSent older →
          Delivered rig g (s.pointIndexSent + count) (points ++ older) := by
  -- the state changes with each turn, so the induction is over all of them
  induction count with
  | zero => exact fun _ _ _ ↦ ⟨[], rfl, fun _ h ↦ h⟩
  | succ count ih =>
    intro s hfilled hcount hreceived
    have hlt : s.pointIndexSent < s.trajectory.length := by
      rw [hfilled.length]
      omega
    have hrow : s.trajectory[s.pointIndexSent]? = some s.trajectory[s.pointIndexSent] :=
      List.getElem?_eq_getElem hlt
    have hspline : g.spline? rig s.pointIndexSent
      = some (writer s.trajectory[s.pointIndexSent]) := by
      rw [Goal.spline?, hwriter, ← hfilled.rows _ (by omega), hrow]
      rfl
    have hstep : s.sendPoint writer s.pointIndexSent
        = { s.send (.point (writer s.trajectory[s.pointIndexSent])) with
            pointIndexSent := s.pointIndexSent + 1 } := by
      rw [Transfer.sendPoint, hrow]
    obtain ⟨points, hfold, hpoints⟩ :=
      ih (s := { s.send (.point (writer s.trajectory[s.pointIndexSent])) with
          pointIndexSent := s.pointIndexSent + 1 })
        ⟨hfilled.length, hfilled.rows, hfilled.lastTime⟩ (by dsimp only [Transfer.send]; omega)
        hreceived
    rw [List.range'_succ, List.foldl_cons, hstep]
    refine ⟨points ++ [.point (writer s.trajectory[s.pointIndexSent])], hfold.trans ?_,
      fun older hdelivered ↦ ?_⟩
    · simp [Transfer.send, add_assoc, add_comm 1]
    · have hlater := hpoints _ (hdelivered.point (hfilled.length ▸ hlt) hspline)
      simpa [Transfer.send, add_assoc, add_comm 1] using hlater

/-- All points that have come in go out. The vectors cannot be cleared here: they would have to be
empty, and a goal has points. -/
theorem Inv.flush (h : Inv rig known held s) : Inv rig known held s.flush := by
  rw [Transfer.flush]
  split_ifs with hflush
  · obtain ⟨hstarted, hle, hlt⟩ := hflush
    rcases held with _ | g
    · rw [Fresh.started h.holds] at hstarted
      cases hstarted
    · obtain ⟨hknown, hholds⟩ := h.holds
      have hfilled : Filled rig g s := by
        refine hholds.contents.resolve_right fun hcleared ↦ ?_
        have hpos := List.length_pos_iff.mpr hholds.sendable.1
        have hzero := hcleared.sent
        rw [hcleared.trajectory, List.length_nil] at hle
        omega
      have hfirst : s.trajectory.head? = g.row? rig 0 := by
        rw [List.head?_eq_getElem?]
        exact hfilled.rows 0 (by omega)
      rw [hfirst]
      split
      · -- the points cannot be written, and the transfer ends
        exact ⟨h.crashed, h.inOrder, (h.holds.settle (.inr (.inr rfl))).congr rfl, by simp,
          fun htrue ↦ (h.following htrue).imp fun _ hg ↦
            ⟨hg.active, hg.known, hg.sendable, by simp, by simp, by simp⟩⟩
      · next writer hwriter =>
        obtain ⟨points, hfold, hpoints⟩ :=
          hfilled.sendPoints hwriter (s.pointIndexReceived - s.pointIndexSent) (by omega)
            hholds.received_le
        have hdelivered := hpoints s.sent (hholds.started hstarted)
        rw [hfold]
        refine ⟨h.crashed, fun n qs hqs ↦ ?_, ⟨hknown, hholds.sendable, hholds.received_le, ?_,
          .inl ⟨hfilled.length, hfilled.rows, hfilled.lastTime⟩, fun ht ↦ ?_,
          fun _ ↦ hdelivered, fun hfalse ↦ ?_⟩, fun hstate ↦ ?_, fun htrue ↦ ?_⟩
        · obtain ⟨ps, hbatch, -, hinOrder⟩ := hdelivered
          rw [hbatch] at hqs
          obtain ⟨rfl, rfl⟩ := Prod.mk.injEq _ _ _ _ ▸ Option.some.inj hqs
          exact ⟨g, hknown, hinOrder⟩
        · dsimp only
          omega
        · exact (hholds.offered ht).imp fun _ hp ↦ ⟨hp.point, hp.setpoint, hp.time⟩
        · rw [hstarted] at hfalse
          cases hfalse
        · exact (h.announced hstate).imp fun _ hg ↦ ⟨hg.known, hg.sendable, hg.size, hg.active⟩
        · exact (h.following htrue).imp fun _ hg ↦
            ⟨hg.active, hg.known, hg.sendable, hg.unstarted, hg.waiting, hg.transferring⟩
  · exact h

theorem Inv.write (h : Inv rig known held s) : ∃ held', Inv rig known held' (s.write rig) :=
  (h.send (batch_noop _)).handle.imp fun _ h' ↦ h'.flush

/-! ## Runs

`known` are the goals among the events of the run, so that the points are those of a goal that was
accepted in it. -/

/-- A goal that is taken on comes while nothing is being transferred, and covers the joints. -/
def TransferEvent.Careful (rig : Rig K) (s : Transfer K) : TransferEvent K → Prop
  | .accept g => s.trajectoryActive = false → checkGoal rig g = true →
      s.transferState = .idle ∧ g.Covers rig
  | _ => True

theorem Inv.step {event : TransferEvent K} (h : Inv rig known held s)
    (hcareful : event.Careful rig s) (hknown : ∀ g, event = .accept g → known g) :
    ∃ held', Inv rig known held' (s.step rig event) := by
  rcases event with g | - | env | - | failure
  · refine ⟨held, h.accept fun hinactive hcheck ↦ ?_⟩
    obtain ⟨hidle, hcovers⟩ := hcareful hinactive hcheck
    exact ⟨hidle, hknown g rfl, hcovers⟩
  · exact ⟨held, h.cancel⟩
  · exact ⟨held, h.update env⟩
  · exact h.write
  · exact ⟨held, h.trajectoryDone failure⟩

/-- Two points for the joints of an arm, in the order of the controller. -/
def twoPoints : Goal (Option ℚ) where
  jointNames := ["pan", "lift", "elbow", "wrist1", "wrist2", "wrist3"]
  points := [⟨[some 0, some 0, some 0, some 0, some 0, some 0], [], [], some 1⟩,
    ⟨[some 1, some 1, some 1, some 1, some 1, some 1], [], [], some 2⟩]
  goalTolerance := []

/-- The arm, at 500 Hz. -/
def arm : Rig (Option ℚ) :=
  ⟨!["pan", "lift", "elbow", "wrist1", "wrist2", "wrist3"], some (1 / 100)⟩

end VzletUr3e.Ur
