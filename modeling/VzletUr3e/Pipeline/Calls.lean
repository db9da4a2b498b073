import VzletUr3e.Library.StateError
import VzletUr3e.Pipeline.Gripper

/-!
# Gripper calls in one piece

In the pipeline `commandGripper` takes all that comes of a goal at once. A bench can play the same
step by step, with the same value returned and the same position kept, so what is said about the
runs of a bench is said about these calls (`gripper_true_iff`).
-/

namespace VzletUr3e.Pipeline

open Control PyFloat Runs StateError

variable {K : Type}

/-! ## The node -/

theorem run_ask {α : Type} (answers : ℕ → α) (w : World K) :
    ask answers w = .ok (answers w.requests) { w with requests := w.requests + 1 } := rfl

theorem run_emit (e : Event K) (w : World K) : emit e w = .ok () (w.emit e) := rfl

theorem run_raise {α : Type} (x : Except Raised α) (w : World K) :
    raise x w = match x with
      | .ok a => .ok a w
      | .error e => .error e w := by
  cases x <;> rfl

theorem run_get (w : World K) : (get : M K (World K)) w = .ok w w := rfl

/-! ## The bench -/

/-- The bench behind the acceptance of a new goal. -/
def Bench.awaiting (b : Bench K) (position : K) : Bench K :=
  { (b.send position).setGoal b.sent ⟨position, .executing, false⟩ with
    accepted := b.sent :: b.accepted, phase := .result b.sent }

theorem Bench.awaiting_goal (b : Bench K) (position : K) :
    (b.awaiting position).goal b.sent = ⟨position, .executing, false⟩ :=
  Bench.setGoal_self _ _ _

variable [PyFloat K] {cfg : Config K}

/-- The steps behind an accepted goal. -/
def GripperOutcome.resultEvents (answer : GripperOutcome) (id : ℕ) : List (GripperEvent K) :=
  match answer.getResult, answer.spinUntilComplete, answer.done, answer.result with
  | .error _, _, _, _ => [.raised]
  | .ok (), .error _, _, _ => [.raised]
  | .ok (), .ok (), false, _ => [.resultTimeout]
  | .ok (), .ok (), true, .error _ => [.raised]
  | .ok (), .ok (), true, .ok none => [.noneResult]
  | .ok (), .ok (), true, .ok (some status) => [.finish id status, .result]

/-- The steps behind a goal. -/
def GripperOutcome.events (answer : GripperOutcome) (id : ℕ) : List (GripperEvent K) :=
  match answer.send, waitTurns answer.wait.done answer.wait.turns, answer.handle with
  | .error _, _, _ => [.raised]
  | .ok (), .error _, _ => [.raised]
  | .ok (), .ok false, _ => [.acceptanceTimeout]
  | .ok (), .ok true, .error _ => [.raised]
  | .ok (), .ok true, .ok none => [.noneHandle]
  | .ok (), .ok true, .ok (some false) => [.reject id, .goalHandle]
  | .ok (), .ok true, .ok (some true) => .accept id :: .goalHandle :: answer.resultEvents id

/-- The steps one after the other, and what the last one returns. -/
def Bench.play (cfg : Config K) :
    List (GripperEvent K) → Bench K × Option (Returned K) → Option (Bench K × Option (Returned K))
  | [], s => some s
  | e :: events, s => s.1.step cfg e >>= play cfg events

/-- Both end with the same value, or an exception, and keep the same position. -/
def SameEnd (position : K) : EStateM.Result Raised (World K) Bool →
    Option (Bench K × Option (Returned K)) → Prop
  | .ok value w, some (b, r) =>
    r = some ⟨position, value⟩ ∧ b.lastGripperPosition = w.lastGripperPosition
  | .error _ w, some (b, r) => r = none ∧ b.lastGripperPosition = w.lastGripperPosition
  | _, none => False

section Play

variable (cfg : Config K) (b : Bench K) (position : K)

theorem Bench.play_reject :
    ∃ b', Bench.play cfg [.reject b.sent, .goalHandle] (b.send position, none) =
        some (b', some ⟨position, false⟩) ∧ b'.lastGripperPosition = b.lastGripperPosition := by
  simp [Bench.play, Bench.step, Bench.send, Bench.serve, Bench.setGoal, Bench.readHandle,
    Bench.conclude]

theorem Bench.play_accept (events : List (GripperEvent K)) :
    Bench.play cfg (.accept b.sent :: .goalHandle :: events) (b.send position, none) =
      Bench.play cfg events (b.awaiting position, none) := by
  simp [Bench.play, Bench.step, Bench.send, Bench.serve, Bench.setGoal, Bench.readHandle,
    Bench.awaiting]

theorem Bench.play_succeeded :
    ∃ b', Bench.play cfg [.finish b.sent statusSucceeded, .result] (b.awaiting position, none) =
        some (b', some ⟨position, true⟩) ∧ b'.lastGripperPosition = some position := by
  simp [Bench.play, Bench.step, Bench.send, Bench.serve, Bench.setGoal, Bench.readResult,
    Bench.awaiting, Bench.conclude]

theorem Bench.play_failed {status : ℤ} (h : status ≠ statusSucceeded) :
    ∃ b', Bench.play cfg [.finish b.sent status, .result] (b.awaiting position, none) =
        some (b', some ⟨position, false⟩) ∧ b'.lastGripperPosition = none := by
  simp [Bench.play, Bench.step, Bench.send, Bench.serve, Bench.setGoal, Bench.readResult,
    Bench.awaiting, Bench.conclude, h]

end Play

/-! ## Both -/

/-- The condition under which nothing is sent, as it stands in `commandGripper`. -/
def AtPosition (position : K) (last : Option K) : Prop :=
  last.any (fun last ↦ lt (PyFloat.abs (position - last)) (lit (1 / 100000))) = true

/-- A call for the position that is kept. -/
theorem played_kept (env : Env K) (use : GripperUse) {position : K} (classType : String)
    {w : World K} {b : Bench K} (hidle : b.phase = .idle)
    (hlast : b.lastGripperPosition = w.lastGripperPosition)
    (hkept : AtPosition position w.lastGripperPosition) :
    SameEnd position (commandGripper env cfg use position classType w)
      (Bench.play cfg [.call position classType none] (b, none)) := by
  have hclose : b.lastGripperPosition.any (closeTo position) = true := hlast ▸ hkept
  rw [AtPosition] at hkept
  simp only [commandGripper, step, bind_apply, run_get, if_pos hkept, Bench.play, Bench.step,
    Bench.command, hidle, if_pos hclose]
  exact ⟨rfl, hlast⟩

/-- A call for a class without positions. -/
theorem played_unknown (env : Env K) (use : GripperUse) {position : K} {classType : String}
    {w : World K} {b : Bench K} (hidle : b.phase = .idle)
    (hlast : b.lastGripperPosition = w.lastGripperPosition)
    (hkept : ¬ AtPosition position w.lastGripperPosition)
    (hclass : (cfg.getGripperPosition .closePose classType).isNone ∨
      (cfg.getGripperPosition .openPose classType).isNone) :
    SameEnd position (commandGripper env cfg use position classType w)
      (Bench.play cfg [.call position classType none] (b, none)) := by
  have hclose : ¬ b.lastGripperPosition.any (closeTo position) = true := hlast ▸ hkept
  rw [AtPosition] at hkept
  simp only [commandGripper, step, bind_apply, run_get, if_neg hkept, if_pos hclass, pure_apply,
    Bench.play, Bench.step, Bench.command, hidle, if_neg hclose]
  rw [if_pos ⟨rfl, hclass⟩]
  exact ⟨rfl, hlast⟩

/-- A goal that ends in another way. -/
theorem commandGripper_failed {env : Env K} (use : GripperUse) {position : K} {classType : String}
    {w : World K} (hkept : ¬ AtPosition position w.lastGripperPosition)
    (hclass : ¬ ((cfg.getGripperPosition .closePose classType).isNone ∨
      (cfg.getGripperPosition .openPose classType).isNone)) {wait : Wait} {status : ℤ}
    (hanswer : env.gripperGoal w.requests =
      ⟨⟨.ok (), wait, .ok (some true)⟩, .ok (), .ok (), true, .ok (some status)⟩)
    (hwait : waitTurns wait.done wait.turns = .ok true) (hstatus : status ≠ statusSucceeded) :
    ∃ w', commandGripper env cfg use position classType w = .ok false w' ∧
      w'.lastGripperPosition = none := by
  have hne : ¬ some status = some statusSucceeded := fun h ↦ hstatus (Option.some.inj h)
  rw [AtPosition] at hkept
  rw [commandGripper, step]
  simp only [bind_apply, run_get, if_neg hkept, if_neg hclass, run_ask, run_emit, awaitAcceptance,
    hanswer, run_raise, waitFuture]
  rw [hwait]
  simp only [bind_apply, run_raise, pure_apply, decide_true, not_true_eq_false, if_false,
    if_neg hne]
  exact ⟨_, rfl, rfl⟩

/-- A call that sends a goal, by what comes of it. -/
theorem played_sent {env : Env K} (use : GripperUse) {position : K} {classType : String}
    {w : World K} {b : Bench K} (hlast : b.lastGripperPosition = w.lastGripperPosition)
    (hkept : ¬ AtPosition position w.lastGripperPosition)
    (hclass : ¬ ((cfg.getGripperPosition .closePose classType).isNone ∨
      (cfg.getGripperPosition .openPose classType).isNone)) :
    SameEnd position (commandGripper env cfg use position classType w)
      (Bench.play cfg ((env.gripperGoal w.requests).events b.sent) (b.send position, none)) := by
  rw [AtPosition] at hkept
  rcases hanswer : env.gripperGoal w.requests with
    ⟨⟨send, wait, handle⟩, getResult, spin, done, result⟩
  simp only [commandGripper, step, bind_apply, run_get, if_neg hkept, if_neg hclass, run_ask,
    run_emit, awaitAcceptance, hanswer, run_raise, waitFuture]
  -- one case for each way the call ends, in the order of the source
  rcases send with e | u
  · exact ⟨rfl, hlast⟩
  rcases hwait : waitTurns wait.done wait.turns with e | _ | _
  · simp only [GripperOutcome.events, hwait]
    exact ⟨rfl, hlast⟩
  · simp only [GripperOutcome.events, hwait]
    refine ⟨?_, hlast⟩
    rw [Bench.send_goal_self]
  rcases handle with e | _ | _ | _
  · simp only [GripperOutcome.events, hwait]
    exact ⟨rfl, hlast⟩
  · simp only [GripperOutcome.events, hwait]
    refine ⟨?_, hlast⟩
    rw [Bench.send_goal_self]
  · obtain ⟨b', hplay, hb'⟩ := Bench.play_reject cfg b position
    simp only [GripperOutcome.events, hwait, hplay]
    exact ⟨rfl, hb'.trans hlast⟩
  have hevents : GripperOutcome.events (K := K)
      ⟨⟨.ok u, wait, .ok (some true)⟩, getResult, spin, done, result⟩ b.sent =
      .accept b.sent :: .goalHandle :: GripperOutcome.resultEvents
        ⟨⟨.ok u, wait, .ok (some true)⟩, getResult, spin, done, result⟩ b.sent := by
    simp only [GripperOutcome.events, hwait]
  rw [hevents, Bench.play_accept]
  -- what is left is the result, whose wait the node does not share
  rcases getResult with e | u
  · exact ⟨rfl, hlast⟩
  rcases spin with e | u
  · exact ⟨rfl, hlast⟩
  rcases done with _ | _
  · refine ⟨?_, hlast⟩
    rw [Bench.awaiting_goal]
  rcases result with e | _ | status
  · exact ⟨rfl, hlast⟩
  · refine ⟨?_, rfl⟩
    rw [Bench.awaiting_goal]
  change SameEnd position _ (Bench.play cfg [.finish b.sent status, .result]
    (b.awaiting position, none))
  by_cases hstatus : status = statusSucceeded
  · subst hstatus
    obtain ⟨b', hplay, hb'⟩ := Bench.play_succeeded cfg b position
    rw [hplay]
    exact ⟨rfl, hb'⟩
  · obtain ⟨b', hplay, hb'⟩ := Bench.play_failed cfg b position hstatus
    obtain ⟨w', hnode, hw'⟩ := commandGripper_failed use hkept hclass hanswer hwait hstatus
    simp only [commandGripper, step, bind_apply, run_get, if_neg hkept, if_neg hclass, run_ask,
      run_emit, awaitAcceptance, hanswer, run_raise, waitFuture] at hnode
    rw [hwait] at hnode
    rw [hplay]
    have hend : SameEnd position (.ok false w') (some (b', some ⟨position, false⟩)) :=
      ⟨rfl, hb'.trans hw'.symm⟩
    rw [← hnode] at hend
    exact hend

/-- **Calls in one piece.** Whatever the environment answers, a bench that keeps the same position
can take steps that return what `commandGripper` returns, and keep what it keeps. -/
theorem commandGripper_played (env : Env K) (cfg : Config K) (use : GripperUse) (position : K)
    (classType : String) {w : World K} {b : Bench K} (hidle : b.phase = .idle)
    (hlast : b.lastGripperPosition = w.lastGripperPosition) :
    ∃ events, SameEnd position (commandGripper env cfg use position classType w)
      (Bench.play cfg (.call position classType none :: events) (b, none)) := by
  by_cases hkept : AtPosition position w.lastGripperPosition
  · exact ⟨[], played_kept env use classType hidle hlast hkept⟩
  by_cases hclass : (cfg.getGripperPosition .closePose classType).isNone ∨
      (cfg.getGripperPosition .openPose classType).isNone
  · exact ⟨[], played_unknown env use hidle hlast hkept hclass⟩
  refine ⟨(env.gripperGoal w.requests).events b.sent, ?_⟩
  have hsend : b.step cfg (.call position classType none) = some (b.send position, none) := by
    have hclose : ¬ b.lastGripperPosition.any (closeTo position) = true := hlast ▸ hkept
    rw [Bench.step, hidle]
    dsimp only
    rw [Bench.command, if_neg hclose, if_neg fun h ↦ hclass h.2]
  rw [Bench.play, hsend]
  exact played_sent use hlast hkept hclass

/-! ## What `True` means -/

/-- **What `True` means.** Along every run, `command_gripper` returns `True` only with the last
accepted goal at the position and succeeded, if and only if this goal is never an abandoned one that
has not reached the position. The calls of the pipeline are such runs. -/
theorem gripper_true_iff (cfg : Config K) :
    (∀ events : List (GripperEvent K),
      Along (Bench.Next cfg) (TrueIsReached cfg) Bench.initial events ↔
        Along (Bench.Next cfg) (NotAbandoned cfg) Bench.initial events) ∧
      ∀ (env : Env K) use position classType (w : World K) (b : Bench K), b.phase = .idle →
        b.lastGripperPosition = w.lastGripperPosition →
        ∃ events, SameEnd position (commandGripper env cfg use position classType w)
          (Bench.play cfg (.call position classType none :: events) (b, none)) :=
  ⟨fun _ ↦ along_iff_along (fun _ e h ↦ trueIsReached_iff h e)
    (fun _ _ _ h _ ⟨_, hstep⟩ ↦ h.step hstep) Bench.inv_initial,
    fun env use position classType _ _ ↦ commandGripper_played env cfg use position classType⟩

/-! ## A late acceptance -/

/-- A call with a label for another position. -/
theorem Bench.step_call_send {b : Bench K} {position : K} (hidle : b.phase = .idle)
    (hkept : b.lastGripperPosition.any (closeTo position) = false) (classType label : String) :
    b.step cfg (.call position classType (some label)) = some (b.send position, none) := by
  rw [Bench.step, hidle]
  dsimp only
  rw [Bench.command, hkept, if_neg Bool.false_ne_true, if_neg fun h ↦ Bool.false_ne_true h.1]

/-- A call for the position that is kept. -/
theorem Bench.step_call_kept {b : Bench K} {position : K} (hidle : b.phase = .idle)
    (hkept : b.lastGripperPosition.any (closeTo position) = true) (classType label : String) :
    b.step cfg (.call position classType (some label)) = some (b, some ⟨position, true⟩) := by
  rw [Bench.step, hidle]
  dsimp only
  rw [Bench.command, if_pos hkept]

/-- The gripper closes (1). The goal to open it (0) is accepted when its call has given up. The call
to close it returns `True`, with the gripper about to open. -/
theorem late_goal_unnoticed :
    ¬ Along (Bench.Next Config.blank) (TrueIsReached Config.blank) (Bench.initial (K := ℝ))
      [.call 1 "body" (some "close"), .accept 0, .goalHandle, .finish 0 statusSucceeded, .result,
        .call 0 "body" (some "open"), .acceptanceTimeout, .accept 1,
        .call 1 "body" (some "close")] := by
  have hfar : closeTo (0 : ℝ) 1 = false := by
    refine lt_eq_false_iff.mpr ?_
    change (((1 / 100000 : ℚ)) : ℝ) ≤ |(0 : ℝ) - 1|
    norm_num
  have hnear : closeTo (1 : ℝ) 1 = true := by
    refine lt_eq_true_iff.mpr ?_
    change |(1 : ℝ) - 1| < (((1 / 100000 : ℚ)) : ℝ)
    norm_num
  intro h
  -- the first call closes the gripper
  have h := (along_cons_iff.mp h).2 _ ⟨_, Bench.step_call_send rfl rfl _ _⟩
  have h := (along_cons_iff.mp h).2 _ ⟨_, rfl⟩
  have h := (along_cons_iff.mp h).2 _ ⟨_, rfl⟩
  have h := (along_cons_iff.mp h).2 _ ⟨_, rfl⟩
  have h := (along_cons_iff.mp h).2 _ ⟨_, rfl⟩
  -- the second gives up before its goal is accepted
  have h := (along_cons_iff.mp h).2 _ ⟨_, Bench.step_call_send rfl (by exact hfar) _ _⟩
  have h := (along_cons_iff.mp h).2 _ ⟨_, rfl⟩
  have h := (along_cons_iff.mp h).2 _ ⟨_, rfl⟩
  obtain ⟨id, hhead, hreached⟩ :=
    (along_cons_iff.mp h).1 _ 1 (Bench.step_call_kept rfl (by exact hnear) "body" "close")
  cases hhead
  cases hreached.2

end VzletUr3e.Pipeline
