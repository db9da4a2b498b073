import VzletUr3e.Teleop.Frames

/-!
# The timer between two steps

In the timer `publish_servo_command` is three steps: it tests `in_teleop`, copies the twist under
the lock, and publishes the copy when the lock is free again. The keyboard thread may run between
any two of them, so a twist that was copied before `publish_stop` may be published after it.

`stops` is what `publish_stop` is for. `calm` is the condition under which it does it: the timer
holds no copy of a motion when `publish_stop` publishes for the last time, nor when it returns.
Everything known at a point of the program is known as long as the run has been calm (`Calmly`).
-/

namespace VzletUr3e.Teleop

open Control PyFloat StateError
open Pipeline (Raised)

variable {K : Type}

/-! ## The steps of the timer

Between any two things that the keyboard thread does, `ticks` says how many steps the timer takes.
What it can do in one of them is said once (`timerStep_cases`), and every assertion that a step and
an event of no interest keep (`Closed`) is kept wherever the timer runs. -/

/-- `publish_servo_command` of the timer in its three steps. -/
def steps (ticks : ℕ → ℕ) : Schedule K := ⟨World.timerStep, ticks⟩

/-- What one step of the timer can do. -/
theorem timerStep_cases (w : World K) :
    w.timerStep = w ∨ w.timer = .idle ∧ w.timerStep = { w with timer := .tested } ∨
    w.timer = .tested ∧ w.timerStep = { w with timer := .copied w.currentTwist } ∨
    ∃ twist, w.timer = .copied twist ∧
      w.timerStep = { w.emit (.timerTwist twist) with timer := .idle } := by
  rw [World.timerStep]
  cases htimer : w.timer with
  | idle =>
    by_cases hset : w.inTeleop = true
    · exact .inr (.inl ⟨rfl, if_pos hset⟩)
    · exact .inl (if_neg hset)
  | tested => exact .inr (.inr (.inl ⟨rfl, rfl⟩))
  | copied twist => exact .inr (.inr (.inr ⟨twist, rfl, rfl⟩))

/-- The timer does not set the flag. -/
theorem closed_flag {ticks : ℕ → ℕ} (b : Bool) {N : Event K → Prop} :
    Closed (steps ticks) N fun w ↦ w.inTeleop = b where
  tick w hw := by
    change w.timerStep.inTeleop = b
    obtain h | ⟨-, h⟩ | ⟨-, h⟩ | ⟨twist, -, h⟩ := timerStep_cases w <;> rw [h] <;> exact hw
  frame _ _ _ hteleop _ _ _ _ hw := hteleop.trans hw
  emit _ _ _ hw := hw

/-! ## Neutral events

Switching controllers, moving along poses and closing the gripper have nothing to do with twists. So
most of the program is dealt with at once: what records neutral events only is `Quiet`. -/

/-- The events that have to do with neither twists nor the flag. -/
def Neutral : Event K → Prop
  | .modeSwitch _ => True
  | .switchRequest _ _ => True
  | .modeSwitched _ _ => True
  | .moveGoal _ => True
  | .gripperGoal _ => True
  | _ => False

/-- Nothing is known. -/
def Anywhere (_ : World K) : Prop := True

theorem closed_anywhere {ticks : ℕ → ℕ} : Closed (steps ticks) Neutral (Anywhere (K := K)) :=
  Closed.const True

theorem IsGripperGoal.neutral {e : Event K} (h : IsGripperGoal e) : Neutral e := by
  cases e <;> trivial

theorem IsMoveGoal.neutral {e : Event K} (h : IsMoveGoal e) : Neutral e := by
  cases e <;> trivial

theorem IsSwitchRequest.neutral {e : Event K} (h : IsSwitchRequest e) : Neutral e := by
  cases e <;> trivial

theorem quiet_attempt {ticks : ℕ → ℕ} {mode : Mode} {x : M K Bool}
    (hx : Quiet (steps ticks) Neutral x) :
    Quiet (steps ticks) Neutral (attempt (steps ticks) mode x) :=
  (Quiet.note trivial).bind fun _ ↦ hx.bind fun _ ↦ (Quiet.note trivial).bind fun _ ↦ Quiet.pure _

theorem quiet_switchToTrajectoryMode {ticks : ℕ → ℕ} (env : Env K) (cfg : Config K) :
    Quiet (steps ticks) Neutral (switchToTrajectoryMode (steps ticks) env cfg) :=
  quiet_attempt ((quiet_callSwitchController env _ _).mono fun _ ↦ IsSwitchRequest.neutral)

theorem quiet_switchToTeleopMode {ticks : ℕ → ℕ} (env : Env K) (cfg : Config K) :
    Quiet (steps ticks) Neutral (switchToTeleopMode (steps ticks) env cfg) := by
  refine quiet_attempt (Quiet.bind ?_ fun _ ↦ ?_)
  · exact (quiet_callSwitchController env _ _).mono fun _ ↦ IsSwitchRequest.neutral
  · exact Quiet.ite (Quiet.pure _) (quiet_setServoCommandType env)

theorem quiet_executeId {ticks : ℕ → ℕ} (env : Env K) (cfg : Config K) (command : Poses.Str) :
    Quiet (steps ticks) Neutral (executeId (steps ticks) env cfg command) := by
  refine (quiet_reloadPoses env cfg).bind fun _ ↦ Quiet.get.bind fun w ↦ ?_
  split
  · exact Quiet.throw _
  · exact Quiet.pure _
  · refine (quiet_switchToTrajectoryMode env cfg).bind fun _ ↦ Quiet.ite (Quiet.pure _) ?_
    refine Quiet.bind ?_ fun _ ↦ Quiet.pure _
    exact (quiet_executePose env cfg _).mono fun _ ↦ IsMoveGoal.neutral

variable [PyFloat K]

/-! ## What a stop is for

Two monitors watch the same run. `stops` refuses a run in which an arm moves that was stopped, and
`calm` one in which the timer holds a motion at a moment at which that would overtake the stop. -/

/-- There is no twist, or it does not move the arm. -/
def Still (twist : Option (Twist K)) : Prop := ∀ t, twist = some t → t = Twist.zero

theorem still_none : Still (none : Option (Twist K)) := by
  rintro _ ⟨⟩

structure StopView (K : Type) where
  /-- `publish_stop` has returned and no motion has been commanded since. -/
  stopped : Prop
  /-- The last twist that was published since the session began. -/
  lastTwist : Option (Twist K)

def StopView.observe (v : StopView K) : Event K → StopView K
  | .velocity twist => { v with stopped := v.stopped ∧ twist = Twist.zero }
  | .inTeleop true => { v with lastTwist := none }
  | .timerTwist twist => { v with lastTwist := some twist }
  | .keyboardTwist twist _ => { v with lastTwist := some twist }
  | .stopped _ => { v with stopped := True }
  | _ => v

/-- A twist behind a stop is zero, and so is the last one of a session. -/
def stops : Monitor (Event K) (StopView K) where
  start := ⟨False, none⟩
  observe := StopView.observe
  Allowed v e := match e with
    | .timerTwist twist => v.stopped → twist = Twist.zero
    | .keyboardTwist twist _ => v.stopped → twist = Twist.zero
    | .sessionEnded => Still v.lastTwist
    | _ => True

/-- Neither when `publish_stop` publishes for the last time nor when it returns has the timer copied
a motion that it has not published. The view is what the timer held at the last publication. -/
def calm : Monitor (Event K) (Option (Twist K)) where
  start := none
  observe held e := match e with
    | .velocity _ => none
    | .keyboardTwist _ copied => copied
    | _ => held
  Allowed held e := match e with
    | .stopped copied => Still held ∧ Still copied
    | _ => True

/-! ## Assertions of a calm run

The invariant is conditional (`Calmly`): it holds once the run up to here has been calm, and then
the arm is halted behind each stop. As the condition is part of the assertion, it is not asked of
the program but collected while its triples are put together, and a run that is not calm satisfies
them from then on. -/

/-- The velocity is zero, and so is what the timer holds. -/
def Halted (w : World K) : Prop := w.currentTwist = Twist.zero ∧ Still w.timer.twist

/-- The last twist was zero as well. -/
def Settled (w : World K) : Prop := Halted w ∧ Still (stops.view w.trace).lastTwist

/-- If the run has been calm, `publish_stop` has done what it is for, nothing moves behind it, and
`C`. -/
def Calmly (C : World K → Prop) (w : World K) : Prop :=
  calm.Safe w.trace →
    stops.Safe w.trace ∧ ((stops.view w.trace).stopped → Halted w) ∧ C w

theorem Calmly.mono {C C' : World K → Prop} {w : World K} (h : Calmly C w) (hC : C w → C' w) :
    Calmly C' w := fun hcalm ↦ ⟨(h hcalm).1, (h hcalm).2.1, hC (h hcalm).2.2⟩

/-- A step without an event. -/
theorem Calmly.quiet {C C' : World K → Prop} {w : World K} (h : Calmly C w) (w' : World K)
    (htrace : w'.trace = w.trace) (hhalted : Halted w → Halted w') (hC : C w → C' w') :
    Calmly C' w' := by
  intro hcalm
  rw [htrace] at hcalm ⊢
  obtain ⟨hsafe, hstopped, hw⟩ := h hcalm
  exact ⟨hsafe, fun hstop ↦ hhalted (hstopped hstop), hC hw⟩

/-- An event with all that it changes. -/
theorem Calmly.step {C C' : World K → Prop} {w : World K} {e : Event K} (h : Calmly C w)
    (w' : World K) (htrace : w'.trace = e :: w.trace)
    (hnext : calm.Allowed (calm.view w.trace) e → ((stops.view w.trace).stopped → Halted w) → C w →
      stops.Allowed (stops.view w.trace) e ∧
      (((stops.view w.trace).observe e).stopped → Halted w') ∧ C' w') : Calmly C' w' := by
  intro hcalm
  rw [htrace] at hcalm ⊢
  obtain ⟨hsafe, hhalted, hC⟩ := h hcalm.2
  obtain ⟨hallowed, hhalted', hC'⟩ := hnext hcalm.1 hhalted hC
  exact ⟨⟨hallowed, hsafe⟩, hhalted', hC'⟩

theorem Neutral.allowed {e : Event K} (he : Neutral e) (v : StopView K) : stops.Allowed v e := by
  cases e <;> trivial

theorem Neutral.observe {e : Event K} (he : Neutral e) (v : StopView K) : v.observe e = v := by
  cases e <;> first | rfl | exact he.elim

theorem Neutral.held {e : Event K} (he : Neutral e) (held : Option (Twist K)) :
    calm.observe held e = held := by
  cases e <;> first | rfl | exact he.elim

section Closed

variable {ticks : ℕ → ℕ}

/-- The velocity is set by the keyboard thread alone. -/
theorem closed_zero :
    Closed (steps ticks) Neutral fun w : World K ↦ w.currentTwist = Twist.zero where
  tick w hw := by
    change w.timerStep.currentTwist = Twist.zero
    obtain h | ⟨-, h⟩ | ⟨-, h⟩ | ⟨twist, -, h⟩ := timerStep_cases w <;> rw [h] <;> exact hw
  frame _ _ _ _ htwist _ _ _ hw := htwist.trans hw
  emit _ _ _ hw := hw

/-- A halted arm has the timer copy zeros. -/
theorem Halted.timerStep {w : World K} (h : Halted w) : Halted w.timerStep := by
  obtain hstep | ⟨-, hstep⟩ | ⟨-, hstep⟩ | ⟨twist, -, hstep⟩ := timerStep_cases w
  · rw [hstep]
    exact h
  · rw [hstep]
    exact ⟨h.1, still_none⟩
  · rw [hstep]
    refine ⟨h.1, ?_⟩
    rintro _ ⟨⟩
    exact h.1
  · rw [hstep]
    exact ⟨h.1, still_none⟩

theorem closed_halted : Closed (steps ticks) Neutral (Halted (K := K)) where
  tick _ hw := hw.timerStep
  frame _ _ _ _ htwist htimer _ _ hw := ⟨htwist.trans hw.1, htimer ▸ hw.2⟩
  emit _ _ _ hw := hw

theorem closed_settled : Closed (steps ticks) Neutral (Settled (K := K)) where
  tick w hw := by
    refine ⟨hw.1.timerStep, ?_⟩
    change Still (stops.view w.timerStep.trace).lastTwist
    obtain hstep | ⟨-, hstep⟩ | ⟨-, hstep⟩ | ⟨twist, htimer, hstep⟩ := timerStep_cases w
    · rw [hstep]
      exact hw.2
    · rw [hstep]
      exact hw.2
    · rw [hstep]
      exact hw.2
    · -- what is published is what was held
      rw [hstep]
      rintro _ ⟨⟩
      exact hw.1.2 twist (congrArg TimerPhase.twist htimer)
  frame w w' htrace hteleop htwist htimer hok hrunning hw :=
    ⟨closed_halted.frame (s := steps ticks) w w' htrace hteleop htwist htimer hok hrunning hw.1,
      htrace ▸ hw.2⟩
  emit w e he hw := by
    refine ⟨hw.1, ?_⟩
    change Still ((stops.view w.trace).observe e).lastTwist
    rw [he.observe]
    exact hw.2

/-- The condition at the return of `publish_stop` does not depend on what the timer does before. -/
theorem closed_held {A : World K → Prop} (hA : Closed (steps ticks) Neutral A) :
    Closed (steps ticks) Neutral fun w ↦ Still (calm.view w.trace) → A w where
  tick w hw := by
    have hview : calm.view w.timerStep.trace = calm.view w.trace := by
      obtain hstep | ⟨-, hstep⟩ | ⟨-, hstep⟩ | ⟨twist, -, hstep⟩ := timerStep_cases w <;>
        exact (congrArg (fun w ↦ calm.view w.trace) hstep).trans rfl
    intro hstill
    exact hA.tick w (hw (hview ▸ hstill))
  frame w w' htrace hteleop htwist htimer hok hrunning hw hstill :=
    hA.frame w w' htrace hteleop htwist htimer hok hrunning (hw (htrace ▸ hstill))
  emit w e he hw hstill := by
    have hview : calm.view (w.emit e).trace = calm.view w.trace := he.held _
    exact hA.emit w e he (hw (hview ▸ hstill))

/-- Whatever is closed is closed along calm runs. -/
theorem closed_calmly {C : World K → Prop} (hC : Closed (steps ticks) Neutral C) :
    Closed (steps ticks) Neutral (Calmly C) where
  tick w hw := by
    have hquiet : w.timerStep.trace = w.trace → Calmly C w.timerStep :=
      fun htrace ↦ hw.quiet _ htrace Halted.timerStep (hC.tick w)
    obtain hstep | ⟨-, hstep⟩ | ⟨-, hstep⟩ | ⟨twist, htimer, hstep⟩ := timerStep_cases w
    · exact hquiet (by rw [hstep])
    · exact hquiet (by rw [hstep])
    · exact hquiet (by rw [hstep])
    · refine hw.step (e := .timerTwist twist) _ (congrArg World.trace hstep) fun _ hhalted hC' ↦ ?_
      refine ⟨fun hstop ↦ ?_, fun hstop ↦ (hhalted hstop).timerStep, hC.tick w hC'⟩
      exact (hhalted hstop).2 twist (congrArg TimerPhase.twist htimer)
  frame w w' htrace hteleop htwist htimer hok hrunning hw :=
    hw.quiet w' htrace
      (closed_halted.frame (s := steps ticks) w w' htrace hteleop htwist htimer hok hrunning)
      (hC.frame w w' htrace hteleop htwist htimer hok hrunning)
  emit w e he hw := by
    refine hw.step (w.emit e) rfl fun _ hhalted hC' ↦ ⟨he.allowed _, ?_, hC.emit w e he hC'⟩
    rw [he.observe]
    exact hhalted

end Closed

/-! ## Setting and publishing

A stop sets the velocity to zero and publishes five times. In front of the first publication
(`Braking`) the timer may still hold a motion; behind it (`Braked`) the last twist is zero, unless a
motion is held over the publications. Whether one was held over the last of them is known to `calm`
only when the stop returns. -/

section Steps

variable {ticks : ℕ → ℕ} {C D D' : World K → Prop} {E : Raised → World K → Prop}

theorem Calmly.anywhere {w : World K} (h : Calmly C w) : Calmly Anywhere w := h.mono fun _ ↦ trivial

/-- What asks the environment and records neutral events keeps every assertion. -/
theorem Quiet.calmly {α : Type} {x : M K α} (hx : Quiet (steps ticks) Neutral x)
    (hC : Closed (steps ticks) Neutral C) :
    Triple (Calmly C) x (fun _ ↦ Calmly C) fun _ ↦ Calmly C := hx _ (closed_calmly hC)

theorem triple_setVelocity_calmly {twist : Twist K} (hC : Closed (steps ticks) Neutral C)
    (hD : ∀ w : World K, C w →
      D (({ w with currentTwist := twist } : World K).emit (.velocity twist))) :
    Triple (Calmly C) (setVelocity (steps ticks) twist) (fun _ ↦ Calmly D) E := by
  refine (closed_calmly hC).act fun w hw ↦
    hw.step (e := .velocity twist) _ rfl fun _ hhalted hC' ↦ ?_
  exact ⟨trivial, fun hstop ↦ ⟨hstop.2, (hhalted hstop.1).2⟩, hD w hC'⟩

theorem triple_setInTeleop_calmly {value : Bool} (hC : Closed (steps ticks) Neutral C)
    (hD : ∀ w : World K, C w →
      D (({ w with inTeleop := value } : World K).emit (.inTeleop value))) :
    Triple (Calmly C) (setInTeleop (steps ticks) value) (fun _ ↦ Calmly D) E := by
  refine (closed_calmly hC).act fun w hw ↦
    hw.step (e := .inTeleop value) _ rfl fun _ hhalted hC' ↦ ?_
  refine ⟨trivial, fun hstop ↦ hhalted ?_, hD w hC'⟩
  cases value with
  | true => exact hstop
  | false => exact hstop

/-- **A publication** of the keyboard thread, which sends a zero, or nothing if the flag is down. -/
theorem triple_publishServoCommand_calmly (env : Env K) (hD : Closed (steps ticks) Neutral D)
    (hzero : ∀ w, D w → w.currentTwist = Twist.zero) (hdown : ∀ w, D w → w.inTeleop = false → D' w)
    (hpublish : ∀ w, D w → D' (w.emit (.keyboardTwist Twist.zero w.timer.twist))) :
    Triple (Calmly D) (publishServoCommand (steps ticks) env) (fun _ ↦ Calmly D')
      fun _ ↦ Calmly Anywhere := by
  have htest : Triple (Calmly D) ((steps ticks).act fun w ↦ (w.inTeleop, w))
      (fun set w ↦ Calmly D w ∧ w.inTeleop = set) fun _ ↦ Calmly Anywhere :=
    (closed_calmly hD).act fun w hw ↦ ⟨hw, rfl⟩
  have hcopy : Triple (Calmly D) ((steps ticks).act fun w ↦ (w.currentTwist, w))
      (fun msg ↦ Calmly fun w ↦ D w ∧ msg = Twist.zero) fun _ ↦ Calmly Anywhere :=
    (closed_calmly hD).act fun w hw ↦ hw.mono fun h ↦ ⟨h, hzero w h⟩
  refine htest.bind fun set ↦ Triple.ite (fun hset ↦ ?_) fun _ ↦ ?_
  · refine Triple.pure fun w hw ↦ hw.1.mono fun h ↦ hdown w h ?_
    exact hw.2.trans (Bool.eq_false_iff.mpr hset)
  refine Triple.bind (hcopy.mono (fun _ h ↦ h.1) (fun _ _ h ↦ h) fun _ _ h ↦ h) fun msg ↦ ?_
  have hmsg := hD.and (Closed.const (msg = Twist.zero))
  have hsend : Quiet (steps ticks) (Neutral (K := K))
      (do raise (← (steps ticks).ask env.publish)) := Quiet.askRaise
  refine ((hsend.calmly hmsg).imp (fun _ _ h ↦ h) fun _ _ h ↦ h.anywhere).bind fun _ ↦ ?_
  refine (closed_calmly hmsg).act fun w hw ↦ ?_
  refine hw.step (e := .keyboardTwist msg w.timer.twist) _ rfl fun _ hhalted h ↦
    ⟨fun _ ↦ h.2, ?_, ?_⟩
  · exact hhalted
  · rw [h.2]
    exact hpublish w h.1

/-- Where a stop has to see to the last twist of the session: the flag is up, or all is settled. If
it need not (`¬ p`), nothing is known. -/
def Stoppable (p : Prop) (w : World K) : Prop := p → w.inTeleop = true ∨ Settled w

theorem closed_stoppable (p : Prop) : Closed (steps ticks) Neutral (Stoppable (K := K) p) :=
  Closed.imp p ((closed_flag true).or closed_settled)

/-- In front of the first publication of a stop. -/
def Braking (p : Prop) (w : World K) : Prop := w.currentTwist = Twist.zero ∧ Stoppable p w

/-- Behind it. -/
def Braked (p : Prop) (w : World K) : Prop :=
  w.currentTwist = Twist.zero ∧ (p → Still (calm.view w.trace) → Settled w)

theorem closed_braking (p : Prop) : Closed (steps ticks) Neutral (Braking (K := K) p) :=
  closed_zero.and (closed_stoppable p)

theorem closed_braked (p : Prop) : Closed (steps ticks) Neutral (Braked (K := K) p) :=
  closed_zero.and (Closed.imp p (closed_held closed_settled))

/-- A zero that is published while nothing is held settles the arm. -/
theorem braked_publish {p : Prop} {w : World K} (hzero : w.currentTwist = Twist.zero) :
    Braked p (w.emit (.keyboardTwist Twist.zero w.timer.twist)) := by
  refine ⟨hzero, fun _ hheld ↦ ⟨⟨hzero, hheld⟩, ?_⟩⟩
  rintro _ ⟨⟩
  rfl

/-- The first publication. Where the flag is down there is none, and nothing has to be settled. -/
theorem triple_publish_braking (env : Env K) (p : Prop) :
    Triple (Calmly (Braking p)) (publishServoCommand (steps ticks) env) (fun _ ↦ Calmly (Braked p))
      fun _ ↦ Calmly Anywhere := by
  refine triple_publishServoCommand_calmly env (closed_braking p) (fun _ h ↦ h.1) ?_
    fun w h ↦ braked_publish h.1
  rintro w ⟨hzero, hstoppable⟩ hdown
  refine ⟨hzero, fun hp _ ↦ (hstoppable hp).resolve_left ?_⟩
  exact fun hup ↦ Bool.false_ne_true (hdown.symm.trans hup)

/-- The pause between two publications. -/
theorem triple_sleep_braked (env : Env K) (p : Prop) :
    Triple (Calmly (Braked p)) (do raise (← (steps ticks).ask env.sleep) : M K Unit)
      (fun _ ↦ Calmly (Braked p)) fun _ ↦ Calmly Anywhere :=
  (Quiet.askRaise.calmly (closed_braked p)).imp (fun _ _ h ↦ h) fun _ _ h ↦ h.anywhere

theorem triple_publishTimes_braked (env : Env K) (p : Prop) (n : ℕ) :
    Triple (Calmly (Braked p)) (publishTimes (steps ticks) env n) (fun _ ↦ Calmly (Braked p))
      fun _ ↦ Calmly Anywhere := by
  induction n with
  | zero => exact Triple.pure fun _ h ↦ h
  | succ n ih =>
    -- each publication is braked anew, whatever the timer did before
    refine Triple.bind ?_ fun _ ↦ (triple_sleep_braked env p).bind fun _ ↦ ih
    exact triple_publishServoCommand_calmly env (closed_braked p) (fun _ h ↦ h.1) (fun _ h _ ↦ h)
      fun w h ↦ braked_publish h.1

/-- **The stop** of a calm run leaves the arm halted, and the last twist zero if it had to. -/
theorem triple_publishStop_calmly (env : Env K) (p : Prop) :
    Triple (Calmly (Stoppable p)) (publishStop (steps ticks) env)
      (fun _ ↦ Calmly fun w ↦ p → Settled w) fun _ ↦ Calmly Anywhere := by
  have hset : Triple (Calmly (Stoppable (K := K) p)) (setVelocity (steps ticks) Twist.zero)
      (fun _ ↦ Calmly (Braking p)) fun _ ↦ Calmly Anywhere := by
    refine triple_setVelocity_calmly (closed_stoppable p) fun w h ↦ ⟨rfl, fun hp ↦ ?_⟩
    exact (h hp).imp id fun hs ↦ ⟨⟨rfl, hs.1.2⟩, hs.2⟩
  have htimes : Triple (Calmly (Braking p)) (publishTimes (steps ticks) env 5)
      (fun _ ↦ Calmly (Braked p)) fun _ ↦ Calmly Anywhere :=
    (triple_publish_braking env p).bind fun _ ↦ (triple_sleep_braked env p).bind fun _ ↦
      triple_publishTimes_braked env p 4
  refine hset.bind fun _ ↦ htimes.bind fun _ ↦ ?_
  -- the run has been calm up to here only if nothing was held
  refine (closed_calmly (closed_braked p)).act fun w hw ↦ ?_
  refine hw.step (e := .stopped w.timer.twist) _ rfl fun hcalm _ h ↦
    ⟨trivial, fun _ ↦ ?_, fun hp ↦ ?_⟩
  · exact ⟨h.1, hcalm.2⟩
  · exact h.2 hp hcalm.1

/-! ## The session -/

/-- Where a key may come or the session may end: the flag is up, or all is settled. -/
def InSession (w : World K) : Prop := w.inTeleop = true ∨ Settled w

theorem closed_inSession : Closed (steps ticks) Neutral (InSession (K := K)) :=
  (closed_flag true).or closed_settled

/-- The stop of a session, which settles the arm or leaves the flag up. -/
theorem triple_publishStop_session (env : Env K) :
    Triple (Calmly InSession) (publishStop (steps ticks) env) (fun _ ↦ Calmly Settled)
      fun _ ↦ Calmly Anywhere :=
  (triple_publishStop_calmly env True).mono (fun _ hw ↦ hw.mono fun h _ ↦ h)
    (fun _ _ hw ↦ hw.mono fun h ↦ h trivial) fun _ _ h ↦ h

/-- A stop does not touch the flag. -/
theorem triple_publishStop_flag (env : Env K) (b : Bool) :
    Triple (fun w ↦ w.inTeleop = b) (publishStop (steps ticks) env) (fun _ w ↦ w.inTeleop = b)
      fun _ w ↦ w.inTeleop = b := by
  have hflag : Closed (K := K) (steps ticks) (fun _ ↦ False) fun w ↦ w.inTeleop = b := closed_flag b
  refine Triple.bind (Q := fun _ w ↦ w.inTeleop = b) (hflag.act fun _ h ↦ h) fun _ ↦ ?_
  exact (quiet_publishTimes env 5 _ (closed_flag b)).bind fun _ ↦ hflag.act fun _ h ↦ h

/-- The session goes on. -/
def Up (w : World K) : Prop := Calmly Anywhere w ∧ w.inTeleop = true

theorem Up.inSession {w : World K} (h : Up w) : Calmly InSession w := h.1.mono fun _ ↦ .inl h.2

theorem closed_up : Closed (steps ticks) Neutral (Up (K := K)) :=
  (closed_calmly closed_anywhere).and (closed_flag true)

/-- **A key** of a calm run. -/
theorem triple_handleKey_calmly (env : Env K) (cfg : Config K) (key : Option Char) :
    Triple Up (handleKey (steps ticks) env cfg key) (fun _ ↦ Calmly InSession)
      fun _ ↦ Calmly InSession := by
  have hsettled : ∀ w : World K, Calmly Settled w → Calmly InSession w := fun _ hw ↦ hw.mono .inr
  have hset : ∀ twist : Twist K, Triple Up (setVelocity (steps ticks) twist)
      (fun _ ↦ Calmly InSession) fun _ ↦ Calmly InSession := by
    intro twist
    have hup : Closed (steps ticks) Neutral fun w : World K ↦ w.inTeleop = true := closed_flag true
    -- a key is handled with the flag up, and a motion leaves it up
    have hset : Triple (Calmly fun w ↦ w.inTeleop = true) (setVelocity (steps ticks) twist)
        (fun _ ↦ Calmly fun w ↦ w.inTeleop = true) fun _ ↦ Calmly InSession :=
      triple_setVelocity_calmly hup fun _ h ↦ h
    exact hset.mono (fun w hw ↦ hw.1.mono fun _ ↦ hw.2) (fun _ w hw ↦ hw.mono .inl) fun _ _ h ↦ h
  have hquiet : ∀ x : M K Unit, Quiet (steps ticks) Neutral x →
      Triple Up x (fun _ ↦ Calmly InSession) fun _ ↦ Calmly InSession :=
    fun x hx ↦ (hx _ closed_up).imp (fun _ _ h ↦ h.inSession) fun _ _ h ↦ h.inSession
  have hstop : ∀ x : M K Unit, Triple (Calmly Settled) x (fun _ ↦ Calmly Settled)
      (fun _ ↦ Calmly Settled) →
      Triple Up (publishStop (steps ticks) env >>= fun _ ↦ x) (fun _ ↦ Calmly InSession)
        fun _ ↦ Calmly InSession := by
    refine fun x hx ↦ Triple.bind (Q := fun _ ↦ Calmly Settled) ?_ fun _ ↦
      hx.imp (fun _ ↦ hsettled) fun _ ↦ hsettled
    refine ((triple_publishStop_session env).and (triple_publishStop_flag env true)).mono ?_ ?_ ?_
    · exact fun w hw ↦ ⟨hw.inSession, hw.2⟩
    · exact fun _ _ h ↦ h.1
    · exact fun _ _ h ↦ Up.inSession h
  unfold handleKey
  dsimp only
  split
  -- the motion keys
  · exact hset _
  · exact hset _
  · exact hset _
  · exact hset _
  · exact hset _
  · exact hset _
  -- the gripper, the object, a photo, a pose
  · exact hstop _ (((quiet_toggleGripper env cfg).mono fun _ ↦ IsGripperGoal.neutral).calmly
      closed_settled)
  · exact hquiet _ quiet_toggleGraspObject
  · exact hquiet _ Quiet.askRaise
  · exact hstop _ ((quiet_savePoseToCsv env).calmly closed_settled)
  -- the end of the session
  · refine hstop _ (triple_setInTeleop_calmly closed_settled fun _ h ↦ h)
  · exact Triple.throw fun _ h ↦ h.inSession
  · exact hset _

/-- **The loop of the session**, by induction on the turns. -/
theorem triple_keyLoop_calmly (env : Env K) (cfg : Config K) (turns : List KeyTurn) :
    Triple (Calmly InSession) (keyLoop (steps ticks) env cfg turns) (fun _ ↦ Calmly InSession)
      fun _ ↦ Calmly InSession := by
  have hsession : Closed (steps ticks) Neutral (Calmly (InSession (K := K))) :=
    closed_calmly closed_inSession
  induction turns with
  | nil =>
    refine hsession.act fun w hw ↦ hsession.frame w _ rfl rfl rfl rfl ?_ id hw
    exact fun h ↦ absurd h Bool.false_ne_true
  | cons turn turns ih =>
    have hget : Triple (Calmly InSession) (get : M K (World K))
        (fun w w' ↦ Calmly InSession w' ∧ w = w') fun _ ↦ Calmly InSession := fun _ hw ↦ ⟨hw, rfl⟩
    refine hget.bind fun w ↦ Triple.ite (fun _ ↦ Triple.pure fun _ h ↦ h.1) fun hgo ↦ ?_
    -- the loop has seen the flag up, and others do not take it down
    have hup : Triple (fun w' ↦ Calmly InSession w' ∧ w = w') (steps ticks).others (fun _ ↦ Up)
        fun _ ↦ Calmly InSession := by
      refine closed_up.others.mono ?_ (fun _ _ h ↦ h) fun _ _ h ↦ h
      rintro _ ⟨hw, rfl⟩
      exact ⟨hw.anywhere, (not_not.mp hgo).2.1⟩
    have hraise : ∀ {α : Type} (x : Except Raised α), Triple Up (raise x : M K α) (fun _ ↦ Up)
        fun _ ↦ Calmly InSession :=
      fun x ↦ (triple_raise x).imp (fun _ _ h ↦ h) fun _ _ h ↦ h.inSession
    refine hup.bind fun _ ↦ (hraise _).bind fun ready ↦ Triple.ite (fun _ ↦ ?_) fun _ ↦ ?_
    · exact (hraise _).bind fun key ↦ (triple_handleKey_calmly env cfg key).bind fun _ ↦ ih
    · exact ih.mono (fun _ h ↦ h.inSession) (fun _ _ h ↦ h) fun _ _ h ↦ h

/-- The end of a session: the last twist was zero. -/
theorem triple_leaveSession_calmly (env : Env K) :
    Triple (Calmly InSession) (leaveSession (steps ticks) env) (fun _ ↦ Calmly Anywhere)
      fun _ ↦ Calmly Anywhere := by
  refine (triple_publishStop_session env).bind fun _ ↦ Triple.bind (Q := fun _ ↦ Calmly Anywhere) ?_
    fun _ ↦ Quiet.askRaise.calmly closed_anywhere
  refine (closed_calmly closed_settled).note fun w hw ↦ ?_
  exact hw.step (e := .sessionEnded) _ rfl fun _ hhalted h ↦ ⟨h.2, hhalted, trivial⟩

/-- **The session** of a calm run. -/
theorem triple_enterTeleopMode_calmly (env : Env K) (cfg : Config K) (keys : List KeyTurn) :
    Triple (Calmly Anywhere) (enterTeleopMode (steps ticks) env cfg keys) (fun _ ↦ Calmly Anywhere)
      fun _ ↦ Calmly Anywhere := by
  have hloop : Triple (Calmly InSession)
      (tryCatch (keyLoop (steps ticks) env cfg keys) (stopRunning (steps ticks)))
      (fun _ ↦ Calmly InSession) fun _ ↦ Calmly InSession :=
    (triple_keyLoop_calmly env cfg keys).tryCatch fun e ↦
      (closed_calmly closed_inSession).stopRunning e
  have hsession : Triple (Calmly InSession) (ensuring
      (tryCatch (keyLoop (steps ticks) env cfg keys) (stopRunning (steps ticks)))
      (leaveSession (steps ticks) env)) (fun _ ↦ Calmly Anywhere) fun _ ↦ Calmly Anywhere :=
    hloop.ensuring (fun _ ↦ triple_leaveSession_calmly env) fun _ ↦ triple_leaveSession_calmly env
  have hstart : Triple (Calmly Anywhere) (setInTeleop (steps ticks) true)
      (fun _ ↦ Calmly InSession) fun _ ↦ Calmly (Anywhere (K := K)) :=
    triple_setInTeleop_calmly closed_anywhere fun _ _ ↦ .inl rfl
  have hkeyboard : Triple (Calmly Settled)
      (do raise (← (steps ticks).ask env.enableKeyboardHotkeys) : M K Unit)
      (fun _ ↦ Calmly InSession) fun _ ↦ Calmly Anywhere :=
    (Quiet.askRaise.calmly closed_settled).imp (fun _ _ hw ↦ hw.mono .inr) fun _ _ h ↦ h.anywhere
  have hswitch : ∀ {x : M K Bool} {y : M K Unit}, Quiet (steps ticks) Neutral x →
      Triple (Calmly Anywhere) y (fun _ ↦ Calmly Anywhere) (fun _ ↦ Calmly Anywhere) →
      Triple (Calmly Anywhere) (x >>= fun ok ↦ if ¬ ok = true then pure () else y)
        (fun _ ↦ Calmly Anywhere) fun _ ↦ Calmly Anywhere :=
    fun hx hy ↦ (hx.calmly closed_anywhere).guard (fun _ h ↦ h) hy
  refine hswitch (quiet_switchToTrajectoryMode env cfg) ?_
  refine hswitch (quiet_switchToTeleopMode env cfg) (hstart.bind fun _ ↦ ?_)
  exact (triple_publishStop_session env).bind fun _ ↦ hkeyboard.bind fun _ ↦ hsession

/-! ## The menu

Outside of a session nothing is known of the twists, and nothing has to be. -/

/-- Of the commands, only `t` is not quiet. -/
theorem triple_handleCommand_calmly (env : Env K) (cfg : Config K) (command : Poses.Str)
    (keys : List KeyTurn) :
    Triple (Calmly Anywhere) (handleCommand (steps ticks) env cfg command keys)
      (fun _ ↦ Calmly Anywhere) fun _ ↦ Calmly Anywhere := by
  have hquiet : ∀ {x : M K Unit}, Quiet (steps ticks) Neutral x →
      Triple (Calmly Anywhere) x (fun _ ↦ Calmly Anywhere) fun _ ↦ Calmly Anywhere :=
    fun hx ↦ hx.calmly closed_anywhere
  refine Triple.ite (fun _ ↦ hquiet (Quiet.pure _)) fun _ ↦ ?_
  refine Triple.ite (fun _ ↦ hquiet (quiet_reloadPoses env cfg)) fun _ ↦ ?_
  refine Triple.ite (fun _ ↦ hquiet Quiet.askRaise) fun _ ↦ ?_
  refine Triple.ite (fun _ ↦ hquiet (quiet_savePoseToCsv env)) fun _ ↦ ?_
  refine Triple.ite (fun _ ↦ hquiet quiet_toggleGraspObject) fun _ ↦ ?_
  refine Triple.ite (fun _ ↦ triple_enterTeleopMode_calmly env cfg keys) fun _ ↦ ?_
  exact hquiet (quiet_executeId env cfg command)

/-- **The menu** of a calm run, by induction on the turns. -/
theorem triple_interactiveLoop_calmly (env : Env K) (cfg : Config K) (turns : List MenuTurn) :
    Triple (Calmly Anywhere) (interactiveLoop (steps ticks) env cfg turns)
      (fun _ ↦ Calmly Anywhere) fun _ ↦ Calmly Anywhere := by
  have hdown : ∀ f : World K → World K, (∀ w, (f w).trace = w.trace ∧ (f w).inTeleop = w.inTeleop ∧
      (f w).currentTwist = w.currentTwist ∧ (f w).timer = w.timer ∧
      ((f w).ok = true → w.ok = true) ∧ ((f w).running = true → w.running = true)) →
      Triple (Calmly Anywhere) ((steps ticks).act fun w ↦ ((), f w))
        (fun _ ↦ Calmly Anywhere) fun _ ↦ Calmly Anywhere :=
    fun f hf ↦ (Quiet.act hf).calmly closed_anywhere
  induction turns with
  | nil => exact hdown _ fun w ↦ ⟨rfl, rfl, rfl, rfl, fun h ↦ absurd h Bool.false_ne_true, id⟩
  | cons turn turns ih =>
    have hget : Triple (Calmly Anywhere) (get : M K (World K)) (fun _ ↦ Calmly Anywhere)
        fun _ ↦ Calmly Anywhere := fun _ hw ↦ hw
    refine hget.bind fun w ↦ Triple.ite (fun _ ↦ Triple.pure fun _ h ↦ h) fun _ ↦ ?_
    refine (Quiet.others.calmly closed_anywhere).bind fun _ ↦ ?_
    dsimp only
    split
    · exact Triple.pure fun _ h ↦ h
    · exact Triple.pure fun _ h ↦ h
    · exact Triple.throw fun _ h ↦ h
    · refine Triple.ite (fun _ ↦ ?_) fun _ ↦ ?_
      · exact hdown _ fun w ↦ ⟨rfl, rfl, rfl, rfl, id, fun h ↦ absurd h Bool.false_ne_true⟩
      · exact (triple_handleCommand_calmly env cfg _ _).bind fun _ ↦ ih

/-- The stop at the end of the program need not settle anything. -/
theorem triple_stop_calmly (env : Env K) :
    Triple (Calmly Anywhere) (stop (steps ticks) env) (fun _ ↦ Calmly Anywhere)
      fun _ ↦ Calmly Anywhere := by
  have hdown : Quiet (K := K) (steps ticks) Neutral
      ((steps ticks).act fun w ↦ ((), { w with running := false })) :=
    Quiet.act fun w ↦ ⟨rfl, rfl, rfl, rfl, id, fun h ↦ absurd h Bool.false_ne_true⟩
  have hflag : Triple (Calmly Anywhere) (setInTeleop (steps ticks) false)
      (fun _ ↦ Calmly (Anywhere (K := K))) fun _ ↦ Calmly Anywhere :=
    triple_setInTeleop_calmly closed_anywhere fun _ _ ↦ trivial
  have hstop : Triple (Calmly Anywhere) (publishStop (steps ticks) env) (fun _ ↦ Calmly Anywhere)
      fun _ ↦ Calmly Anywhere :=
    (triple_publishStop_calmly env False).mono (fun _ hw ↦ hw.mono fun _ ↦ False.elim)
      (fun _ _ h ↦ h.anywhere) fun _ _ h ↦ h
  refine (hdown.calmly closed_anywhere).bind fun _ ↦ hflag.bind fun _ ↦ hstop.bind fun _ ↦ ?_
  exact Quiet.askRaise.calmly closed_anywhere

/-- **The run.** -/
theorem triple_main_calmly (env : Env K) (cfg : Config K) (turns : List MenuTurn) :
    Triple (Calmly Anywhere) (main (steps ticks) env cfg turns) (fun _ ↦ Calmly Anywhere)
      fun _ ↦ Calmly Anywhere := by
  have hloop : Triple (Calmly Anywhere)
      (tryCatch (interactiveLoop (steps ticks) env cfg turns) shutDown)
      (fun _ ↦ Calmly Anywhere) fun _ ↦ Calmly Anywhere := by
    refine (triple_interactiveLoop_calmly env cfg turns).tryCatch fun e ↦ ?_
    cases e with
    | keyboardInterrupt => exact Triple.pure fun _ h ↦ h
    | exception => exact Triple.throw fun _ h ↦ h
  have hothers : Triple (Calmly Anywhere) (steps ticks).others (fun _ ↦ Calmly Anywhere)
      fun _ ↦ Calmly (Anywhere (K := K)) := (closed_calmly closed_anywhere).others
  refine Triple.ensuring (hloop.ensuring ?_ ?_) (fun _ ↦ hothers) fun _ ↦ hothers
  · exact fun _ ↦ triple_stop_calmly env
  · exact fun _ ↦ triple_stop_calmly env

end Steps

/-- Nothing was published yet. -/
theorem calmly_initial (poses : List (Poses.Str × Poses.Pose K)) :
    Calmly Anywhere (World.initial poses) := fun _ ↦ ⟨trivial, False.elim, trivial⟩

/-- **Stops that are not overtaken.** In a run in which the timer holds no copy of a motion when
`publish_stop` publishes for the last time, nor when it returns, no motion is published between the
return and the next motion that is commanded, and the last twist of every session is zero. -/
theorem nothing_behind_stop (ticks : ℕ → ℕ) (env : Env K) (cfg : Config K) (turns : List MenuTurn)
    (poses : List (Poses.Str × Poses.Pose K))
    (hcalm : calm.Safe
      (finalState (main (steps ticks) env cfg turns (World.initial poses))).trace) :
    let trace := (finalState (main (steps ticks) env cfg turns (World.initial poses))).trace
    (∀ e twist older, e.published = some twist → e :: older <:+ trace →
      (stops.view older).stopped → twist = Twist.zero) ∧
    ∀ older, .sessionEnded :: older <:+ trace → Still (stops.view older).lastTwist := by
  intro trace
  have hsafe : stops.Safe trace :=
    (Triple.finalState (triple_main_calmly env cfg turns) (calmly_initial poses) hcalm).1
  refine ⟨fun e twist older he h ↦ ?_, fun older h ↦ hsafe.allowed h⟩
  have hallowed : stops.Allowed (stops.view older) e := hsafe.allowed h
  cases e with
  | timerTwist _ =>
    cases he
    exact hallowed
  | keyboardTwist _ _ =>
    cases he
    exact hallowed
  | _ => cases he

/-! ## A session with one motion

The keys `w` and `t`. The timer's callback copies the motion of `w`, and is finished before the stop
of `t`, or comes to publish it when that stop has returned. -/

section Runs

variable {s : Schedule K} {env : Env K} {cfg : Config K}

/-- One key, with what others do before it. -/
theorem keyLoop_key (turns : List KeyTurn) {key : Option Char} {w w₁ w₂ : World K}
    (hgo : w.running = true ∧ w.inTeleop = true ∧ w.ok = true) (hothers : s.others w = .ok () w₁)
    (hkey : handleKey s env cfg key w₁ = .ok () w₂) :
    keyLoop s env cfg (⟨.ok true, .ok key⟩ :: turns) w = keyLoop s env cfg turns w₂ := by
  have hget : (get : M K (World K)) w = .ok w w := rfl
  rw [keyLoop, bind_of_ok hget]
  dsimp only
  rw [if_neg (not_not.mpr hgo), bind_of_ok hothers]
  exact bind_of_ok hkey

/-- A session in which nothing is thrown. -/
theorem enterTeleopMode_ok {keys : List KeyTurn} {w w₁ w₂ w₃ w₄ w₅ w₆ w₇ : World K}
    (htrajectory : switchToTrajectoryMode s env cfg w = .ok true w₁)
    (hteleop : switchToTeleopMode s env cfg w₁ = .ok true w₂)
    (hset : setInTeleop s true w₂ = .ok () w₃) (hstop : publishStop s env w₃ = .ok () w₄)
    (henable : (do raise (← s.ask env.enableKeyboardHotkeys) : M K Unit) w₄ = .ok () w₅)
    (hkeys : keyLoop s env cfg keys w₅ = .ok () w₆) (hleave : leaveSession s env w₆ = .ok () w₇) :
    enterTeleopMode s env cfg keys w = .ok () w₇ := by
  have hloop : (tryCatch (keyLoop s env cfg keys) (stopRunning s) : M K Unit) w₅ = .ok () w₆ := by
    change EStateM.tryCatch (keyLoop s env cfg keys) (stopRunning s) w₅ = _
    rw [EStateM.tryCatch, hkeys]
  have hsession : ensuring (tryCatch (keyLoop s env cfg keys) (stopRunning s)) (leaveSession s env)
      w₅ = .ok () w₇ := by
    rw [ensuring, hloop]
    dsimp only
    rw [hleave]
  refine (bind_of_ok htrajectory).trans ((bind_of_ok hteleop).trans ((bind_of_ok hset).trans ?_))
  exact (bind_of_ok hstop).trans ((bind_of_ok henable).trans hsession)

theorem handleCommand_t (keys : List KeyTurn) :
    handleCommand s env cfg "t".toList keys = enterTeleopMode s env cfg keys := by
  rw [handleCommand, if_neg (by decide), if_neg (by decide), if_neg (by decide), if_neg (by decide),
    if_neg (by decide), if_pos rfl]

theorem interactiveLoop_command (turns : List MenuTurn) {text : Poses.Str} {keys : List KeyTurn}
    {w w₁ w₂ : World K} (hgo : w.running = true ∧ w.ok = true) (hothers : s.others w = .ok () w₁)
    (hquit : ¬(Poses.strip text = "q".toList ∨ Poses.strip text = "quit".toList ∨
      Poses.strip text = "exit".toList))
    (hcommand : handleCommand s env cfg (Poses.strip text) keys w₁ = .ok () w₂) :
    interactiveLoop s env cfg (⟨.line text, keys⟩ :: turns) w =
      interactiveLoop s env cfg turns w₂ := by
  have hget : (get : M K (World K)) w = .ok w w := rfl
  rw [interactiveLoop, bind_of_ok hget]
  dsimp only
  rw [if_neg (not_not.mpr hgo), bind_of_ok hothers, if_neg hquit]
  exact bind_of_ok hcommand

/-- A run in which nothing is thrown. -/
theorem main_ok {turns : List MenuTurn} {w w₁ w₂ w₃ : World K}
    (hloop : interactiveLoop s env cfg turns w = .ok () w₁) (hstop : stop s env w₁ = .ok () w₂)
    (hothers : s.others w₂ = .ok () w₃) : main s env cfg turns w = .ok () w₃ := by
  have hcatch : (tryCatch (interactiveLoop s env cfg turns) shutDown : M K Unit) w = .ok () w₁ := by
    change EStateM.tryCatch (interactiveLoop s env cfg turns) shutDown w = _
    rw [EStateM.tryCatch, hloop]
  have hinner : ensuring (tryCatch (interactiveLoop s env cfg turns) shutDown) (stop s env) w =
      .ok () w₂ := by
    rw [ensuring, hcatch]
    dsimp only
    rw [hstop]
  rw [main, ensuring, hinner]
  dsimp only
  rw [hothers]

/-- A configuration in which nothing but the speed is of use. -/
def Config.ofSpeed (speed : K) : Config K :=
  { Pipeline.Config.blank with linearSpeed := speed, isdigit := fun _ ↦ false }

/-- A future that is done at the first look. -/
def promptWait : Wait := ⟨[⟨true, [], false, .ok ()⟩], true⟩

/-- A service that answers. -/
def served {α : Type} (answer : α) : ServiceCall α :=
  ⟨.ok true, .ok (), promptWait, .ok (some answer)⟩

/-- An environment that does what it is asked. -/
def Env.obliging : Env K where
  listControllers _ := served []
  switchController _ := served true
  servoCommandType _ := served true
  publish _ := .ok ()
  sleep _ := .ok ()
  enableKeyboardHotkeys _ := .ok ()
  restoreKeyboardHotkeys _ := .ok ()
  readCsv _ := .ok none
  captureDatasetPhoto _ := .ok ()
  finalizeDatasetArchive _ := .ok ()
  savePoseToCsv _ := .ok none
  gripper _ := ⟨true, false, .ok true, .ok ()⟩
  moveGroup _ := .ok true
  moveGoal _ := ⟨.ok (), promptWait, .ok none, .ok (), promptWait, .ok none⟩

end Runs

def keyPressed (key : Char) : KeyTurn := ⟨.ok true, .ok (some key)⟩

/-- The timer copies the motion when the stop begins (47), and publishes it at once or, if it is
late, when the stop has returned (74). -/
def motionTicks (late : Bool) (n : ℕ) : ℕ :=
  if n = 47 then (if late then 2 else 3) else if n = 74 then (if late then 1 else 0) else 0

def motionSchedule (late : Bool) : Schedule ℝ := steps (motionTicks late)

noncomputable def motionConfig : Config ℝ := Config.ofSpeed 1

noncomputable def motion : Twist ℝ := ⟨lit 0, 1, lit 0⟩

noncomputable def motionWorld (requests : ℕ) (trace : List (Event ℝ)) (inTeleop ok : Bool)
    (twist : Twist ℝ) : World ℝ := ⟨requests, trace, true, ok, inTeleop, twist, .idle, "body", []⟩

/-- The mode switches. -/
def switchTrace : List (Event ℝ) :=
  [.modeSwitched .teleop true, .switchRequest ["servo"] ["trajectory"], .modeSwitch .teleop,
    .modeSwitched .trajectory true, .switchRequest ["trajectory"] ["servo"],
    .modeSwitch .trajectory]

/-- The stop at the beginning of the session. -/
noncomputable def startTrace : List (Event ℝ) :=
  .stopped none :: (List.replicate 5 (.keyboardTwist Twist.zero none) ++
    .velocity Twist.zero :: .inTeleop true :: switchTrace)

/-- The stop of the key `t`. -/
noncomputable def stopTrace : Bool → List (Event ℝ)
  | true => .timerTwist motion :: .stopped (some motion) ::
      (List.replicate 5 (.keyboardTwist Twist.zero (some motion)) ++ [.velocity Twist.zero])
  | false => .stopped none :: (List.replicate 5 (.keyboardTwist Twist.zero none) ++
      [.velocity Twist.zero, .timerTwist motion])

/-- Both keys. -/
noncomputable def keysTrace (late : Bool) : List (Event ℝ) :=
  .inTeleop false :: (stopTrace late ++ .velocity motion :: startTrace)

/-- The session. -/
noncomputable def sessionTrace (late : Bool) : List (Event ℝ) :=
  .sessionEnded :: .stopped none :: .velocity Twist.zero :: keysTrace late

theorem handleKey_motion (late : Bool) :
    handleKey (motionSchedule late) Env.obliging motionConfig (some 'w')
      (motionWorld 45 startTrace true true Twist.zero) =
    .ok () (motionWorld 46 (.velocity motion :: startTrace) true true motion) := by
  cases late <;> rfl

theorem handleKey_leave (late : Bool) :
    handleKey (motionSchedule late) Env.obliging motionConfig (some 't')
      (motionWorld 47 (.velocity motion :: startTrace) true true motion) =
    .ok () (motionWorld 75 (keysTrace late) false true Twist.zero) := by
  cases late <;> rfl

theorem keyLoop_motion (late : Bool) :
    keyLoop (motionSchedule late) Env.obliging motionConfig [keyPressed 'w', keyPressed 't']
      (motionWorld 44 startTrace true true Twist.zero) =
    .ok () (motionWorld 76 (keysTrace late) false false Twist.zero) := by
  have hfirst : (motionSchedule late).others (motionWorld 44 startTrace true true Twist.zero) =
      .ok () (motionWorld 45 startTrace true true Twist.zero) := by
    cases late <;> rfl
  have hsecond : (motionSchedule late).others
      (motionWorld 46 (.velocity motion :: startTrace) true true motion) =
      .ok () (motionWorld 47 (.velocity motion :: startTrace) true true motion) := by
    cases late <;> rfl
  have hend : keyLoop (motionSchedule late) Env.obliging motionConfig []
      (motionWorld 75 (keysTrace late) false true Twist.zero) =
      .ok () (motionWorld 76 (keysTrace late) false false Twist.zero) := by
    cases late <;> rfl
  have hw := keyLoop_key [keyPressed 't'] ⟨rfl, rfl, rfl⟩ hfirst (handleKey_motion late)
  exact hw.trans ((keyLoop_key [] ⟨rfl, rfl, rfl⟩ hsecond (handleKey_leave late)).trans hend)

theorem enterTeleopMode_motion (late : Bool) :
    enterTeleopMode (motionSchedule late) Env.obliging motionConfig
      [keyPressed 'w', keyPressed 't'] (motionWorld 1 [] false true Twist.zero) =
    .ok () (motionWorld 90 (sessionTrace late) false false Twist.zero) := by
  have htrajectory : switchToTrajectoryMode (motionSchedule late) Env.obliging motionConfig
      (motionWorld 1 [] false true Twist.zero) =
      .ok true (motionWorld 7 (switchTrace.drop 3) false true Twist.zero) := by
    cases late <;> rfl
  have hteleop : switchToTeleopMode (motionSchedule late) Env.obliging motionConfig
      (motionWorld 7 (switchTrace.drop 3) false true Twist.zero) =
      .ok true (motionWorld 15 switchTrace false true Twist.zero) := by
    cases late <;> rfl
  have hset : setInTeleop (motionSchedule late) true
      (motionWorld 15 switchTrace false true Twist.zero) =
      .ok () (motionWorld 16 (.inTeleop true :: switchTrace) true true Twist.zero) := by
    cases late <;> rfl
  have hstop : publishStop (motionSchedule late) Env.obliging
      (motionWorld 16 (.inTeleop true :: switchTrace) true true Twist.zero) =
      .ok () (motionWorld 43 startTrace true true Twist.zero) := by
    cases late <;> rfl
  have henable : (do
      raise (← (motionSchedule late).ask (Env.obliging (K := ℝ)).enableKeyboardHotkeys))
      (motionWorld 43 startTrace true true Twist.zero) =
      .ok () (motionWorld 44 startTrace true true Twist.zero) := by
    cases late <;> rfl
  have hleave : leaveSession (motionSchedule late) Env.obliging
      (motionWorld 76 (keysTrace late) false false Twist.zero) =
      .ok () (motionWorld 90 (sessionTrace late) false false Twist.zero) := by
    cases late <;> rfl
  exact enterTeleopMode_ok htrajectory hteleop hset hstop henable (keyLoop_motion late) hleave

/-- The run. Behind the session the node is shut down. -/
noncomputable def motionRun (late : Bool) : EStateM.Result Raised (World ℝ) Unit :=
  main (motionSchedule late) Env.obliging motionConfig
    [⟨.line "t".toList, [keyPressed 'w', keyPressed 't']⟩] (World.initial [])

theorem motionRun_trace (late : Bool) : (finalState (motionRun late)).trace =
    .stopped none :: .velocity Twist.zero :: .inTeleop false :: sessionTrace late := by
  have hothers : (motionSchedule late).others (World.initial []) =
      .ok () (motionWorld 1 [] false true Twist.zero) := by
    cases late <;> rfl
  have hstrip : Poses.strip "t".toList = "t".toList := by decide
  have hcommand : handleCommand (motionSchedule late) Env.obliging motionConfig
      (Poses.strip "t".toList) [keyPressed 'w', keyPressed 't']
      (motionWorld 1 [] false true Twist.zero) =
      .ok () (motionWorld 90 (sessionTrace late) false false Twist.zero) := by
    rw [hstrip, handleCommand_t]
    exact enterTeleopMode_motion late
  have hdown : interactiveLoop (motionSchedule late) Env.obliging motionConfig []
      (motionWorld 90 (sessionTrace late) false false Twist.zero) =
      .ok () (motionWorld 91 (sessionTrace late) false false Twist.zero) := by
    cases late <;> rfl
  have hloop := (interactiveLoop_command [] ⟨rfl, rfl⟩ hothers (by decide) hcommand).trans hdown
  have hstop : ∃ w, stop (motionSchedule late) Env.obliging
      (motionWorld 91 (sessionTrace late) false false Twist.zero) = .ok () w ∧
      w.trace = .stopped none :: .velocity Twist.zero :: .inTeleop false :: sessionTrace late ∧
      (motionSchedule late).others w = .ok () { w with requests := w.requests + 1 } := by
    cases late <;> exact ⟨_, rfl, rfl, rfl⟩
  obtain ⟨w, hstop, htrace, hothers⟩ := hstop
  rw [motionRun, main_ok hloop hstop hothers]
  exact htrace

theorem motion_ne_zero : motion ≠ Twist.zero := by
  intro h
  have hy : (1 : ℝ) = ((0 : ℚ) : ℝ) := congrArg Twist.y h
  norm_num at hy

/-- If the callback is late, the motion is published behind the stop, and is the last twist of the
session. -/
theorem motion_behind_stop :
    (∃ older, .timerTwist motion :: older <:+ (finalState (motionRun true)).trace ∧
      (stops.view older).stopped ∧ motion ≠ Twist.zero) ∧
    ∃ older, .sessionEnded :: older <:+ (finalState (motionRun true)).trace ∧
      ¬ Still (stops.view older).lastTwist := by
  rw [motionRun_trace]
  let stopped : List (Event ℝ) := (stopTrace true).drop 1 ++ .velocity motion :: startTrace
  refine ⟨⟨stopped, ⟨[_, _, _, _, _, _, _], rfl⟩, ⟨trivial, motion_ne_zero⟩⟩, ?_⟩
  exact ⟨_, ⟨[_, _, _], rfl⟩, fun h ↦ motion_ne_zero (h motion rfl)⟩

/-- If it is not, there is nothing behind the stop. -/
theorem nothing_behind_stop_motion :
    (∀ e twist older, e.published = some twist →
      e :: older <:+ (finalState (motionRun false)).trace →
      (stops.view older).stopped → twist = Twist.zero) ∧
    ∀ older, .sessionEnded :: older <:+ (finalState (motionRun false)).trace →
      Still (stops.view older).lastTwist := by
  refine nothing_behind_stop (motionTicks false) Env.obliging motionConfig _ [] ?_
  have hnone : Still (none : Option (Twist ℝ)) ∧ Still (none : Option (Twist ℝ)) :=
    ⟨still_none, still_none⟩
  have htrace := motionRun_trace false
  rw [motionRun, motionSchedule] at htrace
  rw [htrace]
  have hstart : calm.Safe startTrace :=
    ⟨hnone, trivial, trivial, trivial, trivial, trivial, trivial, trivial, trivial, trivial,
      trivial, trivial, trivial, trivial, trivial⟩
  have hkeys : calm.Safe (keysTrace false) :=
    ⟨trivial, hnone, trivial, trivial, trivial, trivial, trivial, trivial, trivial, trivial, hstart⟩
  exact ⟨hnone, trivial, trivial, trivial, hnone, trivial, hkeys⟩

end VzletUr3e.Teleop
