import VzletUr3e.Teleop.Frames

/-!
# The interlock

The arm is driven by twists in teleop mode and by `MoveGroup` goals in trajectory mode. Nothing in
the node keeps the two apart at one place: it follows from the order in which the menu, the session
and `stop` switch modes, set `in_teleop` and set the velocity.

The invariant `Inv` ties the flags to the view of the trace. It says little by itself; what is known
at a point of the program is an assertion `At C` about the view there. The timer may run at any
point, as the whole of `publish_servo_command`, and keeps all of them.
-/

namespace VzletUr3e.Teleop

open Control PyFloat StateError
open Pipeline (Raised)

variable {K : Type}

/-! ## The view of a trace -/

/-- What is kept of a trace. -/
structure View (K : Type) where
  inTeleop : Bool
  velocity : Twist K
  /-- The switch that was attempted last, and whether it has succeeded. -/
  lastSwitch : Option (Mode × Bool)
  /-- A switch to teleop mode has succeeded, and no switch has been attempted or requested since. -/
  ready : Bool

def View.observe (v : View K) : Event K → View K
  | .velocity twist => { v with velocity := twist }
  | .inTeleop value => { v with inTeleop := value }
  | .modeSwitch mode => { v with lastSwitch := some (mode, false), ready := false }
  | .switchRequest _ _ => { v with ready := false }
  | .modeSwitched mode ok =>
    { v with lastSwitch := some (mode, ok), ready := mode = .teleop ∧ ok = true }
  | _ => v

/-- `publish_servo_command` taken as one step of the timer. -/
def callbacks (ticks : ℕ → ℕ) : Schedule K := ⟨World.timerCallback, ticks⟩

/-- No loop goes on with the flag set. -/
def Parked (w : World K) : Prop := w.inTeleop = true → ¬ (w.running = true ∧ w.ok = true)

theorem closed_parked {ticks : ℕ → ℕ} (N : Event K → Prop) : Closed (callbacks ticks) N Parked where
  tick w hw := by
    change Parked w.timerCallback
    rw [World.timerCallback]
    split
    · exact hw
    · exact hw
  frame w w' _ hteleop _ _ hok hrunning hw hset hup :=
    hw (hteleop.symm.trans hset) ⟨hrunning hup.1, hok hup.2⟩
  emit _ _ _ hw := hw

variable [PyFloat K]

/-- When an event may come. -/
def Allowed (v : View K) : Event K → Prop
  | .velocity twist => v.inTeleop = false → twist = Twist.zero
  | .inTeleop _ => v.velocity = Twist.zero
  | .timerTwist _ => v.ready = true
  | .keyboardTwist _ _ => v.ready = true
  | .moveGoal _ => v.inTeleop = false ∧ v.lastSwitch = some (.trajectory, true)
  | _ => True

/-- The interlock as a monitor. -/
def interlock : Monitor (Event K) (View K) where
  start := ⟨false, Twist.zero, none, false⟩
  observe := View.observe
  Allowed := Allowed

/-- Out of teleop mode the velocity of a safe trace is zero. -/
theorem velocity_of_safe {trace : List (Event K)} (h : interlock.Safe trace)
    (hteleop : (interlock.view trace).inTeleop = false) :
    (interlock.view trace).velocity = Twist.zero := by
  induction trace with
  | nil => rfl
  | cons e older ih =>
    obtain ⟨hallowed, hsafe⟩ := Monitor.safe_cons.mp h
    cases e with
    | velocity twist => exact hallowed hteleop
    | inTeleop value => exact hallowed
    | timerTwist _ => exact ih hsafe hteleop
    | keyboardTwist _ _ => exact ih hsafe hteleop
    | stopped _ => exact ih hsafe hteleop
    | sessionEnded => exact ih hsafe hteleop
    | modeSwitch _ => exact ih hsafe hteleop
    | switchRequest _ _ => exact ih hsafe hteleop
    | modeSwitched _ _ => exact ih hsafe hteleop
    | moveGoal _ => exact ih hsafe hteleop
    | gripperGoal _ => exact ih hsafe hteleop

/-! ## The invariant -/

/-- The trace is safe, the view of it is what the variables say, and a twist may be published
whenever the flag is set. -/
structure Inv (w : World K) : Prop where
  safe : interlock.Safe w.trace
  inTeleop : (interlock.view w.trace).inTeleop = w.inTeleop
  velocity : (interlock.view w.trace).velocity = w.currentTwist
  ready : (interlock.view w.trace).inTeleop = true → (interlock.view w.trace).ready = true

/-- The invariant, with something known about the view. -/
def At (C : View K → Prop) (w : World K) : Prop := Inv w ∧ C (interlock.view w.trace)

theorem At.mono {C C' : View K → Prop} {w : World K} (h : At C w) (hC : ∀ v, C v → C' v) :
    At C' w := ⟨h.1, hC _ h.2⟩

/-- An event with all that it changes. -/
theorem At.step {C : View K → Prop} {w : World K} {e : Event K} (h : At C w) (w' : World K)
    (htrace : w'.trace = e :: w.trace) (hallowed : Allowed (interlock.view w.trace) e)
    (hteleop : ((interlock.view w.trace).observe e).inTeleop = w'.inTeleop)
    (hvelocity : ((interlock.view w.trace).observe e).velocity = w'.currentTwist)
    (hready : w'.inTeleop = true → ((interlock.view w.trace).observe e).ready = true) :
    At (fun v ↦ ∃ u, C u ∧ v = u.observe e) w' := by
  have hview : interlock.view w'.trace = (interlock.view w.trace).observe e := by
    rw [htrace]
    rfl
  refine ⟨⟨?_, ?_, ?_, ?_⟩, _, h.2, hview⟩
  · rw [htrace]
    exact ⟨hallowed, h.1.safe⟩
  · rw [hview]
    exact hteleop
  · rw [hview]
    exact hvelocity
  · rw [hview, hteleop]
    exact hready

/-- The events that fit an assertion: they may come, and change nothing that it depends on. -/
def Fits (N : Event K → Prop) (C : View K → Prop) : Prop :=
  ∀ v e, N e → C v → Allowed v e ∧ (v.observe e).inTeleop = v.inTeleop ∧
    (v.observe e).velocity = v.velocity ∧
    (v.inTeleop = true → v.ready = true → (v.observe e).ready = true) ∧ C (v.observe e)

theorem At.emit {N : Event K → Prop} {C : View K → Prop} (hN : Fits N C) {w : World K}
    {e : Event K} (he : N e) (h : At C w) : At C (w.emit e) := by
  obtain ⟨hallowed, hteleop, hvelocity, hready, hC⟩ := hN _ e he h.2
  have hflag : w.inTeleop = (interlock.view w.trace).inTeleop := h.1.inTeleop.symm
  have hstep := h.step (w.emit e) rfl hallowed (hteleop.trans h.1.inTeleop)
    (hvelocity.trans h.1.velocity) fun hset ↦ hready (hflag.symm.trans hset)
      (h.1.ready (hflag.symm.trans hset))
  exact ⟨hstep.1, hC⟩

/-- Twists may be published whenever the flag is set, and change nothing. -/
theorem At.twist {C : View K → Prop} {w : World K} (h : At C w) (hset : w.inTeleop = true)
    {e : Event K} (he : IsTwist e) : At C (w.emit e) := by
  have hready := h.1.ready (h.1.inTeleop.trans hset)
  obtain ⟨twist, he⟩ := he
  have hsame : Allowed (interlock.view w.trace) e ∧
      (interlock.view w.trace).observe e = interlock.view w.trace := by
    cases e with
    | timerTwist _ => exact ⟨hready, rfl⟩
    | keyboardTwist _ _ => exact ⟨hready, rfl⟩
    | _ => cases he
  have hstep := h.step (w.emit e) rfl hsame.1 (by rw [hsame.2]; exact h.1.inTeleop)
    (by rw [hsame.2]; exact h.1.velocity) fun _ ↦ by rw [hsame.2]; exact hready
  refine ⟨hstep.1, ?_⟩
  have hview : interlock.view (w.emit e).trace = interlock.view w.trace := hsame.2
  rw [hview]
  exact h.2

/-- The other variables do not matter. -/
theorem At.frame {C : View K → Prop} {w w' : World K} (h : At C w) (htrace : w'.trace = w.trace)
    (hteleop : w'.inTeleop = w.inTeleop) (htwist : w'.currentTwist = w.currentTwist) :
    At C w' := by
  refine ⟨⟨?_, ?_, ?_, ?_⟩, ?_⟩
  · rw [htrace]
    exact h.1.safe
  · rw [htrace, hteleop]
    exact h.1.inTeleop
  · rw [htrace, htwist]
    exact h.1.velocity
  · rw [htrace]
    exact h.1.ready
  · rw [htrace]
    exact h.2

/-- Every assertion is kept by the timer, and by the events that fit. -/
theorem closed_at {ticks : ℕ → ℕ} {N : Event K → Prop} {C : View K → Prop} (hN : Fits N C) :
    Closed (callbacks ticks) N (At C) where
  tick w hw := by
    change At C w.timerCallback
    rw [World.timerCallback]
    split
    · exact hw.twist ‹_› ⟨_, rfl⟩
    · exact hw
  frame _ _ htrace hteleop htwist _ _ _ hw := hw.frame htrace hteleop htwist
  emit _ _ he hw := hw.emit hN he

theorem at_true : At (K := K) (fun _ ↦ True) = Inv :=
  funext fun _ ↦ propext ⟨And.left, fun h ↦ ⟨h, trivial⟩⟩

theorem closed_inv {ticks : ℕ → ℕ} : Closed (K := K) (callbacks ticks) (fun _ ↦ False) Inv :=
  at_true (K := K) ▸ closed_at fun _ _ he ↦ he.elim

/-! ## Publishing and setting -/

section Steps

variable {ticks : ℕ → ℕ} {C : View K → Prop} {E : Raised → World K → Prop}

theorem fits_none (C : View K → Prop) : Fits (fun _ ↦ False) C := fun _ _ he ↦ he.elim

/-- What asks the environment only keeps every assertion. -/
theorem Quiet.triple {α : Type} {x : M K α} (hx : Quiet (callbacks ticks) (fun _ ↦ False) x) :
    Triple (At C) x (fun _ ↦ At C) fun _ ↦ At C := hx _ (closed_at (fits_none C))

theorem triple_setVelocity {twist : Twist K}
    (hC : ∀ v, C v → v.inTeleop = false → twist = Twist.zero) :
    Triple (At C) (setVelocity (callbacks ticks) twist)
      (fun _ ↦ At fun v ↦ ∃ u, C u ∧ v = { u with velocity := twist }) E := by
  refine (closed_at (fits_none C)).act fun w hw ↦ ?_
  exact hw.step (e := .velocity twist) _ rfl (hC _ hw.2) hw.1.inTeleop rfl
    fun hset ↦ hw.1.ready (hw.1.inTeleop.trans hset)

theorem triple_setInTeleop {value : Bool}
    (hC : ∀ v, C v → v.velocity = Twist.zero ∧ (value = true → v.ready = true)) :
    Triple (At C) (setInTeleop (callbacks ticks) value)
      (fun _ ↦ At fun v ↦ ∃ u, C u ∧ v = { u with inTeleop := value }) E := by
  refine (closed_at (fits_none C)).act fun w hw ↦ ?_
  exact hw.step (e := .inTeleop value) _ rfl (hC _ hw.2).1 rfl hw.1.velocity (hC _ hw.2).2

theorem triple_publishServoCommand (env : Env K) :
    Triple (At C) (publishServoCommand (callbacks ticks) env) (fun _ ↦ At C) fun _ ↦ At C := by
  -- once the flag has been read, nobody else resets it
  have htest : Triple (At C) ((callbacks ticks).act fun w : World K ↦ (w.inTeleop, w))
      (fun set ↦ At fun v ↦ C v ∧ v.inTeleop = set) fun _ ↦ At C :=
    (closed_at (fits_none C)).act fun w hw ↦ ⟨hw.1, hw.2, hw.1.inTeleop⟩
  have hcopy : ∀ D : View K → Prop, Triple (At D)
      ((callbacks ticks).act fun w : World K ↦ (w.currentTwist, w)) (fun _ ↦ At D) fun _ ↦ At C :=
    fun D ↦ (closed_at (fits_none D)).act fun _ hw ↦ hw
  refine htest.bind fun set ↦ Triple.ite (fun _ ↦ ?_) fun hset ↦ (hcopy _).bind fun msg ↦ ?_
  · exact Triple.pure fun w hw ↦ hw.mono fun _ h ↦ h.1
  have hpublish : Triple (At fun v ↦ C v ∧ v.inTeleop = set)
      (do raise (← (callbacks ticks).ask env.publish)) (fun _ ↦ At fun v ↦ C v ∧ v.inTeleop = set)
      fun _ ↦ At C :=
    Quiet.askRaise.triple.mono (fun _ h ↦ h) (fun _ _ h ↦ h) fun _ _ h ↦ h.mono fun _ h ↦ h.1
  refine hpublish.bind fun _ ↦ (closed_at (fits_none _)).act fun w hw ↦ ?_
  have hflag : w.inTeleop = true := hw.1.inTeleop.symm.trans (hw.2.2.trans (not_not.mp hset))
  exact (hw.mono fun _ h ↦ h.1).twist hflag ⟨msg, rfl⟩

theorem triple_publishTimes (env : Env K) (n : ℕ) :
    Triple (At C) (publishTimes (callbacks ticks) env n) (fun _ ↦ At C) fun _ ↦ At C := by
  induction n with
  | zero => exact Triple.pure fun _ h ↦ h
  | succ n ih =>
    exact (triple_publishServoCommand env).bind fun _ ↦ Quiet.askRaise.triple.bind fun _ ↦ ih

/-- **The stop.** The velocity is zero afterwards, also when the publication fails. -/
theorem triple_publishStop (env : Env K) :
    Triple (At C) (publishStop (callbacks ticks) env)
      (fun _ ↦ At fun v ↦ ∃ u, C u ∧ v = { u with velocity := Twist.zero })
      fun _ ↦ At fun v ↦ ∃ u, C u ∧ v = { u with velocity := Twist.zero } := by
  refine (triple_setVelocity fun _ _ _ ↦ rfl).bind fun _ ↦ (triple_publishTimes env 5).bind
    fun _ ↦ ?_
  refine (closed_at (fits_none _)).act fun w hw ↦ ?_
  refine hw.emit (N := fun e ↦ ∃ copied, e = .stopped copied) ?_ ⟨_, rfl⟩
  rintro v _ ⟨copied, rfl⟩ hv
  exact ⟨trivial, rfl, rfl, fun _ h ↦ h, hv⟩

/-! ## Mode switches -/

/-- The arm stands still, out of teleop mode. -/
def Away (v : View K) : Prop := v.inTeleop = false ∧ v.velocity = Twist.zero

/-- The arm stands still, out of teleop mode, and the last switch was one to `mode`, which has
succeeded. -/
def Switched (mode : Mode) (v : View K) : Prop :=
  Away v ∧ v.lastSwitch = some (mode, true) ∧ (mode = .teleop → v.ready = true)

theorem fits_away : Fits (K := K) IsSwitchRequest Away := by
  intro v e he hv
  cases e with
  | switchRequest _ _ => exact ⟨trivial, rfl, rfl, fun hset ↦ by simp [hv.1] at hset, hv⟩
  | _ => exact he.elim

/-- A switch that returns `True` is the last one, and has succeeded. -/
theorem triple_attempt {mode : Mode} {x : M K Bool}
    (hx : Quiet (callbacks ticks) IsSwitchRequest x) :
    Triple (At Away) (attempt (callbacks ticks) mode x)
      (fun ok ↦ At fun v ↦ Away v ∧ (ok = true → Switched mode v)) fun _ ↦ At Away := by
  have hout : ∀ w : World K, At Away w → ¬ w.inTeleop = true := fun w hw hset ↦
    Bool.false_ne_true (hw.2.1.symm.trans (hw.1.inTeleop.trans hset))
  have hbegin : Triple (At Away) ((callbacks (K := K) ticks).note (.modeSwitch mode))
      (fun _ ↦ At Away) fun _ ↦ At Away := by
    refine (closed_at (fits_none _)).note fun w hw ↦ ?_
    have hstep := hw.step (w.emit (.modeSwitch mode)) rfl trivial hw.1.inTeleop hw.1.velocity
      fun hset ↦ (hout w hw hset).elim
    exact hstep.mono fun _ ⟨_, hu, hv⟩ ↦ hv ▸ hu
  refine hbegin.bind fun _ ↦ (hx _ (closed_at fits_away)).bind fun ok ↦ ?_
  refine ((closed_at (fits_none _)).note fun w hw ↦ ?_).bind fun _ ↦ Triple.pure fun _ h ↦ h
  have hstep := hw.step (w.emit (.modeSwitched mode ok)) rfl trivial hw.1.inTeleop
    hw.1.velocity fun hset ↦ (hout w hw hset).elim
  refine hstep.mono ?_
  rintro _ ⟨u, hu, rfl⟩
  refine ⟨hu, ?_⟩
  rintro rfl
  exact ⟨hu, rfl, fun hmode ↦ decide_eq_true ⟨hmode, rfl⟩⟩

theorem triple_switchToTrajectoryMode (env : Env K) (cfg : Config K) :
    Triple (At Away) (switchToTrajectoryMode (callbacks ticks) env cfg)
      (fun ok ↦ At fun v ↦ Away v ∧ (ok = true → Switched .trajectory v)) fun _ ↦ At Away :=
  triple_attempt (quiet_callSwitchController env _ _)

theorem triple_switchToTeleopMode (env : Env K) (cfg : Config K) :
    Triple (At Away) (switchToTeleopMode (callbacks ticks) env cfg)
      (fun ok ↦ At fun v ↦ Away v ∧ (ok = true → Switched .teleop v)) fun _ ↦ At Away := by
  refine triple_attempt ((quiet_callSwitchController env _ _).bind fun _ ↦ ?_)
  exact Quiet.ite (Quiet.pure _) (quiet_setServoCommandType env)

/-! ## The session -/

/-- What is known in the session: nothing but the flag. -/
def Live (v : View K) : Prop := v.inTeleop = true

/-- The arm stands still. -/
def Stopped (v : View K) : Prop := v.velocity = Twist.zero

theorem triple_toggleGripper (env : Env K) (cfg : Config K) :
    Triple (At C) (toggleGripper (callbacks ticks) env cfg) (fun _ ↦ At C) fun _ ↦ At C := by
  refine quiet_toggleGripper env cfg _ (closed_at ?_)
  intro v e he hv
  cases e with
  | gripperGoal _ => exact ⟨trivial, rfl, rfl, fun _ h ↦ h, hv⟩
  | _ => exact he.elim

/-- The stop of a session, which goes on. -/
theorem triple_publishStop_live (env : Env K) :
    Triple (At Live) (publishStop (callbacks ticks) env) (fun _ ↦ At fun v ↦ Live v ∧ Stopped v)
      fun _ ↦ At fun v ↦ Live v ∧ Stopped v := by
  have hlive : ∀ w : World K,
      At (fun v ↦ ∃ u : View K, Live u ∧ v = { u with velocity := Twist.zero }) w →
      At (fun v ↦ Live v ∧ Stopped v) w := by
    intro w hw
    refine hw.mono ?_
    rintro _ ⟨u, hu, rfl⟩
    exact ⟨hu, rfl⟩
  exact (triple_publishStop env).mono (fun _ h ↦ h) (fun _ ↦ hlive) fun _ ↦ hlive

/-- **A key** may come whenever the flag is set. Whether it is set afterwards depends on the key. -/
theorem triple_handleKey (env : Env K) (cfg : Config K) (key : Option Char) :
    Triple (At Live) (handleKey (callbacks ticks) env cfg key) (fun _ ↦ Inv) fun _ ↦ Inv := by
  have hset : ∀ twist : Twist K, Triple (At Live) (setVelocity (callbacks ticks) twist)
      (fun _ ↦ Inv) fun _ ↦ Inv := by
    refine fun twist ↦ (triple_setVelocity fun v hv hteleop ↦ ?_).imp_ok fun _ _ h ↦ h.1
    exact absurd (hv.symm.trans hteleop) Bool.noConfusion
  have hquiet : ∀ x : M K Unit, Quiet (callbacks ticks) (fun _ ↦ False) x →
      Triple (At Live) x (fun _ ↦ Inv) fun _ ↦ Inv :=
    fun x hx ↦ hx.triple.imp (fun _ _ h ↦ h.1) fun _ _ h ↦ h.1
  have hstop : ∀ x : M K Unit, Triple (At fun v : View K ↦ Live v ∧ Stopped v) x (fun _ ↦ Inv)
      (fun _ ↦ Inv) →
      Triple (At Live) (publishStop (callbacks ticks) env >>= fun _ ↦ x) (fun _ ↦ Inv)
        fun _ ↦ Inv :=
    fun x hx ↦ ((triple_publishStop_live env).imp (fun _ _ h ↦ h) fun _ _ h ↦ h.1).bind fun _ ↦ hx
  unfold handleKey
  dsimp only
  split
  -- the motion keys
  · exact hset _
  · exact hset _
  · exact hset _
  · exact hset _
  · exact hset _
  · exact hset _
  -- the gripper, the object, a photo, a pose
  · exact hstop _ ((triple_toggleGripper env cfg).imp (fun _ _ h ↦ h.1) fun _ _ h ↦ h.1)
  · exact hquiet _ quiet_toggleGraspObject
  · exact hquiet _ Quiet.askRaise
  · exact hstop _ ((quiet_savePoseToCsv env).triple.imp (fun _ _ h ↦ h.1) fun _ _ h ↦ h.1)
  -- the end of the session
  · exact hstop _ ((triple_setInTeleop fun v hv ↦ ⟨hv.2, Bool.noConfusion⟩).imp_ok fun _ _ h ↦ h.1)
  · exact Triple.throw fun _ h ↦ h.1
  · exact hset _

/-- **The loop of the session** keeps the invariant, by induction on the turns. -/
theorem triple_keyLoop (env : Env K) (cfg : Config K) (turns : List KeyTurn) :
    Triple Inv (keyLoop (callbacks ticks) env cfg turns) (fun _ w ↦ Inv w ∧ Parked w)
      fun _ ↦ Inv := by
  induction turns with
  | nil =>
    refine closed_inv.act fun w hw ↦ ⟨⟨hw.safe, hw.inTeleop, hw.velocity, hw.ready⟩, ?_⟩
    exact fun _ h ↦ Bool.false_ne_true h.2
  | cons turn turns ih =>
    have hget : Triple Inv (get : M K (World K)) (fun w w' ↦ Inv w' ∧ w = w') fun _ ↦ Inv :=
      fun _ hw ↦ ⟨hw, rfl⟩
    refine hget.bind fun w ↦ Triple.ite (fun hstop ↦ ?_) fun hgo ↦ ?_
    · refine Triple.pure ?_
      rintro _ ⟨hw, rfl⟩
      exact ⟨hw, fun hset hup ↦ hstop ⟨hup.1, hset, hup.2⟩⟩
    have hlive : Triple (fun w' ↦ Inv w' ∧ w = w') ((callbacks ticks).others)
        (fun _ ↦ At Live) fun _ ↦ Inv := by
      refine (closed_at (fits_none Live)).others.mono ?_ (fun _ _ h ↦ h) fun _ _ h ↦ h
      rintro _ ⟨hw, rfl⟩
      exact ⟨hw, hw.inTeleop.trans (not_not.mp hgo).2.1⟩
    have hraise : ∀ {α : Type} (x : Except Raised α), Triple (At Live) (raise x : M K α)
        (fun _ ↦ At Live) fun _ ↦ Inv :=
      fun x ↦ (triple_raise x).imp (fun _ _ h ↦ h) fun _ _ h ↦ h.1
    refine hlive.bind fun _ ↦ (hraise _).bind fun ready ↦ Triple.ite (fun _ ↦ ?_) fun _ ↦ ?_
    · exact (hraise _).bind fun key ↦ (triple_handleKey env cfg key).bind fun _ ↦ ih
    · exact ih.mono (fun _ h ↦ h.1) (fun _ _ h ↦ h) fun _ _ h ↦ h

/-- Behind a session the arm stands still, however it has ended. -/
theorem triple_leaveSession (env : Env K) :
    Triple Inv (leaveSession (callbacks ticks) env) (fun _ ↦ At Stopped) fun _ ↦ At Stopped := by
  have hstopped : ∀ w : World K,
      At (fun v ↦ ∃ u : View K, True ∧ v = { u with velocity := Twist.zero }) w → At Stopped w := by
    intro w hw
    refine hw.mono ?_
    rintro _ ⟨u, -, rfl⟩
    rfl
  have hended : Fits (K := K) (· = .sessionEnded) Stopped := by
    rintro v _ rfl hv
    exact ⟨trivial, rfl, rfl, fun _ h ↦ h, hv⟩
  rw [← at_true]
  refine ((triple_publishStop env).imp (fun _ ↦ hstopped) fun _ ↦ hstopped).bind fun _ ↦ ?_
  refine ((closed_at hended).note fun w hw ↦ hw.emit hended rfl).bind fun _ ↦ ?_
  exact Quiet.askRaise.triple

/-- The end of a session does not set the node going again. -/
theorem triple_leaveSession_parked (env : Env K) :
    Triple Parked (leaveSession (callbacks ticks) env) (fun _ ↦ Parked) fun _ ↦ Parked := by
  have hparked : Closed (K := K) (callbacks ticks) (fun _ ↦ False) Parked := closed_parked _
  have hstop : Triple Parked (publishStop (callbacks ticks) env) (fun _ ↦ Parked)
      fun _ ↦ Parked := by
    refine Triple.bind (Q := fun _ ↦ Parked) (hparked.act fun _ h ↦ h) fun _ ↦ ?_
    exact (quiet_publishTimes env 5 _ (closed_parked _)).bind fun _ ↦ hparked.act fun _ h ↦ h
  exact hstop.bind fun _ ↦ (hparked.note fun _ h ↦ h).bind fun _ ↦ Quiet.askRaise _ hparked

/-- What is known in front of a command: the arm stands still, and out of teleop mode if the menu
goes on. -/
def AtMenu (w : World K) : Prop := At Stopped w ∧ Parked w

theorem At.menu {w : World K} (h : At Away w) : AtMenu w := by
  refine ⟨h.mono fun _ hv ↦ hv.2, fun hset _ ↦ ?_⟩
  exact Bool.false_ne_true (h.2.1.symm.trans (h.1.inTeleop.trans hset))

theorem At.still {w : World K} (h : At Away w) : At Stopped w := h.mono fun _ hv ↦ hv.2

/-- A switch that must succeed for the rest to be run. -/
theorem triple_switched {mode : Mode} {x : M K Bool} {z : M K Unit}
    (hx : Triple (At Away) x (fun ok ↦ At fun v ↦ Away v ∧ (ok = true → Switched mode v))
      fun _ ↦ At Away)
    (hz : Triple (At (Switched mode)) z (fun _ ↦ AtMenu) fun _ ↦ At Stopped) :
    Triple (At Away) (x >>= fun ok ↦ if ¬ ok = true then pure () else z) (fun _ ↦ AtMenu)
      fun _ ↦ At Stopped := by
  refine (hx.imp (fun _ _ h ↦ h) fun _ _ h ↦ h.still).guard (fun w hw ↦ ?_) ?_
  · exact (hw.mono fun _ hv ↦ hv.1).menu
  · exact hz.mono (fun w hw ↦ hw.mono fun _ hv ↦ hv.2 rfl) (fun _ _ h ↦ h) fun _ _ h ↦ h

/-- **The session.** It begins and ends with the arm standing still. -/
theorem triple_enterTeleopMode (env : Env K) (cfg : Config K) (keys : List KeyTurn) :
    Triple (At Away) (enterTeleopMode (callbacks ticks) env cfg keys) (fun _ ↦ AtMenu)
      fun _ ↦ At Stopped := by
  have hloop : Triple Inv
      (tryCatch (keyLoop (callbacks ticks) env cfg keys) (stopRunning (callbacks ticks)))
      (fun _ w ↦ Inv w ∧ Parked w) fun _ ↦ Inv :=
    (triple_keyLoop env cfg keys).tryCatch fun e ↦ closed_inv.stopRunning e
  have hsession : Triple Inv (ensuring
      (tryCatch (keyLoop (callbacks ticks) env cfg keys) (stopRunning (callbacks ticks)))
      (leaveSession (callbacks ticks) env)) (fun _ ↦ AtMenu) fun _ ↦ At Stopped := by
    refine hloop.ensuring (fun _ ↦ ?_) fun _ ↦ triple_leaveSession env
    exact ((triple_leaveSession env).and (triple_leaveSession_parked env)).imp (fun _ _ h ↦ h)
      fun _ _ h ↦ h.1
  have hkeyboard : Triple (At fun v : View K ↦ Live v ∧ Stopped v)
      (do raise (← (callbacks ticks).ask env.enableKeyboardHotkeys))
      (fun _ ↦ At fun v ↦ Live v ∧ Stopped v) fun _ ↦ At fun v ↦ Live v ∧ Stopped v :=
    Quiet.askRaise.triple
  have hstart : Triple (At (Switched (K := K) .teleop)) (setInTeleop (callbacks ticks) true)
      (fun _ ↦ At Live) fun _ ↦ At Stopped := by
    refine (triple_setInTeleop fun v hv ↦ ⟨hv.1.2, fun _ ↦ hv.2.2 rfl⟩).imp_ok fun _ w hw ↦ ?_
    refine hw.mono ?_
    rintro _ ⟨u, -, rfl⟩
    rfl
  refine triple_switched (triple_switchToTrajectoryMode env cfg) ?_
  refine Triple.mono ?_ (fun w hw ↦ hw.mono fun _ hv ↦ hv.1) (fun _ _ h ↦ h) fun _ _ h ↦ h
  refine triple_switched (triple_switchToTeleopMode env cfg) (hstart.bind fun _ ↦ ?_)
  refine ((triple_publishStop_live env).imp (fun _ _ h ↦ h) ?_).bind fun _ ↦ ?_
  · exact fun _ _ h ↦ h.mono fun _ hv ↦ hv.2
  refine (hkeyboard.imp (fun _ _ h ↦ h.1) fun _ _ h ↦ ?_).bind fun _ ↦ hsession
  exact h.mono fun _ hv ↦ hv.2

/-! ## The menu -/

theorem fits_switched : Fits (K := K) IsMoveGoal (Switched .trajectory) := by
  intro v e he hv
  cases e with
  | moveGoal _ => exact ⟨⟨hv.1.1, hv.2.1⟩, rfl, rfl, fun _ h ↦ h, hv⟩
  | _ => exact he.elim

theorem triple_executeId (env : Env K) (cfg : Config K) (command : Poses.Str) :
    Triple (At Away) (executeId (callbacks ticks) env cfg command) (fun _ ↦ AtMenu)
      fun _ ↦ At Stopped := by
  have hquiet : ∀ {α : Type} {x : M K α}, Quiet (callbacks ticks) (fun _ ↦ False) x →
      Triple (At Away) x (fun _ ↦ At Away) fun _ ↦ At Stopped :=
    fun hx ↦ hx.triple.imp (fun _ _ h ↦ h) fun _ _ h ↦ h.still
  refine (hquiet (quiet_reloadPoses env cfg)).bind fun _ ↦ (hquiet Quiet.get).bind fun w ↦ ?_
  split
  · exact Triple.throw fun _ h ↦ h.still
  · exact Triple.pure fun _ h ↦ h.menu
  · refine triple_switched (triple_switchToTrajectoryMode env cfg) ?_
    refine Triple.bind (Q := fun _ ↦ At (Switched .trajectory)) ?_ fun _ ↦
      Triple.pure fun w hw ↦ (hw.mono fun _ hv ↦ hv.1).menu
    refine (quiet_executePose env cfg _ _ (closed_at fits_switched)).imp (fun _ _ h ↦ h) ?_
    exact fun _ _ h ↦ h.mono fun _ hv ↦ hv.1.2

theorem triple_handleCommand (env : Env K) (cfg : Config K) (command : Poses.Str)
    (keys : List KeyTurn) :
    Triple (At Away) (handleCommand (callbacks ticks) env cfg command keys) (fun _ ↦ AtMenu)
      fun _ ↦ At Stopped := by
  have hquiet : ∀ {x : M K Unit}, Quiet (callbacks ticks) (fun _ ↦ False) x →
      Triple (At Away) x (fun _ ↦ AtMenu) fun _ ↦ At Stopped :=
    fun hx ↦ hx.triple.imp (fun _ _ h ↦ h.menu) fun _ _ h ↦ h.still
  refine Triple.ite (fun _ ↦ Triple.pure fun _ h ↦ h.menu) fun _ ↦ ?_
  refine Triple.ite (fun _ ↦ hquiet (quiet_reloadPoses env cfg)) fun _ ↦ ?_
  refine Triple.ite (fun _ ↦ hquiet Quiet.askRaise) fun _ ↦ ?_
  refine Triple.ite (fun _ ↦ hquiet (quiet_savePoseToCsv env)) fun _ ↦ ?_
  refine Triple.ite (fun _ ↦ hquiet quiet_toggleGraspObject) fun _ ↦ ?_
  refine Triple.ite (fun _ ↦ triple_enterTeleopMode env cfg keys) fun _ ↦ ?_
  exact triple_executeId env cfg command

/-- **The menu**, by induction on the turns. -/
theorem triple_interactiveLoop (env : Env K) (cfg : Config K) (turns : List MenuTurn) :
    Triple AtMenu (interactiveLoop (callbacks ticks) env cfg turns) (fun _ ↦ At Stopped)
      fun _ ↦ At Stopped := by
  induction turns with
  | nil =>
    refine Triple.mono ((closed_at (fits_none Stopped)).act fun w hw ↦ ?_) (fun _ h ↦ h.1)
      (fun _ _ h ↦ h) fun _ _ h ↦ h
    exact hw.frame rfl rfl rfl
  | cons turn turns ih =>
    have hget : Triple AtMenu (get : M K (World K)) (fun w w' ↦ AtMenu w' ∧ w = w')
        fun _ ↦ At Stopped := fun _ hw ↦ ⟨hw, rfl⟩
    refine hget.bind fun w ↦ Triple.ite (fun _ ↦ Triple.pure fun _ h ↦ h.1.1) fun hgo ↦ ?_
    -- the menu goes on, so the flag is down, and the timer leaves it so
    have haway : Triple (fun w' ↦ AtMenu w' ∧ w = w') ((callbacks ticks).others) (fun _ ↦ At Away)
        fun _ ↦ At Stopped := by
      refine (closed_at (fits_none Away)).others.mono ?_ (fun _ _ h ↦ h) fun _ _ h ↦ h
      rintro _ ⟨hw, rfl⟩
      have hflag : w.inTeleop ≠ true := fun hset ↦ hw.2 hset (not_not.mp hgo)
      exact ⟨hw.1.1, hw.1.1.inTeleop.trans (Bool.eq_false_iff.mpr hflag), hw.1.2⟩
    refine haway.bind fun _ ↦ ?_
    dsimp only
    split
    · exact Triple.pure fun _ h ↦ h.still
    · exact Triple.pure fun _ h ↦ h.still
    · exact Triple.throw fun _ h ↦ h.still
    · refine Triple.ite (fun _ ↦ ?_) fun _ ↦ (triple_handleCommand env cfg _ _).bind fun _ ↦ ih
      exact (closed_at (fits_none Away)).act fun w hw ↦ hw.still.frame rfl rfl rfl

theorem triple_stop (env : Env K) :
    Triple (At Stopped) (stop (callbacks ticks) env) (fun _ ↦ Inv) fun _ ↦ Inv := by
  have hdown : Triple (At Stopped) ((callbacks ticks).act fun w : World K ↦
      ((), { w with running := false })) (fun _ ↦ At Stopped) fun _ ↦ Inv :=
    (closed_at (fits_none Stopped)).act fun w hw ↦ hw.frame rfl rfl rfl
  refine hdown.bind fun _ ↦ (triple_setInTeleop fun v hv ↦ ⟨hv, Bool.noConfusion⟩).bind fun _ ↦ ?_
  refine ((triple_publishStop env).imp (fun _ _ h ↦ h) fun _ _ h ↦ h.1).bind fun _ ↦ ?_
  exact Quiet.askRaise.triple.imp (fun _ _ h ↦ h.1) fun _ _ h ↦ h.1

/-- **The run.** -/
theorem triple_main (env : Env K) (cfg : Config K) (turns : List MenuTurn) :
    Triple AtMenu (main (callbacks ticks) env cfg turns) (fun _ ↦ Inv) fun _ ↦ Inv := by
  have hloop : Triple AtMenu (tryCatch (interactiveLoop (callbacks ticks) env cfg turns) shutDown)
      (fun _ ↦ At Stopped) fun _ ↦ At Stopped := by
    refine (triple_interactiveLoop env cfg turns).tryCatch fun e ↦ ?_
    cases e with
    | keyboardInterrupt => exact Triple.pure fun _ h ↦ h
    | exception => exact Triple.throw fun _ h ↦ h
  refine Triple.ensuring (hloop.ensuring (fun _ ↦ triple_stop env) fun _ ↦ triple_stop env) ?_ ?_
  · exact fun _ ↦ closed_inv.others
  · exact fun _ ↦ closed_inv.others

end Steps

theorem atMenu_initial (poses : List (Poses.Str × Poses.Pose K)) : AtMenu (World.initial poses) :=
  ⟨⟨⟨trivial, rfl, rfl, Bool.noConfusion⟩, rfl⟩, Bool.noConfusion⟩

/-- **The interlock.** In every run, a twist is published only when a switch to teleop mode has
succeeded and no switch has been attempted or requested since; a goal is sent only with `in_teleop`
down and a switch to trajectory mode, which has succeeded, as the last one attempted; and the
velocity is zero whenever `in_teleop` is down, in particular where a session sets it. The flag and
the velocity of the trace are those of the node. -/
theorem main_interlocked (ticks : ℕ → ℕ) (env : Env K) (cfg : Config K) (turns : List MenuTurn)
    (poses : List (Poses.Str × Poses.Pose K)) :
    let w := finalState (main (callbacks ticks) env cfg turns (World.initial poses))
    (∀ e twist older, e.published = some twist → e :: older <:+ w.trace →
      (interlock.view older).ready = true) ∧
    (∀ goal older, .moveGoal goal :: older <:+ w.trace →
      (interlock.view older).inTeleop = false ∧
      (interlock.view older).lastSwitch = some (.trajectory, true)) ∧
    (∀ older, older <:+ w.trace → (interlock.view older).inTeleop = false →
      (interlock.view older).velocity = Twist.zero) ∧
    (∀ older, .inTeleop true :: older <:+ w.trace →
      (interlock.view older).velocity = Twist.zero) ∧
    (interlock.view w.trace).inTeleop = w.inTeleop ∧
    (interlock.view w.trace).velocity = w.currentTwist := by
  intro w
  have hinv : Inv w := Triple.finalState (triple_main env cfg turns) (atMenu_initial poses)
  refine ⟨fun e twist older he h ↦ ?_, fun goal older h ↦ hinv.safe.allowed h, ?_, ?_,
    hinv.inTeleop, hinv.velocity⟩
  · have hallowed : Allowed (interlock.view older) e := hinv.safe.allowed h
    cases e with
    | timerTwist _ => exact hallowed
    | keyboardTwist _ _ => exact hallowed
    | _ => cases he
  · exact fun older h ↦ velocity_of_safe (hinv.safe.suffix h)
  · exact fun older h ↦ hinv.safe.allowed h

end VzletUr3e.Teleop
