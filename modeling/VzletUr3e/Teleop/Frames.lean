import VzletUr3e.Library.Monitor
import VzletUr3e.Teleop.Commander

/-!
# What the keyboard thread leaves alone

Most of what the keyboard thread does is of no concern to the flags of the interlock: it asks the
environment, lets the timer run, and may put some events on record. `Quiet N x` says that `x` is of
that kind, with events of `N` only. A quiet computation keeps every assertion that the timer and the
events of `N` keep (`Closed`).
-/

namespace VzletUr3e.Teleop

open Control PyFloat StateError
open Pipeline (Raised)

variable {K : Type} {s : Schedule K} {N : Event K → Prop}

/-! ## Assertions and quiet computations -/

/-- An assertion that depends on the trace and the shared variables only, may weaken when the node
goes down, and is kept by the timer and by events of `N`. -/
structure Closed (s : Schedule K) (N : Event K → Prop) (A : World K → Prop) : Prop where
  tick : ∀ w, A w → A (s.tick w)
  frame : ∀ w w' : World K, w'.trace = w.trace → w'.inTeleop = w.inTeleop →
    w'.currentTwist = w.currentTwist → w'.timer = w.timer →
    (w'.ok = true → w.ok = true) → (w'.running = true → w.running = true) → A w → A w'
  emit : ∀ w e, N e → A w → A (w.emit e)

/-- Whatever closed assertion holds before `x` holds after it. -/
def Quiet {α : Type} (s : Schedule K) (N : Event K → Prop) (x : M K α) : Prop :=
  ∀ A, Closed s N A → Triple A x (fun _ ↦ A) fun _ ↦ A

theorem Closed.and {A B : World K → Prop} (hA : Closed s N A) (hB : Closed s N B) :
    Closed s N fun w ↦ A w ∧ B w where
  tick w hw := ⟨hA.tick w hw.1, hB.tick w hw.2⟩
  frame w w' htrace hteleop htwist htimer hok hrunning hw :=
    ⟨hA.frame w w' htrace hteleop htwist htimer hok hrunning hw.1,
      hB.frame w w' htrace hteleop htwist htimer hok hrunning hw.2⟩
  emit w e he hw := ⟨hA.emit w e he hw.1, hB.emit w e he hw.2⟩

theorem Closed.or {A B : World K → Prop} (hA : Closed s N A) (hB : Closed s N B) :
    Closed s N fun w ↦ A w ∨ B w where
  tick w hw := hw.imp (hA.tick w) (hB.tick w)
  frame w w' htrace hteleop htwist htimer hok hrunning hw :=
    hw.imp (hA.frame w w' htrace hteleop htwist htimer hok hrunning)
      (hB.frame w w' htrace hteleop htwist htimer hok hrunning)
  emit w e he hw := hw.imp (hA.emit w e he) (hB.emit w e he)

theorem Closed.imp {A : World K → Prop} (p : Prop) (hA : Closed s N A) :
    Closed s N fun w ↦ p → A w where
  tick w hw hp := hA.tick w (hw hp)
  frame w w' htrace hteleop htwist htimer hok hrunning hw hp :=
    hA.frame w w' htrace hteleop htwist htimer hok hrunning (hw hp)
  emit w e he hw hp := hA.emit w e he (hw hp)

theorem Closed.const (p : Prop) : Closed s N fun _ ↦ p :=
  ⟨fun _ h ↦ h, fun _ _ _ _ _ _ _ _ h ↦ h, fun _ _ _ h ↦ h⟩

theorem Closed.iterate {A : World K → Prop} (h : Closed s N A) (n : ℕ) {w : World K} (hw : A w) :
    A (s.tick^[n] w) := by
  induction n generalizing w with
  | zero => exact hw
  | succ n ih => exact ih (h.tick w hw)

/-- The timer's turn. -/
theorem Closed.others {A : World K → Prop} (h : Closed s N A) {E : Raised → World K → Prop} :
    Triple A s.others (fun _ ↦ A) E :=
  fun w hw ↦ h.frame (s.tick^[s.ticks w.requests] w) _ rfl rfl rfl rfl id id (h.iterate _ hw)

/-- A step, behind the timer's turn. -/
theorem Closed.act {α : Type} {A : World K → Prop} (h : Closed s N A) {f : World K → α × World K}
    {C : α → World K → Prop} {E : Raised → World K → Prop} (hf : ∀ w, A w → C (f w).1 (f w).2) :
    Triple A (s.act f) C E :=
  h.others.bind fun _ w hw ↦ hf w hw

/-- A step that is put on record. -/
theorem Closed.note {A C : World K → Prop} (h : Closed s N A) {e : Event K}
    {E : Raised → World K → Prop} (he : ∀ w, A w → C (w.emit e)) :
    Triple A (s.note e) (fun _ ↦ C) E := h.act he

theorem Closed.ask {α : Type} {A : World K → Prop} (h : Closed s N A) {answers : ℕ → α}
    {E : Raised → World K → Prop} : Triple A (s.ask answers) (fun _ ↦ A) E := by
  have hread : Triple A (modifyGet fun w ↦ (answers w.requests, w) : M K α) (fun _ ↦ A) E :=
    fun _ hw ↦ hw
  exact hread.bind fun _ ↦ h.others.bind fun _ ↦ Triple.pure fun _ hw ↦ hw

/-- An answer that may be an exception. -/
theorem triple_raise {α : Type} {A : World K → Prop} (x : Except Raised α) :
    Triple A (raise x : M K α) (fun _ ↦ A) fun _ ↦ A := by
  cases x with
  | ok a => exact Triple.pure fun _ hw ↦ hw
  | error e => exact Triple.throw fun _ hw ↦ hw

namespace Quiet

variable {α β : Type}

theorem pure (a : α) : Quiet s N (Pure.pure a) := fun _ _ ↦ Triple.pure fun _ hw ↦ hw

theorem throw (e : Raised) : Quiet s N (MonadExcept.throw e : M K α) :=
  fun _ _ ↦ Triple.throw fun _ hw ↦ hw

theorem bind {x : M K α} {f : α → M K β} (hx : Quiet s N x) (hf : ∀ a, Quiet s N (f a)) :
    Quiet s N (x >>= f) := fun A hA ↦ (hx A hA).bind fun a ↦ hf a A hA

theorem ite {c : Prop} [Decidable c] {x y : M K α} (hx : Quiet s N x) (hy : Quiet s N y) :
    Quiet s N (if c then x else y) := fun A hA ↦ Triple.ite (fun _ ↦ hx A hA) fun _ ↦ hy A hA

/-- More events are allowed. -/
theorem mono {N' : Event K → Prop} {x : M K α} (hx : Quiet s N x) (h : ∀ e, N e → N' e) :
    Quiet s N' x :=
  fun A hA ↦ hx A ⟨hA.tick, hA.frame, fun w e he ↦ hA.emit w e (h e he)⟩

theorem get : Quiet s N (get : M K (World K)) := fun _ _ _ hw ↦ hw

theorem others : Quiet s N s.others := fun _ hA ↦ hA.others

theorem emit {e : World K → Event K} (he : ∀ w, N (e w)) :
    Quiet s N (s.act fun w ↦ ((), w.emit (e w))) :=
  fun _ hA ↦ hA.act fun w hw ↦ hA.emit w _ (he w) hw

theorem note {e : Event K} (he : N e) : Quiet s N (s.note e) := emit fun _ ↦ he

theorem ask {answers : ℕ → α} : Quiet s N (s.ask answers) := fun _ hA ↦ hA.ask

theorem raise (x : Except Raised α) : Quiet s N (raise x) := fun _ _ ↦ triple_raise x

/-- An answer of the environment that may be an exception. -/
theorem askRaise {answers : ℕ → Except Raised α} :
    Quiet s N (do Teleop.raise (← s.ask answers)) := ask.bind raise

/-- A step that changes none of the shared variables. -/
theorem act {f : World K → α × World K} (hf : ∀ w, (f w).2.trace = w.trace ∧
    (f w).2.inTeleop = w.inTeleop ∧ (f w).2.currentTwist = w.currentTwist ∧
    (f w).2.timer = w.timer ∧ ((f w).2.ok = true → w.ok = true) ∧
    ((f w).2.running = true → w.running = true)) : Quiet s N (s.act f) := by
  refine fun A hA ↦ hA.act fun w hw ↦ ?_
  obtain ⟨htrace, hteleop, htwist, htimer, hok, hrunning⟩ := hf w
  exact hA.frame w _ htrace hteleop htwist htimer hok hrunning hw

/-- What is run at the end is quiet as well. -/
theorem ensuring {x : M K α} {final : M K Unit} (hx : Quiet s N x) (hfinal : Quiet s N final) :
    Quiet s N (StateError.ensuring x final) :=
  fun A hA ↦ (hx A hA).ensuring (fun _ ↦ hfinal A hA) fun _ ↦ hfinal A hA

end Quiet

/-! ## Waits and services -/

theorem quiet_waitTurns {tickFn : List Char → M K Unit} (htick : ∀ keys, Quiet s N (tickFn keys))
    (done : Bool) (turns : List WaitTurn) : Quiet s N (waitTurns s tickFn done turns) := by
  induction turns with
  | nil =>
    refine (Quiet.act fun w ↦ ⟨rfl, rfl, rfl, rfl, ?_, id⟩).bind fun _ ↦ Quiet.pure _
    exact fun h ↦ absurd h Bool.false_ne_true
  | cons turn turns ih =>
    refine Quiet.ite (Quiet.pure _) ((htick _).bind fun _ ↦ ?_)
    refine Quiet.ite (Quiet.pure _) (Quiet.others.bind fun _ ↦ ?_)
    exact (Quiet.raise _).bind fun _ ↦ ih

theorem quiet_callService {α : Type} {request : M K Unit} (hrequest : Quiet s N request)
    (call : ServiceCall α) : Quiet s N (callService s request call) := by
  have hwait : Quiet s N (waitFuture s noTick call.wait) :=
    quiet_waitTurns (fun _ ↦ Quiet.pure _) _ _
  refine (Quiet.raise _).bind fun _ ↦ Quiet.ite (Quiet.pure _) (hrequest.bind fun _ ↦ ?_)
  refine (Quiet.raise _).bind fun _ ↦ hwait.bind fun _ ↦ ?_
  exact Quiet.ite (Quiet.pure _) (Quiet.raise _)

theorem quiet_controllersAlreadyInState (env : Env K) (activate deactivate : List String) :
    Quiet s N (controllersAlreadyInState s env activate deactivate) := by
  have hstates : Quiet s N (getControllerStates s env) :=
    Quiet.ask.bind fun _ ↦ quiet_callService Quiet.others _
  refine hstates.bind fun states ↦ ?_
  cases states with
  | none => exact Quiet.pure _
  | some states => exact Quiet.pure _

/-- The request of a controller switch. -/
def IsSwitchRequest : Event K → Prop
  | .switchRequest _ _ => True
  | _ => False

/-- A switch of controllers puts its request on record. -/
theorem quiet_callSwitchController (env : Env K) (activate deactivate : List String) :
    Quiet s IsSwitchRequest (callSwitchController s env activate deactivate) := by
  refine (quiet_controllersAlreadyInState env _ _).bind fun _ ↦ Quiet.ite (Quiet.pure _) ?_
  refine Quiet.ask.bind fun _ ↦ (quiet_callService (Quiet.note trivial) _).bind fun response ↦ ?_
  cases response with
  | none => exact Quiet.pure _
  | some accepted =>
    cases accepted with
    | true => exact Quiet.pure _
    | false => exact quiet_controllersAlreadyInState env _ _

theorem quiet_setServoCommandType (env : Env K) : Quiet s N (setServoCommandType s env) := by
  refine Quiet.ask.bind fun _ ↦ (quiet_callService Quiet.others _).bind fun response ↦ ?_
  cases response with
  | none => exact Quiet.pure _
  | some success => exact Quiet.pure _

/-! ## Publications -/

/-- A publication of a twist. -/
def IsTwist (e : Event K) : Prop := ∃ twist, e.published = some twist

theorem quiet_publishTimes (env : Env K) (n : ℕ) : Quiet s IsTwist (publishTimes s env n) := by
  have hread : ∀ {α : Type} (f : World K → α), Quiet s IsTwist (s.act fun w ↦ (f w, w)) :=
    fun f ↦ Quiet.act fun _ ↦ ⟨rfl, rfl, rfl, rfl, id, id⟩
  induction n with
  | zero => exact Quiet.pure _
  | succ n ih =>
    have hpublish : Quiet s IsTwist (publishServoCommand s env) := by
      refine (hread _).bind fun _ ↦ Quiet.ite (Quiet.pure _) ((hread _).bind fun _ ↦ ?_)
      exact Quiet.askRaise.bind fun _ ↦ Quiet.emit fun _ ↦ ⟨_, rfl⟩
    exact hpublish.bind fun _ ↦ Quiet.askRaise.bind fun _ ↦ ih

/-! ## Photos, poses and the gripper -/

theorem quiet_toggleGraspObject : Quiet s N (toggleGraspObject s) :=
  Quiet.act fun _ ↦ ⟨rfl, rfl, rfl, rfl, id, id⟩

theorem quiet_savePoseToCsv (env : Env K) : Quiet s N (savePoseToCsv s env) := by
  refine Quiet.ask.bind fun _ ↦ (Quiet.raise _).bind fun poses ↦ ?_
  cases poses with
  | none => exact Quiet.pure _
  | some poses => exact Quiet.act fun _ ↦ ⟨rfl, rfl, rfl, rfl, id, id⟩

theorem quiet_reloadPoses (env : Env K) (cfg : Config K) : Quiet s N (reloadPoses s env cfg) := by
  refine Quiet.ask.bind fun _ ↦ (Quiet.raise _).bind fun file ↦ ?_
  cases Poses.loadCsvPoses cfg.numbers file with
  | error e => exact Quiet.throw _
  | ok poses => exact Quiet.act fun _ ↦ ⟨rfl, rfl, rfl, rfl, id, id⟩

/-- A goal for the gripper. -/
def IsGripperGoal : Event K → Prop
  | .gripperGoal _ => True
  | _ => False

theorem quiet_toggleGripper (env : Env K) (cfg : Config K) :
    Quiet s IsGripperGoal (toggleGripper s env cfg) := by
  refine Quiet.ask.bind fun _ ↦ Quiet.ite (Quiet.pure _) ((Quiet.raise _).bind fun _ ↦ ?_)
  refine Quiet.ite (Quiet.pure _) (Quiet.get.bind fun w ↦ ?_)
  dsimp only
  split
  · exact Quiet.pure _
  · exact (Quiet.note trivial).bind fun _ ↦ Quiet.raise _

/-! ## Executing a pose -/

theorem quiet_handleGlobalHotkey (env : Env K) (key : Char) :
    Quiet s N (handleGlobalHotkey s env key) := by
  refine Quiet.ite Quiet.askRaise (Quiet.ite (quiet_savePoseToCsv env) ?_)
  refine Quiet.ite quiet_toggleGraspObject (Quiet.ite ?_ (Quiet.pure _))
  refine (Quiet.act fun w ↦ ⟨rfl, rfl, rfl, rfl, id, ?_⟩).bind fun _ ↦ Quiet.throw _
  exact fun h ↦ absurd h Bool.false_ne_true

theorem quiet_processPendingGlobalHotkeys (env : Env K) (keys : List Char) :
    Quiet s N (processPendingGlobalHotkeys s env keys) := by
  induction keys with
  | nil => exact Quiet.pure _
  | cons key keys ih => exact (quiet_handleGlobalHotkey env key).bind fun _ ↦ ih

/-- The handler of a session never returns. -/
theorem Closed.stopRunning {A : World K → Prop} (h : Closed s N A) (e : Raised)
    {Q : Unit → World K → Prop} : Triple A (stopRunning s e) Q fun _ ↦ A := by
  cases e with
  | keyboardInterrupt =>
    refine Triple.bind (Q := fun _ ↦ A) (h.act fun w hw ↦ ?_) fun _ ↦ Triple.throw fun _ hw ↦ hw
    exact h.frame w _ rfl rfl rfl rfl id (fun hrunning ↦ absurd hrunning Bool.false_ne_true) hw
  | exception => exact Triple.throw fun _ hw ↦ hw

/-- A goal for the arm. -/
def IsMoveGoal : Event K → Prop
  | .moveGoal _ => True
  | _ => False

theorem quiet_executePose (env : Env K) (cfg : Config K) (pose : Poses.Pose K) :
    Quiet s IsMoveGoal (executePose s env cfg pose) := by
  have hwait : ∀ wait, Quiet s IsMoveGoal (waitFuture s (processPendingGlobalHotkeys s env) wait) :=
    fun wait ↦ quiet_waitTurns (quiet_processPendingGlobalHotkeys env) _ _
  have hmove : ∀ target, Quiet s IsMoveGoal (executeMove s env cfg target) := by
    intro target
    refine (Quiet.raise _).bind fun goal ↦ Quiet.ask.bind fun answer ↦ ?_
    refine (Quiet.note trivial).bind fun _ ↦ (Quiet.raise _).bind fun _ ↦ ?_
    refine (hwait _).bind fun _ ↦ Quiet.ite (Quiet.pure _) ((Quiet.raise _).bind fun _ ↦ ?_)
    refine Quiet.ite (Quiet.pure _) ((Quiet.raise _).bind fun _ ↦ (hwait _).bind fun _ ↦ ?_)
    exact Quiet.ite (Quiet.pure _) ((Quiet.raise _).bind fun _ ↦ Quiet.pure _)
  refine Quiet.askRaise.bind fun _ ↦ Quiet.ensuring ?_ Quiet.askRaise
  exact Quiet.askRaise.bind fun _ ↦ Quiet.ite (Quiet.pure _) (hmove _)

end VzletUr3e.Teleop
