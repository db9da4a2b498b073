import VzletUr3e.Library.Runs
import VzletUr3e.Pipeline.Motion

/-!
# The gripper and its server

`command_gripper` keeps the position of the last goal that has succeeded, and does nothing when it
is asked for that position again. Whether the gripper still is where that goal has put it depends on
the server, which may accept a goal after its call has given up on it.

`Bench` holds both sides. A step is one of the server (it accepts, rejects or finishes a goal) or
one of the node (a call is made, or what it waits for comes or fails to come); a call is abandoned
when it ends without the server's verdict on its goal.
-/

namespace VzletUr3e.Pipeline

open Control PyFloat Runs

/-! ## The bench -/

/-- What the server has made of a goal. -/
inductive GoalState
  | pending
  | rejected
  | executing
  | ended (status : ℤ)
deriving DecidableEq, Repr

/-- The server has accepted the goal. -/
def GoalState.taken : GoalState → Bool
  | .executing => true
  | .ended _ => true
  | _ => false

structure GripperGoal (K : Type) where
  position : K
  state : GoalState
  /-- The call that sent it has ended without its verdict. -/
  abandoned : Bool

/-- What `command_gripper` waits for, and the number of its goal. -/
inductive CallPhase
  | idle
  | goalAcceptance (id : ℕ)
  | result (id : ℕ)
deriving DecidableEq, Repr

def CallPhase.goal : CallPhase → Option ℕ
  | .idle => none
  | .goalAcceptance id => some id
  | .result id => some id

structure Bench (K : Type) where
  lastGripperPosition : Option K
  phase : CallPhase
  /-- The number of goals so far. -/
  sent : ℕ
  goal : ℕ → GripperGoal K
  /-- The goals that the server has accepted, the newest first. -/
  accepted : List ℕ

/-- What a call has returned, and the position it was asked for. -/
structure Returned (K : Type) where
  position : K
  value : Bool

inductive GripperEvent (K : Type)
  /-- The server accepts a goal, whether or not its call still waits. -/
  | accept (id : ℕ)
  | reject (id : ℕ)
  | finish (id : ℕ) (status : ℤ)
  /-- `command_gripper` is called, and comes to its first wait. -/
  | call (position : K) (classType : String) (label : Option String)
  | acceptanceTimeout
  /-- "goal handle is None". -/
  | noneHandle
  | goalHandle
  | resultTimeout
  /-- `result is None`. -/
  | noneResult
  | result
  /-- An exception leaves the call. -/
  | raised

variable {K : Type}

def Bench.setGoal (b : Bench K) (id : ℕ) (goal : GripperGoal K) : Bench K :=
  { b with goal := Function.update b.goal id goal }

/-- `send_goal_async`. -/
def Bench.send (b : Bench K) (position : K) : Bench K :=
  { b.setGoal b.sent ⟨position, .pending, false⟩ with
    phase := .goalAcceptance b.sent, sent := b.sent + 1 }

/-- The server comes to a goal. -/
def Bench.serve (b : Bench K) (id : ℕ) (state : GoalState) : Bench K :=
  b.setGoal id { b.goal id with state := state }

/-- The call ends without a verdict on its goal. -/
def Bench.abandon (b : Bench K) (id : ℕ) : Bench K :=
  { b.setGoal id { b.goal id with abandoned := true } with phase := .idle }

/-- The call ends with one. -/
def Bench.conclude (b : Bench K) (lastGripperPosition : Option K) : Bench K :=
  { b with phase := .idle, lastGripperPosition := lastGripperPosition }

/-- What is done with the goal handle. -/
def Bench.readHandle (b : Bench K) (id : ℕ) : Option (Bench K × Option (Returned K)) :=
  match (b.goal id).state with
  | .pending => none
  | .rejected => some (b.conclude b.lastGripperPosition, some ⟨(b.goal id).position, false⟩)
  | _ => some ({ b with phase := .result id }, none)

/-- What is done with the result. -/
def Bench.readResult (b : Bench K) (id : ℕ) : Option (Bench K × Option (Returned K)) :=
  match (b.goal id).state with
  | .ended status =>
    if status = statusSucceeded then
      some (b.conclude (some (b.goal id).position), some ⟨(b.goal id).position, true⟩)
    else some (b.conclude none, some ⟨(b.goal id).position, false⟩)
  | _ => none

/-! ## The invariant

A call sends at most one goal and waits for it before the next call begins. So there is at most one
goal for which the node still waits, the newest; the others have an end, or were abandoned and may
be accepted at any time. Each lemma of this section is one thing that the server or a call does. -/

/-- What holds of every bench that can be reached.

The goals that are accepted and not abandoned were accepted in the order in which they were sent,
and what the node has kept is the newest of them that a call has seen the end of. -/
structure Bench.Inv (b : Bench K) : Prop where
  /-- The log of the server tells of all that it accepted. -/
  taken : ∀ id, id ∈ b.accepted ↔ id < b.sent ∧ (b.goal id).state.taken = true
  /-- The call waits for the newest goal. -/
  current : ∀ id, b.phase.goal = some id → id + 1 = b.sent ∧ (b.goal id).abandoned = false
  result : ∀ id, b.phase = .result id → id ∈ b.accepted
  /-- A goal that the server has not come to is the one of the call, or abandoned. -/
  pending : ∀ id, id < b.sent → (b.goal id).state = .pending → (b.goal id).abandoned = false →
    b.phase.goal = some id
  newest : ∀ id, b.accepted.head? = some id → (b.goal id).abandoned = false →
    ∀ j ∈ b.accepted, (b.goal j).abandoned = false → j ≤ id
  /-- The position that is kept is that of a goal which has succeeded. -/
  kept : ∀ last, b.lastGripperPosition = some last → ∃ c ∈ b.accepted, (b.goal c).position = last ∧
    (b.goal c).state = .ended statusSucceeded ∧ (b.goal c).abandoned = false ∧
    b.phase.goal ≠ some c ∧
    ∀ j ∈ b.accepted, (b.goal j).abandoned = false → j ≤ c ∨ b.phase.goal = some j

namespace Bench

variable {b : Bench K} {id : ℕ}

theorem setGoal_self (b : Bench K) (id : ℕ) (goal : GripperGoal K) :
    (b.setGoal id goal).goal id = goal := by
  simp [setGoal]

theorem setGoal_of_ne (b : Bench K) {id j : ℕ} (goal : GripperGoal K) (h : j ≠ id) :
    (b.setGoal id goal).goal j = b.goal j := by
  simp [setGoal, h]

/-- The server changes nothing but the state of one goal. -/
theorem serve_goal (b : Bench K) (id : ℕ) (state : GoalState) (j : ℕ) :
    ((b.serve id state).goal j).position = (b.goal j).position ∧
      ((b.serve id state).goal j).abandoned = (b.goal j).abandoned ∧
      ((b.serve id state).goal j).state = if j = id then state else (b.goal j).state := by
  rcases eq_or_ne j id with rfl | hne
  · rw [serve, setGoal_self, if_pos rfl]
    exact ⟨rfl, rfl, rfl⟩
  · rw [serve, setGoal_of_ne b _ hne, if_neg hne]
    exact ⟨rfl, rfl, rfl⟩

/-- Giving up changes nothing of the goals but one mark. -/
theorem abandon_goal (b : Bench K) (id j : ℕ) :
    ((b.abandon id).goal j).position = (b.goal j).position ∧
      ((b.abandon id).goal j).state = (b.goal j).state ∧
      (((b.abandon id).goal j).abandoned = false ↔ j ≠ id ∧ (b.goal j).abandoned = false) := by
  change ((b.setGoal id _).goal j).position = _ ∧ ((b.setGoal id _).goal j).state = _ ∧
    (((b.setGoal id _).goal j).abandoned = false ↔ _)
  rcases eq_or_ne j id with rfl | hne
  · rw [setGoal_self]
    exact ⟨rfl, rfl, fun h ↦ absurd h.symm Bool.false_ne_true, fun h ↦ absurd rfl h.1⟩
  · rw [setGoal_of_ne b _ hne]
    exact ⟨rfl, rfl, fun h ↦ ⟨hne, h⟩, fun h ↦ h.2⟩

/-- A state that leaves a goal as accepted, or not accepted, as it was. -/
theorem Inv.serve (h : b.Inv) {state : GoalState} (hpending : state ≠ .pending)
    (htaken : state.taken = (b.goal id).state.taken)
    (hended : (b.goal id).state ≠ .ended statusSucceeded) : (b.serve id state).Inv where
  taken j := by
    obtain ⟨-, -, hstate⟩ := serve_goal b id state j
    rw [hstate]
    refine (h.taken j).trans (and_congr_right fun _ ↦ ?_)
    split
    · rename_i hj
      rw [htaken, hj]
    · rfl
  current j hj := by
    obtain ⟨-, habandoned, -⟩ := serve_goal b id state j
    rw [habandoned]
    exact h.current j hj
  result := h.result
  pending j hj hstate habandoned := by
    obtain ⟨-, habandoned', hstate'⟩ := serve_goal b id state j
    rw [hstate'] at hstate
    rw [habandoned'] at habandoned
    split at hstate
    · exact absurd hstate hpending
    · exact h.pending j hj hstate habandoned
  newest j hj habandoned k hk habandoned' := by
    rw [(serve_goal b id state j).2.1] at habandoned
    rw [(serve_goal b id state k).2.1] at habandoned'
    exact h.newest j hj habandoned k hk habandoned'
  kept last hlast := by
    obtain ⟨c, hc, hposition, hstate, habandoned, hphase, hlatest⟩ := h.kept last hlast
    have hne : c ≠ id := fun heq ↦ hended (heq ▸ hstate)
    obtain ⟨hposition', habandoned', hstate'⟩ := serve_goal b id state c
    refine ⟨c, hc, hposition'.trans hposition, ?_, habandoned'.trans habandoned, hphase, ?_⟩
    · rw [hstate', if_neg hne]
      exact hstate
    · intro j hj hj'
      rw [(serve_goal b id state j).2.1] at hj'
      exact hlatest j hj hj'

/-- **An acceptance.** If the call still waits, its goal is the newest of all. -/
theorem Inv.accept (h : b.Inv) (hsent : id < b.sent) (hpending : (b.goal id).state = .pending) :
    Inv { b.serve id .executing with accepted := id :: b.accepted } where
  taken j := by
    obtain ⟨-, -, hstate⟩ := serve_goal b id .executing j
    change j ∈ id :: b.accepted ↔ j < b.sent ∧ ((b.serve id .executing).goal j).state.taken = true
    rw [hstate, List.mem_cons]
    split
    · rename_i hj
      subst hj
      exact ⟨fun _ ↦ ⟨hsent, rfl⟩, fun _ ↦ .inl rfl⟩
    · rename_i hj
      exact (or_iff_right hj).trans (h.taken j)
  current j hj := by
    obtain ⟨-, habandoned, -⟩ := serve_goal b id .executing j
    refine ⟨(h.current j hj).1, habandoned.trans (h.current j hj).2⟩
  result j hj := List.mem_cons_of_mem _ (h.result j hj)
  pending j hj hstate habandoned := by
    obtain ⟨-, habandoned', hstate'⟩ := serve_goal b id .executing j
    have hstate := hstate'.symm.trans hstate
    split at hstate
    · cases hstate
    · exact h.pending j hj hstate (habandoned'.symm.trans habandoned)
  newest j hj habandoned k hk _ := by
    -- the new head belongs to the call that waits, and nothing was sent behind it
    obtain rfl : id = j := Option.some.inj hj
    have hcurrent := h.pending id hsent hpending
      ((serve_goal b id .executing id).2.1.symm.trans habandoned)
    have hlast := (h.current id hcurrent).1
    rcases List.mem_cons.mp hk with rfl | hk
    · exact le_rfl
    · have hk' := ((h.taken k).mp hk).1
      omega
  kept last hlast := by
    obtain ⟨c, hc, hposition, hstate, habandoned, hphase, hlatest⟩ := h.kept last hlast
    have hne : c ≠ id := fun heq ↦ by rw [heq, hpending] at hstate; cases hstate
    obtain ⟨hposition', habandoned', hstate'⟩ := serve_goal b id .executing c
    rw [if_neg hne] at hstate'
    refine ⟨c, List.mem_cons_of_mem _ hc, hposition'.trans hposition, hstate'.trans hstate,
      habandoned'.trans habandoned, hphase, fun j hj hmark ↦ ?_⟩
    have hmark : (b.goal j).abandoned = false :=
      (serve_goal b id .executing j).2.1.symm.trans hmark
    rcases List.mem_cons.mp hj with hj | hj
    · rw [hj] at hmark ⊢
      exact .inr (h.pending id hsent hpending hmark)
    · exact hlatest j hj hmark

/-- The goals that were sent before stay as they are. -/
theorem send_goal_of_lt (b : Bench K) (position : K) {j : ℕ} (h : j < b.sent) :
    (b.send position).goal j = b.goal j := b.setGoal_of_ne _ h.ne

theorem send_goal_self (b : Bench K) (position : K) :
    (b.send position).goal b.sent = ⟨position, .pending, false⟩ := b.setGoal_self _ _

/-- **A new goal.** No call waits, so it is the only one that is pending and not abandoned. -/
theorem Inv.send (h : b.Inv) (hidle : b.phase = .idle) (position : K) : (b.send position).Inv := by
  have hfree : ∀ id, b.phase.goal ≠ some id := fun id hid ↦ by rw [hidle] at hid; cases hid
  have hmem : ∀ {j}, j ∈ b.accepted → (b.send position).goal j = b.goal j :=
    fun hj ↦ b.send_goal_of_lt position ((h.taken _).mp hj).1
  constructor
  case taken =>
    intro j
    change j ∈ b.accepted ↔ j < b.sent + 1 ∧ _
    rcases lt_trichotomy j b.sent with hlt | rfl | hgt
    · rw [b.send_goal_of_lt position hlt, h.taken j]
      exact and_congr_left fun _ ↦ iff_of_true hlt (Nat.lt_succ_of_lt hlt)
    · rw [send_goal_self]
      exact ⟨fun hj ↦ absurd ((h.taken _).mp hj).1 (lt_irrefl _),
        fun hj ↦ absurd hj.2 Bool.false_ne_true⟩
    · exact ⟨fun hj ↦ absurd ((h.taken j).mp hj).1 (not_lt_of_gt hgt), fun hj ↦ by omega⟩
  case current =>
    rintro _ ⟨⟩
    rw [send_goal_self]
    exact ⟨rfl, rfl⟩
  case result =>
    rintro _ ⟨⟩
  case pending =>
    intro j hj hstate habandoned
    rcases Nat.lt_succ_iff_lt_or_eq.mp hj with hlt | rfl
    · rw [b.send_goal_of_lt position hlt] at hstate habandoned
      exact absurd (h.pending j hlt hstate habandoned) (hfree j)
    · rfl
  case newest =>
    intro j hj habandoned k hk habandoned'
    rw [hmem (List.mem_of_mem_head? hj)] at habandoned
    rw [hmem hk] at habandoned'
    exact h.newest j hj habandoned k hk habandoned'
  case kept =>
    intro last hlast
    obtain ⟨c, hc, hposition, hstate, habandoned, -, hlatest⟩ := h.kept last hlast
    have hsent := ((h.taken c).mp hc).1
    refine ⟨c, hc, ?_, ?_, ?_, ?_, fun j hj hmark ↦ .inl ?_⟩
    · rw [hmem hc]
      exact hposition
    · rw [hmem hc]
      exact hstate
    · rw [hmem hc]
      exact habandoned
    · rintro ⟨⟩
      exact lt_irrefl _ hsent
    · rw [hmem hj] at hmark
      exact (hlatest j hj hmark).resolve_right (hfree j)

/-- **Giving up.** The goal no longer counts. -/
theorem Inv.abandon (h : b.Inv) (hphase : b.phase.goal = some id) : (b.abandon id).Inv := by
  have hcount : ∀ {j}, ((b.abandon id).goal j).abandoned = false →
      j ≠ id ∧ (b.goal j).abandoned = false :=
    fun {j} ↦ (abandon_goal b id j).2.2.mp
  constructor
  case taken =>
    intro j
    rw [(abandon_goal b id j).2.1]
    exact h.taken j
  case current =>
    rintro _ ⟨⟩
  case result =>
    rintro _ ⟨⟩
  case pending =>
    intro j hj hstate habandoned
    rw [(abandon_goal b id j).2.1] at hstate
    obtain ⟨hne, habandoned⟩ := hcount habandoned
    exact absurd (Option.some.inj (hphase.symm.trans (h.pending j hj hstate habandoned))).symm hne
  case newest =>
    intro j hj habandoned k hk habandoned'
    exact h.newest j hj (hcount habandoned).2 k hk (hcount habandoned').2
  case kept =>
    intro last hlast
    obtain ⟨c, hc, hposition, hstate, habandoned, hfree, hlatest⟩ := h.kept last hlast
    obtain ⟨hposition', hstate', habandoned'⟩ := abandon_goal b id c
    have hne : c ≠ id := fun heq ↦ hfree (heq ▸ hphase)
    refine ⟨c, hc, hposition'.trans hposition, hstate'.trans hstate,
      habandoned'.mpr ⟨hne, habandoned⟩, by rintro ⟨⟩, fun j hj hmark ↦ .inl ?_⟩
    obtain ⟨hj', hmark⟩ := hcount hmark
    exact (hlatest j hj hmark).resolve_right fun hphase' ↦
      hj' (Option.some.inj (hphase'.symm.trans hphase))

/-- **A verdict.** What is kept behind it is nothing, what was kept before a rejection, or the
position of a goal that has succeeded. -/
theorem Inv.conclude (h : b.Inv) (hphase : b.phase.goal = some id)
    (hstate : (b.goal id).state ≠ .pending) {kept : Option K}
    (hkept : ∀ last, kept = some last →
      b.lastGripperPosition = some last ∧ id ∉ b.accepted ∨
      (b.goal id).position = last ∧ (b.goal id).state = .ended statusSucceeded) :
    (b.conclude kept).Inv := by
  obtain ⟨hsent, hcounts⟩ := h.current id hphase
  constructor
  case taken => exact h.taken
  case current =>
    rintro _ ⟨⟩
  case result =>
    rintro _ ⟨⟩
  case pending =>
    intro j hj hpending habandoned
    have hj' := Option.some.inj (hphase.symm.trans (h.pending j hj hpending habandoned))
    rw [← hj'] at hpending
    exact absurd hpending hstate
  case newest => exact h.newest
  case kept =>
    intro last hlast
    rcases hkept last hlast with ⟨hbefore, hrejected⟩ | ⟨hposition, hended⟩
    · obtain ⟨c, hc, hposition, hended, habandoned, -, hlatest⟩ := h.kept last hbefore
      refine ⟨c, hc, hposition, hended, habandoned, by rintro ⟨⟩, fun j hj hmark ↦ .inl ?_⟩
      refine (hlatest j hj hmark).resolve_right fun hphase' ↦ hrejected ?_
      rwa [← Option.some.inj (hphase'.symm.trans hphase)]
    · have hmem : id ∈ b.accepted := (h.taken id).mpr ⟨by omega, by rw [hended]; rfl⟩
      refine ⟨id, hmem, hposition, hended, hcounts, by rintro ⟨⟩, fun j hj _ ↦ .inl ?_⟩
      have hj' := ((h.taken j).mp hj).1
      omega

/-- The goal is accepted, and the call waits for its result. -/
theorem Inv.await (h : b.Inv) (hphase : b.phase = .goalAcceptance id)
    (htaken : (b.goal id).state.taken = true) : Inv { b with phase := .result id } := by
  have hgoal : b.phase.goal = some id := by
    rw [hphase]
    rfl
  have hsent := (h.current id hgoal).1
  refine ⟨h.taken, fun j hj ↦ h.current j (hgoal.trans hj), ?_, ?_, h.newest, ?_⟩
  · rintro _ ⟨⟩
    exact (h.taken id).mpr ⟨by omega, htaken⟩
  · exact fun j hj hstate habandoned ↦ hgoal.symm.trans (h.pending j hj hstate habandoned)
  · intro last hlast
    obtain ⟨c, hc, hposition, hended, habandoned, hfree, hlatest⟩ := h.kept last hlast
    rw [hgoal] at hfree hlatest
    exact ⟨c, hc, hposition, hended, habandoned, hfree, hlatest⟩

/-- The call has the answer to its goal: it goes on to wait, or ends. -/
theorem Inv.readHandle {b' : Bench K} {r : Option (Returned K)} (h : b.Inv)
    (hphase : b.phase = .goalAcceptance id) (hstep : b.readHandle id = some (b', r)) : b'.Inv := by
  have hgoal : b.phase.goal = some id := by
    rw [hphase]
    rfl
  rw [Bench.readHandle] at hstep
  split at hstep
  · cases hstep
  · rename_i hrejected
    cases hstep
    refine h.conclude hgoal (by rw [hrejected]; exact GoalState.noConfusion)
      fun last hlast ↦ .inl ?_
    refine ⟨hlast, fun hmem ↦ Bool.false_ne_true ?_⟩
    have htaken := ((h.taken id).mp hmem).2
    rwa [hrejected] at htaken
  · rename_i hpending hrejected
    cases hstep
    refine h.await hphase ?_
    cases hstate : (b.goal id).state with
    | pending => exact absurd hstate hpending
    | rejected => exact absurd hstate hrejected
    | executing => rfl
    | ended status => rfl

/-- The call has the result of its goal, and ends. -/
theorem Inv.readResult {b' : Bench K} {r : Option (Returned K)} (h : b.Inv)
    (hphase : b.phase = .result id) (hstep : b.readResult id = some (b', r)) : b'.Inv := by
  have hgoal : b.phase.goal = some id := by
    rw [hphase]
    rfl
  rw [Bench.readResult] at hstep
  split at hstep
  · rename_i status hended
    have hstate : (b.goal id).state ≠ .pending := by
      rw [hended]
      exact GoalState.noConfusion
    split at hstep
    · rename_i hsucceeded
      cases hstep
      refine h.conclude hgoal hstate fun last hlast ↦ .inr ⟨Option.some.inj hlast, ?_⟩
      rw [hended, hsucceeded]
    · cases hstep
      refine h.conclude hgoal hstate ?_
      rintro _ ⟨⟩
  · cases hstep

end Bench

variable [PyFloat K]

/-- A node that has sent nothing yet. -/
def Bench.initial : Bench K := ⟨none, .idle, 0, fun _ ↦ ⟨lit 0, .pending, false⟩, []⟩

/-- The test for "already at requested position". -/
def closeTo (position last : K) : Bool := lt (PyFloat.abs (position - last)) (lit (1 / 100000))

/-- `command_gripper`, up to its first wait. -/
def Bench.command (cfg : Config K) (b : Bench K) (position : K) (classType : String)
    (label : Option String) : Bench K × Option (Returned K) :=
  if b.lastGripperPosition.any (closeTo position) then (b, some ⟨position, true⟩)
  else if label.isNone ∧ ((cfg.getGripperPosition .closePose classType).isNone ∨
      (cfg.getGripperPosition .openPose classType).isNone) then (b, some ⟨position, false⟩)
  else (b.send position, none)

/-- One step, if it can be taken. -/
def Bench.step (cfg : Config K) (b : Bench K) :
    GripperEvent K → Option (Bench K × Option (Returned K))
  | .accept id =>
    if id < b.sent ∧ (b.goal id).state = .pending then
      some ({ b.serve id .executing with accepted := id :: b.accepted }, none)
    else none
  | .reject id =>
    if id < b.sent ∧ (b.goal id).state = .pending then some (b.serve id .rejected, none) else none
  | .finish id status =>
    if id < b.sent ∧ (b.goal id).state = .executing then some (b.serve id (.ended status), none)
    else none
  | .call position classType label =>
    match b.phase with
    | .idle => some (b.command cfg position classType label)
    | _ => none
  | .acceptanceTimeout =>
    match b.phase with
    | .goalAcceptance id => some (b.abandon id, some ⟨(b.goal id).position, false⟩)
    | _ => none
  | .noneHandle =>
    match b.phase with
    | .goalAcceptance id => some (b.abandon id, some ⟨(b.goal id).position, false⟩)
    | _ => none
  | .goalHandle =>
    match b.phase with
    | .goalAcceptance id => b.readHandle id
    | _ => none
  | .resultTimeout =>
    match b.phase with
    | .result id => some (b.abandon id, some ⟨(b.goal id).position, false⟩)
    | _ => none
  | .noneResult =>
    match b.phase with
    | .result id => some (b.conclude none, some ⟨(b.goal id).position, false⟩)
    | _ => none
  | .result =>
    match b.phase with
    | .result id => b.readResult id
    | _ => none
  | .raised =>
    match b.phase.goal with
    | some id => some (b.abandon id, none)
    | none => none

/-! ## Steps

A step is one thing of the section above, so the invariant holds of every bench that is reached. -/

variable {cfg : Config K}

theorem Bench.inv_initial : (Bench.initial (K := K)).Inv where
  taken _ := ⟨fun h ↦ absurd h List.not_mem_nil, fun h ↦ absurd h.1 (Nat.not_lt_zero _)⟩
  current := by rintro _ ⟨⟩
  result := by rintro _ ⟨⟩
  pending _ h := absurd h (Nat.not_lt_zero _)
  newest := by rintro _ ⟨⟩
  kept := by rintro _ ⟨⟩

/-- A call sends its goal, or nothing if it returns at once. -/
theorem Bench.Inv.command {b : Bench K} (h : b.Inv) (hidle : b.phase = .idle) (position : K)
    (classType : String) (label : Option String) :
    (b.command cfg position classType label).1.Inv := by
  rw [Bench.command]
  split
  · exact h
  · split
    · exact h
    · exact h.send hidle position

/-- **Every step keeps the invariant.** -/
theorem Bench.Inv.step {b b' : Bench K} {e : GripperEvent K} {r : Option (Returned K)} (h : b.Inv)
    (hstep : b.step cfg e = some (b', r)) : b'.Inv := by
  cases e with
  | accept id =>
    obtain ⟨⟨hsent, hpending⟩, heq⟩ := Option.ite_none_right_eq_some.mp hstep
    cases heq
    exact h.accept hsent hpending
  | reject id =>
    obtain ⟨⟨-, hpending⟩, heq⟩ := Option.ite_none_right_eq_some.mp hstep
    cases heq
    refine h.serve GoalState.noConfusion ?_ ?_
    · rw [hpending]
      rfl
    · rw [hpending]
      exact GoalState.noConfusion
  | finish id status =>
    obtain ⟨⟨-, hexecuting⟩, heq⟩ := Option.ite_none_right_eq_some.mp hstep
    cases heq
    refine h.serve GoalState.noConfusion ?_ ?_
    · rw [hexecuting]
      rfl
    · rw [hexecuting]
      exact GoalState.noConfusion
  | call position classType label =>
    rw [Bench.step] at hstep
    split at hstep
    · rename_i hidle
      have hcommand : (b.command cfg position classType label).1.Inv :=
        h.command hidle position classType label
      rw [Option.some.inj hstep] at hcommand
      exact hcommand
    · cases hstep
  | goalHandle =>
    rw [Bench.step] at hstep
    split at hstep
    · exact h.readHandle ‹_› hstep
    · cases hstep
  | result =>
    rw [Bench.step] at hstep
    split at hstep
    · exact h.readResult ‹_› hstep
    · cases hstep
  | noneResult =>
    rw [Bench.step] at hstep
    split at hstep
    · rename_i id hphase
      cases hstep
      refine h.conclude (by rw [hphase]; rfl) ?_ (by rintro _ ⟨⟩)
      intro hpending
      have htaken := ((h.taken id).mp (h.result id hphase)).2
      rw [hpending] at htaken
      exact Bool.false_ne_true htaken
    · cases hstep
  | raised =>
    rw [Bench.step] at hstep
    split at hstep
    · cases hstep
      exact h.abandon ‹_›
    · cases hstep
  | acceptanceTimeout =>
    rw [Bench.step] at hstep
    split at hstep
    · rename_i id hphase
      cases hstep
      exact h.abandon (by rw [hphase]; rfl)
    · cases hstep
  | noneHandle =>
    rw [Bench.step] at hstep
    split at hstep
    · rename_i id hphase
      cases hstep
      exact h.abandon (by rw [hphase]; rfl)
    · cases hstep
  | resultTimeout =>
    rw [Bench.step] at hstep
    split at hstep
    · rename_i id hphase
      cases hstep
      exact h.abandon (by rw [hphase]; rfl)
    · cases hstep

/-! ## What `True` means

The position of the goal behind a `True` was reached, and that goal is the last one the server has
accepted unless an abandoned one came later. This is the only thing that can go wrong. -/

/-- The last goal that the server has accepted is one for `position`, up to the tolerance, and has
succeeded. -/
def Bench.Reached (b : Bench K) (position : K) (id : ℕ) : Prop :=
  (position = (b.goal id).position ∨ closeTo position (b.goal id).position = true) ∧
    (b.goal id).state = .ended statusSucceeded

/-- Whenever this step returns `True`, the last goal that was accepted has reached the position. -/
def TrueIsReached (cfg : Config K) (b : Bench K) (e : GripperEvent K) : Prop :=
  ∀ b' position, b.step cfg e = some (b', some ⟨position, true⟩) →
    ∃ id, b'.accepted.head? = some id ∧ b'.Reached position id

/-- Whenever this step returns `True`, the last goal that was accepted is not an abandoned one, or
it has reached the position by chance. -/
def NotAbandoned (cfg : Config K) (b : Bench K) (e : GripperEvent K) : Prop :=
  ∀ b' position, b.step cfg e = some (b', some ⟨position, true⟩) → ∀ id,
    b.accepted.head? = some id → (b.goal id).abandoned = true → b.Reached position id

/-- The two ways to return `True`: the position is the one that is kept, or the goal of the call has
succeeded. -/
theorem Bench.step_true {b b' : Bench K} {e : GripperEvent K} {position : K}
    (hstep : b.step cfg e = some (b', some ⟨position, true⟩)) :
    (b' = b ∧ b.phase = .idle ∧
      ∃ last, b.lastGripperPosition = some last ∧ closeTo position last = true) ∨
    ∃ id, b.phase = .result id ∧ (b.goal id).state = .ended statusSucceeded ∧
      (b.goal id).position = position ∧ b' = b.conclude (some position) := by
  cases e with
  | call position' classType label =>
    rw [Bench.step] at hstep
    split at hstep
    · rename_i hidle
      have hcommand := Option.some.inj hstep
      rw [Bench.command] at hcommand
      split at hcommand
      · rename_i hclose
        cases hcommand
        exact .inl ⟨rfl, hidle, (Option.any_eq_true _ _).mp hclose⟩
      · split at hcommand
        · cases hcommand
        · cases hcommand
    · cases hstep
  | result =>
    rw [Bench.step] at hstep
    split at hstep
    · rename_i id hphase
      rw [Bench.readResult] at hstep
      split at hstep
      · rename_i status hended
        split at hstep
        · rename_i hsucceeded
          cases hstep
          exact .inr ⟨id, hphase, hended.trans (congrArg _ hsucceeded), rfl, rfl⟩
        · cases hstep
      · cases hstep
    · cases hstep
  | goalHandle =>
    rw [Bench.step] at hstep
    split at hstep
    · rw [Bench.readHandle] at hstep
      split at hstep <;> cases hstep
    · cases hstep
  | accept id => cases (Option.ite_none_right_eq_some.mp hstep).2
  | reject id => cases (Option.ite_none_right_eq_some.mp hstep).2
  | finish id status => cases (Option.ite_none_right_eq_some.mp hstep).2
  | acceptanceTimeout =>
    rw [Bench.step] at hstep
    split at hstep <;> cases hstep
  | noneHandle =>
    rw [Bench.step] at hstep
    split at hstep <;> cases hstep
  | resultTimeout =>
    rw [Bench.step] at hstep
    split at hstep <;> cases hstep
  | noneResult =>
    rw [Bench.step] at hstep
    split at hstep <;> cases hstep
  | raised =>
    rw [Bench.step] at hstep
    split at hstep <;> cases hstep

/-- Behind `True` stands a goal that has reached the position, and is the newest but for those that
were abandoned. -/
theorem Bench.Inv.reached {b b' : Bench K} {e : GripperEvent K} {position : K} (h : b.Inv)
    (hstep : b.step cfg e = some (b', some ⟨position, true⟩)) :
    b'.accepted = b.accepted ∧ b'.goal = b.goal ∧ ∃ c ∈ b.accepted, b.Reached position c ∧
      (b.goal c).abandoned = false ∧
      ∀ j ∈ b.accepted, (b.goal j).abandoned = false → j ≤ c := by
  rcases Bench.step_true hstep with ⟨rfl, hidle, last, hlast, hclose⟩ |
    ⟨id, hphase, hended, rfl, rfl⟩
  · obtain ⟨c, hc, rfl, hended, hcounts, -, hlatest⟩ := h.kept last hlast
    refine ⟨rfl, rfl, c, hc, ⟨.inr hclose, hended⟩, hcounts, fun j hj hmark ↦ ?_⟩
    refine (hlatest j hj hmark).resolve_right fun hgoal ↦ ?_
    rw [hidle] at hgoal
    cases hgoal
  · have hgoal : b.phase.goal = some id := by
      rw [hphase]
      rfl
    obtain ⟨hsent, hcounts⟩ := h.current id hgoal
    refine ⟨rfl, rfl, id, h.result id hphase, ⟨.inl rfl, hended⟩, hcounts, fun j hj _ ↦ ?_⟩
    have hj' := ((h.taken j).mp hj).1
    omega

/-- **`True`, for one step.** -/
theorem trueIsReached_iff {b : Bench K} (h : b.Inv) (e : GripperEvent K) :
    TrueIsReached cfg b e ↔ NotAbandoned cfg b e := by
  refine forall_congr' fun b' ↦ forall_congr' fun position ↦ forall_congr' fun hstep ↦ ?_
  obtain ⟨haccepted, hgoals, c, hc, hreached, hcounts, hlatest⟩ := h.reached hstep
  constructor
  · rintro ⟨id, hhead, htrue⟩ id' hhead' -
    rw [haccepted, hhead'] at hhead
    cases hhead
    rwa [Bench.Reached, hgoals] at htrue
  · intro hchance
    obtain ⟨id, hhead⟩ : ∃ id, b.accepted.head? = some id :=
      Option.isSome_iff_exists.mp (List.isSome_head?.mpr (List.ne_nil_of_mem hc))
    have htrue : b.Reached position id := by
      by_cases habandoned : (b.goal id).abandoned = true
      · exact hchance id hhead habandoned
      · have hmark := Bool.eq_false_iff.mpr habandoned
        have hle := h.newest id hhead hmark c hc hcounts
        have hge := hlatest id (List.mem_of_mem_head? hhead) hmark
        rwa [le_antisymm hge hle]
    refine ⟨id, haccepted ▸ hhead, ?_⟩
    rwa [Bench.Reached, hgoals]

/-- A step of the bench, whatever it returns. -/
def Bench.Next (cfg : Config K) (b : Bench K) (e : GripperEvent K) (b' : Bench K) : Prop :=
  ∃ r, b.step cfg e = some (b', r)

end VzletUr3e.Pipeline
