import VzletUr3e.Teleop.Commander

/-!
# The gripper in teleop

`toggle_gripper` sends a goal from the keyboard thread, unless one is on its way. The executor's
thread calls back with the response to the goal, and then with its result. Two flags go between
them: `gripper_busy`, and `gripper_is_closed`, from which the next toggle takes what to command.

`Grip` holds the flags, the goals that are on their way, and how the others have ended. A callback
is there only for a goal that is on its way, so it cannot come between the test of `gripper_busy`
and the goal that is sent behind it; each handler is one step.

The callback of a result does not look at its status.
-/

namespace VzletUr3e.Teleop

open Pipeline (statusSucceeded)

variable {K : Type} (cfg : Config K)

/-! ## The handlers -/

/-- A goal that was sent and has not ended. -/
structure GripperRequest where
  id : ℕ
  label : String
  accepted : Bool
deriving DecidableEq, Repr

structure Grip (K : Type) where
  selectedGraspObject : String
  gripperIsClosed : Bool
  gripperBusy : Bool
  outstanding : List GripperRequest
  /-- The positions that were commanded, the newest first. -/
  sent : List K
  /-- The labels and statuses of the goals that have ended with a result, the newest first. -/
  ended : List (String × ℤ)

/-- `pose_type.lower()`. -/
def poseLabel : Pipeline.PoseType → String
  | .openPose => "open"
  | .closePose => "close"

/-- `toggle_gripper`, when `wait_for_server` returns `available`. -/
def Grip.toggleGripper (available : Bool) (g : Grip K) : Grip K :=
  if g.gripperBusy then g
  else if ¬ available then g
  else
    let poseType := if g.gripperIsClosed then Pipeline.PoseType.openPose else .closePose
    match cfg.getGripperPosition poseType g.selectedGraspObject with
    | none => g
    | some targetPosition =>
      { g with
        gripperBusy := true
        outstanding := ⟨g.sent.length, poseLabel poseType, false⟩ :: g.outstanding
        sent := targetPosition :: g.sent }

/-- `toggle_grasp_object`. -/
def Grip.toggleGraspObject (g : Grip K) : Grip K :=
  { g with selectedGraspObject := nextGraspObject g.selectedGraspObject }

/-- The goal has ended. -/
def Grip.drop (id : ℕ) (g : Grip K) : Grip K :=
  { g with outstanding := g.outstanding.filter (·.id ≠ id) }

/-- The server has taken the goal. -/
def Grip.accept (id : ℕ) (g : Grip K) : Grip K :=
  { g with outstanding := g.outstanding.map fun r ↦
      if r.id = id then { r with accepted := true } else r }

/-- `_gripper_goal_response_callback`. -/
def Grip.goalResponseCallback (goalHandle : Option Bool) (id : ℕ) (g : Grip K) : Grip K :=
  match goalHandle with
  | none => { g.drop id with gripperBusy := false }
  | some false => { g.drop id with gripperBusy := false }
  | some true => g.accept id

/-- `_gripper_result_callback`. -/
def Grip.resultCallback (result : Option ℤ) (r : GripperRequest) (g : Grip K) : Grip K :=
  match result with
  | none => { g.drop r.id with gripperBusy := false }
  | some status =>
    { g.drop r.id with
      gripperIsClosed := r.label = "close"
      gripperBusy := false
      ended := (r.label, status) :: g.ended }

/-! ## Steps -/

inductive GripEvent
  | toggleGripper (available : Bool)
  | toggleGraspObject
  /-- The response to a goal: nothing, or whether it was accepted. -/
  | response (id : ℕ) (goalHandle : Option Bool)
  /-- The result of a goal: nothing, or its status. -/
  | result (id : ℕ) (status : Option ℤ)
deriving DecidableEq, Repr

/-- A step. A callback is called for a goal that waits for it. -/
def Grip.step (g : Grip K) : GripEvent → Option (Grip K)
  | .toggleGripper available => some (g.toggleGripper cfg available)
  | .toggleGraspObject => some g.toggleGraspObject
  | .response id goalHandle =>
    (g.outstanding.find? fun r ↦ r.id = id ∧ r.accepted = false).map fun _ ↦
      g.goalResponseCallback goalHandle id
  | .result id status =>
    (g.outstanding.find? fun r ↦ r.id = id ∧ r.accepted = true).map fun r ↦
      g.resultCallback status r

/-- The node after `__init__`. -/
def Grip.initial : Grip K := ⟨"body", false, false, [], [], []⟩

/-- The state behind a list of events. -/
def gripAfter (events : List GripEvent) : Option (Grip K) :=
  events.foldlM (Grip.step cfg) Grip.initial

/-- A result of a goal that was carried out, or no result. -/
def GripEvent.Succeeds : GripEvent → Prop
  | .result _ (some status) => status = statusSucceeded
  | _ => True

/-! ## What the flags tell -/

/-- The label of the last goal that ended `SUCCEEDED`. The gripper is open at first. -/
def Grip.completed (g : Grip K) : String :=
  ((g.ended.find? fun e ↦ e.2 = statusSucceeded).map Prod.fst).getD "open"

/-- The flags tell what they are for. -/
structure Grip.Told (g : Grip K) : Prop where
  single : g.outstanding.length ≤ 1
  busy : g.gripperBusy = true ↔ g.outstanding ≠ []
  polarity : g.gripperIsClosed = true ↔ g.completed = "close"
  opposite : ∀ r ∈ g.outstanding, r.label = if g.completed = "close" then "open" else "close"

namespace Grip

variable {g g' : Grip K} {r : GripperRequest} {id : ℕ} {cfg}

theorem told_initial : (Grip.initial : Grip K).Told where
  single := Nat.zero_le 1
  busy := iff_of_false Bool.false_ne_true fun h ↦ h rfl
  polarity := iff_of_false Bool.false_ne_true (show ¬"open" = "close" by decide)
  opposite _ h := by cases h

/-- The goal that is called back is the only one. -/
theorem Told.outstanding_eq (h : g.Told) (hr : r ∈ g.outstanding) : g.outstanding = [r] := by
  obtain ⟨other, hother⟩ : ∃ other, g.outstanding = [other] := by
    apply List.length_eq_one_iff.mp
    exact le_antisymm h.single (List.length_pos_of_mem hr)
  rw [hother, List.mem_singleton] at hr
  rw [hother, hr]

theorem drop_outstanding (h : g.outstanding = [r]) : (g.drop r.id).outstanding = [] := by
  simp [drop, h]

theorem completed_cons_of_succeeded (label : String) :
    ({ g with ended := (label, statusSucceeded) :: g.ended } : Grip K).completed = label := by
  rw [completed, List.find?_cons_of_pos (by simp)]
  rfl

theorem completed_cons_of_ne {status : ℤ} (h : status ≠ statusSucceeded) (label : String) :
    ({ g with ended := (label, status) :: g.ended } : Grip K).completed = g.completed := by
  rw [completed, List.find?_cons_of_neg (by simpa using h), completed]

/-- Without goals on their way, only the polarity is left to tell. -/
theorem Told.of_idle (hidle : g.outstanding = []) (hbusy : g.gripperBusy = false)
    (hpolarity : g.gripperIsClosed = true ↔ g.completed = "close") : g.Told where
  single := by simp [hidle]
  busy := by simp [hidle, hbusy]
  polarity := hpolarity
  opposite := by simp [hidle]

theorem Told.toggleGripper (h : g.Told) (available : Bool) :
    (g.toggleGripper cfg available).Told := by
  unfold Grip.toggleGripper
  split
  · exact h
  · rename_i hidle
    split
    · exact h
    · dsimp only
      split
      · exact h
      · have hnone : g.outstanding = [] := by
          by_contra hne
          exact hidle (h.busy.mpr hne)
        refine ⟨?_, iff_of_true rfl (List.cons_ne_nil _ _), h.polarity, ?_⟩
        · rw [hnone]
          exact le_rfl
        · intro r hr
          rw [hnone, List.mem_singleton] at hr
          subst hr
          change poseLabel (if g.gripperIsClosed = true then _ else _)
            = if g.completed = "close" then "open" else "close"
          by_cases hclosed : g.gripperIsClosed = true
          · rw [if_pos hclosed, if_pos (h.polarity.mp hclosed)]
            rfl
          · rw [if_neg hclosed, if_neg fun hc ↦ hclosed (h.polarity.mpr hc)]
            rfl

theorem Told.toggleGraspObject (h : g.Told) : g.toggleGraspObject.Told :=
  ⟨h.single, h.busy, h.polarity, h.opposite⟩

theorem Told.accept (h : g.Told) (id : ℕ) : (g.accept id).Told where
  single := (List.length_map _).trans_le h.single
  busy := h.busy.trans (not_congr List.map_eq_nil_iff.symm)
  polarity := h.polarity
  opposite r hr := by
    obtain ⟨r', hr', rfl⟩ := List.mem_map.mp hr
    split
    · exact h.opposite r' hr'
    · exact h.opposite r' hr'

/-- A goal that has ended without a result leaves the polarity. -/
theorem Told.drop (h : g.Told) (hr : r ∈ g.outstanding) :
    ({ g.drop r.id with gripperBusy := false } : Grip K).Told :=
  .of_idle (drop_outstanding (h.outstanding_eq hr)) rfl h.polarity

theorem Told.response (h : g.Told) (hr : r ∈ g.outstanding) (goalHandle : Option Bool) :
    (g.goalResponseCallback goalHandle r.id).Told := by
  match goalHandle with
  | none => exact h.drop hr
  | some false => exact h.drop hr
  | some true => exact h.accept r.id

/-- **One result.** The flags go on telling exactly if the goal was carried out, or there is no
result. -/
theorem Told.result_iff (h : g.Told) (hr : r ∈ g.outstanding) (status : Option ℤ) :
    (g.resultCallback status r).Told ↔ ∀ code, status = some code → code = statusSucceeded := by
  have hidle := drop_outstanding (h.outstanding_eq hr)
  match status with
  | none => exact iff_of_true (h.drop hr) (by rintro _ ⟨⟩)
  | some code =>
    constructor
    · rintro htold _ ⟨⟩
      by_contra hne
      have hcompleted : (g.resultCallback (some code) r).completed = g.completed :=
        completed_cons_of_ne hne r.label
      have hpolarity := htold.polarity
      rw [hcompleted] at hpolarity
      have hclosed : (g.resultCallback (some code) r).gripperIsClosed = true ↔ r.label = "close" :=
        decide_eq_true_iff
      rw [hclosed, h.opposite r hr] at hpolarity
      by_cases hlast : g.completed = "close"
      · rw [if_pos hlast] at hpolarity
        exact absurd (hpolarity.mpr hlast) (by decide)
      · rw [if_neg hlast] at hpolarity
        exact hlast (hpolarity.mp rfl)
    · intro hsucceeds
      obtain rfl := hsucceeds code rfl
      refine .of_idle hidle rfl ?_
      have hcompleted : (g.resultCallback (some statusSucceeded) r).completed = r.label :=
        completed_cons_of_succeeded r.label
      rw [hcompleted]
      exact decide_eq_true_iff

/-- **One step.** -/
theorem Told.step_iff (h : g.Told) {e : GripEvent} (hstep : g.step cfg e = some g') :
    g'.Told ↔ e.Succeeds := by
  match e with
  | .toggleGripper available =>
    obtain rfl := Option.some.inj hstep
    exact iff_of_true (h.toggleGripper available) trivial
  | .toggleGraspObject =>
    obtain rfl := Option.some.inj hstep
    exact iff_of_true h.toggleGraspObject trivial
  | .response id goalHandle =>
    obtain ⟨r, hfind, rfl⟩ := Option.map_eq_some_iff.mp hstep
    have hid := List.find?_some hfind
    rw [decide_eq_true_iff] at hid
    obtain ⟨rfl, -⟩ := hid
    exact iff_of_true (h.response (List.mem_of_find?_eq_some hfind) goalHandle) trivial
  | .result id status =>
    obtain ⟨r, hfind, rfl⟩ := Option.map_eq_some_iff.mp hstep
    rw [h.result_iff (List.mem_of_find?_eq_some hfind)]
    match status with
    | none => exact iff_of_true (by rintro _ ⟨⟩) trivial
    | some code => exact ⟨fun hall ↦ hall code rfl, by rintro hcode _ ⟨⟩; exact hcode⟩

end Grip

/-! ## Runs -/

theorem gripAfter_concat (events : List GripEvent) (e : GripEvent) :
    gripAfter cfg (events ++ [e]) = gripAfter cfg events >>= fun g ↦ g.step cfg e := by
  rw [gripAfter, List.foldlM_append, gripAfter]
  refine congrArg _ (funext fun g ↦ ?_)
  exact bind_pure _

/-- **When the flags of the gripper tell the truth.** They do all along a run exactly if no goal
ends with a result other than `SUCCEEDED`. -/
theorem gripper_flags_iff {events : List GripEvent} {g : Grip K}
    (hrun : gripAfter cfg events = some g) :
    (∀ before g', before <+: events → gripAfter cfg before = some g' → g'.Told) ↔
      ∀ e ∈ events, e.Succeeds := by
  induction events using List.reverseRecOn generalizing g with
  | nil =>
    refine iff_of_true (fun before g' hinit hbefore ↦ ?_) (by rintro _ ⟨⟩)
    rw [List.prefix_nil.mp hinit] at hbefore
    obtain rfl := Option.some.inj hbefore
    exact Grip.told_initial
  | append_singleton events e ih =>
    rw [gripAfter_concat] at hrun
    obtain ⟨last, hlast, hstep⟩ := Option.bind_eq_some_iff.mp hrun
    rw [List.forall_mem_append, ← ih hlast, List.forall_mem_singleton]
    have hwhole : gripAfter cfg (events ++ [e]) = some g := by rw [gripAfter_concat, hrun]
    constructor
    · intro htold
      have hbefore : ∀ before g', before <+: events → gripAfter cfg before = some g' → g'.Told :=
        fun before g' hinit ↦ htold before g' (hinit.trans (List.prefix_append _ _))
      have hlastTold := hbefore events last (List.prefix_refl _) hlast
      exact ⟨hbefore, (hlastTold.step_iff hstep).mp (htold _ g (List.prefix_refl _) hwhole)⟩
    · rintro ⟨hbefore, hsucceeds⟩ before g' hinit hg'
      rcases List.prefix_concat_iff.mp hinit with rfl | hinit
      · obtain rfl : g = g' := Option.some.inj (hwhole.symm.trans hg')
        have hlastTold := hbefore events last (List.prefix_refl _) hlast
        exact (hlastTold.step_iff hstep).mpr hsucceeds
      · exact hbefore before g' hinit hg'

/-- A configuration of zeros. -/
noncomputable def zeroConfig : Config ℝ :=
  { Pipeline.Config.blank with linearSpeed := 0, isdigit := fun _ ↦ false }

/-- A close that succeeds, another object, and an open that is rejected. -/
def rejectedRun : List GripEvent :=
  [.toggleGripper true, .response 0 (some true), .result 0 (some statusSucceeded),
    .toggleGraspObject, .toggleGripper true, .response 1 (some false)]

theorem gripper_flags_rejected : ∃ g, gripAfter zeroConfig rejectedRun = some g ∧ g.Told := by
  have hsome : (gripAfter zeroConfig rejectedRun).isSome := rfl
  obtain ⟨g, hrun⟩ := Option.isSome_iff_exists.mp hsome
  have hsucceeds : ∀ e ∈ rejectedRun, e.Succeeds := by
    simp [rejectedRun, GripEvent.Succeeds]
  exact ⟨g, hrun, (gripper_flags_iff zeroConfig hrun).mpr hsucceeds _ g (List.prefix_refl _) hrun⟩

/-- The gripper closes, and the goal is aborted (6). The flag tells that it is closed. -/
theorem gripper_flags_aborted :
    ¬∀ (cfg : Config ℝ) (events : List GripEvent) (g : Grip ℝ),
      gripAfter cfg events = some g → g.Told := by
  intro h
  have htold := h zeroConfig
    [.toggleGripper true, .response 0 (some true), .result 0 (some 6)] _ rfl
  have hclosed : "open" = "close" := htold.polarity.mp rfl
  exact absurd hclosed (by decide)

end VzletUr3e.Teleop
