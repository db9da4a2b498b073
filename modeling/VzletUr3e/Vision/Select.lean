import VzletUr3e.Pipeline.Run
import VzletUr3e.Vision.Kinds
import VzletUr3e.Vision.Stable

/-!
# From a vote to a grid pose

`select_yolo_grid_pose` takes the candidate nearest to the tool, turns its pixel into a point of the
base frame, and looks for the closest pose of the table. Each of the helpers has its own way to say
that it failed: no value, an empty list, or an exception that it catches.

One of them does not: the height of the camera goes into a log text before it is tested, and a text
cannot be made of a height that is missing. So the function keeps its word exactly when that lookup
succeeds or is never made.
-/

namespace VzletUr3e.Vision

open Control PyFloat

variable {K Img : Type}

/-! ## Transforms -/

structure Point (K : Type) where
  x : K
  y : K
  z : K

/-- A transform that `lookup_transform` has found. -/
structure Transform (K : Type) where
  translation : Point K
  rotation : Pipeline.Quaternion K

/-- The intrinsic parameters of the camera. -/
structure Intrinsics (K : Type) where
  fx : K
  fy : K
  cx : K
  cy : K

/-- `do_transform_point`, which may raise. -/
abbrev DoTransformPoint (K : Type) := Point K → Transform K → Option (Point K)

variable [PyFloat K] [PyOrder K] (cam : Intrinsics K) (doTransformPoint : DoTransformPoint K)

/-- Whether a pixel is outside the image of 640 by 480 with its margin. -/
def outsideUsableImage (u v : K) : Bool :=
  let marginPx : K := lit 200
  lt u (lit (-200)) || lt (lit 640 + marginPx) u || lt v (lit (-200)) || lt (lit 480 + marginPx) v

/-- `project_tool0_to_image`, by what its two lookups find. All its exceptions are caught. -/
def projectTool0ToImage (tfBaseTool tfCamBase : Option (Transform K)) : Option (K × K × K) := do
  let tool ← tfBaseTool
  let camBase ← tfCamBase
  let pointCam ← doTransformPoint ⟨tool.translation.x, tool.translation.y, lit (1 / 100)⟩ camBase
  if PyOrder.le pointCam.z (lit (5 / 100)) then none
  else
    let x ← pyDiv (cam.fx * pointCam.x) pointCam.z
    let y ← pyDiv (cam.fy * pointCam.y) pointCam.z
    let u := x + cam.cx
    let v := y + cam.cy
    if outsideUsableImage u v then none else some (u, v, pointCam.z)

/-- One turn of the vote with the lookups of its projection. -/
structure TfFrame (K Img : Type) where
  turns : List (Turn Img)
  predict : Img → Inference K
  tfBaseTool : Option (Transform K)
  tfCamBase : Option (Transform K)

/-- The frame that the vote sees. -/
def TfFrame.frame (f : TfFrame K Img) : Frame K Img where
  turns := f.turns
  predict := f.predict
  toolProjection := projectTool0ToImage cam doTransformPoint f.tfBaseTool f.tfCamBase

/-! ## The point in the base frame -/

/-- What `select_yolo_grid_pose` can raise. -/
inductive SelectError
  | vote (e : PyException)
  /-- A format that is given `None`. -/
  | typeError
deriving DecidableEq, Repr

/-- `get_camera_height_depth_estimate`. -/
def getCameraHeightDepthEstimate (tfBaseCam : Option (Transform K)) : Option K :=
  tfBaseCam.map fun tf ↦ PyFloat.abs tf.translation.z

/-- The log text of `pixel_to_base_parallel_camera`, which formats the depth with `.4f`. -/
def logDepth (depthM : Option K) : Except SelectError Unit :=
  match depthM with
  | none => .error .typeError
  | some _ => .ok ()

/-- `pixel_to_base_parallel_camera`, by what the lookup of the height and its own lookup find. -/
def pixelToBaseParallelCamera (tfHeight tfBaseCam : Option (Transform K)) (u v : K) :
    Except SelectError (Option (Point K)) := do
  let depthM := getCameraHeightDepthEstimate tfHeight
  logDepth depthM
  match depthM with
  | none => return none
  | some depthM =>
    if PyOrder.le depthM (lit 0) then return none
    else return do
      let x ← pyDiv ((u - cam.cx) * depthM) cam.fx
      let y ← pyDiv ((v - cam.cy) * depthM) cam.fy
      let tf ← tfBaseCam
      doTransformPoint ⟨x, y, depthM⟩ tf

/-! ## The closest pose -/

/-- `text in s`. -/
def occursIn (text s : Poses.Str) : Bool := s.tails.any fun rest ↦ text.isPrefixOf rest

/-- The poses that `find_closest_zone_pose_to_base_xy` does not skip. -/
def isGridPose (targetClassName : String) (posePrefix : Option String) (poseName : Poses.Str) :
    Bool :=
  !("zone".toList.isPrefixOf poseName)
    && (posePrefix.all fun p ↦ p.toList.isPrefixOf poseName)
    && occursIn targetClassName.toList poseName

/-- One turn of its loop. The first of the closest poses stays. -/
def closerPose (x y : K) (best : Option (Poses.Str × K)) (entry : Poses.Str × Poses.Pose K) :
    Option (Poses.Str × K) :=
  let dist := hypot (entry.2.x - x) (entry.2.y - y)
  match best with
  | none => some (entry.1, dist)
  | some (_, bestDist) => if lt dist bestDist then some (entry.1, dist) else best

/-- `find_closest_zone_pose_to_base_xy`. -/
def findClosestZonePoseToBaseXy (poses : List (Poses.Str × Poses.Pose K))
    (targetXBase targetYBase : K) (targetClassName : String) (posePrefix : Option String) : Option Poses.Str :=
  ((poses.filter fun entry ↦ isGridPose targetClassName posePrefix entry.1).foldl
    (closerPose targetXBase targetYBase) none).map Prod.fst

/-! ## The selection -/

/-- What is done with the candidate that is selected. -/
def poseForCandidate (tfHeight tfBaseCam : Option (Transform K))
    (poses : List (Poses.Str × Poses.Pose K)) (targetClassName : String) (selected : Candidate K) :
    Except SelectError (Option Poses.Str) := do
  let targetBase ← pixelToBaseParallelCamera cam doTransformPoint tfHeight tfBaseCam
    selected.centerU selected.centerV
  match targetBase with
  | none => return none
  | some point =>
    return (findClosestZonePoseToBaseXy poses point.x point.y targetClassName selected.posePrefix)

/-- What is done with the candidates of a vote. The second test for no candidates is behind the
first one and never met. -/
def selectFrom (tfHeight tfBaseCam : Option (Transform K)) (poses : List (Poses.Str × Poses.Pose K))
    (targetClassName : String) (toolProjection : Option (K × K × K)) :
    Option (List (Candidate K)) → Except SelectError (Option Poses.Str)
  | none => return none
  | some [] => return none
  | some (c :: candidates) =>
    match (selectNearestToTool (c :: candidates) toolProjection).bind ((c :: candidates)[·]?) with
    | none => return none
    | some selected =>
      poseForCandidate cam doTransformPoint tfHeight tfBaseCam poses targetClassName selected

/-- `select_yolo_grid_pose`, from the node, the frames of the vote with their lookups, and the two
lookups behind it. -/
def selectYoloGridPose (node : Node K) (camera : Camera Img) (frames : ℕ → TfFrame K Img)
    (tfHeight tfBaseCam : Option (Transform K)) (poses : List (Poses.Str × Poses.Pose K))
    (targetClassName : String) : Except SelectError (Option Poses.Str) :=
  match getStableYoloCandidates node targetClassName camera
    (fun i ↦ (frames i).frame cam doTransformPoint) with
  | .error e => .error (.vote e)
  | .ok (candidates, toolProjection) =>
    selectFrom cam doTransformPoint tfHeight tfBaseCam poses targetClassName toolProjection
      candidates

/-! ## What the helpers return -/

theorem mem_of_firstBest {α : Type} {better : α → α → Bool} {l : List α} {a : α}
    (h : firstBest better l = some a) : a ∈ l := by
  have hfold : ∀ (l : List α) (best : α),
      l.foldl (fun best b ↦ if better b best then b else best) best ∈ best :: l := by
    intro l
    induction l with
    | nil => exact fun _ ↦ List.mem_singleton_self _
    | cons b l ih =>
      intro best
      rw [List.foldl_cons]
      rcases List.mem_cons.mp (ih (if better b best then b else best)) with heq | hmem
      · rw [heq]
        split <;> simp
      · exact List.mem_cons_of_mem _ (List.mem_cons_of_mem _ hmem)
  cases l with
  | nil => cases h
  | cons b l =>
    cases h
    exact hfold l b

omit [PyOrder K] in
/-- There is a nearest candidate when there is a candidate at all. -/
theorem exists_nearestToTool {candidates : List (Candidate K)} (hne : candidates ≠ [])
    (toolProjection : Option (K × K × K)) : ∃ selected ∈ candidates,
      (selectNearestToTool candidates toolProjection).bind (candidates[·]?) = some selected := by
  have hbest (better : Candidate K × ℕ → Candidate K × ℕ → Bool) : ∃ selected ∈ candidates,
      ((firstBest better candidates.zipIdx).map Prod.snd).bind (candidates[·]?)
        = some selected := by
    obtain ⟨best, hbest⟩ : ∃ best, firstBest better candidates.zipIdx = some best := by
      rcases candidates with _ | ⟨c, candidates⟩
      · exact absurd rfl hne
      · exact ⟨_, rfl⟩
    obtain ⟨c, i⟩ := best
    have hget := List.mem_zipIdx_iff_getElem?.mp (mem_of_firstBest hbest)
    rw [hbest]
    exact ⟨c, List.mem_of_getElem? hget, hget⟩
  rcases toolProjection with _ | ⟨u, v, z⟩
  · exact hbest _
  · exact hbest _

omit [PyOrder K] in
/-- The closest pose is one of the table. -/
theorem mem_of_closest {poses : List (Poses.Str × Poses.Pose K)} {x y : K}
    {targetClassName : String} {posePrefix : Option String} {name : Poses.Str}
    (h : findClosestZonePoseToBaseXy poses x y targetClassName posePrefix = some name) :
    name ∈ poses.map Prod.fst := by
  have hfold : ∀ (l : List (Poses.Str × Poses.Pose K)) (best : Option (Poses.Str × K)),
      (∀ entry ∈ l, entry.1 ∈ poses.map Prod.fst) →
      (∀ name dist, best = some (name, dist) → name ∈ poses.map Prod.fst) →
      ∀ name dist, l.foldl (closerPose x y) best = some (name, dist) →
        name ∈ poses.map Prod.fst := by
    intro l
    induction l with
    | nil => exact fun _ _ hbest ↦ hbest
    | cons entry l ih =>
      intro best hl hbest
      obtain ⟨hentry, hl⟩ := List.forall_mem_cons.mp hl
      refine ih _ hl ?_
      -- the best so far is the old one or the entry
      intro name dist hname
      unfold closerPose at hname
      dsimp only at hname
      split at hname
      · cases hname
        exact hentry
      · split at hname
        · cases hname
          exact hentry
        · exact hbest _ _ hname
  obtain ⟨⟨_, dist⟩, hbest, rfl⟩ := Option.map_eq_some_iff.mp h
  refine hfold _ none (fun entry hentry ↦ ?_) (by simp) _ _ hbest
  exact List.mem_map_of_mem (List.mem_of_mem_filter hentry)

/-! ## What can be raised -/

/-- Nothing is raised, and what is returned is no pose or a key of the table. -/
def NoneOrKey (poses : List (Poses.Str × Poses.Pose K))
    (result : Except SelectError (Option Poses.Str)) : Prop :=
  ∃ pose, result = .ok pose ∧ ∀ name, pose = some name → name ∈ poses.map Prod.fst

variable {cam doTransformPoint} {node : Node K} {camera : Camera Img}
  {frames : ℕ → TfFrame K Img} {tfHeight tfBaseCam : Option (Transform K)}
  {poses : List (Poses.Str × Poses.Pose K)} {targetClassName : String}

/-- Without the height, the log text raises. -/
theorem poseForCandidate_none {selected : Candidate K} :
    poseForCandidate cam doTransformPoint none tfBaseCam poses targetClassName selected
      = .error .typeError := rfl

/-- With it, nothing raises. -/
theorem noneOrKey_of_height {tf : Transform K} {selected : Candidate K} :
    NoneOrKey poses (poseForCandidate cam doTransformPoint (some tf) tfBaseCam poses
      targetClassName selected) := by
  obtain ⟨targetBase, hpoint⟩ : ∃ targetBase, pixelToBaseParallelCamera cam doTransformPoint
      (some tf) tfBaseCam selected.centerU selected.centerV = .ok targetBase := by
    by_cases hdepth : PyOrder.le (PyFloat.abs tf.translation.z) (lit 0 : K) = true
    · exact ⟨none, if_pos hdepth⟩
    · exact ⟨_, if_neg hdepth⟩
  rw [poseForCandidate, hpoint]
  rcases targetBase with _ | point
  · exact ⟨none, rfl, by simp⟩
  · exact ⟨_, rfl, fun _ hname ↦ mem_of_closest hname⟩

/-- One of the candidates is selected. -/
theorem exists_selectFrom_eq {candidates : List (Candidate K)} (hne : candidates ≠ [])
    (toolProjection : Option (K × K × K)) : ∃ selected ∈ candidates,
      selectFrom cam doTransformPoint tfHeight tfBaseCam poses targetClassName toolProjection
          (some candidates)
        = poseForCandidate cam doTransformPoint tfHeight tfBaseCam poses targetClassName
            selected := by
  obtain ⟨selected, hmem, hselected⟩ := exists_nearestToTool hne toolProjection
  refine ⟨selected, hmem, ?_⟩
  rcases candidates with _ | ⟨c, candidates⟩
  · exact absurd rfl hne
  · rw [selectFrom, hselected]

/-- The candidates of a vote lead to a pose or to none exactly when there are none or the height of
the camera is found. -/
theorem noneOrKey_selectFrom_iff {toolProjection : Option (K × K × K)}
    {candidates : Option (List (Candidate K))} :
    NoneOrKey poses (selectFrom cam doTransformPoint tfHeight tfBaseCam poses targetClassName
      toolProjection candidates) ↔
      tfHeight.isSome ∨ ∀ l, candidates = some l → l = [] := by
  rcases candidates with _ | l
  · exact ⟨fun _ ↦ .inr (by simp), fun _ ↦ ⟨none, rfl, by simp⟩⟩
  · by_cases hnil : l = []
    · subst hnil
      exact ⟨fun _ ↦ .inr (by simp), fun _ ↦ ⟨none, rfl, by simp⟩⟩
    · obtain ⟨selected, -, hselected⟩ := exists_selectFrom_eq hnil toolProjection
      rw [hselected]
      rcases tfHeight with _ | tf
      · refine iff_of_false ?_ ?_
        · rintro ⟨pose, hpose, -⟩
          rw [poseForCandidate_none] at hpose
          cases hpose
        · rintro (hsome | hall)
          · cases hsome
          · exact hnil (hall l rfl)
      · exact iff_of_true noneOrKey_of_height (.inl rfl)

/-- The selection goes on with what the vote returns. -/
theorem selectYoloGridPose_of_vote {candidates : Option (List (Candidate K))}
    {toolProjection : Option (K × K × K)}
    (h : getStableYoloCandidates node targetClassName camera
      (fun i ↦ (frames i).frame cam doTransformPoint) = .ok (candidates, toolProjection)) :
    selectYoloGridPose cam doTransformPoint node camera frames tfHeight tfBaseCam poses
        targetClassName
      = selectFrom cam doTransformPoint tfHeight tfBaseCam poses targetClassName toolProjection
          candidates := by
  rw [selectYoloGridPose, h]

/-! ## The stage of the pipeline -/

/-- What the pipeline sees of a selection. -/
def asRaised : Except SelectError (Option Poses.Str) → Except Pipeline.Raised (Option Poses.Str)
  | .ok pose => .ok pose
  | .error _ => .error .exception

/-- Whenever the selection ends without a pose, `move_to_voted_grid_pose` returns `False`. -/
def FailureIsFalse (K : Type) [PyFloat K] (targetClassName : String)
    (result : Except SelectError (Option Poses.Str)) : Prop :=
  (∀ name, result ≠ .ok (some name)) →
    ∀ (env : Pipeline.Env K) (cfg : Pipeline.Config K) (w : Pipeline.World K),
      env.selectYoloGridPose w.requests targetClassName = asRaised result →
      ∃ w', Pipeline.moveToVotedGridPose env cfg targetClassName w = .ok false w'

omit [PyOrder K] in
theorem failureIsFalse_of_noneOrKey {result : Except SelectError (Option Poses.Str)}
    (h : NoneOrKey poses result) : FailureIsFalse K targetClassName result := by
  obtain ⟨pose, rfl, -⟩ := h
  intro hfailed env cfg w hanswer
  rcases pose with _ | name
  · have hvote : (Pipeline.raise (env.selectYoloGridPose w.requests targetClassName) :
        Pipeline.M K (Option Poses.Str)) { w with requests := w.requests + 1 }
          = .ok none { w with requests := w.requests + 1 } := by
      rw [hanswer]
      rfl
    have hstep : Pipeline.step .visionVote Option.isSome (do
          Pipeline.raise ((← Pipeline.ask env.selectYoloGridPose) targetClassName)) w
        = .ok none
          ({ w with requests := w.requests + 1 }.emit (.finished .visionVote .failed)) := by
      change Pipeline.step .visionVote Option.isSome (fun _ ↦
        (Pipeline.raise (env.selectYoloGridPose w.requests targetClassName) :
          Pipeline.M K (Option Poses.Str)) { w with requests := w.requests + 1 }) w = _
      unfold Pipeline.step
      rw [hvote]
      rfl
    exact ⟨_, StateError.bind_of_ok hstep⟩
  · exact absurd rfl (hfailed name)

omit [PyOrder K] in
/-- An accepted vote has candidates. -/
theorem averagedCandidates_ne_nil {frames : ℕ → Frame K Img} {ref : Shot K} {shots : List (Shot K)}
    {matched : List (List (Candidate K))}
    (h : Accepted node targetClassName camera frames ref shots matched) :
    averagedCandidates ref matched ≠ [] := by
  have hgood := h.good
  generalize numberedFrames node frames = all at hgood
  cases hgood with
  | cons _ _ hne _ =>
    intro hnil
    have hlength := congrArg List.length hnil
    rw [averagedCandidates, markSelected, List.length_mapIdx, List.length_mapIdx] at hlength
    exact hne (List.length_eq_zero_iff.mp hlength)

/-- **Selection.** `select_yolo_grid_pose` raises nothing and returns no pose or a key of the table,
and `move_to_voted_grid_pose` turns a failure into `False`, exactly when the lookup of the camera's
height succeeds or the vote is not accepted. -/
theorem select_yolo_grid_pose_iff :
    (NoneOrKey poses (selectYoloGridPose cam doTransformPoint node camera frames tfHeight tfBaseCam
        poses targetClassName) ∧
      FailureIsFalse K targetClassName (selectYoloGridPose cam doTransformPoint node camera
        frames tfHeight tfBaseCam poses targetClassName)) ↔
      tfHeight.isSome ∨ ¬∃ ref shots, Shots node targetClassName camera.latestImageSeq camera
          (numberedFrames node fun i ↦ (frames i).frame cam doTransformPoint) (ref :: shots) ∧
        ∀ shot ∈ shots, (matchCandidatesToReference node.yoloVoteMaxCenterDistPx ref.candidates
          shot.candidates).isSome := by
  refine (and_iff_left_of_imp failureIsFalse_of_noneOrKey).trans ?_
  rcases @getStableYoloCandidates_cases K _ Img node targetClassName camera
    (fun i ↦ (frames i).frame cam doTransformPoint) with hnone | ⟨ref, shots, matched, hacc⟩
  · rw [selectYoloGridPose_of_vote hnone]
    refine iff_of_true ⟨none, rfl, by simp⟩ (.inr ?_)
    -- good frames that match the first one would have been accepted
    rintro ⟨ref, shots, hgood, hmatch⟩
    obtain ⟨matched, hmatched⟩ := exists_matchedShots hmatch
    have haccepted := Accepted.getStableYoloCandidates_eq ⟨hgood, hmatched⟩
    rw [hnone] at haccepted
    cases haccepted
  · rw [selectYoloGridPose_of_vote hacc.getStableYoloCandidates_eq, noneOrKey_selectFrom_iff]
    refine or_congr_right (iff_of_false ?_ ?_)
    · exact fun hall ↦ averagedCandidates_ne_nil hacc (hall _ rfl)
    · exact not_not.mpr ⟨ref, shots, hacc.good, isSome_of_matchedShots hacc.matchedShots⟩

/-- The transform tree is out while the camera shows a resistor: the selection raises. -/
theorem select_raises_without_height :
    selectYoloGridPose (⟨600, 600, 320, 240⟩ : Intrinsics ℝ) (fun point _ ↦ some point) paramsNode
      ⟨none, 0⟩ (fun _ ↦ ⟨[⟨[some ()], false⟩], (resistFrame 100).predict, none, none⟩) none none []
      "resist" = .error .typeError := by
  obtain ⟨m, hacc⟩ := @accepted_resistFrames 100 le_rfl (by norm_num)
  have hframes : resistFrames 100 = fun _ ↦ resistFrame 100 := by
    funext i
    rw [resistFrames, ite_self]
  rw [hframes] at hacc
  have hne := averagedCandidates_ne_nil hacc
  obtain ⟨selected, -, hselected⟩ := exists_selectFrom_eq hne
    (voteLoop paramsNode "resist" ⟨none, 0⟩ fun _ ↦ resistFrame 100).toolProjection
  exact (selectYoloGridPose_of_vote hacc.getStableYoloCandidates_eq).trans
    (hselected.trans poseForCandidate_none)

end VzletUr3e.Vision
