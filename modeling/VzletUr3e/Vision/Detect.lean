import VzletUr3e.Control.Python
import VzletUr3e.Library.GreedyMatch

/-!
# Frames and detections

The parts of `VisionProcessor` that a vote is made of: the camera callback and the wait for a new
frame, the candidates of a detection, the greedy match against a reference frame, and the average of
matched frames. The camera and the network are the environment's: a wait is given by what each
turn of its loop meets, and an inference by its result.

Debug images and log texts are left out.
-/

namespace VzletUr3e.Vision

open Control PyFloat

variable {K : Type} [PyFloat K] {Img : Type}

/-! ## The camera -/

/-- The frame that the node holds. -/
structure Camera (Img : Type) where
  latestBgr : Option Img
  latestImageSeq : ℕ

/-- `image_callback`, for a message that converts to an image or does not. -/
def Camera.imageCallback (camera : Camera Img) : Option Img → Camera Img
  | none => camera
  | some bgr => ⟨some bgr, camera.latestImageSeq + 1⟩

/-- One turn of the wait while `rclpy.ok()`: the messages that arrive during the spin, and whether
the time is up after it. -/
structure Turn (Img : Type) where
  messages : List (Option Img)
  timedOut : Bool

/-- `_get_next_bgr_frame`: the frame with its sequence number if there is one, and the camera
afterwards. After the last turn `rclpy.ok()` is false. -/
def getNextBgrFrame (lastSeq : ℕ) : List (Turn Img) → Camera Img → Option (Img × ℕ) × Camera Img
  | [], camera => (none, camera)
  | turn :: turns, camera =>
    let camera := turn.messages.foldl Camera.imageCallback camera
    match camera.latestBgr with
    | some bgr =>
      if camera.latestImageSeq ≠ lastSeq then (some (bgr, camera.latestImageSeq), camera)
      else if turn.timedOut then (none, camera)
      else getNextBgrFrame lastSeq turns camera
    | none => if turn.timedOut then (none, camera) else getNextBgrFrame lastSeq turns camera

theorem le_foldl_imageCallback (messages : List (Option Img)) : ∀ (camera : Camera Img),
    camera.latestImageSeq ≤ (messages.foldl Camera.imageCallback camera).latestImageSeq := by
  induction messages with
  | nil => exact fun _ ↦ le_rfl
  | cons message messages ih =>
    intro camera
    refine le_trans ?_ (ih (camera.imageCallback message))
    cases message with
    | none => exact le_rfl
    | some bgr => exact Nat.le_succ _

/-- The camera only counts up, and a frame that is returned is the newest one and newer than the
last. -/
theorem getNextBgrFrame_spec {lastSeq : ℕ} : ∀ {turns : List (Turn Img)} {camera : Camera Img},
    lastSeq ≤ camera.latestImageSeq →
    lastSeq ≤ (getNextBgrFrame lastSeq turns camera).2.latestImageSeq ∧
      ∀ bgr seq, (getNextBgrFrame lastSeq turns camera).1 = some (bgr, seq) → lastSeq < seq ∧
        seq = (getNextBgrFrame lastSeq turns camera).2.latestImageSeq := by
  intro turns
  induction turns with
  | nil => exact fun h ↦ ⟨h, by simp [getNextBgrFrame]⟩
  | cons turn turns ih =>
    intro camera h
    have hle := h.trans (le_foldl_imageCallback turn.messages camera)
    rw [getNextBgrFrame]
    -- the messages of a turn only raise the sequence number
    generalize turn.messages.foldl Camera.imageCallback camera = camera' at hle
    split
    · split
      · rename_i hne
        refine ⟨hle, ?_⟩
        rintro _ _ ⟨⟩
        exact ⟨lt_of_le_of_ne hle (Ne.symm hne), rfl⟩
      · split
        · exact ⟨hle, by simp⟩
        · exact ih hle
    · split
      · exact ⟨hle, by simp⟩
      · exact ih hle

/-! ## Detections -/

/-- A detected box, with the attributes that may be absent. -/
structure Box (K : Type) where
  x1 : K
  y1 : K
  x2 : K
  y2 : K
  conf : Option K
  cls : Option ℤ

/-- Where on the object the gripper goes. -/
inductive GraspMode
  | center
  | bottom
  | upper
deriving DecidableEq, Repr

structure Candidate (K : Type) where
  box : Box K
  conf : K
  centerU : K
  centerV : K
  radiusPx : K
  area : K
  selected : Bool
  className : String
  graspMode : GraspMode
  posePrefix : Option String

def Box.confidence (box : Box K) : K := box.conf.getD (lit 0)

def Box.clsId (box : Box K) : ℤ := box.cls.getD (-1)

/-- Radius and area of `_box_center_radius_area`. -/
def Box.radiusArea (box : Box K) : K × K :=
  let w := maxZero (box.x2 - box.x1)
  let h := maxZero (box.y2 - box.y1)
  (lit (1 / 2) * (if lt w h then h else w), w * h)

/-- `_box_grasp_point`: the center of the box, or of its lower or upper half. -/
def Box.graspPoint (box : Box K) (graspMode : GraspMode) : K × K :=
  let centerU := lit (1 / 2) * (box.x1 + box.x2)
  let centerY := lit (1 / 2) * (box.y1 + box.y2)
  match graspMode with
  | .bottom => (centerU, lit (1 / 2) * (centerY + box.y2))
  | .upper => (centerU, lit (1 / 2) * (box.y1 + centerY))
  | .center => (centerU, centerY)

/-- `_make_debug_candidate`. -/
def makeDebugCandidate (box : Box K) (className : String) (graspMode : GraspMode)
    (posePrefix : Option String) : Candidate K where
  box := box
  conf := box.confidence
  centerU := (box.graspPoint graspMode).1
  centerV := (box.graspPoint graspMode).2
  radiusPx := box.radiusArea.1
  area := box.radiusArea.2
  selected := false
  className := className
  graspMode := graspMode
  posePrefix := posePrefix

/-- `_make_candidates_for_box`. A resistor can be grasped at either end. -/
def makeCandidatesForBox (box : Box K) (className : String) : List (Candidate K) :=
  if className = "wire5" then [makeDebugCandidate box className .bottom none]
  else if className = "resist" then
    [makeDebugCandidate box className .bottom (some "resist_storage_0"),
      makeDebugCandidate box className .upper (some "resist_storage_1")]
  else [makeDebugCandidate box className .center none]

/-- One result of the network: its boxes, if it has any attribute of them, and its class names. -/
structure Result (K : Type) where
  boxes : Option (List (Box K))
  names : List (ℤ × String)

/-- What comes of an inference. -/
inductive Inference (K : Type)
  /-- There is no model. -/
  | noModel
  /-- The prediction raises. -/
  | failed
  | results (results : List (Result K))

/-- `str(names.get(cls_id, cls_id))`. -/
def Result.className (result : Result K) (clsId : ℤ) : String :=
  (result.names.lookup clsId).getD (toString clsId)

/-- `_get_target_class_id`: the first class of that name. -/
def Result.targetClassId (result : Result K) (targetClassName : String) : Option ℤ :=
  (result.names.find? fun name ↦ name.2 = targetClassName).map Prod.fst

/-- All candidates of a result. -/
def Result.allCandidates (result : Result K) (boxes : List (Box K)) : List (Candidate K) :=
  boxes.flatMap fun box ↦ makeCandidatesForBox box (result.className box.clsId)

/-- A target detection that counts. -/
def Candidate.isTarget (minConf : K) (targetClassId : ℤ) (candidate : Candidate K) : Bool :=
  candidate.box.clsId = targetClassId ∧ lt minConf candidate.conf

/-- `_detect_yolo_candidates`: the target candidates, and all of them. -/
def detectYoloCandidates (targetClassName : String) (minConf : K) :
    Inference K → Option (List (Candidate K)) × Option (List (Candidate K))
  | .noModel => (none, none)
  | .failed => (none, none)
  | .results [] => (some [], some [])
  | .results (result :: _) =>
    let boxes := result.boxes.getD []
    if boxes.isEmpty then (some [], some [])
    else
      let allCandidates := result.allCandidates boxes
      match result.targetClassId targetClassName with
      | none => (none, some allCandidates)
      | some targetClassId =>
        (some (allCandidates.filter (Candidate.isTarget minConf targetClassId)),
          some allCandidates)

/-- A candidate that is detected is above the confidence asked for. -/
theorem lt_conf_of_detected {targetClassName : String} {minConf : K} {inference : Inference K}
    {candidates : List (Candidate K)}
    (h : (detectYoloCandidates targetClassName minConf inference).1 = some candidates) :
    ∀ c ∈ candidates, lt minConf c.conf = true := by
  unfold detectYoloCandidates at h
  split at h
  · cases h
  · cases h
  · cases h
    simp
  · dsimp only at h
    split at h
    · cases h
      simp
    · split at h
      · cases h
      · cases h
        intro c hc
        have htarget := (List.mem_filter.mp hc).2
        rw [Candidate.isTarget, decide_eq_true_eq] at htarget
        exact htarget.2

/-- The first result has a box of the target class, above the confidence asked for. -/
def Inference.Shows (targetClassName : String) (minConf : K) : Inference K → Prop
  | .results (result :: _) => ∃ targetClassId,
    result.targetClassId targetClassName = some targetClassId ∧
      ∃ box ∈ result.boxes.getD [], box.clsId = targetClassId ∧ lt minConf box.confidence = true
  | _ => False

/-- Every box has a candidate, and its candidates have its confidence. -/
theorem makeCandidatesForBox_spec (box : Box K) (className : String) :
    makeCandidatesForBox box className ≠ [] ∧
      ∀ c ∈ makeCandidatesForBox box className, c.box = box ∧ c.conf = box.confidence := by
  rw [makeCandidatesForBox]
  split_ifs
  · exact ⟨List.cons_ne_nil _ _, List.forall_mem_singleton.mpr ⟨rfl, rfl⟩⟩
  · refine ⟨List.cons_ne_nil _ _, fun c hc ↦ ?_⟩
    rcases List.mem_pair.mp hc with rfl | rfl <;> exact ⟨rfl, rfl⟩
  · exact ⟨List.cons_ne_nil _ _, List.forall_mem_singleton.mpr ⟨rfl, rfl⟩⟩

/-- The target candidates are those of the boxes of that class, above the confidence asked for. -/
theorem targets_ne_nil_iff {result : Result K} {boxes : List (Box K)} {minConf : K}
    {targetClassId : ℤ} :
    (result.allCandidates boxes).filter (Candidate.isTarget minConf targetClassId) ≠ [] ↔
      ∃ box ∈ boxes, box.clsId = targetClassId ∧ lt minConf box.confidence = true := by
  rw [ne_eq, List.filter_eq_nil_iff, not_forall]
  constructor
  · rintro ⟨c, hc⟩
    obtain ⟨hmem, htarget⟩ := Classical.not_imp.mp hc
    rw [not_not, Candidate.isTarget, decide_eq_true_eq] at htarget
    obtain ⟨box, hbox, hof⟩ := List.mem_flatMap.mp hmem
    obtain ⟨rfl, hconf⟩ := (makeCandidatesForBox_spec box _).2 c hof
    exact ⟨c.box, hbox, htarget.1, hconf ▸ htarget.2⟩
  · rintro ⟨box, hbox, hid, hconf⟩
    obtain ⟨hne, hall⟩ := makeCandidatesForBox_spec box (result.className box.clsId)
    obtain ⟨c, hc⟩ := List.exists_mem_of_ne_nil _ hne
    obtain ⟨hof, hconf'⟩ := hall c hc
    refine ⟨c, Classical.not_imp.mpr ⟨List.mem_flatMap.mpr ⟨box, hbox, hc⟩, ?_⟩⟩
    rw [not_not, Candidate.isTarget, decide_eq_true_eq, hof, hconf']
    exact ⟨hid, hconf⟩

/-- **Detections.** There are target candidates exactly when a box of the target class is shown. -/
theorem exists_detected_iff {targetClassName : String} {minConf : K} {inference : Inference K} :
    (∃ candidates, (detectYoloCandidates targetClassName minConf inference).1 = some candidates ∧
      candidates ≠ []) ↔ inference.Shows targetClassName minConf := by
  rcases inference with _ | _ | _ | ⟨result, results⟩
  · exact iff_of_false (by simp [detectYoloCandidates]) id
  · exact iff_of_false (by simp [detectYoloCandidates]) id
  · exact iff_of_false (by simp [detectYoloCandidates]) id
  · rw [detectYoloCandidates, Inference.Shows]
    dsimp only
    by_cases hempty : (result.boxes.getD []).isEmpty
    · rw [if_pos hempty, List.isEmpty_iff.mp hempty]
      simp
    · rw [if_neg hempty]
      rcases result.targetClassId targetClassName with _ | targetClassId
      · simp
      · simp only [Option.some.injEq, exists_eq_left']
        exact targets_ne_nil_iff

/-! ## The candidate nearest to the tool -/

/-- `min` and `max` by a key: the first extremal element. -/
def firstBest {α : Type} (better : α → α → Bool) : List α → Option α
  | [] => none
  | a :: l => some (l.foldl (fun best b ↦ if better b best then b else best) a)

/-- `_select_nearest_to_tool`, by index. -/
def selectNearestToTool (candidates : List (Candidate K)) (toolProjection : Option (K × K × K)) :
    Option ℕ :=
  let indexed := candidates.zipIdx
  let best := match toolProjection with
    | none => firstBest (fun a b : Candidate K × ℕ ↦ lt b.1.conf a.1.conf) indexed
    | some (tool0U, tool0V, _) =>
      let dist (c : Candidate K) := hypot (c.centerU - tool0U) (c.centerV - tool0V)
      firstBest (fun a b : Candidate K × ℕ ↦ lt (dist a.1) (dist b.1)) indexed
  best.map Prod.snd

/-- The loop that sets `selected`. -/
def markSelected (candidates : List (Candidate K)) (toolProjection : Option (K × K × K)) :
    List (Candidate K) :=
  candidates.mapIdx fun i c ↦
    { c with selected := selectNearestToTool candidates toolProjection = some i }

/-! ## Matching and averaging -/

/-- The distance of two centers. -/
def centerDist (ref candidate : Candidate K) : K :=
  hypot (candidate.centerU - ref.centerU) (candidate.centerV - ref.centerV)

/-- `_match_candidates_to_reference`. -/
def matchCandidatesToReference (maxCenterDistPx : K)
    (referenceCandidates currentCandidates : List (Candidate K)) : Option (List (Candidate K)) :=
  if referenceCandidates.length ≠ currentCandidates.length then none
  else GreedyMatch.greedy lt centerDist maxCenterDistPx referenceCandidates currentCandidates

/-- One averaged candidate. -/
def averageSamples (base : Candidate K) (samples : List (Candidate K)) : Candidate K :=
  { base with
    centerU := pySum (samples.map Candidate.centerU) / lit samples.length
    centerV := pySum (samples.map Candidate.centerV) / lit samples.length
    radiusPx := pySum (samples.map Candidate.radiusPx) / lit samples.length
    area := pySum (samples.map Candidate.area) / lit samples.length
    conf := pySum (samples.map Candidate.conf) / lit samples.length
    selected := false }

/-- `_average_candidate_votes`. A frame with too few candidates, and no frames at all, are an
`IndexError`. -/
def averageCandidateVotes (candidateVotes : List (List (Candidate K))) :
    Option (List (Candidate K)) := do
  let reference ← candidateVotes.head?
  (List.range reference.length).mapM fun candidateIndex ↦ do
    let samples ← candidateVotes.mapM fun frameCandidates ↦ frameCandidates[candidateIndex]?
    let base ← samples.head?
    return averageSamples base samples

end VzletUr3e.Vision
