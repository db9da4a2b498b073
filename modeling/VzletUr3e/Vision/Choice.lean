import VzletUr3e.Vision.BackProjection

/-!
# The pose that is chosen

A selection makes two searches, one behind the other: for the candidate nearest to the tool in the
image, and for the pose closest to that candidate's point in the base frame. Both keep the first
best element so far. In exact arithmetic each of them is an `argmin` of its distance, and the second
one runs over the poses that pass the filters of the first one's candidate.
-/

namespace VzletUr3e.Vision

open Control PyFloat

/-! ## Searches as `argmin` -/

/-- `min` and `max` by a key find the first element with the least key. -/
theorem firstBest_eq_argmin {α κ : Type} [LinearOrder κ] {better : α → α → Bool} {key : α → κ}
    (h : ∀ a b, better a b = true ↔ key a < key b) : ∀ l, firstBest better l = l.argmin key := by
  have hstep (l : List α) : ∀ best,
      some (l.foldl (fun best b ↦ if better b best then b else best) best)
      = l.foldl (List.argAux fun b c ↦ key b < key c) (some best) := by
    induction l with
    | nil => exact fun _ ↦ rfl
    | cons b l ih =>
      intro best
      rw [List.foldl_cons, ih, List.foldl_cons]
      congr 1
      by_cases hlt : key b < key best
      · rw [if_pos ((h b best).mpr hlt)]
        exact (if_pos hlt).symm
      · rw [if_neg fun hbetter ↦ hlt ((h b best).mp hbetter)]
        exact (if_neg hlt).symm
  intro l
  rcases l with _ | ⟨a, l⟩
  · rfl
  · exact hstep l a

/-- The distance of a pose in the plane of the base. -/
def poseDist {K : Type} [PyFloat K] (x y : K) (entry : Poses.Str × Poses.Pose K) : K :=
  hypot (entry.2.x - x) (entry.2.y - y)

/-- The loop over the poses finds the first closest one. -/
theorem foldl_closerPose_eq_argmin (x y : ℝ) (l : List (Poses.Str × Poses.Pose ℝ)) :
    l.foldl (closerPose x y) none
      = (l.argmin (poseDist x y)).map fun entry ↦ (entry.1, poseDist x y entry) := by
  induction l using List.reverseRecOn with
  | nil => rfl
  | append_singleton l entry ih =>
    rw [List.foldl_concat, ih, List.argmin_concat]
    rcases l.argmin (poseDist x y) with _ | best
    · rfl
    · by_cases hlt : poseDist x y entry < poseDist x y best
      · dsimp only
        rw [if_pos hlt]
        exact if_pos (lt_eq_true_iff.mpr hlt)
      · dsimp only
        rw [if_neg hlt]
        exact if_neg fun h ↦ hlt (lt_eq_true_iff.mp h)

/-! ## The candidate -/

/-- The candidate that the selection uses. -/
def usedCandidate {K : Type} [PyFloat K] (candidates : List (Candidate K))
    (toolProjection : Option (K × K × K)) : Option (Candidate K) :=
  (selectNearestToTool candidates toolProjection).bind (candidates[·]?)

/-- No candidate is nearer to the projection of the tool; without a projection, none has more
confidence. -/
def BestCandidate (candidates : List (Candidate ℝ)) :
    Option (ℝ × ℝ × ℝ) → Candidate ℝ → Prop
  | some (tool0U, tool0V, _), selected => ∀ c ∈ candidates,
    hypot (selected.centerU - tool0U) (selected.centerV - tool0V)
      ≤ hypot (c.centerU - tool0U) (c.centerV - tool0V)
  | none, selected => ∀ c ∈ candidates, c.conf ≤ selected.conf

/-- **The candidate** is one of the list, and there is none better. -/
theorem bestCandidate_of_used {candidates : List (Candidate ℝ)} {proj : Option (ℝ × ℝ × ℝ)}
    {selected : Candidate ℝ} (h : usedCandidate candidates proj = some selected) :
    selected ∈ candidates ∧ BestCandidate candidates proj selected := by
  have hsearch {κ : Type} [LinearOrder κ] {key : Candidate ℝ → κ}
      {better : Candidate ℝ × ℕ → Candidate ℝ × ℕ → Bool}
      (hbetter : ∀ a b, better a b = true ↔ key a.1 < key b.1)
      (hused : ((firstBest better candidates.zipIdx).map Prod.snd).bind (candidates[·]?)
        = some selected) : ∀ c ∈ candidates, key selected ≤ key c := by
    rw [@firstBest_eq_argmin _ _ _ better (fun a ↦ key a.1) hbetter] at hused
    obtain ⟨i, hi, hget⟩ := Option.bind_eq_some_iff.mp hused
    obtain ⟨⟨c', i'⟩, hmin, rfl⟩ := Option.map_eq_some_iff.mp hi
    -- the index leads back to the element that was found
    have hget' := List.mem_zipIdx_iff_getElem?.mp (List.argmin_mem hmin)
    rw [hget] at hget'
    cases hget'
    intro c hc
    obtain ⟨j, hj⟩ := List.mem_iff_getElem?.mp hc
    have hmem : (c, j) ∈ candidates.zipIdx := List.mem_zipIdx_iff_getElem?.mpr hj
    exact List.le_of_mem_argmin (f := fun a : Candidate ℝ × ℕ ↦ key a.1) hmem hmin
  constructor
  · obtain ⟨i, -, hget⟩ := Option.bind_eq_some_iff.mp h
    exact List.mem_of_getElem? hget
  · rcases proj with _ | ⟨u, v, z⟩
    · exact @hsearch ℝᵒᵈ _ (fun c ↦ OrderDual.toDual c.conf) _ (fun _ _ ↦ lt_eq_true_iff) h
    · exact @hsearch ℝ _ (fun c ↦ hypot (c.centerU - u) (c.centerV - v)) _
        (fun _ _ ↦ lt_eq_true_iff) h

/-! ## The filters -/

/-- What the name of a pose must be like for a candidate of the class. -/
structure PassesFilters (targetClassName : String) (posePrefix : Option String)
    (poseName : Poses.Str) : Prop where
  notZone : ¬"zone".toList <+: poseName
  className : targetClassName.toList <:+: poseName
  posePrefix : ∀ p, posePrefix = some p → p.toList <+: poseName

theorem occursIn_iff {text s : Poses.Str} : occursIn text s = true ↔ text <:+: s := by
  rw [occursIn, List.any_eq_true, List.infix_iff_prefix_suffix]
  refine exists_congr fun rest ↦ ?_
  rw [List.mem_tails, List.isPrefixOf_iff_prefix, and_comm]

theorem isGridPose_iff {targetClassName : String} {posePrefix : Option String}
    {poseName : Poses.Str} : isGridPose targetClassName posePrefix poseName = true ↔
      PassesFilters targetClassName posePrefix poseName := by
  rw [isGridPose, Bool.and_eq_true, Bool.and_eq_true, Bool.not_eq_true', Bool.eq_false_iff, ne_eq,
    List.isPrefixOf_iff_prefix, occursIn_iff]
  have hinit : posePrefix.all (fun p ↦ p.toList.isPrefixOf poseName) = true ↔
      ∀ p, posePrefix = some p → p.toList <+: poseName := by
    rcases posePrefix with _ | p
    · simp
    · simp
  rw [hinit]
  exact ⟨fun ⟨⟨hzone, hinit⟩, hclass⟩ ↦ ⟨hzone, hclass, hinit⟩,
    fun h ↦ ⟨⟨h.notZone, h.posePrefix⟩, h.className⟩⟩

/-! ## The pose -/

variable {poses : List (Poses.Str × Poses.Pose ℝ)} {x y : ℝ} {targetClassName : String}
  {posePrefix : Option String}

/-- The pose of that name passes the filters, and none that passes them is closer. -/
def ClosestPose (poses : List (Poses.Str × Poses.Pose ℝ)) (x y : ℝ) (targetClassName : String)
    (posePrefix : Option String) (name : Poses.Str) : Prop :=
  PassesFilters targetClassName posePrefix name ∧ ∃ pose, (name, pose) ∈ poses ∧
    ∀ entry ∈ poses, PassesFilters targetClassName posePrefix entry.1 →
      hypot (pose.x - x) (pose.y - y) ≤ hypot (entry.2.x - x) (entry.2.y - y)

/-- **The pose that is found** is a closest one. -/
theorem closestPose_of_found {name : Poses.Str}
    (h : findClosestZonePoseToBaseXy poses x y targetClassName posePrefix = some name) :
    ClosestPose poses x y targetClassName posePrefix name := by
  rw [findClosestZonePoseToBaseXy, foldl_closerPose_eq_argmin] at h
  obtain ⟨_, hbest, rfl⟩ := Option.map_eq_some_iff.mp h
  obtain ⟨⟨name, pose⟩, hmin, rfl⟩ := Option.map_eq_some_iff.mp hbest
  obtain ⟨hmem, hpasses⟩ := List.mem_filter.mp (List.argmin_mem hmin)
  refine ⟨isGridPose_iff.mp hpasses, pose, hmem, fun entry hentry hgrid ↦ ?_⟩
  have hfiltered : entry ∈ poses.filter fun entry ↦
      isGridPose targetClassName posePrefix entry.1 :=
    List.mem_filter.mpr ⟨hentry, isGridPose_iff.mpr hgrid⟩
  exact List.le_of_mem_argmin hfiltered hmin

/-- None is found when none passes the filters. -/
theorem not_passesFilters_of_none
    (h : findClosestZonePoseToBaseXy poses x y targetClassName posePrefix = none) :
    ∀ entry ∈ poses, ¬PassesFilters targetClassName posePrefix entry.1 := by
  rw [findClosestZonePoseToBaseXy, foldl_closerPose_eq_argmin, Option.map_eq_none_iff,
    Option.map_eq_none_iff, List.argmin_eq_none] at h
  intro entry hentry hgrid
  have hfiltered : entry ∈ poses.filter fun entry ↦
      isGridPose targetClassName posePrefix entry.1 :=
    List.mem_filter.mpr ⟨hentry, isGridPose_iff.mpr hgrid⟩
  rw [h] at hfiltered
  exact absurd hfiltered List.not_mem_nil

/-! ## The selection -/

variable {Img : Type} {cam : Intrinsics ℝ} {doTransformPoint : DoTransformPoint ℝ} {node : Node ℝ}
  {camera : Camera Img} {frames : ℕ → TfFrame ℝ Img} {tfHeight tfBaseCam : Option (Transform ℝ)}
  {candidates : List (Candidate ℝ)} {proj : Option (ℝ × ℝ × ℝ)}

/-- An accepted vote leads to the candidate that is used. -/
theorem exists_used_of_vote
    (h : getStableYoloCandidates node targetClassName camera
      (fun i ↦ (frames i).frame cam doTransformPoint) = .ok (some candidates, proj)) :
    ∃ selected, usedCandidate candidates proj = some selected ∧
      selectYoloGridPose cam doTransformPoint node camera frames tfHeight tfBaseCam poses
          targetClassName
        = poseForCandidate cam doTransformPoint tfHeight tfBaseCam poses targetClassName
            selected := by
  obtain ⟨ref, shots, matched, hacc, rfl⟩ := getStableYoloCandidates_eq_iff.mp ⟨proj, h⟩
  have hne := averagedCandidates_ne_nil hacc
  obtain ⟨selected, -, hselected⟩ := exists_nearestToTool hne proj
  refine ⟨selected, hselected, ?_⟩
  rw [selectYoloGridPose_of_vote h]
  rcases hcandidates : averagedCandidates ref matched with _ | ⟨c, l⟩
  · exact absurd hcandidates hne
  · rw [hcandidates] at hselected
    rw [selectFrom, hselected]

/-- What comes of a candidate comes of its point in the base frame. -/
theorem poseForCandidate_cases {selected : Candidate ℝ} {result : Option Poses.Str}
    (h : poseForCandidate cam doTransformPoint tfHeight tfBaseCam poses targetClassName selected
      = .ok result) :
    (pixelToBaseParallelCamera cam doTransformPoint tfHeight tfBaseCam selected.centerU
        selected.centerV = .ok none ∧ result = none) ∨
      ∃ point, pixelToBaseParallelCamera cam doTransformPoint tfHeight tfBaseCam selected.centerU
          selected.centerV = .ok (some point) ∧
        result = findClosestZonePoseToBaseXy poses point.x point.y targetClassName
          selected.posePrefix := by
  rw [poseForCandidate] at h
  rcases hpoint : pixelToBaseParallelCamera cam doTransformPoint tfHeight tfBaseCam
    selected.centerU selected.centerV with error | _ | point
  · rw [hpoint] at h
    cases h
  · rw [hpoint] at h
    cases h
    exact .inl ⟨rfl, rfl⟩
  · rw [hpoint] at h
    cases h
    exact .inr ⟨point, rfl, rfl⟩

/-- **The pose that is chosen.** If `select_yolo_grid_pose` returns a name, then the candidate it
used is one of an accepted vote and no other one is nearer to the tool, or more confident when the
tool has no projection; and among the poses that pass the filters for this candidate, none is closer
to its point in the base frame. If it returns none although that point exists, no pose passes the
filters. -/
theorem chosen_pose :
    (∀ name, selectYoloGridPose cam doTransformPoint node camera frames tfHeight tfBaseCam poses
        targetClassName = .ok (some name) →
      ∃ candidates proj selected point,
        getStableYoloCandidates node targetClassName camera
          (fun i ↦ (frames i).frame cam doTransformPoint) = .ok (some candidates, proj) ∧
        usedCandidate candidates proj = some selected ∧ selected ∈ candidates ∧
        BestCandidate candidates proj selected ∧
        pixelToBaseParallelCamera cam doTransformPoint tfHeight tfBaseCam selected.centerU
          selected.centerV = .ok (some point) ∧
        ClosestPose poses point.x point.y targetClassName selected.posePrefix name) ∧
    (∀ candidates proj, getStableYoloCandidates node targetClassName camera
          (fun i ↦ (frames i).frame cam doTransformPoint) = .ok (some candidates, proj) →
      selectYoloGridPose cam doTransformPoint node camera frames tfHeight tfBaseCam poses
        targetClassName = .ok none →
      ∃ selected, usedCandidate candidates proj = some selected ∧
        ∀ point, pixelToBaseParallelCamera cam doTransformPoint tfHeight tfBaseCam
            selected.centerU selected.centerV = .ok (some point) →
          ∀ entry ∈ poses, ¬PassesFilters targetClassName selected.posePrefix entry.1) := by
  constructor
  · intro name hname
    rcases @getStableYoloCandidates_cases ℝ _ Img node targetClassName camera
      (fun i ↦ (frames i).frame cam doTransformPoint) with hnone | ⟨ref, shots, matched, hacc⟩
    · rw [selectYoloGridPose_of_vote hnone] at hname
      cases hname
    · have hvote := hacc.getStableYoloCandidates_eq
      obtain ⟨selected, hused, hselect⟩ := exists_used_of_vote hvote
      obtain ⟨hmem, hbest⟩ := bestCandidate_of_used hused
      rw [hselect] at hname
      rcases poseForCandidate_cases hname with ⟨-, hnone⟩ | ⟨point, hpoint, hfound⟩
      · cases hnone
      · exact ⟨_, _, selected, point, hvote, hused, hmem, hbest, hpoint,
          closestPose_of_found hfound.symm⟩
  · intro candidates proj hvote hnone
    obtain ⟨selected, hused, hselect⟩ := exists_used_of_vote hvote
    refine ⟨selected, hused, fun point hpoint ↦ ?_⟩
    rw [hselect] at hnone
    rcases poseForCandidate_cases hnone with ⟨hpoint', -⟩ | ⟨point', -, hfound⟩
    · rw [hpoint] at hpoint'
      cases hpoint'
    · exact not_passesFilters_of_none hfound.symm

/-! ### A resistor under the camera -/

/-- A pose in each of the two storage rows. -/
noncomputable def storageRows : List (Poses.Str × Poses.Pose ℝ) :=
  [("resist_storage_0_0_0".toList, ⟨0, 1, 0, 0, 0, 0, 0, 1⟩),
    ("resist_storage_1_0_0".toList, ⟨1, 1, 0, 0, 0, 0, 0, 1⟩)]

/-- There is a pose for either end of a resistor. -/
theorem exists_found_storageRows (x y : ℝ) {posePrefix : Option String}
    (h : posePrefix = some "resist_storage_0" ∨ posePrefix = some "resist_storage_1") :
    ∃ name, findClosestZonePoseToBaseXy storageRows x y "resist" posePrefix = some name := by
  rcases hfound : findClosestZonePoseToBaseXy storageRows x y "resist" posePrefix with _ | name
  · have hnone := not_passesFilters_of_none hfound
    rcases h with rfl | rfl
    · exact absurd (isGridPose_iff.mp (by decide +kernel)) (hnone _ List.mem_cons_self)
    · exact absurd (isGridPose_iff.mp (by decide +kernel))
        (hnone _ (List.mem_cons_of_mem _ List.mem_cons_self))
  · exact ⟨name, rfl⟩

/-- A frame that shows a resistor at `y`, without a projection of the tool. -/
noncomputable def resistTfFrame (y : ℝ) : TfFrame ℝ Unit :=
  ⟨[⟨[some ()], false⟩], (resistFrame y).predict, none, none⟩

/-- The selection of a pose for it, by a camera one metre above the table. -/
noncomputable def selectForResist (y : ℝ) : Except SelectError (Option Poses.Str) :=
  selectYoloGridPose ⟨99, 99, 320, 240⟩ (fun p tf ↦ some (tf.apply p)) paramsNode ⟨none, 0⟩
    (fun _ ↦ resistTfFrame y) (some cameraAbove) (some cameraAbove) storageRows "resist"

/-- A pose is found for whichever end is used. -/
theorem exists_selectForResist : ∃ name, selectForResist 100 = .ok (some name) := by
  obtain ⟨m, hacc⟩ := @accepted_resistFrames 100 le_rfl (by norm_num)
  have hframes : resistFrames 100 = fun _ ↦ resistFrame 100 := by
    funext i
    rw [resistFrames, ite_self]
  rw [hframes] at hacc
  have hvote : getStableYoloCandidates paramsNode "resist" ⟨none, 0⟩ (fun i ↦
      ((fun _ ↦ resistTfFrame 100 : ℕ → TfFrame ℝ Unit) i).frame ⟨99, 99, 320, 240⟩
        (fun p tf ↦ some (tf.apply p))) = .ok (some _, _) := hacc.getStableYoloCandidates_eq
  obtain ⟨selected, hused, hselect⟩ := @exists_used_of_vote storageRows "resist" _ _ _ _ _ _
    (some cameraAbove) (some cameraAbove) _ _ hvote
  -- what is used is one of the two ends
  have hprefix : selected.posePrefix = some "resist_storage_0" ∨
      selected.posePrefix = some "resist_storage_1" := by
    obtain ⟨i, hi, rfl⟩ := List.mem_mapIdx.mp (bestCandidate_of_used hused).1
    rcases i with _ | _ | i
    · exact .inl rfl
    · exact .inr rfl
    · exact absurd hi (by simp [resistCandidates, markSelected, makeCandidatesForBox])
  have hpoint := @pixelToBase_eq cameraAbove ⟨99, 99, 320, 240⟩ (fun p tf ↦ some (tf.apply p))
    selected.centerU selected.centerV (fun _ _ _ ↦ rfl) looksDown_cameraAbove.rotation
    looksDown_cameraAbove.height (by norm_num) (by norm_num)
  obtain ⟨name, hname⟩ := exists_found_storageRows _ _ hprefix
  refine ⟨name, hselect.trans ?_⟩
  rw [poseForCandidate, hpoint]
  exact congrArg Except.ok hname

/-- So the pose is the closest one of the table for the candidate that was used. -/
theorem chosen_pose_resist : ∃ name candidates proj selected point,
    selectForResist 100 = .ok (some name) ∧ usedCandidate candidates proj = some selected ∧
      BestCandidate candidates proj selected ∧
      pixelToBaseParallelCamera ⟨99, 99, 320, 240⟩ (fun p tf ↦ some (tf.apply p))
        (some cameraAbove) (some cameraAbove) selected.centerU selected.centerV
        = .ok (some point) ∧
      ClosestPose storageRows point.x point.y "resist" selected.posePrefix name := by
  obtain ⟨name, hname⟩ := exists_selectForResist
  obtain ⟨candidates, proj, selected, point, -, hused, -, hbest, hpoint, hclosest⟩ :=
    chosen_pose.1 name hname
  exact ⟨name, candidates, proj, selected, point, hname, hused, hbest, hpoint, hclosest⟩

end VzletUr3e.Vision
