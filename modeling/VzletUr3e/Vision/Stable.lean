import VzletUr3e.Vision.Vote

/-!
# What an accepted vote says

A vote is accepted exactly when all frames are good and match the first one. Each target detection
then contributes to exactly one averaged candidate. In exact arithmetic the averages stay above the
confidence asked for and near the candidates of the first frame.
-/

namespace VzletUr3e.Vision

open Control PyFloat

/-! ## Votes over any floats -/

section Floats

variable {K Img : Type} [PyFloat K] {node : Node K} {targetClassName : String}
  {camera : Camera Img} {frames : ℕ → Frame K Img} {ref : Shot K} {shots : List (Shot K)}
  {matched : List (List (Candidate K))}

/-- Each frame's detections are those of its match. -/
theorem perm_of_matchedShots {ref : List (Candidate K)} (h : MatchedShots node ref shots matched) :
    List.Forall₂ (fun shot m ↦ shot.candidates.Perm m) shots matched :=
  h.imp fun _ _ hmatch ↦ perm_of_match hmatch

/-- Frames that each match the reference have their matches. -/
theorem exists_matchedShots {ref : List (Candidate K)} : ∀ {shots : List (Shot K)},
    (∀ shot ∈ shots, (matchCandidatesToReference node.yoloVoteMaxCenterDistPx ref
      shot.candidates).isSome) → ∃ matched, MatchedShots node ref shots matched := by
  intro shots
  induction shots with
  | nil => exact fun _ ↦ ⟨[], .nil⟩
  | cons shot shots ih =>
    intro h
    obtain ⟨hshot, hshots⟩ := List.forall_mem_cons.mp h
    obtain ⟨m, hm⟩ := Option.isSome_iff_exists.mp hshot
    obtain ⟨matched, hmatched⟩ := ih hshots
    exact ⟨m :: matched, .cons hm hmatched⟩

/-- Frames with a match each match the reference. -/
theorem isSome_of_matchedShots {ref : List (Candidate K)}
    (h : MatchedShots node ref shots matched) : ∀ shot ∈ shots,
      (matchCandidatesToReference node.yoloVoteMaxCenterDistPx ref shot.candidates).isSome := by
  induction h with
  | nil => simp
  | cons hmatch _ ih =>
    refine List.forall_mem_cons.mpr ⟨?_, ih⟩
    rw [hmatch]
    rfl

/-- The detections of good frames are above the confidence asked for. -/
theorem lt_conf_of_shots {lastSeq : ℕ} {all : List (ℕ × Frame K Img)}
    (h : Shots node targetClassName lastSeq camera all shots) :
    ∀ shot ∈ shots, ∀ c ∈ shot.candidates, lt node.minConf c.conf = true := by
  induction h with
  | nil => simp
  | cons _ hdetect _ _ ih =>
    refine List.forall_mem_cons.mpr ⟨fun c hc ↦ ?_, ih⟩
    obtain ⟨i, hi, rfl⟩ := List.mem_mapIdx.mp hc
    have hdetected := lt_conf_of_detected hdetect _ (List.getElem_mem hi)
    exact hdetected

/-- So are those of their matches. -/
theorem lt_conf_of_matchedShots {ref : List (Candidate K)}
    (h : MatchedShots node ref shots matched)
    (hconf : ∀ shot ∈ shots, ∀ c ∈ shot.candidates, lt node.minConf c.conf = true) :
    ∀ m ∈ matched, ∀ c ∈ m, lt node.minConf c.conf = true := by
  induction h with
  | nil => simp
  | cons hmatch _ ih =>
    obtain ⟨hshot, hshots⟩ := List.forall_mem_cons.mp hconf
    refine List.forall_mem_cons.mpr ⟨fun c hc ↦ ?_, ih hshots⟩
    exact hshot c ((perm_of_match hmatch).mem_iff.mpr hc)

/-- Each candidate in a column is within the distance of its reference. -/
theorem within_of_matchedShots {ref : List (Candidate K)}
    (h : MatchedShots node ref shots matched) {i : ℕ} (hi : i < ref.length) :
    ∀ c ∈ columnAt matched i,
      lt node.yoloVoteMaxCenterDistPx (centerDist ref[i] c) = false := by
  induction h with
  | nil => simp [columnAt]
  | @cons _ m _ _ hmatch _ ih =>
    intro c hc
    obtain ⟨m', hm', hc'⟩ := List.mem_filterMap.mp hc
    rcases List.mem_cons.mp hm' with rfl | htail
    · obtain ⟨hlt, rfl⟩ := List.getElem?_eq_some_iff.mp hc'
      exact (within_of_match hmatch).get hi hlt
    · exact ih c (List.mem_filterMap.mpr ⟨m', htail, hc'⟩)

/-- A column has a candidate of each frame. -/
theorem length_columnAt {K : Type} {matched : List (List (Candidate K))} {n i : ℕ}
    (h : ∀ m ∈ matched, m.length = n) (hi : i < n) :
    (columnAt matched i).length = matched.length := by
  induction matched with
  | nil => rfl
  | cons m matched ih =>
    obtain ⟨hm, hmatched⟩ := List.forall_mem_cons.mp h
    have hget : m[i]? = some m[i] := List.getElem?_eq_getElem _
    have hcol : columnAt (m :: matched) i = m[i] :: columnAt matched i :=
      List.filterMap_cons_some hget
    rw [hcol, List.length_cons, List.length_cons, ih hmatched]

end Floats

/-! ## Votes over the reals -/

/-- The center of a candidate in the plane. -/
def Candidate.center (c : Candidate ℝ) : ℂ := ⟨c.centerU, c.centerV⟩

theorem centerDist_eq (ref c : Candidate ℝ) : centerDist ref c = ‖c.center - ref.center‖ := by
  rw [Complex.norm_eq_sqrt_sq_add_sq]
  rfl

theorem sum_center (l : List (Candidate ℝ)) :
    ((l.map Candidate.center).sum).re = (l.map Candidate.centerU).sum ∧
      ((l.map Candidate.center).sum).im = (l.map Candidate.centerV).sum := by
  induction l with
  | nil => exact ⟨rfl, rfl⟩
  | cons c l ih =>
    obtain ⟨hre, him⟩ := ih
    rw [List.map_cons, List.map_cons, List.map_cons, List.sum_cons, List.sum_cons, List.sum_cons,
      Complex.add_re, Complex.add_im, hre, him]
    exact ⟨rfl, rfl⟩

/-- The center of an average is the average of the centers. -/
theorem center_averageSamples (r : Candidate ℝ) (l : List (Candidate ℝ)) :
    (averageSamples r (r :: l)).center
      = (r.center + (l.map Candidate.center).sum) / ((l.length + 1 : ℕ) : ℂ) := by
  obtain ⟨hre, him⟩ := sum_center l
  have hlit : (lit ((r :: l).length : ℚ) : ℝ) = ((l.length + 1 : ℕ) : ℝ) := Rat.cast_natCast _
  apply Complex.ext
  · rw [Complex.div_natCast_re, Complex.add_re, hre, ← hlit]
    change pySum ((r :: l).map Candidate.centerU) / _ = _
    rw [pySum_real, List.map_cons, List.sum_cons]
    rfl
  · rw [Complex.div_natCast_im, Complex.add_im, him, ← hlit]
    change pySum ((r :: l).map Candidate.centerV) / _ = _
    rw [pySum_real, List.map_cons, List.sum_cons]
    rfl

/-- **The average drifts** from the first sample by at most the others' share. -/
theorem centerDist_averageSamples_le {r : Candidate ℝ} {l : List (Candidate ℝ)} {d : ℝ}
    (h : ∀ c ∈ l, centerDist r c ≤ d) :
    centerDist r (averageSamples r (r :: l)) ≤ d * l.length / (l.length + 1 : ℕ) := by
  have hall : ∀ w ∈ l.map Candidate.center, ‖w - r.center‖ ≤ d := by
    intro w hw
    obtain ⟨c, hc, rfl⟩ := List.mem_map.mp hw
    rw [← centerDist_eq]
    exact h c hc
  rw [centerDist_eq, center_averageSamples]
  simpa using GreedyMatch.norm_average_sub_le hall

/-- The average of confidences above a bound is above it. -/
theorem lt_conf_averageSamples {r : Candidate ℝ} {l : List (Candidate ℝ)} {minConf : ℝ}
    (hr : minConf < r.conf) (h : ∀ c ∈ l, minConf < c.conf) :
    minConf < (averageSamples r (r :: l)).conf := by
  have hpos : (0 : ℝ) < ((l.length + 1 : ℕ) : ℝ) := by positivity
  have hsum : minConf * l.length ≤ (l.map Candidate.conf).sum := by
    -- induction on the samples behind the first one
    clear hr hpos
    induction l with
    | nil => simp
    | cons c l ih =>
      obtain ⟨hc, hl⟩ := List.forall_mem_cons.mp h
      rw [List.map_cons, List.sum_cons, List.length_cons]
      push_cast
      linarith [ih hl]
  have hlit : (lit ((r :: l).length : ℚ) : ℝ) = ((l.length + 1 : ℕ) : ℝ) := Rat.cast_natCast _
  change minConf < pySum ((r :: l).map Candidate.conf) / lit ((r :: l).length : ℚ)
  rw [hlit, pySum_real, List.map_cons, List.sum_cons, lt_div_iff₀ hpos]
  push_cast
  linarith

/-- What is known of an averaged candidate. -/
def NearReference (node : Node ℝ) (r c : Candidate ℝ) : Prop :=
  node.minConf < c.conf ∧
    centerDist r c ≤ node.yoloVoteMaxCenterDistPx * (node.voteFrames - 1) / node.voteFrames

variable {Img : Type} {node : Node ℝ} {targetClassName : String} {camera : Camera Img}
  {frames : ℕ → Frame ℝ Img} {ref : Shot ℝ} {shots : List (Shot ℝ)}
  {matched : List (List (Candidate ℝ))}

/-- **The averages of an accepted vote** are above the confidence asked for and near the candidates
of the first frame. -/
theorem Accepted.nearReference
    (h : Accepted node targetClassName camera frames ref shots matched) :
    List.Forall₂ (NearReference node) ref.candidates (averagedCandidates ref matched) := by
  obtain ⟨href, hshots⟩ := List.forall_mem_cons.mp (lt_conf_of_shots h.good)
  have hmatched := lt_conf_of_matchedShots h.matchedShots hshots
  have hlen := length_of_matchedShots h.matchedShots
  have hcard : (node.voteFrames : ℝ) = (matched.length + 1 : ℕ) := by
    rw [h.length_matched]
  rw [List.forall₂_iff_get]
  refine ⟨List.length_mapIdx.symm, fun i hi hi' ↦ ?_⟩
  rw [List.get_eq_getElem, List.get_eq_getElem]
  have hget : (averagedCandidates ref matched)[i] = averageSamples ref.candidates[i]
      (ref.candidates[i] :: columnAt matched i) := List.getElem_mapIdx
  rw [hget]
  refine ⟨lt_conf_averageSamples (lt_eq_true_iff.mp (href _ (List.getElem_mem hi))) ?_, ?_⟩
  · intro c hc
    obtain ⟨m, hm, hc⟩ := List.mem_filterMap.mp hc
    exact lt_eq_true_iff.mp (hmatched m hm c (List.mem_of_getElem? hc))
  · have hwithin : ∀ c ∈ columnAt matched i,
        centerDist ref.candidates[i] c ≤ node.yoloVoteMaxCenterDistPx := fun c hc ↦
      lt_eq_false_iff.mp (within_of_matchedShots h.matchedShots hi c hc)
    have hle := centerDist_averageSamples_le hwithin
    rw [length_columnAt hlen hi] at hle
    rw [hcard]
    convert hle using 2
    push_cast
    ring

/-! ## The vote -/

/-- **Votes.** `get_stable_yolo_candidates` returns candidates exactly when all frames are good and
match the first one. The frames are then newer and newer, each frame's detections are those of its
match, and each averaged candidate takes one of them. In exact arithmetic it is near its reference.
To be good a frame must show a box of the target class, above the confidence asked for. -/
theorem stable_candidates_iff :
    (∀ (K Img : Type) [PyFloat K] (node : Node K) (targetClassName : String) (camera : Camera Img)
      (frames : ℕ → Frame K Img),
      (∀ i bgr, (∃ candidates, (detectYoloCandidates targetClassName node.minConf
          ((frames i).predict bgr)).1 = some candidates ∧ candidates ≠ []) ↔
        ((frames i).predict bgr).Shows targetClassName node.minConf) ∧
      ((∃ averaged proj, getStableYoloCandidates node targetClassName camera frames
          = .ok (some averaged, proj)) ↔
        ∃ ref shots, Shots node targetClassName camera.latestImageSeq camera
          (numberedFrames node frames) (ref :: shots) ∧
          ∀ shot ∈ shots, (matchCandidatesToReference node.yoloVoteMaxCenterDistPx ref.candidates
            shot.candidates).isSome) ∧
      ∀ averaged proj, getStableYoloCandidates node targetClassName camera frames
          = .ok (some averaged, proj) →
        ∃ ref shots matched, Accepted node targetClassName camera frames ref shots matched ∧
          (ref :: shots).length = node.voteFrames ∧
          (camera.latestImageSeq :: (ref :: shots).map Shot.seq).IsChain (· < ·) ∧
          List.Forall₂ (fun shot m ↦ shot.candidates.Perm m) shots matched ∧
          (∀ m ∈ matched, m.length = ref.candidates.length) ∧
          averaged = averagedCandidates ref matched ∧
          averaged.length = ref.candidates.length) ∧
    (∀ (Img : Type) (node : Node ℝ) (targetClassName : String) (camera : Camera Img)
      (frames : ℕ → Frame ℝ Img) averaged proj,
      getStableYoloCandidates node targetClassName camera frames = .ok (some averaged, proj) →
        ∃ ref shots matched, Accepted node targetClassName camera frames ref shots matched ∧
          averaged = averagedCandidates ref matched ∧
          List.Forall₂ (NearReference node) ref.candidates averaged) := by
  refine ⟨fun K Img _ node targetClassName camera frames ↦
    ⟨fun _ _ ↦ exists_detected_iff, ⟨?_, ?_⟩, ?_⟩, ?_⟩
  · rintro ⟨averaged, h⟩
    obtain ⟨ref, shots, matched, hacc, -⟩ := getStableYoloCandidates_eq_iff.mp h
    exact ⟨ref, shots, hacc.good, isSome_of_matchedShots hacc.matchedShots⟩
  · rintro ⟨ref, shots, hgood, hsome⟩
    obtain ⟨matched, hmatched⟩ := exists_matchedShots hsome
    exact ⟨_, getStableYoloCandidates_eq_iff.mpr ⟨ref, shots, matched, ⟨hgood, hmatched⟩, rfl⟩⟩
  · intro averaged proj h
    obtain ⟨ref, shots, matched, hacc, rfl⟩ := getStableYoloCandidates_eq_iff.mp ⟨proj, h⟩
    have hlength := hacc.good.length_eq
    rw [length_numberedFrames] at hlength
    exact ⟨ref, shots, matched, hacc, hlength, hacc.good.pairwise le_rfl,
      perm_of_matchedShots hacc.matchedShots, length_of_matchedShots hacc.matchedShots, rfl,
      List.length_mapIdx⟩
  · intro Img node targetClassName camera frames averaged proj h
    obtain ⟨ref, shots, matched, hacc, rfl⟩ := getStableYoloCandidates_eq_iff.mp ⟨proj, h⟩
    exact ⟨ref, shots, matched, hacc, rfl, hacc.nearReference⟩

/-- A sensor that stands still in two frames, in rational arithmetic. -/
def stillSensor : Frame ℚ Unit where
  turns := [⟨[some ()], false⟩]
  predict _ := .results [⟨some [⟨10, 100, 20, 104, some (95 / 100), some 0⟩], [(0, "sensor")]⟩]
  toolProjection := none

theorem stable_candidates_iff_sensor : ∃ averaged proj,
    getStableYoloCandidates ⟨2, 89 / 100, 5⟩ "sensor" ⟨none, 0⟩ (fun _ ↦ stillSensor)
        = .ok (some averaged, proj) ∧
      ∃ ref shots matched, Accepted ⟨2, 89 / 100, 5⟩ "sensor" ⟨none, 0⟩ (fun _ ↦ stillSensor)
        ref shots matched ∧ averaged = averagedCandidates ref matched := by
  let vote := getStableYoloCandidates (⟨2, 89 / 100, 5⟩ : Node ℚ) "sensor" ⟨none, 0⟩
    fun _ ↦ stillSensor
  have hsome : (vote.toOption.bind Prod.fst).isSome := by decide +kernel
  rcases hvote : vote with e | ⟨_ | averaged, proj⟩
  · rw [hvote] at hsome
    cases hsome
  · rw [hvote] at hsome
    cases hsome
  · obtain ⟨ref, shots, matched, hacc, -, -, -, -, heq, -⟩ :=
      (stable_candidates_iff.1 ℚ Unit ⟨2, 89 / 100, 5⟩ "sensor" ⟨none, 0⟩ fun _ ↦ stillSensor).2.2
        averaged proj hvote
    exact ⟨averaged, proj, hvote, ref, shots, matched, hacc, heq⟩

end VzletUr3e.Vision
