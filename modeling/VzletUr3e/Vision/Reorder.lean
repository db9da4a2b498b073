import VzletUr3e.Vision.Match
import VzletUr3e.Vision.Stable

/-!
# The order of the detections

The network lists its detections in an order of its own, and the greedy match looks at them in that
order. When the candidates of the first frame lie far enough apart, each detection is in reach of at
most one of them. Then the order decides nothing: two votes whose frames differ in it are accepted
together, and each candidate of the first frame has the same average in both.
-/

namespace VzletUr3e.Vision

open Control PyFloat

/-! ## Frames in another order -/

section Floats

variable {K Img : Type}

/-- The candidate without its mark. -/
def Candidate.unselect [PyFloat K] (c : Candidate K) : Candidate K := { c with selected := false }

variable [PyFloat K]

/-- The detections of a frame are those of another one in some order. The projection of the tool may
differ as well, since it only decides which candidate is marked. -/
structure Reordered (node : Node K) (targetClassName : String) (frame frame' : Frame K Img) :
    Prop where
  turns : frame'.turns = frame.turns
  detections : ∀ bgr, Option.Rel List.Perm
    (detectYoloCandidates targetClassName node.minConf (frame.predict bgr)).1
    (detectYoloCandidates targetClassName node.minConf (frame'.predict bgr)).1

/-- The detections in the first frame of a vote, if it arrives. An accepted vote takes it for its
reference. -/
def firstDetections (node : Node K) (targetClassName : String) (camera : Camera Img)
    (frames : ℕ → Frame K Img) : Option (List (Candidate K)) :=
  match (getNextBgrFrame camera.latestImageSeq (frames 0).turns camera).1 with
  | none => none
  | some (bgr, _) =>
    (detectYoloCandidates targetClassName node.minConf ((frames 0).predict bgr)).1

variable {node : Node K} {targetClassName : String} {camera : Camera Img}
  {frame frame' : Frame K Img} {frames frames' : ℕ → Frame K Img}

theorem rel_perm_symm {α : Type} {l l' : Option (List α)} (h : Option.Rel List.Perm l l') :
    Option.Rel List.Perm l' l := by
  rcases h with hperm | -
  · exact .some hperm.symm
  · exact .none

theorem Reordered.symm (h : Reordered node targetClassName frame frame') :
    Reordered node targetClassName frame' frame :=
  ⟨h.turns.symm, fun bgr ↦ rel_perm_symm (h.detections bgr)⟩

/-- The mark is all that `selected` changes. -/
theorem map_unselect_markSelected (candidates : List (Candidate K)) (proj : Option (K × K × K)) :
    (markSelected candidates proj).map Candidate.unselect = candidates.map Candidate.unselect := by
  refine List.ext_getElem? fun i ↦ ?_
  rw [List.getElem?_map, List.getElem?_map, markSelected, List.getElem?_mapIdx, Option.map_map]
  rfl

/-- An average takes no mark over. -/
theorem averageSamples_unselect (base : Candidate K) (samples : List (Candidate K)) :
    averageSamples base.unselect (samples.map Candidate.unselect)
      = averageSamples base samples := by
  simp only [averageSamples, List.map_map, List.length_map]
  rfl

/-- The same frame, up to the order of its candidates and their marks. -/
def SameShot (shot shot' : Shot K) : Prop :=
  (shot.candidates.map Candidate.unselect).Perm (shot'.candidates.map Candidate.unselect)

/-- **Good frames** stay good in another order. -/
theorem Shots.reordered {lastSeq : ℕ} {all all' : List (ℕ × Frame K Img)} {shots : List (Shot K)}
    (h : Shots node targetClassName lastSeq camera all shots)
    (hall : List.Forall₂ (fun n n' ↦ Reordered node targetClassName n.2 n'.2) all all') :
    ∃ shots', Shots node targetClassName lastSeq camera all' shots' ∧
      List.Forall₂ SameShot shots shots' := by
  induction h generalizing all' with
  | nil =>
    obtain rfl := List.forall₂_nil_left_iff.mp hall
    exact ⟨[], .nil _ _, .nil⟩
  | @cons _ _ _ _ frame _ bgr _ candidates _ hnext hdetect hne _ ih =>
    obtain ⟨⟨number', frame'⟩, rest, hframe, hrest, rfl⟩ := List.forall₂_cons_left_iff.mp hall
    obtain ⟨shots', hshots', hsame⟩ := ih hrest
    have hrel := hframe.detections bgr
    rw [hdetect] at hrel
    generalize hdetect' : (detectYoloCandidates targetClassName node.minConf
      (frame'.predict bgr)).1 = detected at hrel
    rcases hrel with @⟨_, candidates', hperm⟩ | -
    have hne' : candidates' ≠ [] := fun hnil ↦ hne (by rw [hnil] at hperm; exact hperm.eq_nil)
    refine ⟨_, .cons (by rw [hframe.turns]; exact hnext) hdetect' hne' hshots', .cons ?_ hsame⟩
    rw [SameShot, map_unselect_markSelected, map_unselect_markSelected]
    exact hperm.map _

/-- The frames of a vote, one by one. -/
theorem forall₂_numberedFrames (h : ∀ i, Reordered node targetClassName (frames i) (frames' i)) :
    List.Forall₂ (fun n n' : ℕ × Frame K Img ↦ Reordered node targetClassName n.2 n'.2)
      (numberedFrames node frames) (numberedFrames node frames') := by
  rw [numberedFrames, numberedFrames, List.forall₂_map_left_iff, List.forall₂_map_right_iff,
    List.forall₂_same]
  exact fun i _ ↦ h i

/-- The reference of an accepted vote shows the detections of the first frame. -/
theorem Accepted.firstDetections_eq {ref : Shot K} {shots : List (Shot K)}
    {matched : List (List (Candidate K))}
    (h : Accepted node targetClassName camera frames ref shots matched) :
    ∃ detected, firstDetections node targetClassName camera frames = some detected ∧
      ref.candidates.map Candidate.unselect = detected.map Candidate.unselect := by
  obtain ⟨n, hn⟩ : ∃ n, node.voteFrames = n + 1 :=
    Nat.exists_eq_succ_of_ne_zero (voteFrames_pos node).ne'
  have hgood := h.good
  rw [numberedFrames, hn, List.range_succ_eq_map, List.map_cons] at hgood
  rcases hgood with _ | ⟨hnext, hdetect, -, -⟩
  refine ⟨_, ?_, map_unselect_markSelected _ _⟩
  rw [firstDetections, hnext]
  exact hdetect

end Floats

/-! ## Candidates that lie apart -/

variable {Img : Type} {node : Node ℝ} {targetClassName : String} {camera : Camera Img}
  {frames frames' : ℕ → Frame ℝ Img} {ref ref' current current' : List (Candidate ℝ)}

/-- The centers are pairwise more than `2 * maxDist` apart. -/
def Separated (maxDist : ℝ) (candidates : List (Candidate ℝ)) : Prop :=
  candidates.Pairwise fun c c' ↦ (1 + 1) * maxDist < centerDist c c'

theorem centerDist_comm (c c' : Candidate ℝ) : centerDist c c' = centerDist c' c := by
  rw [centerDist_eq, centerDist_eq, norm_sub_rev]

theorem Separated.perm {maxDist : ℝ} (h : ref.Perm ref') (hsep : Separated maxDist ref) :
    Separated maxDist ref' :=
  (h.pairwise_iff fun hlt ↦ by rwa [centerDist_comm]).mp hsep

theorem separated_map_unselect {maxDist : ℝ} :
    Separated maxDist (ref.map Candidate.unselect) ↔ Separated maxDist ref := List.pairwise_map

/-- A candidate in reach of two that lie apart would make a bridge between them. -/
theorem Separated.refsApart {maxDist : ℝ} (hsep : Separated maxDist ref)
    (current : List (Candidate ℝ)) : RefsApart maxDist ref current := by
  apply List.Pairwise.imp _ hsep
  intro r r' hlt c _ hwithin hwithin'
  rw [Within, lt_eq_false_iff, centerDist_eq] at hwithin hwithin'
  rw [centerDist_eq] at hlt
  have htriangle : ‖r'.center - r.center‖ ≤ ‖c.center - r.center‖ + ‖c.center - r'.center‖ := by
    rw [norm_sub_rev c.center r'.center, add_comm]
    exact norm_sub_le_norm_sub_add_norm_sub _ _ _
  linarith

/-- **A match is found** in any order. -/
theorem isSome_match_of_perm {maxDist : ℝ} (hsep : Separated maxDist ref)
    (href : (ref.map Candidate.unselect).Perm (ref'.map Candidate.unselect))
    (hcurrent : (current.map Candidate.unselect).Perm (current'.map Candidate.unselect))
    (h : (matchCandidatesToReference maxDist ref current).isSome) :
    (matchCandidatesToReference maxDist ref' current').isSome := by
  have hlt : ∀ x y : ℝ, lt x y = true ↔ x < y := fun _ _ ↦ lt_eq_true_iff
  have hsep' : Separated maxDist ref' :=
    separated_map_unselect.mp ((separated_map_unselect.mpr hsep).perm href)
  obtain ⟨hassign, -⟩ := isSome_match_iff.mp h
  rw [isSome_match_iff]
  refine ⟨?_, GreedyMatch.keepsAssignable_of_refs_apart hlt (hsep'.refsApart current')⟩
  -- the distance of two candidates does not depend on their marks
  have hmapped : GreedyMatch.Assignable (Within maxDist) (ref.map Candidate.unselect)
      (current.map Candidate.unselect) := GreedyMatch.assignable_map_iff.mpr hassign
  exact (GreedyMatch.assignable_map_iff (f := Candidate.unselect) (g := Candidate.unselect)).mp
    (hmapped.perm href hcurrent)

/-- **The partner** of a reference candidate is the same in any order. -/
theorem partner_eq {maxDist : ℝ} {m m' : List (Candidate ℝ)} (hsep : Separated maxDist ref)
    (hcurrent : (current.map Candidate.unselect).Perm (current'.map Candidate.unselect))
    (hm : matchCandidatesToReference maxDist ref current = some m)
    (hm' : matchCandidatesToReference maxDist ref' current' = some m') {i j : ℕ} {c : Candidate ℝ}
    (hi : (ref'.map Candidate.unselect)[i]? = some c)
    (hj : (ref.map Candidate.unselect)[j]? = some c) :
    (m'.map Candidate.unselect)[i]? = (m.map Candidate.unselect)[j]? := by
  have hwithin {ref m : List (Candidate ℝ)} (h : List.Forall₂ (Within maxDist) ref m) :
      List.Forall₂ (Within maxDist) (ref.map Candidate.unselect) (m.map Candidate.unselect) := by
    rwa [List.forall₂_map_left_iff, List.forall₂_map_right_iff]
  have hperm : (m'.map Candidate.unselect).Perm (m.map Candidate.unselect) := by
    apply ((perm_of_match hm').map Candidate.unselect).symm.trans
    exact hcurrent.symm.trans ((perm_of_match hm).map Candidate.unselect)
  exact GreedyMatch.eq_of_refs_apart ((separated_map_unselect.mpr hsep).refsApart _)
    (hwithin (within_of_match hm)) (hwithin (within_of_match hm'))
    (fun _ hb ↦ hperm.mem_iff.mp hb) hi hj

/-- Its samples are those of the same frames. -/
theorem column_eq {shots shots' : List (Shot ℝ)} {matched matched' : List (List (Candidate ℝ))}
    (hsep : Separated node.yoloVoteMaxCenterDistPx ref) (hsame : List.Forall₂ SameShot shots shots')
    (hm : MatchedShots node ref shots matched) (hm' : MatchedShots node ref' shots' matched')
    {i j : ℕ} {c : Candidate ℝ} (hi : (ref'.map Candidate.unselect)[i]? = some c)
    (hj : (ref.map Candidate.unselect)[j]? = some c) :
    (columnAt matched' i).map Candidate.unselect = (columnAt matched j).map Candidate.unselect := by
  have hcolumn (matched : List (List (Candidate ℝ))) (i : ℕ) :
      (columnAt matched i).map Candidate.unselect
        = matched.filterMap fun m ↦ (m.map Candidate.unselect)[i]? := by
    simp only [columnAt, List.map_filterMap, List.getElem?_map]
  rw [hcolumn, hcolumn]
  -- induction on the frames behind the first one
  induction hsame generalizing matched matched' with
  | nil =>
    obtain rfl := List.forall₂_nil_left_iff.mp hm
    obtain rfl := List.forall₂_nil_left_iff.mp hm'
    rfl
  | cons hshot _ ih =>
    obtain ⟨m, rest, hmatch, hrest, rfl⟩ := List.forall₂_cons_left_iff.mp hm
    obtain ⟨m', rest', hmatch', hrest', rfl⟩ := List.forall₂_cons_left_iff.mp hm'
    rw [List.filterMap_cons, List.filterMap_cons, ih hrest hrest',
      partner_eq hsep hshot hmatch hmatch' hi hj]

/-! ## Two votes -/

/-- **A vote is accepted** in any order of the detections. -/
theorem Accepted.reordered {ref : Shot ℝ} {shots : List (Shot ℝ)}
    {matched : List (List (Candidate ℝ))}
    (h : Accepted node targetClassName camera frames ref shots matched)
    (hframes : ∀ i, Reordered node targetClassName (frames i) (frames' i))
    (hsep : Separated node.yoloVoteMaxCenterDistPx ref.candidates) :
    ∃ ref' shots' matched', Accepted node targetClassName camera frames' ref' shots' matched' ∧
      SameShot ref ref' ∧ List.Forall₂ SameShot shots shots' := by
  obtain ⟨all, hgood, hall⟩ := h.good.reordered (forall₂_numberedFrames hframes)
  obtain ⟨ref', shots', href, hshots, rfl⟩ := List.forall₂_cons_left_iff.mp hall
  have hsome : ∀ shot' ∈ shots', (matchCandidatesToReference node.yoloVoteMaxCenterDistPx
      ref'.candidates shot'.candidates).isSome := by
    intro shot' hshot'
    obtain ⟨i, hi', rfl⟩ := List.getElem_of_mem hshot'
    have hi : i < shots.length := by rwa [hshots.length_eq]
    apply isSome_match_of_perm hsep href (hshots.get hi hi')
    exact isSome_of_matchedShots h.matchedShots _ (List.getElem_mem hi)
  obtain ⟨matched', hmatched⟩ := exists_matchedShots hsome
  exact ⟨ref', shots', matched', ⟨hgood, hmatched⟩, href, hshots⟩

/-- The reference lies apart when the first detections do. -/
theorem Accepted.separated {ref : Shot ℝ} {shots : List (Shot ℝ)}
    {matched : List (List (Candidate ℝ))}
    (h : Accepted node targetClassName camera frames ref shots matched)
    (hsep : ∀ detected, firstDetections node targetClassName camera frames = some detected →
      Separated node.yoloVoteMaxCenterDistPx detected) :
    Separated node.yoloVoteMaxCenterDistPx ref.candidates := by
  obtain ⟨detected, hfirst, href⟩ := h.firstDetections_eq
  rw [← separated_map_unselect, href, separated_map_unselect]
  exact hsep detected hfirst

/-- The average at an index. -/
theorem averagedCandidates_getElem? {ref : Shot ℝ} {matched : List (List (Candidate ℝ))} {i : ℕ}
    {c : Candidate ℝ} (h : (ref.candidates.map Candidate.unselect)[i]? = some c) :
    (averagedCandidates ref matched)[i]?
      = some (averageSamples c (c :: (columnAt matched i).map Candidate.unselect)) := by
  rw [List.getElem?_map] at h
  obtain ⟨r, hr, rfl⟩ := Option.map_eq_some_iff.mp h
  rw [averagedCandidates, List.getElem?_mapIdx, hr, Option.map_some, ← List.map_cons,
    averageSamples_unselect]

/-- The first detections of the two votes. -/
theorem rel_firstDetections (h : Reordered node targetClassName (frames 0) (frames' 0)) :
    Option.Rel List.Perm (firstDetections node targetClassName camera frames)
      (firstDetections node targetClassName camera frames') := by
  rw [firstDetections, firstDetections, h.turns]
  rcases (getNextBgrFrame camera.latestImageSeq (frames 0).turns camera).1 with _ | ⟨bgr, seq⟩
  · exact .none
  · exact h.detections bgr

theorem separated_firstDetections (h : Reordered node targetClassName (frames 0) (frames' 0))
    (hsep : ∀ detected, firstDetections node targetClassName camera frames = some detected →
      Separated node.yoloVoteMaxCenterDistPx detected) :
    ∀ detected, firstDetections node targetClassName camera frames' = some detected →
      Separated node.yoloVoteMaxCenterDistPx detected := by
  intro detected' hdetected'
  have hrel := @rel_firstDetections _ _ _ camera _ _ h
  rw [hdetected'] at hrel
  generalize hdetected : firstDetections node targetClassName camera frames = detected at hrel
  rcases hrel with @⟨detected, _, hperm⟩ | -
  exact (hsep detected hdetected).perm hperm

/-- The second vote is accepted if the first one is. -/
theorem accepted_of_reordered (hframes : ∀ i, Reordered node targetClassName (frames i) (frames' i))
    (hsep : ∀ detected, firstDetections node targetClassName camera frames = some detected →
      Separated node.yoloVoteMaxCenterDistPx detected)
    (h : ∃ averaged proj, getStableYoloCandidates node targetClassName camera frames
      = .ok (some averaged, proj)) :
    ∃ averaged proj, getStableYoloCandidates node targetClassName camera frames'
      = .ok (some averaged, proj) := by
  obtain ⟨averaged, h⟩ := h
  obtain ⟨ref, shots, matched, hacc, -⟩ := getStableYoloCandidates_eq_iff.mp h
  obtain ⟨ref', shots', matched', hacc', -⟩ := hacc.reordered hframes (hacc.separated hsep)
  exact ⟨_, getStableYoloCandidates_eq_iff.mpr ⟨ref', shots', matched', hacc', rfl⟩⟩

/-- **The average of a detection** is the same in both votes. -/
theorem average_eq {ref ref' : Shot ℝ} {shots shots' : List (Shot ℝ)}
    {matched matched' : List (List (Candidate ℝ))}
    (hframes : ∀ i, Reordered node targetClassName (frames i) (frames' i))
    (hsep : Separated node.yoloVoteMaxCenterDistPx ref.candidates)
    (h : Accepted node targetClassName camera frames ref shots matched)
    (h' : Accepted node targetClassName camera frames' ref' shots' matched') {i j : ℕ}
    {c : Candidate ℝ} (hi : (ref'.candidates.map Candidate.unselect)[i]? = some c)
    (hj : (ref.candidates.map Candidate.unselect)[j]? = some c) :
    (averagedCandidates ref' matched')[i]? = (averagedCandidates ref matched)[j]? := by
  obtain ⟨ref'', shots'', matched'', h'', -, hshots⟩ := h.reordered hframes hsep
  obtain ⟨rfl, rfl⟩ := List.cons.inj (h''.good.unique h'.good)
  rw [averagedCandidates_getElem? hi, averagedCandidates_getElem? hj,
    column_eq hsep hshots h.matchedShots h'.matchedShots hi hj]

/-- **The order of the detections.** Let the candidates of the first frame lie more than twice the
distance apart. Two votes whose frames differ in the order of their detections are accepted
together. Each detection of the first frame has then the same average in both; so the averages are
the same when the first frame has kept its order. -/
theorem order_of_detections
    (hframes : ∀ i, Reordered node targetClassName (frames i) (frames' i))
    (hsep : ∀ detected, firstDetections node targetClassName camera frames = some detected →
      Separated node.yoloVoteMaxCenterDistPx detected) :
    ((∃ averaged proj, getStableYoloCandidates node targetClassName camera frames
        = .ok (some averaged, proj)) ↔
      ∃ averaged proj, getStableYoloCandidates node targetClassName camera frames'
        = .ok (some averaged, proj)) ∧
    ∀ averaged proj averaged' proj',
      getStableYoloCandidates node targetClassName camera frames = .ok (some averaged, proj) →
      getStableYoloCandidates node targetClassName camera frames' = .ok (some averaged', proj') →
      ∃ detected detected',
        firstDetections node targetClassName camera frames = some detected ∧
        firstDetections node targetClassName camera frames' = some detected' ∧
        detected.Perm detected' ∧ averaged.length = detected.length ∧
        averaged'.length = detected'.length ∧
        (∀ i j : ℕ, detected'[i]? = detected[j]? → averaged'[i]? = averaged[j]?) ∧
        (detected' = detected → averaged' = averaged) := by
  refine ⟨⟨accepted_of_reordered hframes hsep, accepted_of_reordered (fun i ↦ (hframes i).symm)
    (separated_firstDetections (hframes 0) hsep)⟩, fun averaged proj averaged' proj' h h' ↦ ?_⟩
  obtain ⟨ref, shots, matched, hacc, rfl⟩ := getStableYoloCandidates_eq_iff.mp ⟨proj, h⟩
  obtain ⟨ref', shots', matched', hacc', rfl⟩ := getStableYoloCandidates_eq_iff.mp ⟨proj', h'⟩
  obtain ⟨detected, hfirst, href⟩ := hacc.firstDetections_eq
  obtain ⟨detected', hfirst', href'⟩ := hacc'.firstDetections_eq
  have hperm : detected.Perm detected' := by
    have hrel := @rel_firstDetections _ _ _ camera _ _ (hframes 0)
    rw [hfirst, hfirst'] at hrel
    rcases hrel with hperm | -
    exact hperm
  have hlength : (averagedCandidates ref matched).length = detected.length := by
    simpa [averagedCandidates] using congrArg List.length href
  have hlength' : (averagedCandidates ref' matched').length = detected'.length := by
    simpa [averagedCandidates] using congrArg List.length href'
  have hpointwise : ∀ i j : ℕ, detected'[i]? = detected[j]? →
      (averagedCandidates ref' matched')[i]? = (averagedCandidates ref matched)[j]? := by
    intro i j hij
    rcases hj : detected[j]? with _ | c
    · rw [hj, List.getElem?_eq_none_iff] at hij
      rw [List.getElem?_eq_none_iff] at hj
      rw [List.getElem?_eq_none (by omega), List.getElem?_eq_none (by omega)]
    · refine average_eq hframes (hacc.separated hsep) hacc hacc' (c := c.unselect) ?_ ?_
      · rw [href', List.getElem?_map, hij, hj]
        rfl
      · rw [href, List.getElem?_map, hj]
        rfl
  refine ⟨detected, detected', hfirst, hfirst', hperm, hlength, hlength', hpointwise, ?_⟩
  rintro rfl
  exact List.ext_getElem? fun i ↦ hpointwise i i rfl

/-! ## Two sensors -/

/-- A frame that shows sensors, listed in this order. -/
noncomputable def sensorFrame (us : List ℝ) : Frame ℝ Unit where
  turns := [⟨[some ()], false⟩]
  predict _ := .results [⟨some (us.map fun u ↦ (sensorAt u).box), [(0, "sensor")]⟩]
  toolProjection := none

theorem detect_sensorFrame (us : List ℝ) (bgr : Unit) :
    (detectYoloCandidates "sensor" paramsNode.minConf ((sensorFrame us).predict bgr)).1
      = some (us.map sensorAt) := by
  have hconf : lt (89 / 100 : ℝ) 1 = true := lt_eq_true_iff.mpr (by norm_num)
  have hall (boxes : Option (List (Box ℝ))) (us : List ℝ) :
      Result.allCandidates ⟨boxes, [(0, "sensor")]⟩ (us.map fun u ↦ (sensorAt u).box)
        = us.map sensorAt := by
    rw [Result.allCandidates, List.flatMap_map, List.map_eq_flatMap]
    rfl
  rcases us with _ | ⟨u, us⟩
  · rfl
  · have htarget : ((u :: us).map sensorAt).filter (Candidate.isTarget (89 / 100 : ℝ) 0)
        = (u :: us).map sensorAt := by
      refine List.filter_eq_self.mpr fun c hc ↦ decide_eq_true ?_
      obtain ⟨u', -, rfl⟩ := List.mem_map.mp hc
      exact ⟨rfl, hconf⟩
    rw [← htarget, ← hall (some ((u :: us).map fun u ↦ (sensorAt u).box))]
    rfl

/-- Sensors far apart are found in both frames of the vote. -/
theorem accepted_sensorFrames {us : List ℝ} (hne : us ≠ [])
    (hsep : Separated paramsNode.yoloVoteMaxCenterDistPx (us.map sensorAt)) :
    ∃ averaged proj, getStableYoloCandidates paramsNode "sensor" ⟨none, 0⟩ (fun _ ↦ sensorFrame us)
      = .ok (some averaged, proj) := by
  have hlt : ∀ x y : ℝ, lt x y = true ↔ x < y := fun _ _ ↦ lt_eq_true_iff
  have hmarked : Separated paramsNode.yoloVoteMaxCenterDistPx
      (markSelected (us.map sensorAt) none) := by
    rwa [← separated_map_unselect, map_unselect_markSelected, separated_map_unselect]
  have hmatch : (matchCandidatesToReference paramsNode.yoloVoteMaxCenterDistPx
      (markSelected (us.map sensorAt) none) (markSelected (us.map sensorAt) none)).isSome := by
    rw [isSome_match_iff]
    refine ⟨⟨_, .refl _, List.forall₂_same.mpr fun c _ ↦ ?_⟩,
      GreedyMatch.keepsAssignable_of_refs_apart hlt (hmarked.refsApart _)⟩
    rw [Within, lt_eq_false_iff, centerDist_eq, sub_self, norm_zero]
    norm_num [paramsNode]
  obtain ⟨m, hm⟩ := Option.isSome_iff_exists.mp hmatch
  have hne' : us.map sensorAt ≠ [] := by simpa using hne
  have hshots : Shots paramsNode "sensor" 0 ⟨none, 0⟩
      (numberedFrames paramsNode fun _ ↦ sensorFrame us)
      [⟨1, markSelected (us.map sensorAt) none⟩, ⟨1 + 1, markSelected (us.map sensorAt) none⟩] :=
    .cons rfl (detect_sensorFrame us ()) hne'
      (.cons rfl (detect_sensorFrame us ()) hne' (.nil _ _))
  exact ⟨_, getStableYoloCandidates_eq_iff.mpr ⟨_, _, [m], ⟨hshots, .cons hm .nil⟩, rfl⟩⟩

/-- Two sensors that a vote finds, in whichever order the network lists them. -/
theorem sensors_in_any_order : ∃ averaged proj averaged' proj',
    getStableYoloCandidates paramsNode "sensor" ⟨none, 0⟩ (fun _ ↦ sensorFrame [0, 100])
        = .ok (some averaged, proj) ∧
      getStableYoloCandidates paramsNode "sensor" ⟨none, 0⟩ (fun _ ↦ sensorFrame [100, 0])
        = .ok (some averaged', proj') ∧
      averaged'[0]? = averaged[1]? ∧ averaged'[1]? = averaged[0]? := by
  have hfirst (us : List ℝ) : firstDetections paramsNode "sensor" ⟨none, 0⟩
      (fun _ ↦ sensorFrame us) = some (us.map sensorAt) := detect_sensorFrame us ()
  have hsep {u u' : ℝ} (h : (1 + 1) * 5 < |u' - u|) :
      Separated paramsNode.yoloVoteMaxCenterDistPx ([u, u'].map sensorAt) := by
    refine List.pairwise_pair.mpr ?_
    rwa [centerDist_sensorAt]
  have hsep₁ := @hsep 0 100 (by norm_num [abs_of_pos])
  have hsep₂ := @hsep 100 0 (by norm_num [abs_of_neg])
  have hframes : ∀ i : ℕ, Reordered paramsNode "sensor" (sensorFrame [0, 100])
      (sensorFrame [100, 0]) := by
    refine fun _ ↦ ⟨rfl, fun bgr ↦ ?_⟩
    rw [detect_sensorFrame, detect_sensorFrame]
    exact .some (.swap _ _ _)
  obtain ⟨averaged, proj, h⟩ := accepted_sensorFrames (by simp) hsep₁
  obtain ⟨averaged', proj', h'⟩ := accepted_sensorFrames (by simp) hsep₂
  have hsep : ∀ detected, firstDetections paramsNode "sensor" ⟨none, 0⟩
      (fun _ ↦ sensorFrame [0, 100]) = some detected →
      Separated paramsNode.yoloVoteMaxCenterDistPx detected := by
    intro detected hdetected
    rw [hfirst] at hdetected
    cases hdetected
    exact hsep₁
  obtain ⟨-, htwo⟩ := order_of_detections hframes hsep
  obtain ⟨detected, detected', hdetected, hdetected', -, -, -, hall, -⟩ := htwo _ _ _ _ h h'
  rw [hfirst] at hdetected hdetected'
  cases hdetected
  cases hdetected'
  exact ⟨averaged, proj, averaged', proj', h, h', hall 0 1 rfl, hall 1 0 rfl⟩

end VzletUr3e.Vision
