import VzletUr3e.Library.Dict
import VzletUr3e.Vision.Vote

/-!
# Grasp modes through a vote

The candidates of one resistor differ in their grasp mode and in the storage row that goes with it,
and the match looks at neither. What is averaged into a candidate has the candidate's own grasp mode
and row exactly when, in every frame, the nearest candidate left is always of the reference's kind.

That holds of every class but `resist`. For a single resistor in exact arithmetic it says that the
lower grasp point of the first frame is not above the middle of the box in any later one.
-/

namespace VzletUr3e.Vision

open Control PyFloat

/-! ## Kinds -/

/-- Two candidates with the same `grasp_mode` and the same `pose_prefix`. -/
def SameKind {K : Type} (c c' : Candidate K) : Prop :=
  c.graspMode = c'.graspMode ∧ c.posePrefix = c'.posePrefix

/-- All samples that are averaged into a candidate are of its kind. -/
def OwnKind {K : Type} (candidateVotes : List (List (Candidate K)))
    (averaged : List (Candidate K)) : Prop :=
  ∀ i c, averaged[i]? = some c → ∀ sample ∈ columnAt candidateVotes i, SameKind c sample

variable {K Img : Type} [PyFloat K] {node : Node K} {targetClassName : String}
  {camera : Camera Img} {frames : ℕ → Frame K Img}

/-- When the references are served in order, the nearest candidate left is of the reference's
kind. -/
def NearestOfKind (ref candidates : List (Candidate K)) : Prop :=
  GreedyMatch.NearestIn lt centerDist SameKind ref candidates

/-- A match is one of equal kinds exactly when the nearest candidates are. -/
theorem sameKind_of_match_iff {maxDist : K} {ref current m : List (Candidate K)}
    (h : matchCandidatesToReference maxDist ref current = some m) :
    List.Forall₂ SameKind ref m ↔ NearestOfKind ref current := by
  rw [matchCandidatesToReference] at h
  split at h
  · cases h
  · exact GreedyMatch.greedy_forall₂_iff h

theorem sameKind_of_matchedShots_iff {ref : List (Candidate K)} {shots : List (Shot K)}
    {matched : List (List (Candidate K))} (h : MatchedShots node ref shots matched) :
    (∀ m ∈ matched, List.Forall₂ SameKind ref m) ↔
      ∀ shot ∈ shots, NearestOfKind ref shot.candidates := by
  induction h with
  | nil => simp
  | cons hmatch _ ih =>
    rw [List.forall_mem_cons, List.forall_mem_cons, ih, sameKind_of_match_iff hmatch]

/-- **The average** keeps the kind of the reference, so its samples are of its kind exactly when the
matched candidates are of the reference's. -/
theorem ownKind_averaged_iff {ref : Shot K} {matched : List (List (Candidate K))}
    (hlen : ∀ m ∈ matched, m.length = ref.candidates.length) :
    OwnKind (ref.candidates :: matched) (averagedCandidates ref matched) ↔
      ∀ m ∈ matched, List.Forall₂ SameKind ref.candidates m := by
  have hget (i : ℕ) (hi : i < ref.candidates.length) : (averagedCandidates ref matched)[i]?
      = some (averageSamples ref.candidates[i] (ref.candidates[i] :: columnAt matched i)) := by
    rw [averagedCandidates, List.getElem?_mapIdx, List.getElem?_eq_getElem hi]
    rfl
  constructor
  · intro h m hm
    rw [List.forall₂_iff_get]
    refine ⟨(hlen m hm).symm, fun i hi hi' ↦ ?_⟩
    have hmem : m[i] ∈ columnAt (ref.candidates :: matched) i :=
      List.mem_filterMap.mpr ⟨m, List.mem_cons_of_mem _ hm, List.getElem?_eq_getElem hi'⟩
    exact h i _ (hget i hi) _ hmem
  · intro h i c hc sample hsample
    have hi : i < ref.candidates.length := by
      obtain ⟨hlt, -⟩ := List.getElem?_eq_some_iff.mp hc
      rwa [averagedCandidates, List.length_mapIdx] at hlt
    rw [hget i hi] at hc
    cases hc
    obtain ⟨m, hm, hsample⟩ := List.mem_filterMap.mp hsample
    obtain ⟨hi', rfl⟩ := List.getElem?_eq_some_iff.mp hsample
    rcases List.mem_cons.mp hm with rfl | hm
    · exact ⟨rfl, rfl⟩
    · exact (h m hm).get hi hi'

/-- What the frames show is a matter of the frames. -/
theorem Shots.unique {lastSeq : ℕ} {all : List (ℕ × Frame K Img)} {shots shots' : List (Shot K)}
    (h : Shots node targetClassName lastSeq camera all shots)
    (h' : Shots node targetClassName lastSeq camera all shots') : shots = shots' := by
  induction h generalizing shots' with
  | nil =>
    cases h'
    rfl
  | cons hnext hdetect _ _ ih =>
    cases h' with
    | cons hnext' hdetect' _ htail =>
      rw [hnext] at hnext'
      cases hnext'
      rw [hdetect] at hdetect'
      cases hdetect'
      rw [ih htail]

/-! ## Classes with one kind -/

/-- The class names of a result are a dictionary. -/
def Inference.NamesOnce : Inference K → Prop
  | .results all => ∀ result ∈ all, (result.names.map Prod.fst).Nodup
  | _ => True

/-- The class of a name has that name. -/
theorem className_of_targetClassId {K : Type} {targetClassName : String}
    {result : Result K} (hnodup : (result.names.map Prod.fst).Nodup)
    {targetClassId : ℤ} (h : result.targetClassId targetClassName = some targetClassId) :
    result.className targetClassId = targetClassName := by
  obtain ⟨name, hfind, rfl⟩ := Option.map_eq_some_iff.mp h
  have hname : name.2 = targetClassName := by simpa using List.find?_some hfind
  rw [Result.className, Dict.lookup_of_mem hnodup (List.mem_of_find?_eq_some hfind)]
  exact hname

/-- The candidates of a detection are candidates of its boxes under its class. -/
theorem mem_of_detected {minConf : K} {inference : Inference K} {candidates : List (Candidate K)}
    (hnames : inference.NamesOnce)
    (h : (detectYoloCandidates targetClassName minConf inference).1 = some candidates) :
    ∀ c ∈ candidates, c ∈ makeCandidatesForBox c.box targetClassName := by
  unfold detectYoloCandidates at h
  split at h
  · cases h
  · cases h
  · cases h
    simp
  · rename_i result results
    dsimp only at h
    split at h
    · cases h
      simp
    · split at h
      · cases h
      · rename_i targetClassId hid
        cases h
        intro c hc
        obtain ⟨hall, htarget⟩ := List.mem_filter.mp hc
        rw [Candidate.isTarget, decide_eq_true_eq] at htarget
        obtain ⟨box, -, hbox⟩ := List.mem_flatMap.mp hall
        obtain rfl := ((makeCandidatesForBox_spec box _).2 c hbox).1
        rwa [htarget.1, className_of_targetClassId (hnames result List.mem_cons_self) hid] at hbox

/-- The detections of a class other than `resist` are all of one kind. -/
theorem sameKind_of_ne_resist {box box' : Box K} {c c' : Candidate K}
    (hne : targetClassName ≠ "resist") (h : c ∈ makeCandidatesForBox box targetClassName)
    (h' : c' ∈ makeCandidatesForBox box' targetClassName) : SameKind c c' := by
  unfold makeCandidatesForBox at h h'
  rw [if_neg hne] at h h'
  by_cases hwire : targetClassName = "wire5"
  · rw [if_pos hwire] at h h'
    cases List.mem_singleton.mp h
    cases List.mem_singleton.mp h'
    exact ⟨rfl, rfl⟩
  · rw [if_neg hwire] at h h'
    cases List.mem_singleton.mp h
    cases List.mem_singleton.mp h'
    exact ⟨rfl, rfl⟩

/-- Good frames show candidates that come of the target class, up to their mark. -/
theorem kind_of_shots {lastSeq : ℕ} {all : List (ℕ × Frame K Img)} {shots : List (Shot K)}
    (hnames : ∀ numbered ∈ all, ∀ bgr, (numbered.2.predict bgr).NamesOnce)
    (h : Shots node targetClassName lastSeq camera all shots) :
    ∀ shot ∈ shots, ∀ c ∈ shot.candidates,
      ∃ box, ∃ c' ∈ makeCandidatesForBox box targetClassName, SameKind c c' := by
  induction h with
  | nil => simp
  | cons _ hdetect _ _ ih =>
    obtain ⟨hframe, hrest⟩ := List.forall_mem_cons.mp hnames
    refine List.forall_mem_cons.mpr ⟨fun c hc ↦ ?_, ih hrest⟩
    obtain ⟨i, hi, rfl⟩ := List.mem_mapIdx.mp hc
    exact ⟨_, _, mem_of_detected (hframe _) hdetect _ (List.getElem_mem hi), rfl, rfl⟩

/-- **One kind.** For a class other than `resist` the nearest candidate is always of the reference's
kind. -/
theorem nearestOfKind_of_ne_resist {lastSeq : ℕ} {all : List (ℕ × Frame K Img)} {ref : Shot K}
    {shots : List (Shot K)} (hne : targetClassName ≠ "resist")
    (hnames : ∀ numbered ∈ all, ∀ bgr, (numbered.2.predict bgr).NamesOnce)
    (h : Shots node targetClassName lastSeq camera all (ref :: shots)) :
    ∀ shot ∈ shots, NearestOfKind ref.candidates shot.candidates := by
  have hkind := kind_of_shots hnames h
  intro shot hshot
  refine GreedyMatch.nearestIn_of_forall fun c hc c' hc' ↦ ?_
  obtain ⟨box, d, hd, hcd⟩ := hkind ref List.mem_cons_self c hc
  obtain ⟨box', d', hd', hcd'⟩ := hkind shot (List.mem_cons_of_mem _ hshot) c' hc'
  have hdd := sameKind_of_ne_resist hne hd hd'
  exact ⟨hcd.1.trans (hdd.1.trans hcd'.1.symm), hcd.2.trans (hdd.2.trans hcd'.2.symm)⟩

/-! ## A single resistor -/

/-- The two candidates of a resistor. -/
def resistCandidates (box : Box K) (toolProjection : Option (K × K × K)) : List (Candidate K) :=
  markSelected (makeCandidatesForBox box "resist") toolProjection

/-- The distance of two grasp points. -/
def Box.graspDist (box : Box K) (mode : GraspMode) (box' : Box K) (mode' : GraspMode) : K :=
  hypot ((box'.graspPoint mode').1 - (box.graspPoint mode).1)
    ((box'.graspPoint mode').2 - (box.graspPoint mode).2)

theorem resistCandidates_eq (box : Box K) (proj : Option (K × K × K)) : ∃ selected selected',
    resistCandidates box proj
      = [{ makeDebugCandidate box "resist" .bottom (some "resist_storage_0") with
            selected := selected },
          { makeDebugCandidate box "resist" .upper (some "resist_storage_1") with
            selected := selected' }] := ⟨_, _, rfl⟩

/-- With one resistor in both frames, only the lower candidate of the first frame has a choice. -/
theorem nearestOfKind_resist_iff {box box' : Box K} {proj proj' : Option (K × K × K)} :
    NearestOfKind (resistCandidates box proj) (resistCandidates box' proj') ↔
      lt (box.graspDist .bottom box' .upper) (box.graspDist .bottom box' .bottom) = false := by
  obtain ⟨s, t, href⟩ := resistCandidates_eq box proj
  obtain ⟨s', t', hcur⟩ := resistCandidates_eq box' proj'
  rw [href, hcur, NearestOfKind]
  have hupper (a b c : Candidate K) (h : lt (centerDist a c) (centerDist a b) = true) :
      GreedyMatch.nearest lt (centerDist a) [b, c] = some (1, centerDist a c) := if_pos h
  have hlower (a b c : Candidate K) (h : lt (centerDist a c) (centerDist a b) = false) :
      GreedyMatch.nearest lt (centerDist a) [b, c] = some (0, centerDist a b) :=
    if_neg (Bool.eq_false_iff.mp h)
  constructor
  · intro h
    by_contra hlt
    rw [Bool.not_eq_false] at hlt
    -- the upper candidate is nearer, so it is served to the lower reference
    obtain ⟨⟨hmode, -⟩, -⟩ := h 1 _ _ (hupper _ _ _ hlt) rfl
    cases hmode
  · intro hlt j e b hj hb
    cases hj.symm.trans (hlower _ _ _ hlt)
    cases hb
    refine ⟨⟨rfl, rfl⟩, ?_⟩
    rintro j e b ⟨⟩ ⟨⟩
    exact ⟨⟨rfl, rfl⟩, trivial⟩

/-- The coordinates of a grasp point of a resistor in exact arithmetic. -/
theorem graspPoint_real (box : Box ℝ) :
    box.graspPoint .bottom = ((box.x1 + box.x2) / 2, (box.y1 + 3 * box.y2) / 4) ∧
      box.graspPoint .upper = ((box.x1 + box.x2) / 2, (3 * box.y1 + box.y2) / 4) := by
  have hhalf : (lit (1 / 2) : ℝ) = 1 / 2 := by
    change ((1 / 2 : ℚ) : ℝ) = 1 / 2
    norm_num
  constructor <;> simp only [Box.graspPoint, hhalf] <;> congr 1 <;> ring

theorem graspDist_real (box : Box ℝ) (mode : GraspMode) (box' : Box ℝ) (mode' : GraspMode) :
    box.graspDist mode box' mode'
      = √(((box'.graspPoint mode').1 - (box.graspPoint mode).1) ^ 2
          + ((box'.graspPoint mode').2 - (box.graspPoint mode).2) ^ 2) := rfl

/-- **A single resistor** in exact arithmetic: its kinds stay apart exactly when its lower grasp
point in the first frame is not above the middle of the box. -/
theorem nearestOfKind_resist_real_iff {box box' : Box ℝ} {proj proj' : Option (ℝ × ℝ × ℝ)}
    (h : box'.y1 < box'.y2) :
    NearestOfKind (resistCandidates box proj) (resistCandidates box' proj') ↔
      (box'.y1 + box'.y2) / 2 ≤ (box.y1 + 3 * box.y2) / 4 := by
  obtain ⟨hbottom, -⟩ := graspPoint_real box
  obtain ⟨hbottom', hupper'⟩ := graspPoint_real box'
  rw [nearestOfKind_resist_iff, lt_eq_false_iff, graspDist_real, graspDist_real, hbottom, hbottom',
    hupper', Real.sqrt_le_sqrt_iff (by positivity), add_le_add_iff_left]
  dsimp only
  -- the difference of the squares is the height of the box times what is compared
  have hdiff : ((box'.y1 + 3 * box'.y2) / 4 - (box.y1 + 3 * box.y2) / 4) ^ 2
      - ((3 * box'.y1 + box'.y2) / 4 - (box.y1 + 3 * box.y2) / 4) ^ 2
      = (box'.y2 - box'.y1)
        * ((box'.y1 + box'.y2) / 2 - (box.y1 + 3 * box.y2) / 4) := by ring
  rw [← sub_nonpos, hdiff, ← not_lt, mul_pos_iff_of_pos_left (sub_pos.mpr h), not_lt, sub_nonpos]

/-! ## The vote -/

/-- In an accepted vote each average has samples of its own kind exactly when every frame keeps the
kinds apart. -/
theorem Accepted.ownKind_iff {ref : Shot K} {shots : List (Shot K)}
    {matched : List (List (Candidate K))}
    (h : Accepted node targetClassName camera frames ref shots matched) :
    OwnKind (voteLoop node targetClassName camera frames).candidateVotes
        (averagedCandidates ref matched) ↔
      ∀ shot ∈ shots, NearestOfKind ref.candidates shot.candidates := by
  obtain ⟨-, hvotes⟩ := voteLoop_iff.mpr ⟨ref, shots, matched, h.good, h.matchedShots, rfl⟩
  rw [hvotes, ownKind_averaged_iff (length_of_matchedShots h.matchedShots),
    sameKind_of_matchedShots_iff h.matchedShots]

/-- With one kind only, there is nothing to exchange. -/
theorem Accepted.ownKind_of_ne_resist {ref : Shot K} {shots : List (Shot K)}
    {matched : List (List (Candidate K))}
    (h : Accepted node targetClassName camera frames ref shots matched)
    (hne : targetClassName ≠ "resist") (hnames : ∀ i bgr, ((frames i).predict bgr).NamesOnce) :
    OwnKind (voteLoop node targetClassName camera frames).candidateVotes
      (averagedCandidates ref matched) := by
  refine h.ownKind_iff.mpr (nearestOfKind_of_ne_resist hne (fun numbered hnumbered bgr ↦ ?_) h.good)
  obtain ⟨i, -, rfl⟩ := List.mem_map.mp hnumbered
  exact hnames i bgr

/-- Of a single resistor the kinds are not exchanged while its lower grasp point of the first frame
is not above the middle of the box. -/
theorem Accepted.ownKind_resist_iff {Img : Type} {node : Node ℝ} {camera : Camera Img}
    {frames : ℕ → Frame ℝ Img} {ref : Shot ℝ} {shots : List (Shot ℝ)}
    {matched : List (List (Candidate ℝ))}
    (h : Accepted node "resist" camera frames ref shots matched) {box : Box ℝ}
    {proj : Option (ℝ × ℝ × ℝ)} (href : ref.candidates = resistCandidates box proj)
    {boxes : List (Box ℝ)} (hboxes : List.Forall₂ (fun shot box' ↦ box'.y1 < box'.y2 ∧
      ∃ proj', shot.candidates = resistCandidates box' proj') shots boxes) :
    OwnKind (voteLoop node "resist" camera frames).candidateVotes
        (averagedCandidates ref matched) ↔
      ∀ box' ∈ boxes, (box'.y1 + box'.y2) / 2 ≤ (box.y1 + 3 * box.y2) / 4 := by
  rw [h.ownKind_iff, href]
  clear h
  induction hboxes with
  | nil => simp
  | cons hshot _ ih =>
    obtain ⟨hheight, proj', hcandidates⟩ := hshot
    rw [List.forall_mem_cons, List.forall_mem_cons, ih, hcandidates,
      nearestOfKind_resist_real_iff hheight]

/-- **What a vote averages.** Whenever `get_stable_yolo_candidates` returns candidates, all samples
that are averaged into one of them have its grasp mode and its storage row exactly when, in every
frame behind the first one, the nearest candidate left is always of the kind of the reference. It is
for every class but `resist`. -/
theorem own_kind_iff {averaged : List (Candidate K)} {proj : Option (K × K × K)}
    (h : getStableYoloCandidates node targetClassName camera frames = .ok (some averaged, proj)) :
    (OwnKind (voteLoop node targetClassName camera frames).candidateVotes averaged ↔
      ∀ ref shots, Shots node targetClassName camera.latestImageSeq camera
        (numberedFrames node frames) (ref :: shots) →
        ∀ shot ∈ shots, NearestOfKind ref.candidates shot.candidates) ∧
      (targetClassName ≠ "resist" → (∀ i bgr, ((frames i).predict bgr).NamesOnce) →
        OwnKind (voteLoop node targetClassName camera frames).candidateVotes averaged) := by
  obtain ⟨ref, shots, matched, hacc, rfl⟩ := getStableYoloCandidates_eq_iff.mp ⟨proj, h⟩
  refine ⟨?_, hacc.ownKind_of_ne_resist⟩
  rw [hacc.ownKind_iff]
  constructor
  · intro hkind ref' shots' hshots
    cases hacc.good.unique hshots
    exact hkind
  · exact fun hall ↦ hall ref shots hacc.good

/-! ## Two votes on a resistor -/

/-- A resistor four pixels high. -/
noncomputable def resistBox (y : ℝ) : Box ℝ := ⟨10, y, 20, y + 4, some (95 / 100), some 0⟩

/-- A frame that shows it. -/
noncomputable def resistFrame (y : ℝ) : Frame ℝ Unit where
  turns := [⟨[some ()], false⟩]
  predict _ := .results [⟨some [resistBox y], [(0, "resist")]⟩]
  toolProjection := none

/-- The numbers of `params.yaml`. -/
noncomputable def paramsNode : Node ℝ := ⟨2, 89 / 100, 5⟩

/-- The resistor is seen at 100 and then at `y`. -/
noncomputable def resistFrames (y : ℝ) (voteIndex : ℕ) : Frame ℝ Unit :=
  resistFrame (if voteIndex = 0 then 100 else y)

theorem detect_resistBox (y : ℝ) (bgr : Unit) :
    (detectYoloCandidates "resist" paramsNode.minConf ((resistFrame y).predict bgr)).1
      = some (makeCandidatesForBox (resistBox y) "resist") := by
  have hconf : lt (89 / 100 : ℝ) (95 / 100) = true := lt_eq_true_iff.mpr (by norm_num)
  change some ((makeCandidatesForBox (resistBox y) "resist").filter
    (Candidate.isTarget (89 / 100) 0)) = _
  refine congrArg some (List.filter_eq_self.mpr fun c hc ↦ decide_eq_true ?_)
  rcases List.mem_pair.mp hc with rfl | rfl <;> exact ⟨rfl, hconf⟩

theorem shots_resistFrames (y : ℝ) :
    Shots paramsNode "resist" 0 ⟨none, 0⟩ (numberedFrames paramsNode (resistFrames y))
      [⟨1, resistCandidates (resistBox 100) none⟩, ⟨2, resistCandidates (resistBox y) none⟩] := by
  have hfirst : resistFrames y 0 = resistFrame 100 := by rw [resistFrames, if_pos rfl]
  have hsecond : resistFrames y 1 = resistFrame y := by rw [resistFrames, if_neg one_ne_zero]
  have hframes : numberedFrames paramsNode (resistFrames y)
      = [(1, resistFrame 100), (2, resistFrame y)] := by
    rw [← hfirst, ← hsecond]
    rfl
  rw [hframes]
  exact .cons rfl (detect_resistBox 100 ()) (List.cons_ne_nil _ _)
    (.cons rfl (detect_resistBox y ()) (List.cons_ne_nil _ _) (.nil _ _))

/-- The grasp points stay within five pixels while the resistor moves by at most three. -/
theorem graspDist_resistBox {y : ℝ} (h : 100 ≤ y) (h' : y ≤ 103) :
    ∀ mode ∈ [GraspMode.bottom, .upper], ∀ mode' ∈ [GraspMode.bottom, .upper],
      lt (5 : ℝ) ((resistBox 100).graspDist mode (resistBox y) mode') = false := by
  obtain ⟨hbottom, hupper⟩ := graspPoint_real (resistBox 100)
  obtain ⟨hbottom', hupper'⟩ := graspPoint_real (resistBox y)
  intro mode hmode mode' hmode'
  rw [lt_eq_false_iff, graspDist_real, Real.sqrt_le_iff]
  refine ⟨by norm_num, ?_⟩
  rcases List.mem_pair.mp hmode with rfl | rfl <;> rcases List.mem_pair.mp hmode' with rfl | rfl <;>
    simp only [hbottom, hupper, hbottom', hupper'] <;> simp only [resistBox] <;> nlinarith

/-- So the vote is accepted. -/
theorem accepted_resistFrames {y : ℝ} (h : 100 ≤ y) (h' : y ≤ 103) :
    ∃ m, Accepted paramsNode "resist" ⟨none, 0⟩ (resistFrames y)
      ⟨1, resistCandidates (resistBox 100) none⟩ [⟨2, resistCandidates (resistBox y) none⟩]
        [m] := by
  have hdist := graspDist_resistBox h h'
  have hmatch : (matchCandidatesToReference paramsNode.yoloVoteMaxCenterDistPx
      (resistCandidates (resistBox 100) none) (resistCandidates (resistBox y) none)).isSome := by
    refine GreedyMatch.greedy_isSome le_rfl fun a ha b hb ↦ ?_
    rcases List.mem_pair.mp ha with rfl | rfl <;> rcases List.mem_pair.mp hb with rfl | rfl
    · exact hdist .bottom (by simp) .bottom (by simp)
    · exact hdist .bottom (by simp) .upper (by simp)
    · exact hdist .upper (by simp) .bottom (by simp)
    · exact hdist .upper (by simp) .upper (by simp)
  obtain ⟨m, hm⟩ := Option.isSome_iff_exists.mp hmatch
  exact ⟨m, shots_resistFrames y, .cons hm .nil⟩

/-- A resistor that moves by two pixels is averaged with the grasp points exchanged. -/
theorem grasp_points_exchanged : ∃ averaged proj,
    getStableYoloCandidates paramsNode "resist" ⟨none, 0⟩ (resistFrames 102)
        = .ok (some averaged, proj) ∧
      ¬OwnKind (voteLoop paramsNode "resist" ⟨none, 0⟩ (resistFrames 102)).candidateVotes
        averaged := by
  obtain ⟨m, hacc⟩ := @accepted_resistFrames 102 (by norm_num) (by norm_num)
  obtain ⟨proj, hvote⟩ := getStableYoloCandidates_eq_iff.mpr ⟨_, _, _, hacc, rfl⟩
  refine ⟨_, proj, hvote, fun hown ↦ ?_⟩
  have hkind := hacc.ownKind_resist_iff rfl
    (.cons ⟨by norm_num [resistBox], none, rfl⟩ .nil : List.Forall₂ _ _ [resistBox 102])
  have hle := hkind.mp hown _ List.mem_cons_self
  norm_num [resistBox] at hle

/-- One that stands still is averaged kind by kind. -/
theorem own_kind_still : ∃ averaged proj,
    getStableYoloCandidates paramsNode "resist" ⟨none, 0⟩ (resistFrames 100)
        = .ok (some averaged, proj) ∧
      OwnKind (voteLoop paramsNode "resist" ⟨none, 0⟩ (resistFrames 100)).candidateVotes
        averaged := by
  obtain ⟨m, hacc⟩ := @accepted_resistFrames 100 le_rfl (by norm_num)
  obtain ⟨proj, hvote⟩ := getStableYoloCandidates_eq_iff.mpr ⟨_, _, _, hacc, rfl⟩
  refine ⟨_, proj, hvote, (own_kind_iff hvote).1.mpr fun ref shots hall ↦ ?_⟩
  cases hacc.good.unique hall
  refine List.forall_mem_singleton.mpr ?_
  exact (nearestOfKind_resist_real_iff (by norm_num [resistBox])).mpr (by norm_num [resistBox])

end VzletUr3e.Vision
