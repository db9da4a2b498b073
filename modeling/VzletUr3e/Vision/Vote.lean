import VzletUr3e.Library.Loops
import VzletUr3e.Vision.Detect

/-!
# The vote

`get_stable_yolo_candidates` looks at a number of frames, matches each with the first good one, and
averages the candidates by index. The loop goes on after a failure, so that a failed vote is only
seen at its end.

`Shots` says what good frames are, without the loop: each arrives, newer than the one before, and
shows a target. A vote is accepted exactly when its frames are good and match the first of them.
-/

namespace VzletUr3e.Vision

open Control PyFloat Loops

variable {K : Type} [PyFloat K] {Img : Type}

/-! ## The loop -/

/-- What the vote reads of the node. -/
structure Node (K : Type) where
  yoloVoteFrames : ℤ
  minConf : K
  yoloVoteMaxCenterDistPx : K

/-- What one turn of the vote meets: the wait for a frame, the inference on it, and
`project_tool0_to_image`. -/
structure Frame (K Img : Type) where
  turns : List (Turn Img)
  predict : Img → Inference K
  toolProjection : Option (K × K × K)

/-- The first error of a vote. -/
inductive VoteError
  | timeout (frameNumber : ℕ)
  | classNotAvailable
  | noCandidate (frameNumber : ℕ)
  | mismatch (frameNumber : ℕ)
deriving DecidableEq, Repr

structure VoteState (K Img : Type) where
  candidateVotes : List (List (Candidate K))
  lastSeq : ℕ
  firstError : Option VoteError
  toolProjection : Option (K × K × K)
  camera : Camera Img

/-- `if first_error is None: first_error = error`. -/
def VoteState.noteError (st : VoteState K Img) (error : VoteError) : VoteState K Img :=
  { st with firstError := st.firstError.orElse fun _ ↦ some error }

/-- The vote on the candidates of a frame. -/
def VoteState.vote (node : Node K) (frameNumber : ℕ) (st : VoteState K Img)
    (candidates : List (Candidate K)) : VoteState K Img :=
  match st.candidateVotes with
  | [] => { st with candidateVotes := [candidates] }
  | reference :: _ =>
    match matchCandidatesToReference node.yoloVoteMaxCenterDistPx reference candidates with
    | none => st.noteError (.mismatch frameNumber)
    | some matched => { st with candidateVotes := st.candidateVotes ++ [matched] }

/-- The state in which a frame that has arrived is looked at. -/
def VoteState.withFrame (st : VoteState K Img) (camera : Camera Img) (seq : ℕ)
    (toolProjection : Option (K × K × K)) : VoteState K Img :=
  { st with camera := camera, lastSeq := seq, toolProjection := toolProjection }

/-- What is done with the target candidates of a frame. -/
def VoteState.look (node : Node K) (frameNumber : ℕ) (st : VoteState K Img) :
    Option (List (Candidate K)) → VoteState K Img
  | none => st.noteError .classNotAvailable
  | some [] => st.noteError (.noCandidate frameNumber)
  | some (c :: candidates) =>
    st.vote node frameNumber (markSelected (c :: candidates) st.toolProjection)

/-- One turn of the vote. -/
def voteTurn (node : Node K) (targetClassName : String) (st : VoteState K Img)
    (numbered : ℕ × Frame K Img) : VoteState K Img :=
  match getNextBgrFrame st.lastSeq numbered.2.turns st.camera with
  | (none, camera) => ({ st with camera := camera }).noteError (.timeout numbered.1)
  | (some (bgr, seq), camera) =>
    (st.withFrame camera seq numbered.2.toolProjection).look node numbered.1
      (detectYoloCandidates targetClassName node.minConf (numbered.2.predict bgr)).1

/-- The number of frames of a vote. -/
def Node.voteFrames (node : Node K) : ℕ :=
  if node.yoloVoteFrames < 1 then 1 else node.yoloVoteFrames.toNat

/-- All turns of the vote, from the camera as it is at the call. -/
def voteLoop (node : Node K) (targetClassName : String) (camera : Camera Img)
    (frames : ℕ → Frame K Img) : VoteState K Img :=
  ((List.range node.voteFrames).map fun voteIndex ↦ (voteIndex + 1, frames voteIndex)).foldl
    (voteTurn node targetClassName) ⟨[], camera.latestImageSeq, none, none, camera⟩

/-- `IndexError`, which the indexing of the average could raise. -/
inductive PyException
  | indexError
deriving DecidableEq, Repr

/-- `get_stable_yolo_candidates`. -/
def getStableYoloCandidates (node : Node K) (targetClassName : String) (camera : Camera Img)
    (frames : ℕ → Frame K Img) :
    Except PyException (Option (List (Candidate K)) × Option (K × K × K)) :=
  let st := voteLoop node targetClassName camera frames
  if st.firstError.isSome then .ok (none, none)
  else if st.candidateVotes.length ≠ node.voteFrames then .ok (none, none)
  else
    match averageCandidateVotes st.candidateVotes with
    | none => .error .indexError
    | some averagedCandidates => .ok (some averagedCandidates, st.toolProjection)

/-! ## Good frames -/

/-- A frame that has arrived, with the target detections in it. -/
structure Shot (K : Type) where
  seq : ℕ
  candidates : List (Candidate K)

/-- Each of the frames arrives while the camera was at `lastSeq`, and shows a target. -/
inductive Shots (node : Node K) (targetClassName : String) :
    ℕ → Camera Img → List (ℕ × Frame K Img) → List (Shot K) → Prop
  | nil (lastSeq : ℕ) (camera : Camera Img) : Shots node targetClassName lastSeq camera [] []
  | cons {lastSeq : ℕ} {camera camera' : Camera Img} {number : ℕ} {frame : Frame K Img}
    {frames : List (ℕ × Frame K Img)} {bgr : Img} {seq : ℕ} {candidates : List (Candidate K)}
    {shots : List (Shot K)} :
    getNextBgrFrame lastSeq frame.turns camera = (some (bgr, seq), camera') →
    (detectYoloCandidates targetClassName node.minConf (frame.predict bgr)).1 = some candidates →
    candidates ≠ [] → Shots node targetClassName seq camera' frames shots →
    Shots node targetClassName lastSeq camera ((number, frame) :: frames)
      (⟨seq, markSelected candidates frame.toolProjection⟩ :: shots)

/-- Sequence numbers only go up. -/
theorem Shots.pairwise {node : Node K} {targetClassName : String} {lastSeq : ℕ}
    {camera : Camera Img} {frames : List (ℕ × Frame K Img)} {shots : List (Shot K)}
    (h : Shots node targetClassName lastSeq camera frames shots)
    (hle : lastSeq ≤ camera.latestImageSeq) :
    (lastSeq :: shots.map Shot.seq).IsChain (· < ·) := by
  induction h with
  | nil => simp
  | cons hnext _ _ _ ih =>
    obtain ⟨-, hspec⟩ := getNextBgrFrame_spec hle
    obtain ⟨hlt, hseq⟩ := hspec _ _ (congrArg Prod.fst hnext)
    rw [hnext] at hseq
    rw [List.map_cons, List.isChain_cons_cons]
    exact ⟨hlt, ih hseq.le⟩

/-! ## What the loop keeps -/

/-- How the candidates of a frame join the votes so far. -/
inductive Joins (node : Node K) (candidates : List (Candidate K)) :
    List (List (Candidate K)) → List (List (Candidate K)) → Prop
  | reference : Joins node candidates [] [candidates]
  | matched {reference m : List (Candidate K)} {votes : List (List (Candidate K))} :
    matchCandidatesToReference node.yoloVoteMaxCenterDistPx reference candidates = some m →
    Joins node candidates (reference :: votes) (reference :: votes ++ [m])

/-- A turn of the vote without an error. -/
inductive GoodTurn (node : Node K) (targetClassName : String) (st : VoteState K Img)
    (frame : Frame K Img) : VoteState K Img → Prop
  | mk {camera : Camera Img} {bgr : Img} {seq : ℕ} {candidates : List (Candidate K)}
    {votes : List (List (Candidate K))} :
    st.firstError = none →
    getNextBgrFrame st.lastSeq frame.turns st.camera = (some (bgr, seq), camera) →
    (detectYoloCandidates targetClassName node.minConf (frame.predict bgr)).1 = some candidates →
    candidates ≠ [] →
    Joins node (markSelected candidates frame.toolProjection) st.candidateVotes votes →
    GoodTurn node targetClassName st frame ⟨votes, seq, none, frame.toolProjection, camera⟩

theorem noteError_firstError_ne_none {K Img : Type} (st : VoteState K Img) (error : VoteError) :
    (st.noteError error).firstError ≠ none := by
  unfold VoteState.noteError
  cases st.firstError <;> simp

variable {node : Node K} {targetClassName : String} {st st' : VoteState K Img} {number : ℕ}
  {frame : Frame K Img} {camera : Camera Img} {bgr : Img} {seq : ℕ}
  {candidates : List (Candidate K)}

theorem vote_of_joins {votes : List (List (Candidate K))}
    (h : Joins node candidates st.candidateVotes votes) :
    st.vote node number candidates = { st with candidateVotes := votes } := by
  unfold VoteState.vote
  generalize hvotes : st.candidateVotes = all at h
  cases h with
  | reference => rfl
  | matched hmatch =>
    dsimp only
    rw [hmatch]

/-- A vote on candidates leaves no error exactly when they join the votes. -/
theorem vote_firstError_iff : (st.vote node number candidates).firstError = none ↔
    st.firstError = none ∧ ∃ votes, Joins node candidates st.candidateVotes votes := by
  constructor
  · intro h
    unfold VoteState.vote at h
    rcases hvotes : st.candidateVotes with _ | ⟨reference, votes⟩
    · rw [hvotes] at h
      exact ⟨h, _, .reference⟩
    · rw [hvotes] at h
      dsimp only at h
      rcases hmatch : matchCandidatesToReference node.yoloVoteMaxCenterDistPx reference candidates
        with _ | m
      · rw [hmatch] at h
        exact absurd h (noteError_firstError_ne_none _ _)
      · rw [hmatch] at h
        exact ⟨h, _, .matched hmatch⟩
  · rintro ⟨herror, votes, hjoins⟩
    rw [vote_of_joins hjoins]
    exact herror

/-- Looking at the candidates of a frame leaves no error exactly when there are some and they
join. -/
theorem look_firstError_iff {candidates : Option (List (Candidate K))} :
    (st.look node number candidates).firstError = none ↔ st.firstError = none ∧
      ∃ found votes, candidates = some found ∧ found ≠ [] ∧
        Joins node (markSelected found st.toolProjection) st.candidateVotes votes := by
  rcases candidates with _ | _ | ⟨c, candidates⟩
  · exact ⟨fun h ↦ absurd h (noteError_firstError_ne_none _ _), by rintro ⟨-, _, _, ⟨⟩, -⟩⟩
  · refine ⟨fun h ↦ absurd h (noteError_firstError_ne_none _ _), ?_⟩
    rintro ⟨-, _, _, ⟨⟩, hne, -⟩
    exact absurd rfl hne
  · refine vote_firstError_iff.trans (and_congr_right fun _ ↦ ⟨?_, ?_⟩)
    · rintro ⟨votes, hjoins⟩
      exact ⟨_, votes, rfl, by simp, hjoins⟩
    · rintro ⟨_, votes, ⟨⟩, -, hjoins⟩
      exact ⟨votes, hjoins⟩

/-- A good turn is what the code does. -/
theorem voteTurn_of_goodTurn {numbered : ℕ × Frame K Img}
    (h : GoodTurn node targetClassName st numbered.2 st') :
    voteTurn node targetClassName st numbered = st' := by
  cases h with
  | @mk camera bgr seq candidates votes herror hnext hdetect hne hjoins =>
    rw [voteTurn, hnext]
    dsimp only
    rw [hdetect]
    cases candidates with
    | nil => exact absurd rfl hne
    | cons c candidates =>
      change (st.withFrame camera seq numbered.2.toolProjection).vote node numbered.1
        (markSelected (c :: candidates) numbered.2.toolProjection) = _
      have hframe : Joins node (markSelected (c :: candidates) numbered.2.toolProjection)
        (st.withFrame camera seq numbered.2.toolProjection).candidateVotes votes := hjoins
      rw [vote_of_joins hframe, VoteState.withFrame, herror]

/-- **One turn** leaves no error exactly when it is a good one. -/
theorem voteTurn_firstError_iff {numbered : ℕ × Frame K Img} :
    (voteTurn node targetClassName st numbered).firstError = none ↔
      ∃ st', GoodTurn node targetClassName st numbered.2 st' := by
  constructor
  · intro h
    rw [voteTurn] at h
    rcases hnext : getNextBgrFrame st.lastSeq numbered.2.turns st.camera
      with ⟨_ | ⟨bgr, seq⟩, camera⟩
    · rw [hnext] at h
      exact absurd h (noteError_firstError_ne_none _ _)
    · rw [hnext] at h
      obtain ⟨herror, found, votes, hdetect, hne, hjoins⟩ := look_firstError_iff.mp h
      exact ⟨_, .mk herror hnext hdetect hne hjoins⟩
  · rintro ⟨st', hgood⟩
    rw [voteTurn_of_goodTurn hgood]
    cases hgood
    rfl

/-- An error stays. -/
theorem foldl_firstError_of_ne {frames : List (ℕ × Frame K Img)} : ∀ {st : VoteState K Img},
    st.firstError ≠ none →
      (frames.foldl (voteTurn node targetClassName) st).firstError ≠ none := by
  induction frames with
  | nil => exact fun h ↦ h
  | cons numbered frames ih =>
    -- a good turn starts without an error
    refine fun h ↦ ih fun hnone ↦ ?_
    obtain ⟨st', hgood⟩ := voteTurn_firstError_iff.mp hnone
    cases hgood with
    | mk herror _ _ _ _ => exact h herror

/-- So a vote without an error begins with a good turn. -/
theorem foldl_cons_firstError_iff {numbered : ℕ × Frame K Img}
    {frames : List (ℕ × Frame K Img)} :
    ((numbered :: frames).foldl (voteTurn node targetClassName) st).firstError = none ↔
      ∃ st', GoodTurn node targetClassName st numbered.2 st' ∧
        (frames.foldl (voteTurn node targetClassName) st').firstError = none := by
  rw [List.foldl_cons]
  constructor
  · intro h
    have hturn : (voteTurn node targetClassName st numbered).firstError = none := by
      by_contra hne
      exact foldl_firstError_of_ne hne h
    obtain ⟨st', hgood⟩ := voteTurn_firstError_iff.mp hturn
    rw [voteTurn_of_goodTurn hgood] at h
    exact ⟨st', hgood, h⟩
  · rintro ⟨st', hgood, h⟩
    rwa [voteTurn_of_goodTurn hgood]

/-- The shots of the frames, each matched with the reference. -/
def MatchedShots (node : Node K) (reference : List (Candidate K)) :
    List (Shot K) → List (List (Candidate K)) → Prop :=
  List.Forall₂ fun shot m ↦ matchCandidatesToReference node.yoloVoteMaxCenterDistPx reference
    shot.candidates = some m

/-- **The turns behind the reference frame.** If they leave no error, their frames are good and
match the reference, and the matched lists are added to the votes. -/
theorem shots_of_firstError {reference : List (Candidate K)} {frames : List (ℕ × Frame K Img)} :
    ∀ {st : VoteState K Img} {votes : List (List (Candidate K))},
      st.candidateVotes = reference :: votes →
      (frames.foldl (voteTurn node targetClassName) st).firstError = none → ∃ shots matched,
        Shots node targetClassName st.lastSeq st.camera frames shots ∧
        MatchedShots node reference shots matched ∧
        (frames.foldl (voteTurn node targetClassName) st).candidateVotes
          = reference :: votes ++ matched := by
  induction frames with
  | nil =>
    intro st votes hvotes _
    exact ⟨[], [], .nil _ _, .nil, by rw [List.append_nil]; exact hvotes⟩
  | cons numbered frames ih =>
    intro st votes hvotes h
    obtain ⟨st', hgood, h⟩ := foldl_cons_firstError_iff.mp h
    rw [List.foldl_cons, voteTurn_of_goodTurn hgood]
    cases hgood with
    | mk _ hnext hdetect hne hjoins =>
      rw [hvotes] at hjoins
      -- the first of the votes stays the reference
      cases hjoins with
      | @matched _ m _ hmatch =>
        obtain ⟨shots, matched, hshots, hall, hcat⟩ := ih rfl h
        refine ⟨_ :: shots, m :: matched, .cons hnext hdetect hne hshots, .cons hmatch hall, ?_⟩
        rw [hcat]
        simp

/-- Good frames that match the reference leave no error, and add their matched lists. -/
theorem foldl_of_shots {reference : List (Candidate K)} {frames : List (ℕ × Frame K Img)} :
    ∀ {st : VoteState K Img} {votes matched : List (List (Candidate K))} {shots : List (Shot K)},
      st.firstError = none → st.candidateVotes = reference :: votes →
      Shots node targetClassName st.lastSeq st.camera frames shots →
      MatchedShots node reference shots matched →
      (frames.foldl (voteTurn node targetClassName) st).firstError = none ∧
        (frames.foldl (voteTurn node targetClassName) st).candidateVotes
          = reference :: votes ++ matched := by
  induction frames with
  | nil =>
    intro st votes matched shots herror hvotes hshots hall
    cases hshots
    cases hall
    exact ⟨herror, by rw [List.append_nil]; exact hvotes⟩
  | cons numbered frames ih =>
    intro st votes matched shots herror hvotes hshots hall
    cases hshots with
    | @cons _ _ camera' number frame _ bgr seq _ _ hnext hdetect hne hshots =>
      cases hall with
      | @cons _ m _ _ hmatch hall =>
        have hgood : GoodTurn node targetClassName st frame
            ⟨reference :: (votes ++ [m]), seq, none, frame.toolProjection, camera'⟩ :=
          .mk herror hnext hdetect hne (by rw [hvotes]; exact .matched hmatch)
        rw [List.foldl_cons, voteTurn_of_goodTurn hgood]
        obtain ⟨h, hcat⟩ := @ih ⟨_, _, none, _, _⟩ _ _ _ rfl rfl hshots hall
        exact ⟨h, by rw [hcat]; simp⟩

/-! ## The whole vote -/

/-- The frames of the vote, numbered from one. -/
def numberedFrames (node : Node K) (frames : ℕ → Frame K Img) : List (ℕ × Frame K Img) :=
  (List.range node.voteFrames).map fun voteIndex ↦ (voteIndex + 1, frames voteIndex)

theorem voteFrames_pos {K : Type} (node : Node K) : 0 < node.voteFrames := by
  unfold Node.voteFrames
  split <;> omega

theorem length_numberedFrames {K Img : Type} (node : Node K) (frames : ℕ → Frame K Img) :
    (numberedFrames node frames).length = node.voteFrames := by
  rw [numberedFrames, List.length_map, List.length_range]

variable {frames : ℕ → Frame K Img}

/-- **The loop.** It leaves no error exactly when all frames are good and match the first one; the
votes are then the first frame's candidates and the matched ones. -/
theorem voteLoop_iff {votes : List (List (Candidate K))} :
    ((voteLoop node targetClassName camera frames).firstError = none ∧
      (voteLoop node targetClassName camera frames).candidateVotes = votes) ↔
      ∃ ref shots matched, Shots node targetClassName camera.latestImageSeq camera
        (numberedFrames node frames) (ref :: shots) ∧
        MatchedShots node ref.candidates shots matched ∧ votes = ref.candidates :: matched := by
  have hpos := voteFrames_pos node
  have hlength := length_numberedFrames node frames
  change (((numberedFrames node frames).foldl (voteTurn node targetClassName)
    ⟨[], camera.latestImageSeq, none, none, camera⟩).firstError = none ∧
    ((numberedFrames node frames).foldl (voteTurn node targetClassName)
    ⟨[], camera.latestImageSeq, none, none, camera⟩).candidateVotes = votes) ↔ _
  -- at least one frame is looked at, and it becomes the reference
  generalize numberedFrames node frames = all at hlength ⊢
  rcases all with _ | ⟨numbered, rest⟩
  · rw [List.length_nil] at hlength
    omega
  constructor
  · rintro ⟨herror, rfl⟩
    obtain ⟨st', hgood, h⟩ := foldl_cons_firstError_iff.mp herror
    rw [List.foldl_cons, voteTurn_of_goodTurn hgood]
    cases hgood with
    | mk _ hnext hdetect hne hjoins =>
      cases hjoins
      obtain ⟨shots, matched, hshots, hall, hcat⟩ := shots_of_firstError rfl h
      exact ⟨_, shots, matched, .cons hnext hdetect hne hshots, hall, hcat⟩
  · rintro ⟨ref, shots, matched, hshots, hall, rfl⟩
    cases hshots with
    | @cons _ _ camera' number frame _ bgr seq candidates _ hnext hdetect hne hshots =>
      have hgood : GoodTurn node targetClassName
          ⟨[], camera.latestImageSeq, none, none, camera⟩ frame
          ⟨[markSelected candidates frame.toolProjection], seq, none, frame.toolProjection,
            camera'⟩ :=
        .mk rfl hnext hdetect hne .reference
      rw [List.foldl_cons, voteTurn_of_goodTurn hgood]
      exact @foldl_of_shots _ _ _ _ _ _ _ ⟨_, _, none, _, _⟩ _ _ _ rfl rfl hshots hall

/-! ## The averaged candidates -/

/-- The matched lists are as long as the reference. -/
theorem length_of_match {maxDist : K} {ref current m : List (Candidate K)}
    (h : matchCandidatesToReference maxDist ref current = some m) : m.length = ref.length := by
  rw [matchCandidatesToReference] at h
  split at h
  · cases h
  · exact (GreedyMatch.greedy_within h).length_eq.symm

/-- A match loses no candidate and uses none twice. -/
theorem perm_of_match {maxDist : K} {ref current m : List (Candidate K)}
    (h : matchCandidatesToReference maxDist ref current = some m) : current.Perm m := by
  rw [matchCandidatesToReference] at h
  split at h
  · cases h
  · rename_i hlen
    exact GreedyMatch.greedy_perm h (not_not.mp hlen)

/-- Each candidate of a match is within the distance of its reference. -/
theorem within_of_match {maxDist : K} {ref current m : List (Candidate K)}
    (h : matchCandidatesToReference maxDist ref current = some m) :
    List.Forall₂ (fun r c ↦ lt maxDist (centerDist r c) = false) ref m := by
  rw [matchCandidatesToReference] at h
  split at h
  · cases h
  · exact GreedyMatch.greedy_within h

/-- The candidates of all frames at one index, behind the reference. -/
def columnAt (matched : List (List (Candidate K))) (i : ℕ) : List (Candidate K) :=
  matched.filterMap fun m ↦ m[i]?

/-- **The average.** When all frames have as many candidates as the reference, it has them too, and
each is the average over its own index. -/
theorem averageCandidateVotes_eq {ref : List (Candidate K)} {matched : List (List (Candidate K))}
    (h : ∀ m ∈ matched, m.length = ref.length) :
    averageCandidateVotes (ref :: matched)
      = some (ref.mapIdx fun i r ↦ averageSamples r (r :: columnAt matched i)) := by
  have hlen : (ref.mapIdx fun i r ↦ averageSamples r (r :: columnAt matched i)).length
      = ref.length := List.length_mapIdx
  rw [averageCandidateVotes, List.head?_cons, Option.bind_eq_bind, Option.bind_some, ← hlen]
  refine mapM_range_eq_some fun i hi ↦ ?_
  rw [hlen] at hi
  have hall : ∀ m ∈ ref :: matched, (m[i]?).isSome := by
    intro m hm
    have hm' : m.length = ref.length := by
      rcases List.mem_cons.mp hm with rfl | hm
      · rfl
      · exact h m hm
    rw [List.getElem?_eq_getElem (by rwa [hm'])]
    rfl
  have href : ref[i]? = some ref[i] := List.getElem?_eq_getElem hi
  have hcol : (ref :: matched).filterMap (fun m ↦ m[i]?) = ref[i] :: columnAt matched i :=
    List.filterMap_cons_some href
  rw [mapM_eq_filterMap hall, hcol, List.getElem_mapIdx]
  rfl

/-- All frames are as long as the reference, so the average raises nothing. -/
theorem length_of_matchedShots {ref : List (Candidate K)} {shots : List (Shot K)}
    {matched : List (List (Candidate K))} (h : MatchedShots node ref shots matched) :
    ∀ m ∈ matched, m.length = ref.length := by
  induction h with
  | nil => simp
  | cons hmatch _ ih => exact List.forall_mem_cons.mpr ⟨length_of_match hmatch, ih⟩

/-! ## What is returned -/

/-- There is one shot for each frame. -/
theorem Shots.length_eq {lastSeq : ℕ} {all : List (ℕ × Frame K Img)} {shots : List (Shot K)}
    (h : Shots node targetClassName lastSeq camera all shots) : shots.length = all.length := by
  induction h with
  | nil => rfl
  | cons _ _ _ _ ih => rw [List.length_cons, List.length_cons, ih]

/-- The shots of a vote that is accepted: all frames are good, and they match the first one. -/
structure Accepted (node : Node K) (targetClassName : String) (camera : Camera Img)
    (frames : ℕ → Frame K Img) (ref : Shot K) (shots : List (Shot K))
    (matched : List (List (Candidate K))) : Prop where
  good : Shots node targetClassName camera.latestImageSeq camera (numberedFrames node frames)
    (ref :: shots)
  matchedShots : MatchedShots node ref.candidates shots matched

variable {ref : Shot K} {shots : List (Shot K)} {matched : List (List (Candidate K))}

/-- One match for each frame but the first. -/
theorem Accepted.length_matched
    (h : Accepted node targetClassName camera frames ref shots matched) :
    matched.length + 1 = node.voteFrames := by
  have hshots := h.good.length_eq
  rw [length_numberedFrames, List.length_cons] at hshots
  rw [← hshots, ← h.matchedShots.length_eq]

/-- The candidates that an accepted vote returns. -/
def averagedCandidates (ref : Shot K) (matched : List (List (Candidate K))) : List (Candidate K) :=
  ref.candidates.mapIdx fun i r ↦ averageSamples r (r :: columnAt matched i)

/-- What an accepted vote returns. -/
theorem Accepted.getStableYoloCandidates_eq
    (h : Accepted node targetClassName camera frames ref shots matched) :
    getStableYoloCandidates node targetClassName camera frames
      = .ok (some (averagedCandidates ref matched),
          (voteLoop node targetClassName camera frames).toolProjection) := by
  obtain ⟨herror, hvotes⟩ := voteLoop_iff.mpr ⟨ref, shots, matched, h.good, h.matchedShots, rfl⟩
  have hlen : ¬ (ref.candidates :: matched).length ≠ node.voteFrames :=
    not_not.mpr h.length_matched
  rw [getStableYoloCandidates]
  rw [herror, hvotes, if_neg (by simp), if_neg hlen,
    averageCandidateVotes_eq (length_of_matchedShots h.matchedShots)]
  rfl

/-- A vote is refused or accepted; the indexing of the average never fails. -/
theorem getStableYoloCandidates_cases :
    getStableYoloCandidates node targetClassName camera frames = .ok (none, none) ∨
      ∃ ref shots matched, Accepted node targetClassName camera frames ref shots matched := by
  rcases herror : (voteLoop node targetClassName camera frames).firstError with _ | error
  · obtain ⟨ref, shots, matched, hshots, hmatched, -⟩ := voteLoop_iff.mp ⟨herror, rfl⟩
    exact .inr ⟨ref, shots, matched, hshots, hmatched⟩
  · left
    rw [getStableYoloCandidates, herror]
    rfl

/-- **What `get_stable_yolo_candidates` returns.** -/
theorem getStableYoloCandidates_eq_iff {averaged : List (Candidate K)} :
    (∃ proj, getStableYoloCandidates node targetClassName camera frames
        = .ok (some averaged, proj)) ↔
      ∃ ref shots matched, Accepted node targetClassName camera frames ref shots matched ∧
        averaged = averagedCandidates ref matched := by
  constructor
  · rintro ⟨proj, h⟩
    rcases @getStableYoloCandidates_cases K _ Img node targetClassName camera frames
      with hnone | ⟨ref, shots, matched, hacc⟩
    · rw [hnone] at h
      cases h
    · rw [hacc.getStableYoloCandidates_eq] at h
      cases h
      exact ⟨ref, shots, matched, hacc, rfl⟩
  · rintro ⟨ref, shots, matched, hacc, rfl⟩
    exact ⟨_, hacc.getStableYoloCandidates_eq⟩

end VzletUr3e.Vision
