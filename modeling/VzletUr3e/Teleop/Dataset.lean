import VzletUr3e.Control.Python
import VzletUr3e.Library.Decimal
import VzletUr3e.Poses.Load

/-!
# Photos for a dataset

`capture_dataset_photo` runs on the keyboard thread: it takes the number of photos and a copy of the
latest image in one critical section, writes the file, and counts it in another one.
`finalize_dataset_archive` runs on the same thread. The camera's callback runs on the executor's and
may come between any two of these steps.

What the clock, the directory and the device answer is part of a step. Directories are made without
fail. The stamp of the latest image is left out, as nothing reads it.
-/

namespace VzletUr3e.Teleop

open Control PyFloat
open Poses (Str)

/-! ## Paths -/

/-- The names that `make_unique_dataset_paths` tries, in their order. -/
def datasetBase (outputDir timestamp : Str) : ℕ → Str
  | 0 => outputDir ++ "/ds_".toList ++ timestamp
  | suffix + 1 => outputDir ++ "/ds_".toList ++ timestamp ++ '_' :: Nat.toDigits 10 (suffix + 1)

def zipName (base : Str) : Str := base ++ ".zip".toList

/-- `make_unique_dataset_paths`. With more names than there are paths, one is free. -/
def makeUniqueDatasetPaths (outputDir timestamp : Str) (existing : List Str) : Option (Str × Str) :=
  ((List.range (existing.length + 1)).map (datasetBase outputDir timestamp)).findSome? fun base ↦
    if existing.contains base || existing.contains (zipName base) then none
    else some (base, zipName base)

/-- `f"img_{image_index:06d}.jpg"` in the directory. -/
def imageFile (datasetDir : Str) (imageIndex : ℕ) : Str :=
  datasetDir ++ "/img_".toList ++ (Nat.toDigits 10 imageIndex).leftpad 6 '0' ++ ".jpg".toList

/-! ### Free names -/

theorem datasetBase_succ (outputDir timestamp : Str) (n : ℕ) :
    datasetBase outputDir timestamp (n + 1)
      = datasetBase outputDir timestamp 0 ++ '_' :: Nat.toDigits 10 (n + 1) := rfl

theorem datasetBase_injective (outputDir timestamp : Str) :
    Function.Injective (datasetBase outputDir timestamp) := by
  have hlonger (n : ℕ) :
      datasetBase outputDir timestamp 0 ≠ datasetBase outputDir timestamp (n + 1) := by
    intro h
    have hlength := congrArg List.length h
    rw [datasetBase_succ, List.length_append, List.length_cons] at hlength
    omega
  intro n n' h
  rcases n with _ | n <;> rcases n' with _ | n'
  · rfl
  · exact absurd h (hlonger n')
  · exact absurd h.symm (hlonger n)
  · rw [datasetBase_succ, datasetBase_succ] at h
    have hvalue := congrArg Decimal.value (List.cons.inj (List.append_cancel_left h)).2
    rwa [Decimal.value_toDigits, Decimal.value_toDigits] at hvalue

/-- The directory of one name is not the archive of another. -/
theorem datasetBase_ne_zipName (outputDir timestamp : Str) (n n' : ℕ) :
    datasetBase outputDir timestamp n ≠ zipName (datasetBase outputDir timestamp n') := by
  intro h
  rw [zipName] at h
  rcases n with _ | n
  · have hlength := congrArg List.length h
    rw [List.length_append] at hlength
    rcases n' with _ | n'
    · exact absurd hlength (Nat.lt_add_of_pos_right (by decide)).ne
    · rw [datasetBase_succ, List.length_append] at hlength
      change _ = _ + 4 at hlength
      omega
  · -- the one ends with a digit, the other with a letter
    have hmem : 'p' ∈ Nat.toDigits 10 (n + 1) := by
      have hletter : ['p'] <:+ datasetBase outputDir timestamp (n + 1) := by
        rw [h]
        exact (by decide : ['p'] <:+ ".zip".toList).trans (List.suffix_append _ _)
      have hdigits : Nat.toDigits 10 (n + 1) <:+ datasetBase outputDir timestamp (n + 1) :=
        (List.suffix_cons '_' _).trans (List.suffix_append _ _)
      have hsuffix := List.suffix_of_suffix_length_le hletter hdigits Nat.length_toDigits_pos
      exact hsuffix.subset (List.mem_singleton_self 'p')
    have hdigit := Nat.isDigit_of_mem_toDigits (by decide) (by decide) hmem
    exact absurd hdigit (by decide)

/-- **Some name is free**, so the loop ends. -/
theorem makeUniqueDatasetPaths_isSome (outputDir timestamp : Str) (existing : List Str) :
    (makeUniqueDatasetPaths outputDir timestamp existing).isSome := by
  by_contra hnone
  rw [Option.not_isSome_iff_eq_none, makeUniqueDatasetPaths, List.findSome?_eq_none_iff] at hnone
  -- each name is taken by its directory or by its archive
  let taken (n : ℕ) : Str :=
    if datasetBase outputDir timestamp n ∈ existing then datasetBase outputDir timestamp n
    else zipName (datasetBase outputDir timestamp n)
  have hmem : ∀ n ∈ Finset.range (existing.length + 1), taken n ∈ existing.toFinset := by
    intro n hn
    have htaken := hnone _ (List.mem_map_of_mem (List.mem_range.mpr (Finset.mem_range.mp hn)))
    rw [List.mem_toFinset]
    split_ifs at htaken with hexists
    rw [Bool.or_eq_true, List.contains_iff_mem, List.contains_iff_mem] at hexists
    by_cases hdir : datasetBase outputDir timestamp n ∈ existing
    · rwa [show taken n = _ from if_pos hdir]
    · rw [show taken n = _ from if_neg hdir]
      exact hexists.resolve_left hdir
  have hcard : existing.toFinset.card < (Finset.range (existing.length + 1)).card := by
    rw [Finset.card_range]
    exact Nat.lt_succ_of_le existing.toFinset_card_le
  obtain ⟨n, -, n', -, hne, heq⟩ := Finset.exists_ne_map_eq_of_card_lt_of_maps_to hcard hmem
  have hinj := datasetBase_injective outputDir timestamp
  refine hne ?_
  simp only [taken] at heq
  split_ifs at heq
  · exact hinj heq
  · exact absurd heq (datasetBase_ne_zipName _ _ _ _)
  · exact absurd heq.symm (datasetBase_ne_zipName _ _ _ _)
  · exact hinj (List.append_cancel_right heq)

/-- Neither of the paths exists. -/
theorem notMem_of_makeUniqueDatasetPaths {outputDir timestamp datasetDir zipPath : Str}
    {existing : List Str}
    (h : makeUniqueDatasetPaths outputDir timestamp existing = some (datasetDir, zipPath)) :
    datasetDir ∉ existing ∧ zipPath ∉ existing := by
  obtain ⟨base, -, hbase⟩ := List.exists_of_findSome?_eq_some h
  split_ifs at hbase with hfree
  rw [Bool.or_eq_true, List.contains_iff_mem, List.contains_iff_mem] at hfree
  cases hbase
  exact not_or.mp hfree

/-! ## The node -/

/-- What `cv2.imwrite` does. One that fails may leave anything in the file. -/
inductive ImwriteResult (F : Type)
  | ok
  | notOk (left : Option F)
  | raised (left : Option F)
deriving DecidableEq, Repr

/-- The local variables of `capture_dataset_photo`. -/
structure Photo (F : Type) where
  filepath : Str
  cvImage : F
deriving DecidableEq, Repr

/-- Where the keyboard thread is. -/
inductive Keyboard (F : Type)
  | idle
  /-- Before `cv2.imwrite`. -/
  | writing (photo : Photo F)
  /-- Before the second critical section. -/
  | written (photo : Photo F)
  /-- Before `create_zip_archive`. -/
  | zipping (datasetDir zipPath : Option Str)
deriving DecidableEq, Repr

/-- The fields of the node, the frames that the files hold, and the archives that were built. -/
structure Dataset (K F : Type) where
  datasetDir : Option Str
  zipPath : Option Str
  savedCount : ℕ
  latestImage : Option F
  lastSnapshotTimeS : K
  datasetArchived : Bool
  keyboard : Keyboard F
  files : Str → Option F
  archives : List Str

/-- What happens next. -/
inductive DatasetEvent (K F : Type)
  /-- `image_callback`, with the image if it could be converted. -/
  | camera (converted : Option F)
  /-- `capture_dataset_photo` up to the end of its first critical section. -/
  | request (now : K) (timestamp : Str) (existing : List Str)
  | imwrite (result : ImwriteResult F)
  /-- The second critical section. -/
  | commit
  /-- `finalize_dataset_archive` up to the end of its critical section. -/
  | finalize
  /-- `create_zip_archive`. -/
  | zip (dirExists : Bool)

variable {K F : Type}

def Dataset.initial (time : K) (files : Str → Option F) : Dataset K F where
  datasetDir := none
  zipPath := none
  savedCount := 0
  latestImage := none
  lastSnapshotTimeS := time
  datasetArchived := false
  keyboard := .idle
  files := files
  archives := []

variable (outputDir : Str)

/-- `ensure_dataset_paths` without paths. -/
def Dataset.makePaths (s : Dataset K F) (timestamp : Str) (existing : List Str) :
    Option (Str × Dataset K F) := do
  let (datasetDir, zipPath) ← makeUniqueDatasetPaths outputDir timestamp existing
  return (datasetDir, { s with
    datasetDir := some datasetDir
    zipPath := some zipPath
    datasetArchived := false })

/-- `ensure_dataset_paths`. -/
def Dataset.ensureDatasetPaths (s : Dataset K F) (timestamp : Str) (existing : List Str) :
    Option (Str × Dataset K F) :=
  match s.datasetDir, s.zipPath with
  | some datasetDir, some _ => some (datasetDir, s)
  | _, _ => s.makePaths outputDir timestamp existing

/-- The first critical section of `capture_dataset_photo`. -/
def Dataset.request [PyFloat K] (s : Dataset K F) (now : K) (timestamp : Str)
    (existing : List Str) : Option (Dataset K F) :=
  if lt (now - s.lastSnapshotTimeS) (lit (1 / 10)) then some s
  else
    let s := { s with lastSnapshotTimeS := now }
    match s.latestImage with
    | none => some s
    | some cvImage => do
      let (datasetDir, s) ← s.ensureDatasetPaths outputDir timestamp existing
      return { s with keyboard := .writing ⟨imageFile datasetDir s.savedCount, cvImage⟩ }

/-- `cv2.imwrite` and what follows up to the second critical section. -/
def Dataset.imwrite (s : Dataset K F) (photo : Photo F) : ImwriteResult F → Dataset K F
  | .ok => { s with
      files := Function.update s.files photo.filepath (some photo.cvImage)
      keyboard := .written photo }
  | .notOk left => { s with
      files := Function.update s.files photo.filepath left
      keyboard := .idle }
  | .raised left => { s with
      files := Function.update s.files photo.filepath left
      keyboard := .idle }

/-- The critical section of `finalize_dataset_archive`. -/
def Dataset.finalize (s : Dataset K F) : Dataset K F :=
  if s.savedCount < 1 then s
  else if s.datasetArchived then s
  else { s with datasetArchived := true, keyboard := .zipping s.datasetDir s.zipPath }

/-- `create_zip_archive`. -/
def Dataset.createZipArchive (s : Dataset K F) (dirExists : Bool) :
    Option Str → Option Str → Dataset K F
  | some _, some zipPath =>
    if dirExists then { s with archives := zipPath :: s.archives, keyboard := .idle }
    else { s with keyboard := .idle }
  | _, _ => { s with keyboard := .idle }

/-- A step, if the thread that takes it is there. -/
def Dataset.step [PyFloat K] (s : Dataset K F) : DatasetEvent K F → Option (Dataset K F)
  | .camera converted => some { s with latestImage := converted.or s.latestImage }
  | .request now timestamp existing =>
    match s.keyboard with
    | .idle => s.request outputDir now timestamp existing
    | _ => none
  | .imwrite result =>
    match s.keyboard with
    | .writing photo => some (s.imwrite photo result)
    | _ => none
  | .commit =>
    match s.keyboard with
    | .written _ => some { s with savedCount := s.savedCount + 1, keyboard := .idle }
    | _ => none
  | .finalize =>
    match s.keyboard with
    | .idle => some s.finalize
    | _ => none
  | .zip dirExists =>
    match s.keyboard with
    | .zipping datasetDir zipPath => some (s.createZipArchive dirExists datasetDir zipPath)
    | _ => none

def Dataset.run [PyFloat K] (s : Dataset K F) (events : List (DatasetEvent K F)) :
    Option (Dataset K F) :=
  events.foldlM (Dataset.step outputDir) s

/-! ## The ways of a step

The step function asks for the place of the thread, the clock, the paths and the answer of the
device. `Dataset.StepCase` says once what can come of it, with the guards that the invariant needs,
and the proof of the invariant has one case for each of its constructors. -/

variable {outputDir}

/-- What a step can do. -/
inductive Dataset.StepCase (s : Dataset K F) : DatasetEvent K F → Dataset K F → Prop
  | camera (converted : Option F) :
    StepCase s (.camera converted) { s with latestImage := converted.or s.latestImage }
  /-- Too early, or without a frame. -/
  | ignored {now : K} {timestamp : Str} {existing : List Str} (time : K) : s.keyboard = .idle →
    StepCase s (.request now timestamp existing) { s with lastSnapshotTimeS := time }
  | asked {now : K} {timestamp : Str} {existing : List Str} {cvImage : F} {datasetDir zipPath : Str}
    {archived : Bool} : s.keyboard = .idle → s.latestImage = some cvImage →
    (s.datasetDir = some datasetDir ∧ archived = s.datasetArchived) ∨
      (s.datasetDir = none ∨ s.zipPath = none) ∧ archived = false →
    StepCase s (.request now timestamp existing) { s with
      datasetDir := some datasetDir
      zipPath := some zipPath
      lastSnapshotTimeS := now
      datasetArchived := archived
      keyboard := .writing ⟨imageFile datasetDir s.savedCount, cvImage⟩ }
  | imwrote {photo : Photo F} : s.keyboard = .writing photo →
    StepCase s (.imwrite .ok) { s with
      files := Function.update s.files photo.filepath (some photo.cvImage)
      keyboard := .written photo }
  | notWritten {photo : Photo F} {result : ImwriteResult F} {left : Option F} :
    s.keyboard = .writing photo →
    StepCase s (.imwrite result) { s with
      files := Function.update s.files photo.filepath left
      keyboard := .idle }
  | commit {photo : Photo F} : s.keyboard = .written photo →
    StepCase s .commit { s with savedCount := s.savedCount + 1, keyboard := .idle }
  | notFinalized : s.keyboard = .idle → StepCase s .finalize s
  | finalized : s.keyboard = .idle → 1 ≤ s.savedCount → s.datasetArchived = false →
    StepCase s .finalize
      { s with datasetArchived := true, keyboard := .zipping s.datasetDir s.zipPath }
  | zipped {datasetDir : Option Str} {zipPath : Str} :
    s.keyboard = .zipping datasetDir (some zipPath) →
    StepCase s (.zip true) { s with archives := zipPath :: s.archives, keyboard := .idle }
  | notZipped {datasetDir zipPath : Option Str} {dirExists : Bool} :
    s.keyboard = .zipping datasetDir zipPath →
    StepCase s (.zip dirExists) { s with keyboard := .idle }

/-- How the paths may change: not at all, or to new ones where one was missing. -/
def Dataset.PathsTo (s s' : Dataset K F) (datasetDir : Str) : Prop :=
  ∃ zipPath archived, s' = { s with
      datasetDir := some datasetDir
      zipPath := some zipPath
      datasetArchived := archived } ∧
    (s.datasetDir = some datasetDir ∧ archived = s.datasetArchived ∨
      (s.datasetDir = none ∨ s.zipPath = none) ∧ archived = false)

theorem Dataset.pathsTo_of_makePaths {s s' : Dataset K F} {timestamp datasetDir : Str}
    {existing : List Str} (hnone : s.datasetDir = none ∨ s.zipPath = none)
    (h : s.makePaths outputDir timestamp existing = some (datasetDir, s')) :
    s.PathsTo s' datasetDir := by
  obtain ⟨⟨dir, zipPath⟩, -, hs'⟩ := Option.bind_eq_some_iff.mp h
  cases hs'
  exact ⟨zipPath, false, rfl, .inr ⟨hnone, rfl⟩⟩

/-- The paths stay once there are some. -/
theorem Dataset.pathsTo_of_ensureDatasetPaths {s s' : Dataset K F} {timestamp datasetDir : Str}
    {existing : List Str}
    (h : s.ensureDatasetPaths outputDir timestamp existing = some (datasetDir, s')) :
    s.PathsTo s' datasetDir := by
  rw [ensureDatasetPaths] at h
  split at h
  · rename_i dir zipPath hdir hzip
    cases h
    refine ⟨zipPath, s.datasetArchived, ?_, .inl ⟨hdir, rfl⟩⟩
    rw [← hdir, ← hzip]
  · rename_i hnot
    refine pathsTo_of_makePaths ?_ h
    by_contra hboth
    obtain ⟨hdir, hzip⟩ := not_or.mp hboth
    obtain ⟨dir, hdir⟩ := Option.ne_none_iff_exists'.mp hdir
    obtain ⟨zipPath, hzip⟩ := Option.ne_none_iff_exists'.mp hzip
    exact hnot dir zipPath hdir hzip

theorem Dataset.stepCase_request [PyFloat K] {s s' : Dataset K F} {now : K} {timestamp : Str}
    {existing : List Str} (hidle : s.keyboard = .idle)
    (h : s.request outputDir now timestamp existing = some s') :
    StepCase s (.request now timestamp existing) s' := by
  rw [request] at h
  split_ifs at h with hearly
  · obtain rfl := Option.some.inj h
    exact .ignored s.lastSnapshotTimeS hidle
  · rcases himage : s.latestImage with _ | cvImage
    · simp only [himage] at h
      obtain rfl := Option.some.inj h
      rw [← himage]
      exact .ignored now hidle
    · simp only [himage] at h
      obtain ⟨⟨datasetDir, mid⟩, hpaths, hs'⟩ := Option.bind_eq_some_iff.mp h
      obtain rfl := Option.some.inj hs'
      obtain ⟨zipPath, archived, hmid, hbefore⟩ := pathsTo_of_ensureDatasetPaths hpaths
      rw [hmid, ← himage]
      exact .asked hidle himage hbefore

theorem Dataset.stepCase [PyFloat K] {s s' : Dataset K F} {e : DatasetEvent K F}
    (h : s.step outputDir e = some s') : StepCase s e s' := by
  cases e with
  | camera converted =>
    obtain rfl := Option.some.inj h
    exact .camera converted
  | request now timestamp existing =>
    rw [step] at h
    split at h
    · rename_i hkeyboard
      exact stepCase_request hkeyboard h
    · cases h
  | imwrite result =>
    rw [step] at h
    split at h
    · rename_i photo hkeyboard
      obtain rfl := Option.some.inj h
      cases result with
      | ok => exact .imwrote hkeyboard
      | notOk left => exact .notWritten hkeyboard
      | raised left => exact .notWritten hkeyboard
    · cases h
  | commit =>
    rw [step] at h
    split at h
    · rename_i photo hkeyboard
      obtain rfl := Option.some.inj h
      exact .commit hkeyboard
    · cases h
  | finalize =>
    rw [step] at h
    split at h
    · rename_i hkeyboard
      obtain rfl := Option.some.inj h
      rw [finalize]
      split_ifs with hcount harchived
      · exact .notFinalized hkeyboard
      · exact .notFinalized hkeyboard
      · exact .finalized hkeyboard (not_lt.mp hcount) (Bool.eq_false_of_not_eq_true harchived)
    · cases h
  | zip dirExists =>
    rw [step] at h
    split at h
    · rename_i datasetDir zipPath hkeyboard
      obtain rfl := Option.some.inj h
      rcases datasetDir with _ | datasetDir
      · exact .notZipped hkeyboard
      rcases zipPath with _ | zipPath
      · exact .notZipped hkeyboard
      cases dirExists with
      | false => exact .notZipped hkeyboard
      | true => exact .zipped hkeyboard
    · cases h

/-! ## What has happened -/

/-- The frame that a step brings. -/
def DatasetEvent.frame : DatasetEvent K F → Option F
  | .camera converted => converted
  | _ => none

/-- The latest frame. -/
def latestFrame (events : List (DatasetEvent K F)) : Option F :=
  events.reverse.findSome? DatasetEvent.frame

def DatasetEvent.isCommit : DatasetEvent K F → Bool
  | .commit => true
  | _ => false

/-- The number of successful captures. -/
def commits (events : List (DatasetEvent K F)) : ℕ := events.countP DatasetEvent.isCommit

/-- What comes between the two critical sections of a capture. -/
def DatasetEvent.Between : DatasetEvent K F → Prop
  | .camera _ => True
  | .imwrite _ => True
  | _ => False

theorem latestFrame_concat (events : List (DatasetEvent K F)) (e : DatasetEvent K F) :
    latestFrame (events ++ [e]) = e.frame.or (latestFrame events) := by
  rw [latestFrame, List.reverse_append, List.findSome?_append, List.reverse_singleton,
    List.findSome?_singleton]
  rfl

theorem commits_concat (events : List (DatasetEvent K F)) (e : DatasetEvent K F) :
    commits (events ++ [e]) = commits events + if e.isCommit then 1 else 0 := by
  rw [commits, List.countP_append, List.countP_singleton]
  rfl

theorem commits_append (events events' : List (DatasetEvent K F)) :
    commits (events ++ events') = commits events + commits events' :=
  List.countP_append

theorem commits_request (now : K) (timestamp : Str) (existing : List Str)
    (events : List (DatasetEvent K F)) :
    commits (.request now timestamp existing :: events) = commits events :=
  List.countP_cons_of_neg (by simp [DatasetEvent.isCommit])

theorem commits_between {during : List (DatasetEvent K F)} (h : ∀ e ∈ during, e.Between) :
    commits during = 0 := by
  refine List.countP_eq_zero.mpr fun e he hcommit ↦ ?_
  have hbetween := h e he
  cases e with
  | commit => exact hbetween
  | _ => cases hcommit

theorem Dataset.StepCase.latestImage_eq {s s' : Dataset K F} {e : DatasetEvent K F}
    (h : s.StepCase e s') : s'.latestImage = e.frame.or s.latestImage := by
  cases h <;> rfl

theorem Dataset.StepCase.savedCount_eq {s s' : Dataset K F} {e : DatasetEvent K F}
    (h : s.StepCase e s') : s'.savedCount = s.savedCount + if e.isCommit then 1 else 0 := by
  cases h <;> rfl

/-- A capture has been asked for, with this frame. -/
def Asked (events : List (DatasetEvent K F)) (cvImage : F) : Prop :=
  ∃ before now timestamp existing during,
    events = before ++ .request now timestamp existing :: during ∧ (∀ e ∈ during, e.Between) ∧
      latestFrame before = some cvImage

theorem Asked.concat {events : List (DatasetEvent K F)} {cvImage : F} (h : Asked events cvImage)
    {e : DatasetEvent K F} (he : e.Between) : Asked (events ++ [e]) cvImage := by
  obtain ⟨before, now, timestamp, existing, during, rfl, hduring, hframe⟩ := h
  refine ⟨before, now, timestamp, existing, during ++ [e], by simp, fun e' he' ↦ ?_, hframe⟩
  rcases List.mem_append.mp he' with hmem | hmem
  · exact hduring e' hmem
  · rw [List.mem_singleton.mp hmem]
    exact he

variable (outputDir) in
/-- The capture with the number `i`: the latest frame at its request, and the photo that it has
written when it is counted. -/
def Captured [PyFloat K] (start : Dataset K F) (events : List (DatasetEvent K F))
    (datasetDir : Str) (i : ℕ) (cvImage : F) : Prop :=
  ∃ before now timestamp existing during later s,
    events = before ++ .request now timestamp existing :: during ++ .commit :: later ∧
      (∀ e ∈ during, e.Between) ∧ commits before = i ∧ latestFrame before = some cvImage ∧
      start.run outputDir (before ++ .request now timestamp existing :: during) = some s ∧
      s.keyboard = .written ⟨imageFile datasetDir i, cvImage⟩

theorem Captured.concat [PyFloat K] {start : Dataset K F} {events : List (DatasetEvent K F)}
    {datasetDir : Str} {i : ℕ} {cvImage : F}
    (h : Captured outputDir start events datasetDir i cvImage)
    (e : DatasetEvent K F) : Captured outputDir start (events ++ [e]) datasetDir i cvImage := by
  obtain ⟨before, now, timestamp, existing, during, later, s, rfl, hrest⟩ := h
  exact ⟨before, now, timestamp, existing, during, later ++ [e], s, by simp, hrest⟩

/-! ## The invariant

Between its critical sections the thread holds a number that it has read and not yet counted. It is
still the next one, as no other step counts, and the file under it belongs to none of the photos so
far. That the paths stay once there are photos is the other half: new paths are made only where one
is missing, and then nothing has been counted. -/

/-- What the keyboard thread relies on. -/
def Keyboard.Ok (events : List (DatasetEvent K F)) (s : Dataset K F) : Keyboard F → Prop
  | .idle => True
  | .writing photo => ∃ datasetDir, s.datasetDir = some datasetDir ∧
    photo.filepath = imageFile datasetDir s.savedCount ∧ Asked events photo.cvImage
  | .written photo => ∃ datasetDir, s.datasetDir = some datasetDir ∧
    photo.filepath = imageFile datasetDir s.savedCount ∧ Asked events photo.cvImage ∧
    s.files photo.filepath = some photo.cvImage
  | .zipping _ _ => s.datasetArchived = true ∧ s.archives = []

/-- A photo for each capture, under its own number. -/
def Photos [PyFloat K] (outputDir : Str) (start : Dataset K F) (events : List (DatasetEvent K F))
    (s : Dataset K F) : Prop :=
  ∀ i < s.savedCount, ∃ datasetDir cvImage, s.datasetDir = some datasetDir ∧
    Captured outputDir start events datasetDir i cvImage ∧
    s.files (imageFile datasetDir i) = some cvImage

structure Dataset.Ok [PyFloat K] (outputDir : Str) (start : Dataset K F)
    (events : List (DatasetEvent K F)) (s : Dataset K F) : Prop where
  run : start.run outputDir events = some s
  latest : s.latestImage = latestFrame events
  count : s.savedCount = commits events
  paths : s.datasetDir.isSome = s.zipPath.isSome
  photos : Photos outputDir start events s
  keyboard : s.keyboard.Ok events s
  archived : s.datasetArchived = true → 1 ≤ s.savedCount
  archives : s.archives.length ≤ 1
  unarchived : s.datasetArchived = false → s.archives = []

theorem imageFile_injective (datasetDir : Str) : Function.Injective (imageFile datasetDir) := by
  intro i j h
  rw [imageFile, imageFile] at h
  exact Decimal.leftpad_toDigits_injective 6 (List.append_cancel_left (List.append_cancel_right h))

section Steps

variable [PyFloat K] {start s s' : Dataset K F} {events : List (DatasetEvent K F)}
  {e : DatasetEvent K F}

theorem Dataset.run_concat (events : List (DatasetEvent K F)) (e : DatasetEvent K F) :
    start.run outputDir (events ++ [e])
      = (start.run outputDir events).bind (step outputDir · e) := by
  rw [run, List.foldlM_append]
  refine congrArg (Option.bind _) (funext fun s ↦ ?_)
  rw [List.foldlM_cons]
  exact bind_pure (step outputDir s e)

/-- The photos are still there where their files are. -/
theorem Photos.concat (h : Photos outputDir start events s) (hcount : s'.savedCount = s.savedCount)
    (hdir : s'.datasetDir = s.datasetDir)
    (hfiles : ∀ datasetDir, s.datasetDir = some datasetDir → ∀ i < s.savedCount,
      s'.files (imageFile datasetDir i) = s.files (imageFile datasetDir i)) :
    Photos outputDir start (events ++ [e]) s' := by
  intro i hi
  rw [hcount] at hi
  obtain ⟨datasetDir, cvImage, hpath, hcaptured, hfile⟩ := h i hi
  exact ⟨datasetDir, cvImage, hdir.trans hpath, hcaptured.concat e,
    (hfiles datasetDir hpath i hi).trans hfile⟩

/-- Without paths there are no photos. -/
theorem Dataset.Ok.savedCount_eq_zero (h : Dataset.Ok outputDir start events s)
    (hnone : s.datasetDir = none ∨ s.zipPath = none) : s.savedCount = 0 := by
  by_contra hpos
  obtain ⟨datasetDir, -, hdir, -⟩ := h.photos 0 (Nat.pos_of_ne_zero hpos)
  have hpaths := h.paths
  rcases hnone with hnone | hnone
  · rw [hnone] at hdir
    cases hdir
  · rw [hdir, hnone] at hpaths
    cases hpaths

/-- The file of the next photo is none of those before. -/
theorem update_imageFile_of_lt {files : Str → Option F} {datasetDir : Str} {n i : ℕ} (hi : i < n)
    (left : Option F) : Function.update files (imageFile datasetDir n) left (imageFile datasetDir i)
      = files (imageFile datasetDir i) :=
  Function.update_of_ne (fun heq ↦ hi.ne (imageFile_injective datasetDir heq)) _ _

/-- Whatever is written to the file of the next photo, the photos before it are still there. -/
theorem Photos.concat_update (h : Photos outputDir start events s) {datasetDir filepath : Str}
    (hdir : s.datasetDir = some datasetDir)
    (hpath : filepath = imageFile datasetDir s.savedCount) (left : Option F)
    (keyboard : Keyboard F) : Photos outputDir start (events ++ [e])
      { s with files := Function.update s.files filepath left, keyboard := keyboard } := by
  refine h.concat rfl rfl fun datasetDir' hdir' i hi ↦ ?_
  obtain rfl := Option.some.inj (hdir.symm.trans hdir')
  rw [hpath]
  exact update_imageFile_of_lt hi left

omit [PyFloat K] in
/-- What the keyboard thread relies on outlives a frame of the camera. -/
theorem Keyboard.Ok.camera {k : Keyboard F} (h : k.Ok events s) (converted : Option F) :
    k.Ok (events ++ [.camera converted])
      { s with latestImage := converted.or s.latestImage } := by
  cases k with
  | idle => trivial
  | writing photo =>
    obtain ⟨datasetDir, hdir, hpath, hasked⟩ := h
    exact ⟨datasetDir, hdir, hpath, hasked.concat trivial⟩
  | written photo =>
    obtain ⟨datasetDir, hdir, hpath, hasked, hfile⟩ := h
    exact ⟨datasetDir, hdir, hpath, hasked.concat trivial, hfile⟩
  | zipping datasetDir zipPath => exact h

/-- **Every step** keeps the invariant. -/
theorem Dataset.Ok.step (h : Dataset.Ok outputDir start events s)
    (hstep : s.step outputDir e = some s') : Dataset.Ok outputDir start (events ++ [e]) s' := by
  have hrun : start.run outputDir (events ++ [e]) = some s' := by
    rw [run_concat, h.run]
    exact hstep
  have hcase := stepCase hstep
  have hzero := h.savedCount_eq_zero
  obtain ⟨hbefore, hlatest, hcount, hpaths, hphotos, hkeyboard, harchived, harchives,
    hunarchived⟩ := h
  have hlatest' : s'.latestImage = latestFrame (events ++ [e]) := by
    rw [hcase.latestImage_eq, latestFrame_concat, hlatest]
  have hcount' : s'.savedCount = commits (events ++ [e]) := by
    rw [hcase.savedCount_eq, commits_concat, hcount]
  have hsame : ∀ {s' : Dataset K F}, s'.savedCount = s.savedCount → s'.datasetDir = s.datasetDir →
      s'.files = s.files → Photos outputDir start (events ++ [e]) s' :=
    fun hcount hdir hfiles ↦ hphotos.concat hcount hdir fun _ _ _ _ ↦ congrFun hfiles _
  cases hcase with
  | camera converted =>
    exact ⟨hrun, hlatest', hcount', hpaths, hsame rfl rfl rfl, hkeyboard.camera converted,
      harchived, harchives, hunarchived⟩
  | ignored time hidle =>
    refine ⟨hrun, hlatest', hcount', hpaths, hsame rfl rfl rfl, ?_, harchived, harchives,
      hunarchived⟩
    rw [show ({ s with lastSnapshotTimeS := time } : Dataset K F).keyboard = .idle from hidle]
    trivial
  | @asked now timestamp existing cvImage datasetDir zipPath archived hidle himage hpath =>
    refine ⟨hrun, hlatest', hcount', rfl, ?_, ?_, ?_, harchives, ?_⟩
    · rcases hpath with ⟨hdir, -⟩ | ⟨hnone, -⟩
      · exact hsame rfl hdir.symm rfl
      · intro i hi
        have hlt : i < s.savedCount := hi
        rw [hzero hnone] at hlt
        exact absurd hlt (Nat.not_lt_zero i)
    · refine ⟨datasetDir, rfl, rfl, events, now, timestamp, existing, [], rfl, by simp, ?_⟩
      rw [← hlatest, himage]
    · intro harch
      rcases hpath with ⟨-, rfl⟩ | ⟨-, rfl⟩
      · exact harchived harch
      · cases harch
    · intro hnot
      rcases hpath with ⟨-, rfl⟩ | ⟨hnone, -⟩
      · exact hunarchived hnot
      · refine hunarchived (Bool.eq_false_of_not_eq_true fun htrue ↦ ?_)
        have hpos := harchived htrue
        rw [hzero hnone] at hpos
        omega
  | @imwrote photo hwriting =>
    rw [hwriting] at hkeyboard
    obtain ⟨datasetDir, hdir, hpath, hasked⟩ := hkeyboard
    exact ⟨hrun, hlatest', hcount', hpaths, hphotos.concat_update hdir hpath _ _,
      ⟨datasetDir, hdir, hpath, hasked.concat trivial, Function.update_self _ _ _⟩, harchived,
      harchives, hunarchived⟩
  | @notWritten photo result left hwriting =>
    rw [hwriting] at hkeyboard
    obtain ⟨datasetDir, hdir, hpath, hasked⟩ := hkeyboard
    exact ⟨hrun, hlatest', hcount', hpaths, hphotos.concat_update hdir hpath _ _, trivial,
      harchived, harchives, hunarchived⟩
  | @commit photo hwritten =>
    rw [hwritten] at hkeyboard
    obtain ⟨datasetDir, hdir, hpath, hasked, hfile⟩ := hkeyboard
    refine ⟨hrun, hlatest', hcount', hpaths, ?_, trivial, fun _ ↦ Nat.succ_pos _, harchives,
      hunarchived⟩
    intro i hi
    rcases Nat.lt_succ_iff_lt_or_eq.mp hi with hlt | rfl
    · obtain ⟨datasetDir', cvImage, hdir', hcaptured, hfile'⟩ := hphotos i hlt
      exact ⟨datasetDir', cvImage, hdir', hcaptured.concat _, hfile'⟩
    · refine ⟨datasetDir, photo.cvImage, hdir, ?_, hpath ▸ hfile⟩
      obtain ⟨before, now, timestamp, existing, during, hevents, hduring, hframe⟩ := hasked
      have hcommits : commits before = s.savedCount := by
        rw [hcount, hevents, commits_append, commits_request, commits_between hduring]
        rfl
      refine ⟨before, now, timestamp, existing, during, [], s, by rw [hevents], hduring, hcommits,
        hframe, hevents ▸ hbefore, ?_⟩
      rw [hwritten, ← hpath]
  | notFinalized hidle =>
    refine ⟨hrun, hlatest', hcount', hpaths, hsame rfl rfl rfl, ?_, harchived, harchives,
      hunarchived⟩
    rw [hidle]
    trivial
  | finalized hidle hpos hnot =>
    exact ⟨hrun, hlatest', hcount', hpaths, hsame rfl rfl rfl, ⟨rfl, hunarchived hnot⟩,
      fun _ ↦ hpos, harchives, by rintro ⟨⟩⟩
  | @zipped datasetDir zipPath hzipping =>
    rw [hzipping] at hkeyboard
    obtain ⟨harch, hnil⟩ := hkeyboard
    refine ⟨hrun, hlatest', hcount', hpaths, hsame rfl rfl rfl, trivial, harchived, ?_,
      fun hnot ↦ ?_⟩
    · rw [hnil]
      exact le_rfl
    · rw [show s.datasetArchived = false from hnot] at harch
      cases harch
  | notZipped hzipping =>
    exact ⟨hrun, hlatest', hcount', hpaths, hsame rfl rfl rfl, trivial, harchived, harchives,
      hunarchived⟩

/-- **Every run** keeps it. -/
theorem Dataset.ok_run {time : K} {files : Str → Option F}
    (h : (Dataset.initial time files).run outputDir events = some s) :
    Dataset.Ok outputDir (Dataset.initial time files) events s := by
  induction events using List.reverseRecOn generalizing s with
  | nil =>
    obtain rfl := Option.some.inj h
    refine ⟨rfl, rfl, rfl, rfl, fun i hi ↦ absurd hi (Nat.not_lt_zero i), trivial, ?_,
      Nat.zero_le 1, fun _ ↦ rfl⟩
    rintro ⟨⟩
  | append_singleton events e ih =>
    rw [run_concat] at h
    obtain ⟨mid, hmid, hstep⟩ := Option.bind_eq_some_iff.mp h
    exact (ih hmid).step hstep

/-- An archive is built when there are photos. -/
theorem Dataset.Ok.one_le_of_zip (h : Dataset.Ok outputDir start events s)
    (hstep : s.step outputDir e = some s') (hbuilt : s'.archives ≠ s.archives) :
    1 ≤ s.savedCount := by
  have hkeyboard := h.keyboard
  have hcase := stepCase hstep
  cases hcase with
  | @zipped datasetDir zipPath hzipping =>
    rw [hzipping] at hkeyboard
    exact h.archived hkeyboard.1
  | _ => exact absurd rfl hbuilt

/-- **Photos are neither lost nor mixed up.** In every run, the number of photos is that of the
successful captures. The capture with the number `i` has written the latest frame at its request to
the file with that number, no two of these files are the same, and each still holds its frame.
Nothing but a successful capture changes the number. At most one archive is built, and none without
photos. -/
theorem dataset_photos {time : K} {files : Str → Option F}
    (h : (Dataset.initial time files).run outputDir events = some s) :
    s.savedCount = commits events ∧
      (∀ i < s.savedCount, ∃ datasetDir cvImage, s.datasetDir = some datasetDir ∧
        Captured outputDir (Dataset.initial time files) events datasetDir i cvImage ∧
        s.files (imageFile datasetDir i) = some cvImage) ∧
      (∀ datasetDir, Function.Injective (imageFile datasetDir)) ∧
      (∀ e s', s.step outputDir e = some s' → e.isCommit = false → s'.savedCount = s.savedCount) ∧
      s.archives.length ≤ 1 ∧
      ∀ e s', s.step outputDir e = some s' → s'.archives ≠ s.archives → 1 ≤ s.savedCount := by
  have hok := Dataset.ok_run h
  refine ⟨hok.count, hok.photos, imageFile_injective, fun e s' hstep hnot ↦ ?_, hok.archives,
    fun e s' ↦ hok.one_le_of_zip⟩
  rw [(Dataset.stepCase hstep).savedCount_eq, hnot]
  rfl

end Steps

/-- Two photos with a write between them that fails and spoils its file, and the archive. -/
def twoShots : List (DatasetEvent ℚ ℕ) :=
  [.camera (some 5), .request 1 "260101_000000".toList [], .imwrite .ok, .commit,
    .camera (some 6), .request 2 "260101_000001".toList [], .imwrite (.notOk (some 0)),
    .camera (some 7), .request 3 "260101_000002".toList [], .camera (some 8), .imwrite .ok, .commit,
    .finalize, .zip true]

theorem dataset_photos_two_shots :
    ∃ s, (Dataset.initial 0 fun _ ↦ none).run "dataset_output".toList twoShots = some s ∧
      s.savedCount = 2 ∧ (∀ i < 2, ∃ datasetDir cvImage, s.datasetDir = some datasetDir ∧
        Captured "dataset_output".toList (Dataset.initial 0 fun _ ↦ none) twoShots datasetDir i
          cvImage ∧ s.files (imageFile datasetDir i) = some cvImage) ∧ s.archives.length ≤ 1 := by
  have hsome : ((Dataset.initial 0 fun _ ↦ none).run "dataset_output".toList twoShots).isSome := by
    decide +kernel
  obtain ⟨s, hrun⟩ := Option.isSome_iff_exists.mp hsome
  obtain ⟨hcount, hphotos, -, -, harchives, -⟩ := dataset_photos hrun
  have htwo : s.savedCount = 2 := hcount
  rw [htwo] at hphotos
  exact ⟨s, hrun, htwo, hphotos, harchives⟩

end VzletUr3e.Teleop
