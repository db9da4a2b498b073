import VzletUr3e.Poses.Grid
import VzletUr3e.Poses.Lookup
import VzletUr3e.Poses.Record

/-!
# The pose command of the menu

A command that is none of the letters is looked up twice: `get_pose_by_id` finds a pose, and
`get_name_by_id` the name it is executed under. Each reads the text and goes through the table in
its own way, and each logs what it does not find.

Both come to the first entry that has the id. They differ in what they do with a text that `int`
does not read: `get_pose_by_id` asks `str.isdigit` first and then calls `int` unguarded,
`get_name_by_id` catches the `ValueError`.
-/

namespace VzletUr3e.Poses.Menu

variable {K : Type}

/-! ## The functions -/

inductive LogLevel
  | warn
  | info
  | error
deriving DecidableEq, Repr

abbrev Log := List (LogLevel × String)

/-- `_log`. -/
def log (logLevel message : String) : Log :=
  [(if logLevel = "warn" then .warn else if logLevel = "info" then .info else .error, message)]

/-- `int` of a text. -/
def pyInt (num : Numbers K) (text : Str) : Except PyError ℤ :=
  (num.int text).elim (.error .valueError) .ok

/-- The loop of `get_pose_by_id`. An id that does not read is passed over. -/
def firstPose (num : Numbers K) (requestedId : ℤ) : List (Pose K) → Option (Pose K)
  | [] => none
  | pose :: poses =>
    match pyInt num (strip (intText pose.id)) with
    | .error _ => firstPose num requestedId poses
    | .ok poseId => if poseId = requestedId then some pose else firstPose num requestedId poses

/-- `int(item) if item.isdigit() else 999999`. -/
def sortKey (num : Numbers K) (isdigit : Str → Bool) (item : Str) : Except PyError ℤ :=
  if isdigit item then pyInt num item else .ok 999999

/-- The keys of the items, one after the other. -/
def withKeys (num : Numbers K) (isdigit : Str → Bool) : List Str → Except PyError (List (ℤ × Str))
  | [] => .ok []
  | item :: items => do
    let key ← sortKey num isdigit item
    let rest ← withKeys num isdigit items
    return (key, item) :: rest

/-- `', '.join`. -/
def commaJoin (items : List Str) : String := ", ".intercalate (items.map String.ofList)

section

variable (num : Numbers K) (isdigit : Str → Bool) (poses : List (Str × Pose K))

/-- `get_pose_by_id`. -/
def getPoseById (command : Str) (logLevel : String) : Except PyError (Option (Pose K) × Log) := do
  let poseIdText := strip command
  if ¬ isdigit poseIdText then
    return (none, log logLevel s!"Pose command must be a numeric CSV id, got: {String.ofList command}")
  let requestedId ← pyInt num poseIdText
  match firstPose num requestedId (poses.map Prod.snd) with
  | some pose => return (some pose, [])
  | none => do
    let availableIds := (poses.map fun entry ↦ strip (intText entry.2.id)).filter (· ≠ [])
    let keyed ← withKeys num isdigit availableIds
    let ids := commaJoin ((keyed.mergeSort fun a b ↦ a.1 ≤ b.1).map Prod.snd)
    return (none, log logLevel s!"Pose id {requestedId} was not found in loaded CSV; available ids: {ids}")

/-- The part of `get_name_by_id` behind the `try`. -/
def nameOfId (requestedId : ℤ) (logLevel : String) : Option Str × Log :=
  match poses.find? fun entry ↦ entry.2.id = requestedId with
  | some entry => (some entry.1, [])
  | none =>
    let availableIds := (poses.map fun entry ↦ intText entry.2.id).mergeSort fun a b ↦ a ≤ b
    let ids := commaJoin availableIds
    (none, log logLevel s!"Pose id {requestedId} was not found in loaded CSV; available ids: {ids}")

/-- `get_name_by_id`. -/
def getNameById (poseId : Str) (logLevel : String) : Except PyError (Option Str × Log) :=
  match pyInt num (strip poseId) with
  | .ok requestedId => .ok (nameOfId poses requestedId logLevel)
  | .error .valueError =>
    .ok (none, log logLevel s!"Pose id must be numeric, got: {String.ofList poseId}")
  | .error e => .error e

/-- What `interactive_loop` executes for a command: a pose and the name it goes under. -/
def executed (command : Str) : Except PyError (Option (Option Str × Pose K) × Log) := do
  let (pose, poseLog) ← getPoseById num isdigit poses command "warn"
  let (poseName, nameLog) ← getNameById num poses command "error"
  match pose with
  | none =>
    return (none, poseLog ++ nameLog ++ log "warn"
      (s!"Unknown command or pose id: {String.ofList command}. "
        ++ "Use 'l' to list poses, 't' for teleop, 'z' for one image, "
        ++ "'p' for pose, 'v' for grasp object, or 'q' to quit."))
  | some pose => return (some (poseName, pose), poseLog ++ nameLog)

end

/-! ## The table -/

/-- `int(str(n)) == n` for every `n` that `int` has made of a text. -/
def Rereads (num : Numbers K) : Prop :=
  ∀ text n, num.int text = some n → num.int (intText n) = some n

/-- What a table that was loaded has: different names, and ids that were read from texts. -/
structure Loaded (num : Numbers K) (poses : List (Str × Pose K)) : Prop where
  names : (poses.map Prod.fst).Nodup
  ids : ∀ entry ∈ poses, ∃ text, num.int text = some entry.2.id

variable {num : Numbers K} {isdigit : Str → Bool} {poses : List (Str × Pose K)} {command : Str}

theorem Loaded.loadRow {fieldnames : List Str} {row : List Str × ℕ} {poses' : List (Str × Pose K)}
    (h : Loaded num poses) (hrow : loadRow num fieldnames poses row = .ok poses') :
    Loaded num poses' := by
  obtain ⟨name, pose, hgives, hnew, rfl⟩ := loadRow_eq_ok.mp hrow
  constructor
  · rw [List.map_append, List.map_singleton, List.nodup_append_comm]
    exact List.nodup_cons.mpr ⟨hnew, h.names⟩
  · intro entry hentry
    rcases List.mem_append.mp hentry with hold | hlast
    · exact h.ids entry hold
    · obtain ⟨hid, -⟩ := rowPose_eq_ok.mp hgives.rowPose
      obtain ⟨i, text, -, -, hint⟩ := number_dictRow_eq_ok.mp hid
      rw [List.mem_singleton.mp hlast]
      exact ⟨strip text, hint⟩

/-- `load_csv_poses` loads such a table. -/
theorem loaded_of_loadCsvPoses {file : Option Str} (h : loadCsvPoses num file = .ok poses) :
    Loaded num poses := by
  obtain ⟨_, _, -, -, fieldnames, data, -, -, hrows, -⟩ := loadCsvPoses_eq_ok.mp h
  have hkeep : ∀ (rows : List (List Str × ℕ)) (before : List (Str × Pose K)), Loaded num before →
      rows.foldlM (Poses.loadRow num fieldnames) before = .ok poses → Loaded num poses := by
    intro rows
    induction rows with
    | nil =>
      rintro before hbefore ⟨⟩
      exact hbefore
    | cons row rows ih =>
      intro before hbefore hfold
      obtain ⟨next, hnext, hrest⟩ := Loops.bind_eq_ok.mp (List.foldlM_cons.symm.trans hfold)
      exact ih next (hbefore.loadRow hnext) hrest
  exact hkeep _ [] ⟨List.nodup_nil, by rintro _ ⟨⟩⟩ hrows

/-- Its ids are read back as they are. -/
theorem Loaded.pyInt_intText (reads : Rereads num) (h : Loaded num poses) {entry : Str × Pose K}
    (hentry : entry ∈ poses) : pyInt num (intText entry.2.id) = .ok entry.2.id := by
  obtain ⟨text, htext⟩ := h.ids entry hentry
  rw [pyInt, reads text _ htext]
  rfl

/-! ## What they find -/

theorem firstPose_eq (requestedId : ℤ)
    (h : ∀ entry ∈ poses, pyInt num (intText entry.2.id) = .ok entry.2.id) :
    firstPose num requestedId (poses.map Prod.snd)
      = (poses.find? fun entry ↦ entry.2.id = requestedId).map Prod.snd := by
  induction poses with
  | nil => rfl
  | cons entry poses ih =>
    obtain ⟨hentry, hposes⟩ := List.forall_mem_cons.mp h
    rw [List.map_cons, firstPose, strip_intText, hentry]
    dsimp only
    by_cases hid : entry.2.id = requestedId
    · rw [if_pos hid, List.find?_cons_of_pos (by simpa using hid)]
      rfl
    · rw [if_neg hid, List.find?_cons_of_neg (by simpa using hid), ih hposes]

/-- The ids of the table have keys. -/
theorem exists_withKeys {items : List Str} (h : ∀ item ∈ items, ∃ n, pyInt num item = .ok n) :
    ∃ keyed, withKeys num isdigit items = .ok keyed := by
  induction items with
  | nil => exact ⟨[], rfl⟩
  | cons item items ih =>
    obtain ⟨⟨n, hn⟩, hitems⟩ := List.forall_mem_cons.mp h
    obtain ⟨rest, hrest⟩ := ih hitems
    obtain ⟨key, hkey⟩ : ∃ key, sortKey num isdigit item = .ok key := by
      unfold sortKey
      split
      · exact ⟨n, hn⟩
      · exact ⟨999999, rfl⟩
    refine ⟨(key, item) :: rest, ?_⟩
    rw [withKeys, hkey, hrest]
    rfl

/-- **Without its log, `get_pose_by_id` looks for the first entry.** -/
theorem getPoseById_fst (h : ∀ entry ∈ poses, pyInt num (intText entry.2.id) = .ok entry.2.id)
    (logLevel : String) : (getPoseById num isdigit poses command logLevel).map Prod.fst
      = Poses.getPoseById num isdigit poses command := by
  unfold getPoseById Poses.getPoseById
  by_cases hdigit : isdigit (strip command) = true
  · rw [if_neg (not_not.mpr hdigit), if_neg (not_not.mpr hdigit), pyInt]
    cases num.int (strip command) with
    | none => rfl
    | some requestedId =>
      obtain ⟨keyed, hkeyed⟩ := @exists_withKeys _ num isdigit
        ((poses.map fun entry ↦ strip (intText entry.2.id)).filter (· ≠ [])) (by
          intro item hitem
          obtain ⟨entry, hentry, rfl⟩ := List.mem_map.mp (List.mem_filter.mp hitem).1
          rw [strip_intText]
          exact ⟨_, h entry hentry⟩)
      change Except.map Prod.fst (match firstPose num requestedId (poses.map Prod.snd) with
        | some pose => _
        | none => _) = .ok _
      rw [firstPose_eq requestedId h]
      cases (poses.find? fun entry ↦ entry.2.id = requestedId) with
      | some entry => rfl
      | none =>
        dsimp only [Option.map_none]
        rw [hkeyed]
        rfl
  · rw [if_pos hdigit, if_pos hdigit]
    rfl

/-- **Without its log, `get_name_by_id` does too.** -/
theorem getNameById_fst (logLevel : String) :
    (getNameById num poses command logLevel).map Prod.fst
      = .ok (Poses.getNameById num poses command) := by
  unfold getNameById Poses.getNameById pyInt
  cases num.int (strip command) with
  | none => rfl
  | some requestedId =>
    change Except.ok (nameOfId poses requestedId logLevel).1 = _
    unfold nameOfId
    dsimp only
    cases (poses.find? fun entry ↦ entry.2.id = requestedId) with
    | none => rfl
    | some entry => rfl

/-- A name and a pose are those of the first entry with the id of the pose. -/
def HoldsFirst (poses : List (Str × Pose K)) (name : Str) (pose : Pose K) : Prop :=
  ∃ before after, poses = before ++ (name, pose) :: after ∧
    ∀ entry ∈ before, entry.2.id ≠ pose.id ∧ entry.1 ≠ name

/-- What a lookup by id comes to. -/
theorem holdsFirst_of_find (hnames : (poses.map Prod.fst).Nodup) {requestedId : ℤ}
    {entry : Str × Pose K} (h : poses.find? (fun entry ↦ entry.2.id = requestedId) = some entry) :
    HoldsFirst poses entry.1 entry.2 := by
  obtain ⟨hid, before, after, rfl, hbefore⟩ := List.find?_eq_some_iff_append.mp h
  have hid : entry.2.id = requestedId := by simpa using hid
  refine ⟨before, after, rfl, fun other hother ↦ ⟨?_, ?_⟩⟩
  · have hne := hbefore other hother
    rw [hid]
    simpa using hne
  · rintro hname
    rw [List.map_append, List.map_cons] at hnames
    have hdisjoint := List.disjoint_of_nodup_append hnames
    exact hdisjoint (List.mem_map.mpr ⟨other, hother, hname⟩) List.mem_cons_self

/-- The pose that is found is that of an entry, under whose name it is found too. -/
theorem exists_entry_of_getPoseById {pose : Pose K}
    (h : Poses.getPoseById num isdigit poses command = .ok (some pose)) :
    ∃ requestedId entry, poses.find? (fun entry ↦ entry.2.id = requestedId) = some entry ∧
      entry.2 = pose ∧ Poses.getNameById num poses command = some entry.1 := by
  unfold Poses.getPoseById at h
  by_cases hdigit : isdigit (strip command) = true
  · rw [if_neg (not_not.mpr hdigit)] at h
    cases hint : num.int (strip command) with
    | none =>
      rw [hint] at h
      cases h
    | some requestedId =>
      rw [hint] at h
      obtain ⟨entry, hfind, hpose⟩ := Option.map_eq_some_iff.mp (Except.ok.inj h)
      refine ⟨requestedId, entry, hfind, hpose, ?_⟩
      rw [Poses.getNameById, hint]
      dsimp only
      rw [hfind]
      rfl
  · rw [if_pos hdigit] at h
    cases h

/-- A text of digits that `int` does not read. -/
def Unread (num : Numbers K) (isdigit : Str → Bool) (command : Str) : Prop :=
  isdigit (strip command) = true ∧ num.int (strip command) = none

theorem exists_getPoseById_iff :
    (∃ found, Poses.getPoseById num isdigit poses command = .ok found)
      ↔ ¬Unread num isdigit command := by
  unfold Poses.getPoseById Unread
  by_cases hdigit : isdigit (strip command) = true
  · rw [if_neg (not_not.mpr hdigit)]
    cases hint : num.int (strip command) with
    | none => exact iff_of_false (by rintro ⟨_, ⟨⟩⟩) (not_not.mpr ⟨hdigit, rfl⟩)
    | some requestedId => exact iff_of_true ⟨_, rfl⟩ (by rintro ⟨-, ⟨⟩⟩)
  · rw [if_pos hdigit]
    exact iff_of_true ⟨_, rfl⟩ fun h ↦ hdigit h.1

/-! ## Under its own name -/

/-- Nothing is raised, and a pose goes with the name under which the table holds it. -/
structure OwnName (num : Numbers K) (isdigit : Str → Bool) (poses : List (Str × Pose K))
    (command : Str) : Prop where
  pose_found : ∀ logLevel, ∃ found, getPoseById num isdigit poses command logLevel = .ok found
  name_found : ∀ logLevel, ∃ found, getNameById num poses command logLevel = .ok found
  own : ∀ poseLevel nameLevel pose poseLog,
    getPoseById num isdigit poses command poseLevel = .ok (some pose, poseLog) →
      ∃ name nameLog, getNameById num poses command nameLevel = .ok (some name, nameLog) ∧
        HoldsFirst poses name pose
  executed : ∀ poseName pose both,
    executed num isdigit poses command = .ok (some (poseName, pose), both) →
      ∃ name, poseName = some name ∧ HoldsFirst poses name pose

section Loaded

variable (reads : Rereads num) (h : Loaded num poses)

include h

theorem Loaded.exists_name {pose : Pose K}
    (hpose : Poses.getPoseById num isdigit poses command = .ok (some pose)) (nameLevel : String) :
    ∃ name nameLog, getNameById num poses command nameLevel = .ok (some name, nameLog) ∧
      HoldsFirst poses name pose := by
  obtain ⟨requestedId, entry, hfind, rfl, hname⟩ := exists_entry_of_getPoseById hpose
  have hfst := @getNameById_fst _ num poses command nameLevel
  rw [hname] at hfst
  obtain ⟨⟨name, nameLog⟩, hok, hsome⟩ := Loops.map_eq_ok.mp hfst
  obtain rfl : name = some entry.1 := hsome
  exact ⟨entry.1, nameLog, hok, holdsFirst_of_find h.names hfind⟩

include reads

theorem Loaded.getPoseById_fst (logLevel : String) :
    (getPoseById num isdigit poses command logLevel).map Prod.fst
      = Poses.getPoseById num isdigit poses command :=
  Menu.getPoseById_fst (fun _ hentry ↦ h.pyInt_intText reads hentry) logLevel

theorem Loaded.ownName (hread : ¬Unread num isdigit command) :
    OwnName num isdigit poses command where
  pose_found logLevel := by
    obtain ⟨found, hfound⟩ := exists_getPoseById_iff.mpr hread
    obtain ⟨a, ha, -⟩ := Loops.map_eq_ok.mp ((h.getPoseById_fst reads logLevel).trans hfound)
    exact ⟨a, ha⟩
  name_found logLevel := by
    obtain ⟨a, ha, -⟩ := Loops.map_eq_ok.mp (getNameById_fst logLevel)
    exact ⟨a, ha⟩
  own poseLevel nameLevel pose poseLog hpose := by
    apply h.exists_name
    rw [← h.getPoseById_fst reads poseLevel, hpose]
    rfl
  executed poseName pose both hexecuted := by
    obtain ⟨⟨found, poseLog⟩, hpose, hrest⟩ := Loops.bind_eq_ok.mp hexecuted
    obtain ⟨⟨name, nameLog⟩, hname, hboth⟩ := Loops.bind_eq_ok.mp hrest
    cases found with
    | none => cases hboth
    | some first =>
      cases hboth
      have hsimple : Poses.getPoseById num isdigit poses command = .ok (some pose) := by
        rw [← h.getPoseById_fst reads "warn", hpose]
        rfl
      obtain ⟨own, ownLog, hown, hholds⟩ := h.exists_name hsimple "error"
      rw [hname] at hown
      cases hown
      exact ⟨own, rfl, hholds⟩

end Loaded

/-- **When the menu executes a pose under its own name.** Of a table that was loaded, it does
exactly if the command is not a text of digits that `int` does not read. -/
theorem own_name_iff (reads : Rereads num) {file : Option Str}
    (h : loadCsvPoses num file = .ok poses) (isdigit : Str → Bool) (command : Str) :
    OwnName num isdigit poses command
      ↔ ¬(isdigit (strip command) = true ∧ num.int (strip command) = none) := by
  have hloaded := loaded_of_loadCsvPoses h
  constructor
  · intro hown
    obtain ⟨found, hfound⟩ := hown.pose_found "warn"
    have hfst := @Loaded.getPoseById_fst _ num isdigit poses command reads hloaded "warn"
    rw [hfound] at hfst
    exact exists_getPoseById_iff.mp ⟨found.1, hfst.symm⟩
  · exact hloaded.ownName reads

/-- `str.isdigit` on ASCII digits and the superscript two. -/
def digitTest (text : Str) : Bool := text ≠ [] ∧ text.all fun c ↦ c.isDigit ∨ c = '²'

theorem rereads_zeroOne : Rereads zeroOne := by
  intro text n htext
  have hnat : ∃ m : ℕ, n = m := by
    have hparse : parseNat text = some n := htext
    unfold parseNat at hparse
    split at hparse
    · exact ⟨_, (Option.some.inj hparse).symm⟩
    · cases hparse
  obtain ⟨m, rfl⟩ := hnat
  exact zeroOne_lawful.int_digits m

/-- A file in which two poses have the same id. -/
def sameIds : Str :=
  onePose "home" ++ "rest,1,0.0,0.0,0.0,1.0,0.0,0.0,0.0\n".toList

/-- Its table. -/
def sameIdsTable : List (Str × Pose Bool) :=
  onePoseTable "home" ++ [("rest".toList, ⟨1, false, false, false, true, false, false, false⟩)]

theorem own_name_repeated : OwnName zeroOne digitTest sameIdsTable " 1".toList :=
  (@own_name_iff _ zeroOne sameIdsTable rereads_zeroOne (some sameIds) (by decide +kernel) digitTest
    " 1".toList).mpr (by decide +kernel)

/-- The command `²` ends the menu with a `ValueError`. -/
theorem superscript_raises :
    ¬∀ (num : Numbers Bool) (isdigit : Str → Bool) (file : Option Str)
      (poses : List (Str × Pose Bool)) (command : Str), Rereads num →
      loadCsvPoses num file = .ok poses → OwnName num isdigit poses command := by
  intro h
  have hload : loadCsvPoses zeroOne (some (onePose "home")) = .ok (onePoseTable "home") := by
    decide +kernel
  obtain ⟨found, hfound⟩ :=
    (h zeroOne digitTest _ _ "²".toList rereads_zeroOne hload).pose_found "warn"
  have hraised : getPoseById zeroOne digitTest (onePoseTable "home") "²".toList "warn"
      = .error .valueError := rfl
  rw [hraised] at hfound
  cases hfound

end VzletUr3e.Poses.Menu
