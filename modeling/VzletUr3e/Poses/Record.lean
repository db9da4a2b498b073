import VzletUr3e.Poses.Save

/-!
# What a recording leaves

The file after a recording, read back. The old rows come back as before, and the new one behind
them, unless the file ends in an open quote; then the new row is part of an old field.
-/

namespace VzletUr3e.Poses

open Control PyFloat

variable {K T : Type} {num : Numbers K} {text : Str} {old : List (Str × Pose K)}
  {counter : ℕ} {t : Transform K}

/-! ## The file -/

theorem ensureTrailingNewline_some (text : Str) :
    ensureTrailingNewline (some text) = some (Csv.terminate text) := by
  rw [ensureTrailingNewline, Csv.terminate]
  by_cases hnil : text = []
  · have hended : Csv.Ended text := .inl hnil
    rw [if_pos hnil, if_pos hended]
  · rw [if_neg hnil]
    by_cases hlast : text.getLast? = some '\n'
    · have hended : Csv.Ended text := .inr hlast
      rw [if_neg (not_not.mpr hlast), if_pos hended]
    · have hended : ¬ Csv.Ended text := not_or.mpr ⟨hnil, hlast⟩
      rw [if_pos hlast, if_neg hended]

/-- The file with the new row. -/
def recordedText (num : Numbers K) (text : Str) (counter : ℕ) (t : Transform K) : Str :=
  Csv.terminate text ++ Csv.writerow (newRow num counter t)

theorem csvFile_tryReload (num : Numbers K) (st : Teleop K T) :
    (st.tryReload num).csvFile = st.csvFile := by
  rw [Teleop.tryReload, Teleop.reloadPoses]
  cases loadCsvPoses num st.csvFile <;> rfl

/-- A recording that passes the debounce appends the row. -/
theorem csvFile_savePoseToCsv [PyFloat T] {nowS : T} {st : Teleop K T}
    (hfile : st.csvFile = some text) (hload : loadCsvPoses num (some text) = .ok old)
    (hdebounce : lt (nowS - st.lastRecordTimeS) (lit (1 / 2)) = false) :
    (st.savePoseToCsv num nowS (some t)).csvFile
      = some (recordedText num text (old.length + 1) t) := by
  obtain ⟨file, poses, last⟩ := st
  cases hfile
  have hcounter : Teleop.getNextCounter num ⟨some text, poses, nowS⟩
      = .ok (old.length + 1, ⟨some text, old, nowS⟩) := by
    rw [Teleop.getNextCounter, Teleop.reloadPoses, hload]
    rfl
  have hif : ¬ lt (nowS - last) (lit (1 / 2)) = true := by
    rw [hdebounce]
    decide
  rw [Teleop.savePoseToCsv, if_neg hif]
  change (Teleop.record num ⟨some text, poses, nowS⟩ t).csvFile = _
  rw [Teleop.record, hcounter]
  change (Teleop.tryReload num ⟨appendRow (ensureTrailingNewline (some text)) _, old, nowS⟩).csvFile
    = _
  rw [csvFile_tryReload, ensureTrailingNewline_some]
  rfl

/-! ## The table -/

theorem dataRows_append {rows : List (List Str)} {row : List Str} (hne : row ≠ []) :
    ∃ k, dataRows (rows ++ [row]) = dataRows rows ++ [(row, k)] := by
  refine ⟨2 + (rows.filter (· ≠ [])).length, ?_⟩
  have hfilter : [row].filter (· ≠ []) = [row] := List.filter_eq_self.mpr (by simpa using hne)
  rw [dataRows, dataRows, List.filter_append, hfilter, List.zipIdx_append]
  rfl

theorem length_dataRows (rows : List (List Str)) :
    (dataRows rows).length = (rows.filter (· ≠ [])).length := List.length_zipIdx

/-- The header of a file. -/
def headerOf (text : Str) : List Str :=
  match Csv.read text with
  | .ok (fieldnames :: _) => fieldnames
  | _ => []

/-- **Behind a closed field** the new row is one more, which is accepted if it gives a new name. -/
theorem load_recordedText_of_closed (laws : num.Lawful) {new : List (Str × Pose K)}
    (hload : loadCsvPoses num (some text) = .ok old) (hclosed : ¬ Csv.OpenQuote text) :
    loadCsvPoses num (some (recordedText num text counter t)) = .ok new ↔ ∃ name pose,
      RowGives num (headerOf text) (newRow num counter t) name pose ∧ name ∉ old.map Prod.fst ∧
        new = old ++ [(name, pose)] := by
  obtain ⟨_, rows, ⟨⟩, hread, fieldnames, data, rfl, hcolumns, hold, hne⟩ :=
    loadCsvPoses_eq_ok.mp hload
  have hread' : Csv.read (recordedText num text counter t)
      = .ok (fieldnames :: (data ++ [newRow num counter t])) :=
    Csv.read_append_row (by rw [length_newRow]; omega) (plain_newRow laws counter t) hread hclosed
  have hheader : headerOf text = fieldnames := by
    rw [headerOf, hread]
  have hrows : ∃ k, dataRows (data ++ [newRow num counter t])
      = dataRows data ++ [(newRow num counter t, k)] := dataRows_append (List.cons_ne_nil _ _)
  obtain ⟨k, hrows⟩ := hrows
  rw [hheader, loadCsvPoses_eq_ok]
  constructor
  · rintro ⟨_, rows', ⟨⟩, hrows', fieldnames', data', rfl, -, hnew, -⟩
    rw [hread'] at hrows'
    cases hrows'
    rw [hrows, List.foldlM_append, hold] at hnew
    have hstep : loadRow num fieldnames old (newRow num counter t, k) = .ok new := by
      rw [← bind_pure (loadRow num fieldnames old (newRow num counter t, k))]
      exact hnew
    exact loadRow_eq_ok.mp hstep
  · rintro ⟨name, pose, hgives, hname, rfl⟩
    have hstep : loadRow num fieldnames old (newRow num counter t, k)
        = .ok (old ++ [(name, pose)]) := loadRow_eq_ok.mpr ⟨name, pose, hgives, hname, rfl⟩
    refine ⟨_, _, rfl, hread', fieldnames, _, rfl, hcolumns, ?_, by simp⟩
    rw [hrows, List.foldlM_append, hold]
    change loadRow num fieldnames old (newRow num counter t, k) >>= pure = _
    rw [hstep]
    rfl

/-- **In an open quote** the new row is lost: a table that is accepted has no entry more. -/
theorem length_of_load_recordedText (laws : num.Lawful) {new : List (Str × Pose K)}
    (hload : loadCsvPoses num (some text) = .ok old) (hopen : Csv.OpenQuote text)
    (hnew : loadCsvPoses num (some (recordedText num text counter t)) = .ok new) :
    new.length = old.length := by
  obtain ⟨_, rows, ⟨⟩, hread, fieldnames, data, rfl, -, hold, hne⟩ := loadCsvPoses_eq_ok.mp hload
  have hquote : '"' ∉ Csv.writerow (newRow num counter t) :=
    Csv.Reader.quote_notMem_writerow (by rw [length_newRow]; omega) (plain_newRow laws counter t)
  obtain ⟨init, fields, field, field', hrows, hread'⟩ :=
    Csv.read_append_quoted hquote hread hopen
  obtain ⟨_, rows', ⟨⟩, hrows', fieldnames', data', rfl, -, hnew, -⟩ := loadCsvPoses_eq_ok.mp hnew
  rw [recordedText, hread'] at hrows'
  have hlen : (dataRows data').length = (dataRows data).length := by
    -- only the last field of the last record has changed
    rw [length_dataRows, length_dataRows]
    cases init with
    | nil =>
      -- a quote that is open in the header leaves no rows
      cases hrows
      cases hold
      exact absurd rfl hne
    | cons header init =>
      rw [List.cons_append] at hrows hrows'
      obtain ⟨rfl, rfl⟩ := List.cons.inj hrows
      obtain ⟨rfl, rfl⟩ := List.cons.inj (Except.ok.inj hrows')
      rw [List.filter_append, List.filter_append, List.length_append, List.length_append]
      simp
  have hold' := length_of_loadRows hold
  have hnew' := length_of_loadRows hnew
  rw [hnew', hold', hlen]

/-! ## Recordings -/

/-- The old table with one new entry, which carries the transform under a new name and id. -/
def Recorded (num : Numbers K) (old : List (Str × Pose K)) (t : Transform K) (file : Option Str) :
    Prop :=
  ∃ new name id, loadCsvPoses num file = .ok new ∧ new.Perm ((name, t.pose id) :: old) ∧
    name ∉ old.map Prod.fst ∧ ∀ entry ∈ old, entry.2.id ≠ id

/-- The last field is closed, the columns are in order, and the number of poses plus one is new. -/
structure Fits (text : Str) (old : List (Str × Pose K)) (t : Transform K) : Prop where
  closed : ¬ Csv.OpenQuote text
  ordered : Ordered (headerOf text) t
  newName : zoneName (old.length + 1) ∉ old.map Prod.fst
  newId : ∀ entry ∈ old, entry.2.id ≠ (old.length + 1 : ℕ)

/-- One entry at either end: it is the same. -/
theorem eq_of_perm {α : Type} {l : List α} {a b : α} (h : (l ++ [a]).Perm (b :: l)) : a = b := by
  have hcons : ([a] ++ l).Perm ([b] ++ l) := (List.perm_append_singleton a l).symm.trans h
  exact List.singleton_perm_singleton.mp ((List.perm_append_right_iff l).mp hcons)

/-- **The file after a recording** holds the old table and the new entry exactly when it fits. -/
theorem recorded_recordedText_iff (laws : num.Lawful)
    (hload : loadCsvPoses num (some text) = .ok old) :
    Recorded num old t (some (recordedText num text (old.length + 1) t)) ↔ Fits text old t := by
  constructor
  · rintro ⟨new, name, id, hnew, hperm, hname, hid⟩
    have hclosed : ¬ Csv.OpenQuote text := by
      intro hopen
      have hlen := hperm.length_eq
      rw [length_of_load_recordedText laws hload hopen hnew, List.length_cons] at hlen
      omega
    obtain ⟨name', pose', hgives, -, rfl⟩ :=
      (load_recordedText_of_closed laws hload hclosed).mp hnew
    cases eq_of_perm hperm
    obtain ⟨hordered, rfl, rfl⟩ := (rowGives_newRow_iff laws).mp hgives
    exact ⟨hclosed, hordered, hname, hid⟩
  · rintro ⟨hclosed, hordered, hname, hid⟩
    have hgives : RowGives num (headerOf text) (newRow num (old.length + 1) t)
        (zoneName (old.length + 1)) (t.pose (old.length + 1 : ℕ)) :=
      (rowGives_newRow_iff laws).mpr ⟨hordered, rfl, rfl⟩
    refine ⟨_, _, _, (load_recordedText_of_closed laws hload hclosed).mpr
      ⟨_, _, hgives, hname, rfl⟩, ?_, hname, hid⟩
    exact List.perm_append_singleton _ _

/-! ## Files with one pose -/

/-- A natural number in decimals. -/
def parseNat (s : Str) : Option ℤ :=
  if s ≠ [] ∧ s.all Char.isDigit then some (Nat.ofDigitChars 10 s 0 : ℕ) else none

/-- One of the floats `0.0` and `1.0`. -/
def parseZeroOne (s : Str) : Option Bool :=
  if s = "0.0".toList then some false else if s = "1.0".toList then some true else none

/-- Numbers of which only the floats `0.0` and `1.0` are known. -/
def zeroOne : Numbers Bool where
  int := parseNat
  float := parseZeroOne
  repr x := if x then "1.0".toList else "0.0".toList

theorem zeroOne_lawful : zeroOne.Lawful where
  int_digits n := by
    have hdigits : (digits n).all Char.isDigit = true :=
      List.all_eq_true.mpr fun c hc ↦ Nat.isDigit_of_mem_toDigits (by omega) (by omega) hc
    change parseNat (digits n) = _
    rw [parseNat, if_pos ⟨Nat.toDigits_ne_nil, hdigits⟩, digits, Nat.ofDigitChars_ten_toDigits]
  float_repr x := by cases x <;> decide
  int_repr x := by cases x <;> decide
  repr_chars x := by
    intro c hc
    cases x with
    | false =>
      have hzero : c ∈ ['0', '.', '0'] := hc
      fin_cases hzero <;> decide
    | true =>
      have hone : c ∈ ['1', '.', '0'] := hc
      fin_cases hone <;> decide
  int_z s := by
    change parseNat ('z' :: s) = none
    refine if_neg ?_
    rintro ⟨-, hall⟩
    rw [List.all_cons, Bool.and_eq_true] at hall
    exact absurd hall.1 (by decide)
  float_z s := by
    have hzero : 'z' :: s ≠ "0.0".toList := fun h ↦ absurd (List.cons.inj h).1 (by decide)
    have hone : 'z' :: s ≠ "1.0".toList := fun h ↦ absurd (List.cons.inj h).1 (by decide)
    change parseZeroOne ('z' :: s) = none
    rw [parseZeroOne, if_neg hzero, if_neg hone]

/-- A file with one pose. -/
def onePose (name : String) : Str :=
  "name,id,x,y,z,qx,qy,qz,qw\n".toList ++ name.toList ++ ",1,1.0,0.0,0.0,1.0,0.0,0.0,0.0\n".toList

/-- The transform that is looked up. -/
def atOrigin : Transform Bool := ⟨false, false, false, true, false, false, false⟩

/-- The entry of that file. -/
def onePoseTable (name : String) : List (Str × Pose Bool) :=
  [(name.toList, ⟨1, true, false, false, true, false, false, false⟩)]

/-- A clock that is past the debounce. -/
theorem debounce_passed : lt ((1 : ℝ) - 0) (lit (1 / 2)) = false := by
  rw [lt_eq_false_iff]
  change ((1 / 2 : ℚ) : ℝ) ≤ 1 - 0
  norm_num

/-! ## One recording -/

/-- **Recording a pose.** Whatever file is accepted, one recording leaves the old table and one new
entry with the transform exactly when the last field is closed, the columns are in order, and the
number of poses plus one gives a new name and id. -/
theorem pose_recorded_iff [PyFloat T] (laws : num.Lawful) {nowS : T} {st : Teleop K T}
    (hfile : st.csvFile = some text) (hload : loadCsvPoses num (some text) = .ok old)
    (hdebounce : lt (nowS - st.lastRecordTimeS) (lit (1 / 2)) = false) :
    Recorded num old t (st.savePoseToCsv num nowS (some t)).csvFile ↔ Fits text old t := by
  rw [csvFile_savePoseToCsv hfile hload hdebounce]
  exact recorded_recordedText_iff laws hload

theorem pose_recorded_body : Recorded zeroOne (onePoseTable "BODY") atOrigin
    (Teleop.savePoseToCsv zeroOne (1 : ℝ) (some atOrigin) ⟨some (onePose "BODY"), [], 0⟩).csvFile :=
  (pose_recorded_iff zeroOne_lawful rfl (by decide +kernel) debounce_passed).mpr
    { closed := by decide +kernel
      ordered :=
        { nameColumn := by decide +kernel
          idColumn := by decide +kernel
          coordinates := .cons ⟨0, by decide +kernel, rfl⟩ (.cons ⟨1, by decide +kernel, rfl⟩
            (.cons ⟨2, by decide +kernel, rfl⟩ (.cons ⟨3, by decide +kernel, rfl⟩
            (.cons ⟨4, by decide +kernel, rfl⟩ (.cons ⟨5, by decide +kernel, rfl⟩
            (.cons ⟨6, by decide +kernel, rfl⟩ .nil)))))) }
      newName := by decide +kernel
      newId := by decide +kernel }

/-- With one pose in the file that is called `zone2`, the new row is called `zone2` too, and the
file is accepted no more. -/
theorem zone_name_taken : ¬ ∀ (K T : Type) [PyFloat T] (num : Numbers K) (text : Str)
    (old : List (Str × Pose K)) (t : Transform K) (nowS : T) (st : Teleop K T), num.Lawful →
    st.csvFile = some text → loadCsvPoses num (some text) = .ok old →
    lt (nowS - st.lastRecordTimeS) (lit (1 / 2)) = false →
    Recorded num old t (st.savePoseToCsv num nowS (some t)).csvFile := by
  intro h
  have hload : loadCsvPoses zeroOne (some (onePose "zone2")) = .ok (onePoseTable "zone2") := by
    decide +kernel
  obtain ⟨new, name, id, hnew, -⟩ := h Bool ℝ zeroOne (onePose "zone2") (onePoseTable "zone2")
    atOrigin 1 ⟨some (onePose "zone2"), [], 0⟩ zeroOne_lawful rfl hload debounce_passed
  rw [csvFile_savePoseToCsv rfl hload debounce_passed] at hnew
  have hduplicate : loadCsvPoses zeroOne (some (recordedText zeroOne (onePose "zone2") 2 atOrigin))
      = .error (.duplicateName "zone2".toList 3) := by
    decide +kernel
  rw [onePoseTable, List.length_singleton, hduplicate] at hnew
  cases hnew

end VzletUr3e.Poses
