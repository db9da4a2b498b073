import VzletUr3e.Control.Python
import VzletUr3e.Poses.Load

/-!
# Recording a pose

`save_pose_to_csv` appends a row to the pose file, in the order of `CSV_HEADERS` and under a number
that is one more than the number of poses. The reader goes by the header and wants new names, so
the row comes back as it was meant only if the columns are in that order, the last field is closed,
and the number is new.

Reads and writes of the file are taken to succeed; log texts are left out.
-/

namespace VzletUr3e.Poses

open Control PyFloat

variable {K T : Type}

/-! ## The node -/

/-- The position and the orientation of a transform. -/
structure Transform (K : Type) where
  x : K
  y : K
  z : K
  qx : K
  qy : K
  qz : K
  qw : K
deriving DecidableEq, Repr

/-- What the recording reads and writes of the node. Times are of another type than coordinates. -/
structure Teleop (K T : Type) where
  csvFile : Option Str
  poses : List (Str × Pose K)
  lastRecordTimeS : T

/-- `str` of a natural number. -/
def digits (n : ℕ) : Str := Nat.toDigits 10 n

/-- `f"zone{counter}"`. -/
def zoneName (counter : ℕ) : Str := "zone".toList ++ digits counter

/-- The row under the headers. -/
def newRow (num : Numbers K) (counter : ℕ) (t : Transform K) : List Str :=
  [zoneName counter, digits counter, num.repr t.x, num.repr t.y, num.repr t.z, num.repr t.qx,
    num.repr t.qy, num.repr t.qz, num.repr t.qw]

/-- `ensure_trailing_newline`. -/
def ensureTrailingNewline : Option Str → Option Str
  | none => none
  | some text =>
    if text = [] then some text
    else if text.getLast? ≠ some '\n' then some (text ++ ['\n'])
    else some text

/-- A row behind the file, which is made if there is none. -/
def appendRow (file : Option Str) (row : List Str) : Option Str :=
  some (file.getD [] ++ Csv.writerow row)

/-- `reload_poses`: the table stays as it is when the file is not accepted. -/
def Teleop.reloadPoses (num : Numbers K) (st : Teleop K T) : Except LoadError (Teleop K T) := do
  return { st with poses := ← loadCsvPoses num st.csvFile }

/-- `get_next_counter`. -/
def Teleop.getNextCounter (num : Numbers K) (st : Teleop K T) :
    Except LoadError (ℕ × Teleop K T) := do
  let st ← st.reloadPoses num
  return (st.poses.length + 1, st)

/-- A reload whose error is logged. -/
def Teleop.tryReload (num : Numbers K) (st : Teleop K T) : Teleop K T :=
  match st.reloadPoses num with
  | .error _ => st
  | .ok st => st

/-- What follows the lookup in `save_pose_to_csv`. An error is logged. -/
def Teleop.record (num : Numbers K) (st : Teleop K T) (t : Transform K) : Teleop K T :=
  match st.getNextCounter num with
  | .error _ => st
  | .ok (counter, st) =>
    let file := appendRow (ensureTrailingNewline st.csvFile) (newRow num counter t)
    Teleop.tryReload num { st with csvFile := file }

/-- `save_pose_to_csv`, with the transform unless its lookup raises. -/
def Teleop.savePoseToCsv [PyFloat T] (num : Numbers K) (nowS : T) (transform : Option (Transform K))
    (st : Teleop K T) : Teleop K T :=
  if lt (nowS - st.lastRecordTimeS) (lit (1 / 2)) then st
  else
    let st := { st with lastRecordTimeS := nowS }
    match transform with
    | none => st
    | some t => st.record num t

/-! ## The new row -/

/-- What Python's numbers are known for. -/
structure Numbers.Lawful (num : Numbers K) : Prop where
  int_digits : ∀ n : ℕ, num.int (digits n) = some (n : ℤ)
  float_repr : ∀ x, num.float (num.repr x) = some x
  /-- A float is written with a point, an exponent or letters. -/
  int_repr : ∀ x, num.int (num.repr x) = none
  repr_chars : ∀ x, ∀ c ∈ num.repr x, Csv.isSpecial c = false ∧ isSpace c = false
  /-- No number is written with this letter. -/
  int_z : ∀ s, num.int ('z' :: s) = none
  float_z : ∀ s, num.float ('z' :: s) = none

theorem strip_of_notSpace {s : Str} (h : ∀ c ∈ s, isSpace c = false) : strip s = s := by
  have hdrop : ∀ l : Str, (∀ c ∈ l, isSpace c = false) → l.dropWhile isSpace = l := by
    intro l hl
    cases l with
    | nil => rfl
    | cons c l => exact List.dropWhile_cons_of_neg (by simp [hl c List.mem_cons_self])
  rw [strip, hdrop s h, hdrop s.reverse fun c hc ↦ h c (List.mem_reverse.mp hc),
    List.reverse_reverse]

theorem not_isSpace_of_isDigit {c : Char} (h : c.isDigit = true) :
    Csv.isSpecial c = false ∧ isSpace c = false := by
  have hrange : 48 ≤ c.toNat ∧ c.toNat ≤ 57 := by
    rw [Char.isDigit, Bool.and_eq_true, decide_eq_true_iff, decide_eq_true_iff] at h
    exact h
  constructor
  · rw [Csv.isSpecial, decide_eq_false_iff_not]
    rintro (rfl | rfl | rfl | rfl) <;> exact absurd hrange (by decide)
  · rw [isSpace, decide_eq_false_iff_not]
    rintro (hmem | hmem)
    · simp only [List.mem_cons, List.not_mem_nil, or_false] at hmem
      omega
    · omega

theorem digits_chars (n : ℕ) : ∀ c ∈ digits n, Csv.isSpecial c = false ∧ isSpace c = false :=
  fun _ hc ↦ not_isSpace_of_isDigit (Nat.isDigit_of_mem_toDigits (by omega) (by omega) hc)

theorem strip_digits (n : ℕ) : strip (digits n) = digits n :=
  strip_of_notSpace fun c hc ↦ (digits_chars n c hc).2

theorem zoneName_chars (n : ℕ) : ∀ c ∈ zoneName n, Csv.isSpecial c = false ∧ isSpace c = false := by
  intro c hc
  rcases List.mem_append.mp hc with hc | hc
  · fin_cases hc <;> decide
  · exact digits_chars n c hc

theorem strip_zoneName (n : ℕ) : strip (zoneName n) = zoneName n :=
  strip_of_notSpace fun c hc ↦ (zoneName_chars n c hc).2

variable {num : Numbers K}

theorem Numbers.Lawful.strip_repr (laws : num.Lawful) (x : K) : strip (num.repr x) = num.repr x :=
  strip_of_notSpace fun c hc ↦ (laws.repr_chars x c hc).2

theorem length_newRow (num : Numbers K) (counter : ℕ) (t : Transform K) :
    (newRow num counter t).length = 9 := rfl

/-- The new row needs no quotes. -/
theorem plain_newRow (laws : num.Lawful) (counter : ℕ) (t : Transform K) :
    ∀ field ∈ newRow num counter t, Csv.Reader.Plain field := by
  intro field hfield c hc
  simp only [newRow, List.mem_cons, List.not_mem_nil, or_false] at hfield
  rcases hfield with rfl | rfl | hfield
  · exact (zoneName_chars counter c hc).1
  · exact (digits_chars counter c hc).1
  · rcases hfield with rfl | rfl | rfl | rfl | rfl | rfl | rfl <;>
      exact (laws.repr_chars _ c hc).1

/-- The pose that a transform is recorded as. -/
def Transform.pose (t : Transform K) (id : ℤ) : Pose K :=
  ⟨id, t.x, t.y, t.z, t.qx, t.qy, t.qz, t.qw⟩

theorem newRow_eq (num : Numbers K) (counter : ℕ) (t : Transform K) : newRow num counter t
    = zoneName counter :: digits counter :: (t.pose counter).coordinates.map num.repr := rfl

variable {counter : ℕ} {t : Transform K}

theorem zoneName_eq (counter : ℕ) :
    zoneName counter = 'z' :: ("one".toList ++ digits counter) := rfl

/-- Only the second cell of the new row is an integer, the counter. -/
theorem int_newRow (laws : num.Lawful) {i : ℕ} {s : Str} {n : ℤ}
    (hs : (newRow num counter t)[i]? = some s) (hn : num.int (strip s) = some n) :
    i = 1 ∧ n = counter := by
  rw [newRow_eq] at hs
  rcases i with _ | _ | i
  · cases hs
    rw [strip_zoneName, zoneName_eq, laws.int_z] at hn
    cases hn
  · cases hs
    rw [strip_digits, laws.int_digits] at hn
    exact ⟨rfl, (Option.some.inj hn).symm⟩
  · obtain ⟨v, -, rfl⟩ := List.mem_map.mp (List.mem_of_getElem? hs)
    rw [laws.strip_repr, laws.int_repr] at hn
    cases hn

/-- The first cell is no float, and those from the third on are the coordinates. -/
theorem float_newRow (laws : num.Lawful) {i : ℕ} {s : Str} {v : K}
    (hs : (newRow num counter t)[i]? = some s) (hv : num.float (strip s) = some v) :
    i ≠ 0 ∧ (i ≠ 1 → ∃ j, i = j + 2 ∧ (t.pose counter).coordinates[j]? = some v) := by
  rw [newRow_eq] at hs
  rcases i with _ | _ | i
  · cases hs
    rw [strip_zoneName, zoneName_eq, laws.float_z] at hv
    cases hv
  · exact ⟨by omega, fun h ↦ absurd rfl h⟩
  · refine ⟨by omega, fun _ ↦ ⟨i, rfl, ?_⟩⟩
    rw [List.getElem?_cons_succ, List.getElem?_cons_succ, List.getElem?_map] at hs
    obtain ⟨v', hv', rfl⟩ := Option.map_eq_some_iff.mp hs
    rw [laws.strip_repr, laws.float_repr] at hv
    rw [hv', Option.some.inj hv]

/-! ## When the new row reads as it was meant -/

/-- The columns are in the order of the headers, as far as the coordinates differ. -/
structure Ordered (fieldnames : List Str) (t : Transform K) : Prop where
  nameColumn : columnIndex fieldnames "name" = some 0
  idColumn : columnIndex fieldnames "id" = some 1
  coordinates : List.Forall₂ (fun column v ↦ ∃ j, columnIndex fieldnames column = some (j + 2) ∧
    (t.pose 0).coordinates[j]? = some v) coordinateColumns (t.pose 0).coordinates

theorem mem_of_forall₂ {α β : Type} {R : α → β → Prop} {l : List α} {l' : List β}
    (h : List.Forall₂ R l l') : ∀ a ∈ l, ∃ b, R a b := by
  induction h with
  | nil => simp
  | cons hab _ ih => exact List.forall_mem_cons.mpr ⟨⟨_, hab⟩, ih⟩

/-- When the columns all read cells of a row as long as there are columns, each cell is read. -/
theorem exists_column {fieldnames : List Str}
    (h : ∀ column ∈ csvHeaders, ∃ i, columnIndex fieldnames column = some i ∧ i < csvHeaders.length)
    {j : ℕ} (hj : j < csvHeaders.length) :
    ∃ column ∈ csvHeaders, columnIndex fieldnames column = some j := by
  have hsome : ∀ column ∈ csvHeaders, columnIndex fieldnames column
      = some ((columnIndex fieldnames column).getD 0) := by
    intro column hcolumn
    obtain ⟨i, hi, -⟩ := h column hcolumn
    rw [hi]
    rfl
  have hnodup : (csvHeaders.map fun column ↦ (columnIndex fieldnames column).getD 0).Nodup := by
    refine List.Nodup.map_on ?_ (by decide)
    intro column hcolumn column' hcolumn' heq
    refine columnIndex_inj (hsome column hcolumn) ?_
    rw [heq]
    exact hsome column' hcolumn'
  have hsub : (csvHeaders.map fun column ↦ (columnIndex fieldnames column).getD 0)
      ⊆ List.range csvHeaders.length := by
    intro i hi
    obtain ⟨column, hcolumn, rfl⟩ := List.mem_map.mp hi
    obtain ⟨i, hi, hlt⟩ := h column hcolumn
    rw [hi]
    exact List.mem_range.mpr hlt
  have hperm := (List.subperm_of_subset hnodup hsub).perm_of_length_le
    (by rw [List.length_range, List.length_map])
  obtain ⟨column, hcolumn, heq⟩ := List.mem_map.mp (hperm.mem_iff.mpr (List.mem_range.mpr hj))
  exact ⟨column, hcolumn, by rw [hsome column hcolumn, heq]⟩

/-- **The new row** gives the transform, under any name and id, exactly when the columns are in
order; the name and the id are then those of the counter. -/
theorem rowGives_newRow_iff (laws : num.Lawful) {fieldnames : List Str} {name : Str} {id : ℤ} :
    RowGives num fieldnames (newRow num counter t) name (t.pose id) ↔
      Ordered fieldnames t ∧ name = zoneName counter ∧ id = counter := by
  constructor
  · rintro ⟨hname, -, hpose⟩
    obtain ⟨hid, hfloats⟩ := rowPose_eq_ok.mp hpose
    obtain ⟨i, s, hi, hs, rfl⟩ := rowName_dictRow_eq_ok.mp hname
    obtain ⟨i', s', hi', hs', hint⟩ := number_dictRow_eq_ok.mp hid
    obtain ⟨rfl, rfl⟩ := int_newRow laws hs' hint
    have hcell : ∀ {i : ℕ} {s : Str}, (newRow num counter t)[i]? = some s →
        i < csvHeaders.length := fun h ↦ (List.getElem?_eq_some_iff.mp h).1
    have hall : ∀ column ∈ csvHeaders,
        ∃ i, columnIndex fieldnames column = some i ∧ i < csvHeaders.length := by
      refine List.forall_mem_cons.mpr ⟨⟨i, hi, hcell hs⟩, List.forall_mem_cons.mpr
        ⟨⟨1, hi', by decide⟩, fun column hcolumn ↦ ?_⟩⟩
      obtain ⟨v, hv⟩ := mem_of_forall₂ hfloats column hcolumn
      obtain ⟨i, s, hi, hs, -⟩ := number_dictRow_eq_ok.mp hv
      exact ⟨i, hi, hcell hs⟩
    have hzero : i = 0 := by
      -- some column reads the first cell, and only the name can
      obtain ⟨column, hcolumn, h0⟩ := exists_column hall (j := 0) (by decide)
      rcases List.mem_cons.mp hcolumn with rfl | hcolumn
      · exact Option.some.inj (hi.symm.trans h0)
      rcases List.mem_cons.mp hcolumn with rfl | hcolumn
      · rw [hi'] at h0
        cases h0
      · obtain ⟨v, hv⟩ := mem_of_forall₂ hfloats column hcolumn
        obtain ⟨i, s, hi, hs, hfloat⟩ := number_dictRow_eq_ok.mp hv
        rw [h0] at hi
        cases hi
        exact absurd rfl (float_newRow laws hs hfloat).1
    subst hzero
    cases hs
    refine ⟨⟨hi, hi', ?_⟩, ?_, rfl⟩
    · have hne : ∀ column ∈ coordinateColumns, column ≠ "id" := by decide
      refine ((List.forall₂_and_left _ _).mpr ⟨hne, hfloats⟩).imp ?_
      rintro column v ⟨hcolumn, hv⟩
      obtain ⟨i, s, hi, hs, hfloat⟩ := number_dictRow_eq_ok.mp hv
      have hi1 : i ≠ 1 := by
        rintro rfl
        exact hcolumn (columnIndex_inj hi hi')
      obtain ⟨j, rfl, hj⟩ := (float_newRow laws hs hfloat).2 hi1
      exact ⟨j, hi, hj⟩
    · rw [strip_zoneName, strip_zoneName]
  · rintro ⟨⟨hname, hid, hcoordinates⟩, rfl, rfl⟩
    refine ⟨rowName_dictRow_eq_ok.mpr ⟨0, _, hname, rfl, ?_⟩, by simp [zoneName], ?_⟩
    · rw [strip_zoneName, strip_zoneName]
    · refine rowPose_eq_ok.mpr ⟨number_dictRow_eq_ok.mpr ⟨1, _, hid, rfl, ?_⟩, ?_⟩
      · rw [strip_digits, laws.int_digits]
        rfl
      · refine hcoordinates.imp fun column v ⟨j, hj, hv⟩ ↦ ?_
        refine number_dictRow_eq_ok.mpr ⟨j + 2, num.repr v, hj, ?_, ?_⟩
        · rw [newRow_eq, List.getElem?_cons_succ, List.getElem?_cons_succ, List.getElem?_map]
          exact congrArg (Option.map num.repr) hv
        · rw [laws.strip_repr, laws.float_repr]

end VzletUr3e.Poses
