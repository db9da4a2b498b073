import VzletUr3e.Library.CsvWriter
import VzletUr3e.Library.Decimal
import VzletUr3e.Poses.Lookup
import VzletUr3e.Poses.Save

/-!
# Grids of poses

`grid_creation.py` makes the poses of a storage from the pose of its first cell. A run of the script
is given by the constants at its top; here they are a `Grid`. The name and the id of a cell are the
prefix and the storage id with the indices of the cell behind them, in two digits for a row of cells
and one behind the other for a table of cells.

The rows go to a file by `write_poses`, without a header, and from there under the header of the
pose file. The plot is left out.
-/

namespace VzletUr3e.Poses

open Control PyFloat

variable {K : Type}

/-! ## The script -/

/-- `GRID_TYPE`, which `main` checks. -/
inductive GridType
  | oneD
  | twoD
deriving DecidableEq, Repr

/-- The constants of a run, with the row of the pose it starts from. -/
structure Grid (K : Type) where
  gridType : GridType
  basePose : List (Str × Cell)
  prefixName : Str
  storageId : ℤ
  gridX : ℤ
  gridY : ℤ
  offsetX : K
  offsetY : K

/-- What is raised while a grid is made, with what its text names. -/
inductive GridError
  | missingColumn (column : String)
  | invalidNumber (column : String)
  | python (error : PyError)
  /-- "For 1d grid, one offset must be non-zero". -/
  | noOffset
  /-- "For 1d grid, one offset must be zero". -/
  | twoOffsets
deriving DecidableEq, Repr

/-- The two errors that `pose_value` catches. -/
def poseValueError (column : String) : PyError → GridError
  | .keyError => .missingColumn column
  | .valueError => .invalidNumber column
  | error => .python error

/-- `pose_value`. -/
def poseValue (num : Numbers K) (row : List (Str × Cell)) (column : String) : Except GridError K :=
  (number num.float row column).mapError (poseValueError column)

/-- `str` of an integer. -/
def intText : ℤ → Str
  | .ofNat n => digits n
  | .negSucc n => '-' :: digits (n + 1)

/-- `f"{ix:02d}"`. -/
def twoDigits (ix : ℕ) : Str := List.replicate (2 - (digits ix).length) '0' ++ digits ix

/-- The indices of a cell as they are written. A row of cells has one index only. -/
def indexText (gridType : GridType) (ix iy : ℕ) : Str :=
  match gridType with
  | .oneD => twoDigits ix
  | .twoD => digits ix ++ digits iy

/-- `make_pose_name`. -/
def makePoseName (prefixName : Str) (ix iy : ℕ) (gridType : GridType) : Str :=
  if prefixName ≠ [] then prefixName ++ "_".toList ++ indexText gridType ix iy
  else indexText gridType ix iy

/-- `make_pose_id`. -/
def makePoseId (num : Numbers K) (storageId : ℤ) (ix iy : ℕ) (gridType : GridType) :
    Except GridError ℤ :=
  (num.int (intText storageId ++ indexText gridType ix iy)).elim (throw (.python .valueError)) pure

/-- The pose at the beginning of `create_grid_poses`. -/
def readBase (num : Numbers K) (basePose : List (Str × Cell)) : Except GridError (Transform K) := do
  let x ← poseValue num basePose "x"
  let y ← poseValue num basePose "y"
  let z ← poseValue num basePose "z"
  let qx ← poseValue num basePose "qx"
  let qy ← poseValue num basePose "qy"
  let qz ← poseValue num basePose "qz"
  let qw ← poseValue num basePose "qw"
  return ⟨x, y, z, qx, qy, qz, qw⟩

section Grids

variable [PyFloat K]

/-- `x_is_zero` and `y_is_zero`. -/
def isZero (offset : K) : Bool := lt (abs offset) (lit (1 / 10 ^ 12))

/-- `count`. -/
def Grid.count (grid : Grid K) : ℤ := if isZero grid.offsetX then grid.gridY else grid.gridX

/-- The cells in the order of the loops. In a row of cells both coordinates go by the one index. -/
def Grid.cells (grid : Grid K) : List (ℕ × ℕ) :=
  match grid.gridType with
  | .oneD => (List.range grid.count.toNat).map fun index ↦ (index, index)
  | .twoD => List.range grid.gridX.toNat ×ˢ List.range grid.gridY.toNat

/-- One turn of the loops. -/
def Grid.row (num : Numbers K) (grid : Grid K) (base : Transform K) (cell : ℕ × ℕ) :
    Except GridError (Str × Pose K) := do
  let id ← makePoseId num grid.storageId cell.1 cell.2 grid.gridType
  return (makePoseName grid.prefixName cell.1 cell.2 grid.gridType,
    ⟨id, base.x + lit cell.1 * grid.offsetX, base.y + lit cell.2 * grid.offsetY, base.z, base.qx,
      base.qy, base.qz, base.qw⟩)

/-- `create_grid_poses`. -/
def createGridPoses (num : Numbers K) (grid : Grid K) : Except GridError (List (Str × Pose K)) := do
  let base ← readBase num grid.basePose
  if grid.gridType = .oneD ∧ isZero grid.offsetX ∧ isZero grid.offsetY then throw .noOffset
  if grid.gridType = .oneD ∧ ¬ isZero grid.offsetX ∧ ¬ isZero grid.offsetY then throw .twoOffsets
  grid.cells.mapM (grid.row num base)

end Grids

/-- A row under the headers. -/
def poseRow (num : Numbers K) (row : Str × Pose K) : List Str :=
  row.1 :: intText row.2.id :: row.2.coordinates.map num.repr

/-- `write_poses`. -/
def writePoses (num : Numbers K) (rows : List (Str × Pose K)) : Str :=
  rows.flatMap fun row ↦ Csv.writerow (poseRow num row)

/-- A pose file with the rows of several runs one after the other. -/
def poseFile (num : Numbers K) (grids : List (List (Str × Pose K))) : Str :=
  Csv.writerow (csvHeaders.map String.toList) ++ grids.flatMap (writePoses num)

/-! ## What a cell is called -/

/-- What is put in front of the indices of a cell. -/
def stem (prefixName : Str) : Str := if prefixName ≠ [] then prefixName ++ ['_'] else []

theorem makePoseName_eq (prefixName : Str) (ix iy : ℕ) (gridType : GridType) :
    makePoseName prefixName ix iy gridType = stem prefixName ++ indexText gridType ix iy := by
  rw [makePoseName, stem]
  split
  · rfl
  · rfl

theorem isDigit_digits (n : ℕ) : ∀ c ∈ digits n, c.isDigit = true :=
  fun _ hc ↦ Nat.isDigit_of_mem_toDigits (by decide) (by decide) hc

theorem digits_ne_nil (n : ℕ) : digits n ≠ [] := Nat.toDigits_ne_nil

theorem value_digits (n : ℕ) : Decimal.value (digits n) = n := Decimal.value_toDigits n

theorem isDigit_indexText (gridType : GridType) (ix iy : ℕ) :
    ∀ c ∈ indexText gridType ix iy, c.isDigit = true := by
  intro c hc
  cases gridType with
  | oneD =>
    rcases List.mem_append.mp hc with hc | hc
    · rw [List.eq_of_mem_replicate hc]
      rfl
    · exact isDigit_digits ix c hc
  | twoD =>
    rcases List.mem_append.mp hc with hc | hc
    · exact isDigit_digits ix c hc
    · exact isDigit_digits iy c hc

theorem indexText_ne_nil (gridType : GridType) (ix iy : ℕ) : indexText gridType ix iy ≠ [] := by
  cases gridType with
  | oneD => exact List.append_ne_nil_of_right_ne_nil _ (digits_ne_nil ix)
  | twoD => exact List.append_ne_nil_of_right_ne_nil _ (digits_ne_nil iy)

/-- How many digits are written for a cell. -/
def indexLen (gridType : GridType) (ix iy : ℕ) : ℕ :=
  match gridType with
  | .oneD => max 2 (Decimal.len ix)
  | .twoD => Decimal.len ix + Decimal.len iy

/-- The number that they are. -/
def indexValue (gridType : GridType) (ix iy : ℕ) : ℕ :=
  match gridType with
  | .oneD => ix
  | .twoD => Decimal.glue ix iy

theorem length_indexText (gridType : GridType) (ix iy : ℕ) :
    (indexText gridType ix iy).length = indexLen gridType ix iy := by
  have hlen (n : ℕ) : (digits n).length = Decimal.len n := rfl
  cases gridType with
  | oneD =>
    rw [indexText, twoDigits, List.length_append, List.length_replicate, hlen, indexLen]
    omega
  | twoD => rw [indexText, List.length_append, hlen, hlen, indexLen]

theorem value_indexText (gridType : GridType) (ix iy : ℕ) :
    Decimal.value (indexText gridType ix iy) = indexValue gridType ix iy := by
  cases gridType with
  | oneD =>
    have hzero (k : ℕ) : Decimal.value (List.replicate k '0') = 0 :=
      Nat.ofDigitChars_replicate_zero
    rw [indexText, twoDigits, Decimal.value_append, hzero, value_digits, Nat.zero_mul, Nat.zero_add,
      indexValue]
  | twoD =>
    rw [indexText, Decimal.value_append, value_digits, value_digits, indexValue]
    rfl

/-- **Two cells have the same digits** when they have as many, and of the same value. -/
theorem indexText_eq_iff {gridType gridType' : GridType} {ix iy ix' iy' : ℕ} :
    indexText gridType ix iy = indexText gridType' ix' iy' ↔
      indexLen gridType ix iy = indexLen gridType' ix' iy' ∧
        indexValue gridType ix iy = indexValue gridType' ix' iy' := by
  rw [← length_indexText, ← length_indexText, ← value_indexText, ← value_indexText]
  constructor
  · intro h
    rw [h]
    exact ⟨rfl, rfl⟩
  · rintro ⟨hlen, hvalue⟩
    exact Decimal.eq_of_value_eq (isDigit_indexText _ _ _) (isDigit_indexText _ _ _) hlen hvalue

/-! ## The id of a cell -/

/-- What `int` makes of digits, and of digits with a sign. -/
structure Numbers.Decimals (num : Numbers K) : Prop where
  int_digits : ∀ s : Str, s ≠ [] → (∀ c ∈ s, c.isDigit = true) →
    num.int s = some (Decimal.value s : ℤ)
  int_sign : ∀ s : Str, s ≠ [] → (∀ c ∈ s, c.isDigit = true) →
    num.int ('-' :: s) = some (-(Decimal.value s : ℤ))

/-- The digits of a cell behind a storage id, read as a number. -/
def cellId (storageId : ℤ) (gridType : GridType) (ix iy : ℕ) : ℤ :=
  let shift (n : ℕ) : ℕ := n * 10 ^ indexLen gridType ix iy + indexValue gridType ix iy
  match storageId with
  | .ofNat n => shift n
  | .negSucc n => -shift (n + 1)

variable {num : Numbers K}

theorem Numbers.Decimals.int_intText (decimals : num.Decimals) (id : ℤ) :
    num.int (intText id) = some id := by
  cases id with
  | ofNat n =>
    rw [intText, decimals.int_digits _ (digits_ne_nil n) (isDigit_digits n), value_digits]
    rfl
  | negSucc n =>
    rw [intText, decimals.int_sign _ (digits_ne_nil _) (isDigit_digits _), value_digits]
    rfl

theorem makePoseId_eq (decimals : num.Decimals) (storageId : ℤ) (ix iy : ℕ) (gridType : GridType) :
    makePoseId num storageId ix iy gridType = .ok (cellId storageId gridType ix iy) := by
  have hvalue (n : ℕ) : Decimal.value (digits n ++ indexText gridType ix iy)
      = n * 10 ^ indexLen gridType ix iy + indexValue gridType ix iy := by
    rw [Decimal.value_append, length_indexText, value_indexText, value_digits]
  have hdigits (n : ℕ) : ∀ c ∈ digits n ++ indexText gridType ix iy, c.isDigit = true :=
    fun c hc ↦ (List.mem_append.mp hc).elim (isDigit_digits n c) (isDigit_indexText _ _ _ c)
  have hne (n : ℕ) : digits n ++ indexText gridType ix iy ≠ [] :=
    List.append_ne_nil_of_right_ne_nil _ (indexText_ne_nil _ _ _)
  rw [makePoseId]
  cases storageId with
  | ofNat n =>
    rw [intText, decimals.int_digits _ (hne n) (hdigits n), hvalue]
    rfl
  | negSucc n =>
    rw [intText, List.cons_append, decimals.int_sign _ (hne _) (hdigits _), hvalue]
    rfl

/-! ## The rows of a grid -/

section Rows

variable [PyFloat K] {grid : Grid K} {rows : List (Str × Pose K)}

/-- The name of a cell. -/
def Grid.name (grid : Grid K) (cell : ℕ × ℕ) : Str :=
  stem grid.prefixName ++ indexText grid.gridType cell.1 cell.2

/-- The id of a cell. -/
def Grid.id (grid : Grid K) (cell : ℕ × ℕ) : ℤ :=
  cellId grid.storageId grid.gridType cell.1 cell.2

/-- **What a grid consists of**: one row for each cell, with its name and its id. -/
theorem createGridPoses_eq_ok (decimals : num.Decimals)
    (h : createGridPoses num grid = .ok rows) :
    ∃ row : ℕ × ℕ → Str × Pose K, rows = grid.cells.map row ∧
      ∀ cell, (row cell).1 = grid.name cell ∧ (row cell).2.id = grid.id cell := by
  rw [createGridPoses] at h
  simp only [Loops.bind_eq_ok, Loops.throw_bind, Loops.ite_throw_eq_ok] at h
  obtain ⟨base, -, -, -, hrows⟩ := h
  have hrow (cell : ℕ × ℕ) : grid.row num base cell = .ok (grid.name cell,
      ⟨grid.id cell, base.x + lit cell.1 * grid.offsetX, base.y + lit cell.2 * grid.offsetY, base.z,
        base.qx, base.qy, base.qz, base.qw⟩) := by
    rw [Grid.row, makePoseId_eq decimals, makePoseName_eq]
    rfl
  rw [Loops.mapM_eq_ok fun cell _ ↦ hrow cell] at hrows
  cases hrows
  exact ⟨_, rfl, fun _ ↦ ⟨rfl, rfl⟩⟩

/-- **What is accepted**: a pose with all its numbers, and for a row of cells one offset. -/
theorem createGridPoses_isOk (decimals : num.Decimals) {base : Transform K}
    (hbase : readBase num grid.basePose = .ok base)
    (hoffsets : grid.gridType = .oneD → isZero grid.offsetX ≠ isZero grid.offsetY) :
    ∃ rows, createGridPoses num grid = .ok rows := by
  have hrow (cell : ℕ × ℕ) : ∃ row, grid.row num base cell = .ok row := by
    rw [Grid.row, makePoseId_eq decimals]
    exact ⟨_, rfl⟩
  choose row hrow using hrow
  refine ⟨grid.cells.map row, ?_⟩
  rw [createGridPoses]
  simp only [Loops.bind_eq_ok, Loops.throw_bind, Loops.ite_throw_eq_ok]
  refine ⟨base, hbase, ?_, ?_, Loops.mapM_eq_ok fun cell _ ↦ hrow cell⟩
  · rintro ⟨htype, hx, hy⟩
    exact hoffsets htype (hx.trans hy.symm)
  · rintro ⟨htype, hx, hy⟩
    exact hoffsets htype ((Bool.eq_false_iff.mpr hx).trans (Bool.eq_false_iff.mpr hy).symm)

end Rows

/-! ## The file -/

/-- `str.lstrip`. -/
def lstrip (s : Str) : Str := s.dropWhile isSpace

theorem dropWhile_of_head {s : Str} (hne : s ≠ []) (h : ∀ c ∈ s, isSpace c = false) (t : Str) :
    (s ++ t).dropWhile isSpace = s ++ t := by
  obtain ⟨c, s, rfl⟩ := List.exists_cons_of_ne_nil hne
  exact List.dropWhile_cons_of_neg (by simp [h c List.mem_cons_self])

/-- A text without spaces keeps what is in front of it from being stripped on the right. -/
theorem strip_append {s t : Str} (hne : t ≠ []) (h : ∀ c ∈ t, isSpace c = false) :
    strip (s ++ t) = lstrip s ++ t := by
  have hleft : (s ++ t).dropWhile isSpace = lstrip s ++ t := by
    have ht := dropWhile_of_head hne h []
    rw [List.append_nil] at ht
    rw [List.dropWhile_append, lstrip]
    split
    · rename_i hempty
      rw [List.isEmpty_iff.mp hempty, ht]
      rfl
    · rfl
  have hright := dropWhile_of_head (by simpa using hne : t.reverse ≠ [])
    (fun c hc ↦ h c (List.mem_reverse.mp hc)) (lstrip s).reverse
  rw [strip, hleft, List.reverse_append, hright, List.reverse_append, List.reverse_reverse,
    List.reverse_reverse]

theorem lstrip_lstrip (s : Str) : lstrip (lstrip s) = lstrip s :=
  List.dropWhile_idempotent isSpace s

theorem notSpace_indexText (gridType : GridType) (ix iy : ℕ) :
    ∀ c ∈ indexText gridType ix iy, isSpace c = false :=
  fun c hc ↦ (not_isSpace_of_isDigit (isDigit_indexText gridType ix iy c hc)).2

theorem strip_intText (id : ℤ) : strip (intText id) = intText id := by
  apply strip_of_notSpace
  intro c hc
  cases id with
  | ofNat n => exact (digits_chars n c hc).2
  | negSucc n =>
    rcases List.mem_cons.mp hc with rfl | hc
    · decide
    · exact (digits_chars _ c hc).2

theorem columnIndex_csvHeaders :
    columnIndex (csvHeaders.map String.toList) "name" = some 0 ∧
      columnIndex (csvHeaders.map String.toList) "id" = some 1 ∧
      coordinateColumns.map (columnIndex (csvHeaders.map String.toList))
        = [some 2, some 3, some 4, some 5, some 6, some 7, some 8] := by
  decide +kernel

/-- A row under the headers gives its name, without spaces around it, and its pose. -/
theorem rowGives_poseRow (laws : num.Lawful) (decimals : num.Decimals) {row : Str × Pose K}
    (hname : strip (strip row.1) ≠ []) :
    RowGives num (csvHeaders.map String.toList) (poseRow num row) (strip (strip row.1)) row.2 := by
  obtain ⟨hnameColumn, hidColumn, hcolumns⟩ := columnIndex_csvHeaders
  refine ⟨rowName_dictRow_eq_ok.mpr ⟨0, _, hnameColumn, rfl, rfl⟩, hname,
    rowPose_eq_ok.mpr ⟨number_dictRow_eq_ok.mpr ⟨1, _, hidColumn, rfl, ?_⟩, ?_⟩⟩
  · rw [strip_intText, decimals.int_intText]
  · have hfloat {column : String} {i : ℕ} {v : K}
        (hi : columnIndex (csvHeaders.map String.toList) column = some i)
        (hv : (poseRow num row)[i]? = some (num.repr v)) :
        number num.float (normalize (dictRow (csvHeaders.map String.toList) (poseRow num row)))
          column
          = .ok v := by
      refine number_dictRow_eq_ok.mpr ⟨i, _, hi, hv, ?_⟩
      rw [laws.strip_repr, laws.float_repr]
    obtain ⟨hx, hy, hz, hqx, hqy, hqz, hqw, -⟩ := by
      simpa only [coordinateColumns, List.map_cons, List.map_nil, List.cons.injEq] using hcolumns
    exact .cons (hfloat hx rfl) (.cons (hfloat hy rfl) (.cons (hfloat hz rfl)
      (.cons (hfloat hqx rfl) (.cons (hfloat hqy rfl) (.cons (hfloat hqz rfl) (.cons (hfloat hqw rfl) .nil))))))

theorem read_poseFile (num : Numbers K) (grids : List (List (Str × Pose K))) :
    Csv.read (poseFile num grids)
      = .ok (csvHeaders.map String.toList :: grids.flatten.map (poseRow num)) := by
  have hfile : poseFile num grids
      = (csvHeaders.map String.toList :: grids.flatten.map (poseRow num)).flatMap Csv.writerow := by
    rw [List.flatMap_cons, poseFile, List.flatMap_map, ← List.flatMap_id, List.flatMap_assoc]
    rfl
  rw [hfile, Csv.read_writerow]
  refine List.forall_mem_cons.mpr ⟨by decide, fun fields hfields ↦ ?_⟩
  obtain ⟨row, -, rfl⟩ := List.mem_map.mp hfields
  exact (by decide : 2 ≤ 9)

/-- The entry that a row leaves in the table. -/
def entry (row : Str × Pose K) : Str × Pose K := (strip (strip row.1), row.2)

/-- All rows under the headers give their entries. -/
theorem dataRows_give (laws : num.Lawful) (decimals : num.Decimals) {rows : List (Str × Pose K)}
    (hnames : ∀ row ∈ rows, strip (strip row.1) ≠ []) :
    List.Forall₂ (fun fields e ↦ RowGives num (csvHeaders.map String.toList) fields.1 e.1 e.2)
      (dataRows (rows.map (poseRow num))) (rows.map entry) := by
  have hfilter : (rows.map (poseRow num)).filter (· ≠ []) = rows.map (poseRow num) := by
    refine List.filter_eq_self.mpr fun fields hfields ↦ ?_
    obtain ⟨row, -, rfl⟩ := List.mem_map.mp hfields
    rfl
  rw [dataRows, hfilter, List.forall₂_map_right_iff]
  refine List.forall₂_iff_get.mpr ⟨by simp, fun i hi hi' ↦ ?_⟩
  have hget : ((rows.map (poseRow num)).zipIdx 2).get ⟨i, hi⟩
      = (poseRow num (rows.get ⟨i, hi'⟩), 2 + i) := by simp
  rw [hget]
  exact rowGives_poseRow laws decimals (hnames _ (List.get_mem _ _))

/-- **The file is accepted** when it has rows and the names are different without the spaces around
them. -/
theorem load_poseFile_iff (laws : num.Lawful) (decimals : num.Decimals)
    {grids : List (List (Str × Pose K))} {table : List (Str × Pose K)}
    (hnames : ∀ row ∈ grids.flatten, strip (strip row.1) ≠ []) :
    loadCsvPoses num (some (poseFile num grids)) = .ok table ↔ grids.flatten ≠ [] ∧
      (grids.flatten.map fun row ↦ (entry row).1).Nodup ∧ table = grids.flatten.map entry := by
  have hrows := dataRows_give laws decimals hnames
  have hnil : (([] : List (Str × Pose K)).map Prod.fst).Nodup := List.nodup_nil
  have hcolumns : ∀ column ∈ csvHeaders,
      column.toList ∈ (csvHeaders.map String.toList).map strip := by decide +kernel
  rw [loadCsvPoses_eq_ok]
  constructor
  · rintro ⟨_, records, ⟨⟩, hread, fieldnames, data, rfl, -, hdata, hne⟩
    rw [read_poseFile] at hread
    obtain ⟨rfl, rfl⟩ := List.cons.inj (Except.ok.inj hread)
    obtain ⟨hnodup, rfl⟩ := (loadRows_eq_ok hrows hnil).mp hdata
    rw [List.nil_append] at hnodup hne ⊢
    rw [List.map_map] at hnodup
    exact ⟨fun hnil ↦ hne (by rw [hnil]; rfl), hnodup, rfl⟩
  · rintro ⟨hne, hnodup, rfl⟩
    refine ⟨_, _, rfl, read_poseFile num grids, _, _, rfl, hcolumns,
      (loadRows_eq_ok hrows hnil).mpr ⟨?_, rfl⟩, by simpa using hne⟩
    rw [List.nil_append, List.map_map]
    exact hnodup

end VzletUr3e.Poses
