import VzletUr3e.Library.Csv
import VzletUr3e.Library.Dict
import VzletUr3e.Library.Loops

/-!
# The pose table

`load_csv_poses`, with `csv.DictReader` under it. The columns can come in any order, so what a
column of the table reads is a cell of the row: `columnIndex` says which, from the header alone.

What Python parses as a number is given by `Numbers`.
-/

namespace VzletUr3e.Poses

/-! ## Texts and numbers -/

abbrev Str := List Char

/-- `str.isspace` of one character. -/
def isSpace (c : Char) : Bool :=
  c.toNat ∈ [0x9, 0xa, 0xb, 0xc, 0xd, 0x1c, 0x1d, 0x1e, 0x1f, 0x20, 0x85, 0xa0, 0x1680, 0x2028,
    0x2029, 0x202f, 0x205f, 0x3000] ∨ 0x2000 ≤ c.toNat ∧ c.toNat ≤ 0x200a

/-- `str.strip`. -/
def strip (s : Str) : Str := ((s.dropWhile isSpace).reverse.dropWhile isSpace).reverse

/-- `int` and `float` of a text, and `repr` of a float. -/
structure Numbers (K : Type) where
  int : Str → Option ℤ
  float : Str → Option K
  repr : K → Str

/-- One entry of the pose table. -/
structure Pose (K : Type) where
  id : ℤ
  x : K
  y : K
  z : K
  qx : K
  qy : K
  qz : K
  qw : K
deriving DecidableEq, Repr

/-- `CSV_HEADERS`. -/
def csvHeaders : List String := ["name", "id", "x", "y", "z", "qx", "qy", "qz", "qw"]

/-- The columns of the coordinates. -/
def coordinateColumns : List String := ["x", "y", "z", "qx", "qy", "qz", "qw"]

/-- The coordinates of a pose, in the order of their columns. -/
def Pose.coordinates {K : Type} (pose : Pose K) : List K :=
  [pose.x, pose.y, pose.z, pose.qx, pose.qy, pose.qz, pose.qw]

/-! ## `csv.DictReader` -/

/-- A value in a row of `DictReader`: a text, the surplus texts, or `None` for a missing one. -/
inductive Cell
  | text (s : Str)
  | rest (l : List Str)
  | missing
deriving DecidableEq, Repr

/-- `value.strip() if isinstance(value, str) else value`. -/
def Cell.strip : Cell → Cell
  | .text s => .text (Poses.strip s)
  | cell => cell

/-- The row as a dictionary. The surplus is under the key `None`. -/
def dictRow (fieldnames row : List Str) : List (Option Str × Cell) :=
  let d := Dict.ofPairs ((fieldnames.zip row).map fun pair ↦ (some pair.1, .text pair.2))
  if fieldnames.length < row.length then Dict.set d none (.rest (row.drop fieldnames.length))
  else if row.length < fieldnames.length then
    Dict.update d ((fieldnames.drop row.length).map fun key ↦ (some key, .missing))
  else d

/-- The keys stripped, without `None`. -/
def stripKeys {α : Type} (d : List (Option Str × α)) : List (Str × α) :=
  Dict.ofPairs (d.filterMap fun pair ↦ pair.1.map fun key ↦ (strip key, pair.2))

/-- `normalized`. -/
def normalize (d : List (Option Str × Cell)) : List (Str × Cell) :=
  stripKeys (Dict.mapValues Cell.strip d)

/-! ## `load_csv_poses` -/

/-- What is raised while a row is read. -/
inductive PyError
  | valueError
  | typeError
  | keyError
  | attributeError
deriving DecidableEq, Repr

/-- What `load_csv_poses` raises, with what its text names. -/
inductive LoadError
  | fileNotFound
  | csv (error : Csv.Error)
  | empty
  | missingColumns (columns : List String)
  | emptyName (rowIndex : ℕ)
  | duplicateName (name : Str) (rowIndex : ℕ)
  | invalidNumber (rowIndex : ℕ) (name : Str)
  | python (error : PyError)
  | noPoses
deriving DecidableEq, Repr

/-- `normalized[column]`. -/
def item (normalized : List (Str × Cell)) (column : String) : Except PyError Cell :=
  match normalized.lookup column.toList with
  | some cell => .ok cell
  | none => .error .keyError

variable {K : Type}

/-- A parser of texts, on a cell. -/
def parse {α : Type} (f : Str → Option α) : Cell → Except PyError α
  | .text s =>
    match f s with
    | some a => .ok a
    | none => .error .valueError
  | _ => .error .typeError

/-- `int(normalized[column])`, and `float(normalized[column])`. -/
def number {α : Type} (f : Str → Option α) (normalized : List (Str × Cell)) (column : String) :
    Except PyError α := do
  parse f (← item normalized column)

/-- The numbers of a row. -/
def rowPose (num : Numbers K) (normalized : List (Str × Cell)) : Except PyError (Pose K) := do
  let id ← number num.int normalized "id"
  let x ← number num.float normalized "x"
  let y ← number num.float normalized "y"
  let z ← number num.float normalized "z"
  let qx ← number num.float normalized "qx"
  let qy ← number num.float normalized "qy"
  let qz ← number num.float normalized "qz"
  let qw ← number num.float normalized "qw"
  return ⟨id, x, y, z, qx, qy, qz, qw⟩

/-- `normalized["name"].strip()`. -/
def rowName (normalized : List (Str × Cell)) : Except PyError Str := do
  match ← item normalized "name" with
  | .text s => return strip s
  | _ => throw .attributeError

/-- `except ValueError`: a text that is no number becomes an error with the row and the name. -/
def rowError (rowIndex : ℕ) (name : Str) : PyError → LoadError
  | .valueError => .invalidNumber rowIndex name
  | error => .python error

/-- One turn of the loop over the rows. -/
def loadRow (num : Numbers K) (fieldnames : List Str) (poses : List (Str × Pose K))
    (row : List Str × ℕ) : Except LoadError (List (Str × Pose K)) := do
  let normalized := normalize (dictRow fieldnames row.1)
  let name ← (rowName normalized).mapError .python
  if name = [] then throw (.emptyName row.2)
  if name ∈ poses.map Prod.fst then throw (.duplicateName name row.2)
  let pose ← (rowPose num normalized).mapError (rowError row.2 name)
  return Dict.set poses name pose

/-- The rows that `DictReader` returns, numbered from two. -/
def dataRows (rows : List (List Str)) : List (List Str × ℕ) := (rows.filter (· ≠ [])).zipIdx 2

/-- `load_csv_poses`, on the file's content if there is a file. -/
def loadCsvPoses (num : Numbers K) (file : Option Str) :
    Except LoadError (List (Str × Pose K)) := do
  let text ← file.elim (throw .fileNotFound) pure
  match ← (Csv.read text).mapError .csv with
  | [] => throw .empty
  | fieldnames :: rows =>
    let missingColumns := csvHeaders.filter fun column ↦ column.toList ∉ fieldnames.map strip
    if missingColumns ≠ [] then throw (.missingColumns missingColumns)
    let poses ← (dataRows rows).foldlM (loadRow num fieldnames) []
    if poses = [] then throw .noPoses
    return poses

/-! ## Which cell a column reads -/

/-- The columns of a header, by index. -/
def indexed (fieldnames : List Str) : List (Option Str × ℕ) :=
  fieldnames.zipIdx.map fun pair ↦ (some pair.1, pair.2)

/-- The index of the cell that a column reads. -/
def columnIndex (fieldnames : List Str) (column : String) : Option ℕ :=
  (stripKeys (Dict.ofPairs (indexed fieldnames))).lookup column.toList

/-- The cell of a row at an index. -/
def cellAt (row : List Str) (i : ℕ) : Cell := (row[i]?).elim .missing .text

theorem stripKeys_mapValues {α β : Type} (f : α → β) (d : List (Option Str × α)) :
    stripKeys (Dict.mapValues f d) = Dict.mapValues f (stripKeys d) := by
  rw [stripKeys, stripKeys, ← Dict.ofPairs_mapValues]
  congr 1
  induction d with
  | nil => rfl
  | cons pair d ih =>
    have hcons : Dict.mapValues f (pair :: d) = (pair.1, f pair.2) :: Dict.mapValues f d := rfl
    rw [hcons, List.filterMap_cons, List.filterMap_cons]
    cases pair.1 with
    | none => exact ih
    | some key => exact congrArg ((strip key, f pair.2) :: ·) ih

/-- Pairs under `None` are dropped. -/
theorem stripKeys_append_none {α : Type} (d rest : List (Option Str × α))
    (h : ∀ pair ∈ rest, pair.1 = none) : stripKeys (d ++ rest) = stripKeys d := by
  have hrest : rest.filterMap (fun pair ↦ pair.1.map fun key ↦ (strip key, pair.2)) = [] := by
    refine List.filterMap_eq_nil_iff.mpr fun pair hpair ↦ ?_
    rw [h pair hpair]
    rfl
  rw [stripKeys, List.filterMap_append, hrest, List.append_nil]
  rfl

/-- The cells of a row under the field names: those there are, and the missing ones. -/
theorem mapValues_indexed (fieldnames row : List Str) :
    Dict.mapValues (cellAt row) (indexed fieldnames)
      = (fieldnames.zip row).map (fun pair ↦ (some pair.1, Cell.text pair.2))
        ++ (fieldnames.drop row.length).map fun key ↦ (some key, .missing) := by
  induction fieldnames generalizing row with
  | nil =>
    rw [List.drop_nil, List.zip_nil_left]
    rfl
  | cons key fieldnames ih =>
    have hindexed : indexed (key :: fieldnames)
        = (some key, 0) :: (indexed fieldnames).map fun pair ↦ (pair.1, pair.2 + 1) := by
      rw [indexed, List.zipIdx_cons, List.zipIdx_succ, List.map_cons, List.map_map, indexed,
        List.map_map]
      rfl
    -- without its first name, the header reads the row without its first cell
    have hshift : ∀ row' : List Str, (∀ i, cellAt row (i + 1) = cellAt row' i) →
        Dict.mapValues (cellAt row) (indexed (key :: fieldnames))
          = (some key, cellAt row 0) :: Dict.mapValues (cellAt row') (indexed fieldnames) := by
      intro row' hrow'
      rw [hindexed, Dict.mapValues, Dict.mapValues, List.map_cons, List.map_map]
      exact congrArg _ (List.map_congr_left fun pair _ ↦ by rw [← hrow']; rfl)
    cases row with
    | nil =>
      rw [hshift [] fun _ ↦ rfl, ih]
      rw [List.zip_nil_right, List.zip_nil_right]
      rfl
    | cons s row =>
      rw [hshift row fun _ ↦ rfl, ih]
      rfl

/-- The row as a dictionary is the header's dictionary with the cells for the indices. -/
theorem dictRow_eq (fieldnames row : List Str) : ∃ rest, (∀ pair ∈ rest, pair.1 = none) ∧
    dictRow fieldnames row
      = Dict.mapValues (cellAt row) (Dict.ofPairs (indexed fieldnames)) ++ rest := by
  have hpairs := mapValues_indexed fieldnames row
  rw [← Dict.ofPairs_mapValues, hpairs, Dict.ofPairs, Dict.update_append, ← Dict.ofPairs, dictRow]
  split
  · rename_i hlt
    rw [List.drop_eq_nil_of_le hlt.le]
    refine ⟨[(none, .rest (row.drop fieldnames.length))], by simp, ?_⟩
    -- the surplus goes under `None`, which is no field name
    refine Dict.set_of_notMem fun hmem ↦ ?_
    obtain ⟨pair, hpair, hnone⟩ := List.mem_map.mp hmem
    obtain ⟨p, -, rfl⟩ := List.mem_map.mp (Dict.mem_of_mem_ofPairs hpair)
    cases hnone
  · split
    · exact ⟨[], by simp, by rw [List.append_nil]⟩
    · rename_i hle hge
      rw [List.drop_eq_nil_of_le (by omega)]
      exact ⟨[], by simp, by rw [List.append_nil]; rfl⟩

/-- **What a column reads** is the cell at its index, stripped. -/
theorem lookup_normalize (fieldnames row : List Str) (column : String) :
    (normalize (dictRow fieldnames row)).lookup column.toList
      = (columnIndex fieldnames column).map fun i ↦ (cellAt row i).strip := by
  obtain ⟨rest, hrest, hrow⟩ := dictRow_eq fieldnames row
  rw [normalize, stripKeys_mapValues, hrow, stripKeys_append_none _ _ hrest, stripKeys_mapValues,
    Dict.lookup_mapValues, Dict.lookup_mapValues, Option.map_map]
  rfl

/-- The field name at the index of a column is that column. -/
theorem strip_getElem_of_columnIndex {fieldnames : List Str} {column : String} {i : ℕ}
    (h : columnIndex fieldnames column = some i) :
    ∃ key, fieldnames[i]? = some key ∧ strip key = column.toList := by
  have hmem := Dict.mem_of_mem_ofPairs (Dict.mem_of_lookup h)
  obtain ⟨pair, hpair, hkey⟩ := List.mem_filterMap.mp hmem
  obtain ⟨p, hp, rfl⟩ := List.mem_map.mp (Dict.mem_of_mem_ofPairs hpair)
  obtain ⟨hstrip, rfl⟩ := Prod.mk.inj (Option.some.inj hkey)
  exact ⟨p.1, List.mem_zipIdx_iff_getElem?.mp hp, hstrip⟩

/-- Different columns have different indices. -/
theorem columnIndex_inj {fieldnames : List Str} {column column' : String} {i : ℕ}
    (h : columnIndex fieldnames column = some i) (h' : columnIndex fieldnames column' = some i) :
    column = column' := by
  obtain ⟨key, hkey, hstrip⟩ := strip_getElem_of_columnIndex h
  obtain ⟨key', hkey', hstrip'⟩ := strip_getElem_of_columnIndex h'
  rw [hkey] at hkey'
  cases hkey'
  exact String.toList_inj.mp (hstrip.symm.trans hstrip')

/-! ## What is accepted -/

variable {num : Numbers K} {fieldnames : List Str} {normalized : List (Str × Cell)}

theorem number_eq_ok {α : Type} {f : Str → Option α} {column : String} {a : α} :
    number f normalized column = .ok a ↔
      ∃ s, normalized.lookup column.toList = some (.text s) ∧ f s = some a := by
  rw [number, Loops.bind_eq_ok, item]
  constructor
  · rintro ⟨cell, hcell, hparse⟩
    split at hcell
    · rename_i hlookup
      cases hcell
      cases cell with
      | text s =>
        rw [parse] at hparse
        split at hparse
        · rename_i hf
          cases hparse
          exact ⟨s, hlookup, hf⟩
        · cases hparse
      | rest l => cases hparse
      | missing => cases hparse
    · cases hcell
  · rintro ⟨s, hlookup, hf⟩
    rw [hlookup]
    refine ⟨_, rfl, ?_⟩
    rw [parse, hf]

/-- The cell that a column reads is a text of the row. -/
theorem lookup_dictRow_eq_text {row : List Str} {column : String} {s : Str} :
    (normalize (dictRow fieldnames row)).lookup column.toList = some (.text s) ↔
      ∃ i s', columnIndex fieldnames column = some i ∧ row[i]? = some s' ∧ strip s' = s := by
  rw [lookup_normalize]
  constructor
  · intro hs
    obtain ⟨i, hi, hcell⟩ := Option.map_eq_some_iff.mp hs
    rw [cellAt] at hcell
    rcases hrow : row[i]? with _ | s'
    · rw [hrow] at hcell
      cases hcell
    · rw [hrow] at hcell
      cases hcell
      exact ⟨i, s', hi, hrow, rfl⟩
  · rintro ⟨i, s', hi, hrow, rfl⟩
    rw [hi, Option.map_some, cellAt, hrow]
    rfl

/-- What a column of a row is parsed as. -/
theorem number_dictRow_eq_ok {α : Type} {f : Str → Option α} {row : List Str} {column : String}
    {a : α} : number f (normalize (dictRow fieldnames row)) column = .ok a ↔
      ∃ i s, columnIndex fieldnames column = some i ∧ row[i]? = some s ∧ f (strip s) = some a := by
  rw [number_eq_ok]
  constructor
  · rintro ⟨s, hs, hf⟩
    obtain ⟨i, s', hi, hrow, rfl⟩ := lookup_dictRow_eq_text.mp hs
    exact ⟨i, s', hi, hrow, hf⟩
  · rintro ⟨i, s, hi, hrow, hf⟩
    exact ⟨_, lookup_dictRow_eq_text.mpr ⟨i, s, hi, hrow, rfl⟩, hf⟩

theorem rowName_eq_ok {name : Str} : rowName normalized = .ok name ↔
    ∃ s, normalized.lookup "name".toList = some (.text s) ∧ strip s = name := by
  rw [rowName, Loops.bind_eq_ok, item]
  constructor
  · rintro ⟨cell, hcell, hname⟩
    split at hcell
    · rename_i hlookup
      cases hcell
      cases cell with
      | text s =>
        cases hname
        exact ⟨s, hlookup, rfl⟩
      | rest l => cases hname
      | missing => cases hname
    · cases hcell
  · rintro ⟨s, hlookup, rfl⟩
    rw [hlookup]
    exact ⟨_, rfl, rfl⟩

theorem rowPose_eq_ok {pose : Pose K} : rowPose num normalized = .ok pose ↔
    number num.int normalized "id" = .ok pose.id ∧
      List.Forall₂ (fun column v ↦ number num.float normalized column = .ok v) coordinateColumns
        pose.coordinates := by
  simp only [rowPose, Loops.bind_eq_ok, coordinateColumns, Pose.coordinates, List.forall₂_cons]
  constructor
  · rintro ⟨id, hid, x, hx, y, hy, z, hz, qx, hqx, qy, hqy, qz, hqz, qw, hqw, ⟨⟩⟩
    exact ⟨hid, hx, hy, hz, hqx, hqy, hqz, hqw, .nil⟩
  · rintro ⟨hid, hx, hy, hz, hqx, hqy, hqz, hqw, -⟩
    exact ⟨_, hid, _, hx, _, hy, _, hz, _, hqx, _, hqy, _, hqz, _, hqw, rfl⟩

/-- The name of a row. -/
theorem rowName_dictRow_eq_ok {row : List Str} {name : Str} :
    rowName (normalize (dictRow fieldnames row)) = .ok name ↔
      ∃ i s, columnIndex fieldnames "name" = some i ∧ row[i]? = some s ∧
        strip (strip s) = name := by
  rw [rowName_eq_ok]
  constructor
  · rintro ⟨s, hs, hname⟩
    obtain ⟨i, s', hi, hrow, rfl⟩ := lookup_dictRow_eq_text.mp hs
    exact ⟨i, s', hi, hrow, hname⟩
  · rintro ⟨i, s, hi, hrow, hname⟩
    exact ⟨_, lookup_dictRow_eq_text.mpr ⟨i, s, hi, hrow, rfl⟩, hname⟩

/-- A row gives a name and a pose. -/
structure RowGives (num : Numbers K) (fieldnames row : List Str) (name : Str) (pose : Pose K) :
    Prop where
  rowName : rowName (normalize (dictRow fieldnames row)) = .ok name
  name_ne : name ≠ []
  rowPose : rowPose num (normalize (dictRow fieldnames row)) = .ok pose

/-- **One row** is accepted when it gives a new name and a pose, and adds them at the end. -/
theorem loadRow_eq_ok {poses poses' : List (Str × Pose K)} {row : List Str × ℕ} :
    loadRow num fieldnames poses row = .ok poses' ↔ ∃ name pose,
      RowGives num fieldnames row.1 name pose ∧ name ∉ poses.map Prod.fst ∧
        poses' = poses ++ [(name, pose)] := by
  simp only [loadRow, Loops.bind_eq_ok, Loops.mapError_eq_ok, Loops.throw_bind,
    Loops.ite_throw_eq_ok]
  constructor
  · rintro ⟨name, hname, hne, hnew, pose, hpose, ⟨⟩⟩
    exact ⟨name, pose, ⟨hname, hne, hpose⟩, hnew, Dict.set_of_notMem hnew⟩
  · rintro ⟨name, pose, ⟨hname, hne, hpose⟩, hnew, rfl⟩
    refine ⟨name, hname, hne, hnew, pose, hpose, ?_⟩
    rw [Dict.set_of_notMem hnew]
    rfl

/-- All rows: each one adds an entry. -/
theorem length_of_loadRows {rows : List (List Str × ℕ)} : ∀ {poses poses' : List (Str × Pose K)},
    rows.foldlM (loadRow num fieldnames) poses = .ok poses' →
      poses'.length = poses.length + rows.length := by
  induction rows with
  | nil =>
    rintro poses _ ⟨⟩
    rfl
  | cons row rows ih =>
    intro poses poses' h
    obtain ⟨mid, hmid, hrest⟩ := Loops.bind_eq_ok.mp (List.foldlM_cons.symm.trans h)
    obtain ⟨name, pose, -, -, rfl⟩ := loadRow_eq_ok.mp hmid
    rw [ih hrest, List.length_append, List.length_singleton, List.length_cons]
    omega

/-- All rows, of which each one gives an entry: they are accepted when the names are different. -/
theorem loadRows_eq_ok {rows : List (List Str × ℕ)} {entries : List (Str × Pose K)}
    (h : List.Forall₂ (fun row entry ↦ RowGives num fieldnames row.1 entry.1 entry.2) rows
      entries) :
    ∀ {poses poses' : List (Str × Pose K)}, (poses.map Prod.fst).Nodup →
      (rows.foldlM (loadRow num fieldnames) poses = .ok poses' ↔
        ((poses ++ entries).map Prod.fst).Nodup ∧ poses' = poses ++ entries) := by
  induction h with
  | nil =>
    intro poses poses' hnodup
    rw [List.append_nil]
    constructor
    · rintro ⟨⟩
      exact ⟨hnodup, rfl⟩
    · rintro ⟨-, rfl⟩
      rfl
  | @cons row entry rows entries hrow _ ih =>
    intro poses poses' hnodup
    have hkeys : ((poses ++ [entry]).map Prod.fst).Nodup ↔ entry.1 ∉ poses.map Prod.fst := by
      rw [List.map_append, List.map_singleton, List.nodup_append_comm, List.singleton_append,
        List.nodup_cons]
      exact and_iff_left hnodup
    rw [List.foldlM_cons, Loops.bind_eq_ok]
    constructor
    · rintro ⟨mid, hmid, hrest⟩
      obtain ⟨name, pose, hgives, hnew, rfl⟩ := loadRow_eq_ok.mp hmid
      obtain rfl := Except.ok.inj (hrow.rowName.symm.trans hgives.rowName)
      obtain rfl := Except.ok.inj (hrow.rowPose.symm.trans hgives.rowPose)
      have hall := (ih (hkeys.mpr hnew)).mp hrest
      rwa [List.append_assoc] at hall
    · rw [List.append_cons]
      rintro ⟨hall, rfl⟩
      have hmid : ((poses ++ [entry]).map Prod.fst).Nodup := by
        rw [List.map_append] at hall
        exact hall.of_append_left
      exact ⟨_, loadRow_eq_ok.mpr ⟨_, _, hrow, hkeys.mp hmid, rfl⟩, (ih hmid).mpr ⟨hall, rfl⟩⟩

/-- **What `load_csv_poses` accepts.** -/
theorem loadCsvPoses_eq_ok {file : Option Str} {poses : List (Str × Pose K)} :
    loadCsvPoses num file = .ok poses ↔ ∃ text rows, file = some text ∧
      Csv.read text = .ok rows ∧ ∃ fieldnames data, rows = fieldnames :: data ∧
        (∀ column ∈ csvHeaders, column.toList ∈ fieldnames.map strip) ∧
        (dataRows data).foldlM (loadRow num fieldnames) [] = .ok poses ∧ poses ≠ [] := by
  rw [loadCsvPoses, Loops.bind_eq_ok]
  constructor
  · rintro ⟨text, htext, h⟩
    obtain ⟨rows, hrows, h⟩ := Loops.bind_eq_ok.mp h
    cases file with
    | none => cases htext
    | some file =>
      cases htext
      refine ⟨text, rows, rfl, Loops.mapError_eq_ok.mp hrows, ?_⟩
      cases rows with
      | nil => cases h
      | cons fieldnames data =>
        simp only [Loops.throw_bind, Loops.ite_throw_eq_ok, Loops.bind_eq_ok] at h
        obtain ⟨hcolumns, poses', hposes, hne, ⟨⟩⟩ := h
        refine ⟨fieldnames, data, rfl, fun column hcolumn ↦ ?_, hposes, hne⟩
        by_contra hmissing
        refine hcolumns (List.ne_nil_of_mem (List.mem_filter.mpr ⟨hcolumn, ?_⟩))
        exact decide_eq_true hmissing
  · rintro ⟨text, rows, rfl, hrows, fieldnames, data, rfl, hcolumns, hposes, hne⟩
    refine ⟨text, rfl, Loops.bind_eq_ok.mpr ⟨_, Loops.mapError_eq_ok.mpr hrows, ?_⟩⟩
    simp only [Loops.throw_bind, Loops.ite_throw_eq_ok, Loops.bind_eq_ok]
    refine ⟨?_, poses, hposes, hne, rfl⟩
    rw [not_not, List.filter_eq_nil_iff]
    intro column hcolumn
    rw [decide_eq_true_iff, not_not]
    exact hcolumns column hcolumn

end VzletUr3e.Poses
