import VzletUr3e.Library.StateError
import VzletUr3e.Poses.Record

/-!
# The table of the node

`load_csv_poses` builds its table apart from `self.poses`, and puts it there behind the last row. So
a load that fails has not touched the old table.

A row needs a cell for each of the nine columns and for no other one. Where the header has columns
besides them, a row that is shorter than the header may still be read.
-/

namespace VzletUr3e.Poses

open StateError

variable {K : Type}

/-! ## The node -/

/-- What `load_csv_poses` writes of `PipelineUtils`. -/
structure PipelineUtils (K : Type) where
  poses : List (Str × Pose K)
deriving DecidableEq, Repr

/-- `load_csv_poses`: the local table, and then `self.poses = poses`. -/
def PipelineUtils.loadCsvPoses (num : Numbers K) (file : Option Str) :
    EStateM LoadError (PipelineUtils K) (List (Str × Pose K)) := do
  match Poses.loadCsvPoses num file with
  | .error e => throw e
  | .ok poses =>
    modify fun u ↦ { u with poses := poses }
    return poses

/-! ## Rows -/

/-- The rows that `DictReader` returns. -/
def dictRows (data : List (List Str)) : List (List Str) := data.filter (· ≠ [])

/-- The text under a column, if the row has a cell there. -/
def cellText (fieldnames row : List Str) (column : String) : Option Str :=
  (columnIndex fieldnames column).bind (row[·]?)

/-- The entry says what the row says: its stripped name, the id and the coordinates. -/
structure RowHolds (num : Numbers K) (fieldnames row : List Str) (entry : Str × Pose K) :
    Prop where
  name : ∃ s, cellText fieldnames row "name" = some s ∧ strip s = entry.1
  id : ∃ s, cellText fieldnames row "id" = some s ∧ num.int (strip s) = some entry.2.id
  coordinates : List.Forall₂
    (fun column v ↦ ∃ s, cellText fieldnames row column = some s ∧ num.float (strip s) = some v)
    coordinateColumns entry.2.coordinates

/-- The header has the nine columns, there is a row, and every row has a new name and nine cells of
which eight are numbers. -/
structure Accepts (num : Numbers K) (fieldnames : List Str) (rows : List (List Str)) : Prop where
  columns : ∀ column ∈ csvHeaders, column.toList ∈ fieldnames.map strip
  rows_ne : rows ≠ []
  name : ∀ row ∈ rows, ∃ s, cellText fieldnames row "name" = some s ∧ strip s ≠ []
  apart : (rows.map fun row ↦ (cellText fieldnames row "name").map strip).Nodup
  id : ∀ row ∈ rows, ∃ s, cellText fieldnames row "id" = some s ∧ (num.int (strip s)).isSome
  coordinates : ∀ row ∈ rows, ∀ column ∈ coordinateColumns,
    ∃ s, cellText fieldnames row column = some s ∧ (num.float (strip s)).isSome

variable {num : Numbers K} {fieldnames : List Str}

/-- Surplus cells are read by no column. -/
theorem cellText_take (row : List Str) (column : String) :
    cellText fieldnames (row.take fieldnames.length) column = cellText fieldnames row column := by
  rw [cellText, cellText]
  rcases hindex : columnIndex fieldnames column with _ | i
  · rfl
  · obtain ⟨key, hkey, -⟩ := strip_getElem_of_columnIndex hindex
    have hlt : i < fieldnames.length := (List.getElem?_eq_some_iff.mp hkey).1
    rw [Option.bind_some, Option.bind_some, List.getElem?_take_of_lt hlt]

/-- So what a row holds does not hang on them. -/
theorem rowHolds_take_iff {row : List Str} {entry : Str × Pose K} :
    RowHolds num fieldnames (row.take fieldnames.length) entry ↔
      RowHolds num fieldnames row entry := by
  constructor
  · rintro ⟨hname, hid, hcoordinates⟩
    simp only [cellText_take] at hname hid hcoordinates
    exact ⟨hname, hid, hcoordinates⟩
  · rintro ⟨hname, hid, hcoordinates⟩
    refine ⟨?_, ?_, ?_⟩
    · simpa only [cellText_take] using hname
    · simpa only [cellText_take] using hid
    · simpa only [cellText_take] using hcoordinates

theorem strip_strip (s : Str) : strip (strip s) = strip s := by
  have hinit : strip s <+: s.dropWhile isSpace := List.rdropWhile_prefix isSpace _
  -- nothing is left to drop in front, and then nothing behind
  have hfront : (strip s).dropWhile isSpace = strip s := by
    rw [List.dropWhile_eq_self_iff]
    intro hpos
    rw [hinit.getElem hpos]
    exact List.dropWhile_get_zero_not isSpace s (hpos.trans_le hinit.length_le)
  change ((strip s).dropWhile isSpace).rdropWhile isSpace = strip s
  rw [hfront]
  exact List.rdropWhile_idempotent isSpace _

/-! ## One row -/

theorem cellText_eq_some {row : List Str} {column : String} {s : Str} :
    cellText fieldnames row column = some s ↔
      ∃ i, columnIndex fieldnames column = some i ∧ row[i]? = some s :=
  Option.bind_eq_some_iff

theorem number_eq_ok_iff {α : Type} {f : Str → Option α} {row : List Str} {column : String}
    {a : α} : number f (normalize (dictRow fieldnames row)) column = .ok a ↔
      ∃ s, cellText fieldnames row column = some s ∧ f (strip s) = some a := by
  rw [number_dictRow_eq_ok]
  constructor
  · rintro ⟨i, s, hi, hs, hf⟩
    exact ⟨s, cellText_eq_some.mpr ⟨i, hi, hs⟩, hf⟩
  · rintro ⟨s, hs, hf⟩
    obtain ⟨i, hi, hrow⟩ := cellText_eq_some.mp hs
    exact ⟨i, s, hi, hrow, hf⟩

/-- What a row gives is what it holds, as long as the name is not empty. -/
theorem rowGives_iff {row : List Str} {entry : Str × Pose K} :
    RowGives num fieldnames row entry.1 entry.2 ↔
      RowHolds num fieldnames row entry ∧ entry.1 ≠ [] := by
  have hname : rowName (normalize (dictRow fieldnames row)) = .ok entry.1 ↔
      ∃ s, cellText fieldnames row "name" = some s ∧ strip s = entry.1 := by
    rw [rowName_dictRow_eq_ok]
    constructor
    · rintro ⟨i, s, hi, hs, hstrip⟩
      exact ⟨s, cellText_eq_some.mpr ⟨i, hi, hs⟩, (strip_strip s).symm.trans hstrip⟩
    · rintro ⟨s, hs, hstrip⟩
      obtain ⟨i, hi, hrow⟩ := cellText_eq_some.mp hs
      exact ⟨i, s, hi, hrow, (strip_strip s).trans hstrip⟩
  have hpose : rowPose num (normalize (dictRow fieldnames row)) = .ok entry.2 ↔
      (∃ s, cellText fieldnames row "id" = some s ∧ num.int (strip s) = some entry.2.id) ∧
      List.Forall₂ (fun column v ↦
          ∃ s, cellText fieldnames row column = some s ∧ num.float (strip s) = some v)
        coordinateColumns entry.2.coordinates := by
    rw [rowPose_eq_ok]
    simp only [number_eq_ok_iff]
  constructor
  · intro h
    obtain ⟨hid, hcoordinates⟩ := hpose.mp h.rowPose
    exact ⟨⟨hname.mp h.rowName, hid, hcoordinates⟩, h.name_ne⟩
  · rintro ⟨h, hne⟩
    exact ⟨hname.mpr h.name, hne, hpose.mpr ⟨h.id, h.coordinates⟩⟩

theorem exists_rowHolds_iff {row : List Str} :
    (∃ entry : Str × Pose K, RowHolds num fieldnames row entry ∧ entry.1 ≠ []) ↔
      (∃ s, cellText fieldnames row "name" = some s ∧ strip s ≠ []) ∧
      (∃ s, cellText fieldnames row "id" = some s ∧ (num.int (strip s)).isSome) ∧
      ∀ column ∈ coordinateColumns,
        ∃ s, cellText fieldnames row column = some s ∧ (num.float (strip s)).isSome := by
  constructor
  · rintro ⟨entry, h, hne⟩
    obtain ⟨s, hs, hname⟩ := h.name
    obtain ⟨t, ht, hid⟩ := h.id
    refine ⟨⟨s, hs, by rwa [hname]⟩, ⟨t, ht, by rw [hid]; rfl⟩, fun column hcolumn ↦ ?_⟩
    obtain ⟨v, s, hs, hv⟩ := Loops.exists_forall₂_iff.mp ⟨_, h.coordinates⟩ column hcolumn
    exact ⟨s, hs, by rw [hv]; rfl⟩
  · rintro ⟨⟨s, hs, hne⟩, ⟨t, ht, hid⟩, hcoordinates⟩
    obtain ⟨id, hid⟩ := Option.isSome_iff_exists.mp hid
    have hvalue : ∀ column ∈ coordinateColumns, ∃ v, ∃ s, cellText fieldnames row column = some s ∧
        num.float (strip s) = some v := by
      intro column hcolumn
      obtain ⟨s, hs, hsome⟩ := hcoordinates column hcolumn
      obtain ⟨v, hv⟩ := Option.isSome_iff_exists.mp hsome
      exact ⟨v, s, hs, hv⟩
    simp only [coordinateColumns, List.forall_mem_cons] at hvalue
    obtain ⟨⟨x, hx⟩, ⟨y, hy⟩, ⟨z, hz⟩, ⟨qx, hqx⟩, ⟨qy, hqy⟩, ⟨qz, hqz⟩, ⟨qw, hqw⟩, -⟩ := hvalue
    refine ⟨(strip s, ⟨id, x, y, z, qx, qy, qz, qw⟩), ⟨⟨s, hs, rfl⟩, ⟨t, ht, hid⟩, ?_⟩, hne⟩
    exact .cons hx (.cons hy (.cons hz (.cons hqx (.cons hqy (.cons hqz (.cons hqw .nil))))))

/-! ## All rows -/

/-- The rows are accepted when each one gives an entry and the names are different. -/
theorem loadRows_eq_ok_iff {rows : List (List Str × ℕ)} :
    ∀ {poses poses' : List (Str × Pose K)}, (poses.map Prod.fst).Nodup →
      (rows.foldlM (loadRow num fieldnames) poses = .ok poses' ↔ ∃ entries,
        List.Forall₂ (fun row entry ↦ RowGives num fieldnames row.1 entry.1 entry.2) rows entries ∧
          ((poses ++ entries).map Prod.fst).Nodup ∧ poses' = poses ++ entries) := by
  intro poses poses' hnodup
  constructor
  · induction rows generalizing poses with
    | nil =>
      rintro ⟨⟩
      exact ⟨[], .nil, by rwa [List.append_nil], by rw [List.append_nil]⟩
    | cons row rows ih =>
      intro h
      obtain ⟨mid, hmid, hrest⟩ := Loops.bind_eq_ok.mp (List.foldlM_cons.symm.trans h)
      obtain ⟨name, pose, hgives, hnew, rfl⟩ := loadRow_eq_ok.mp hmid
      have hkeys : ((poses ++ [(name, pose)]).map Prod.fst).Nodup := by
        rw [List.map_append, List.nodup_append]
        refine ⟨hnodup, List.nodup_singleton _, ?_⟩
        rintro a ha _ hb rfl
        obtain rfl : a = name := List.mem_singleton.mp hb
        exact hnew ha
      obtain ⟨entries, hentries, hall, rfl⟩ := ih hkeys hrest
      exact ⟨(name, pose) :: entries, .cons hgives hentries, by rwa [List.append_cons],
        (List.append_cons poses _ entries).symm⟩
  · rintro ⟨entries, hentries, hall, rfl⟩
    exact (loadRows_eq_ok hentries hnodup).mpr ⟨hall, rfl⟩

/-- The rows of an accepted file have entries with different names. -/
theorem exists_entries_iff {rows : List (List Str)} :
    (∃ entries : List (Str × Pose K),
      List.Forall₂ (fun row entry ↦ RowHolds num fieldnames row entry ∧ entry.1 ≠ []) rows entries ∧
        (entries.map Prod.fst).Nodup) ↔
      (∀ row ∈ rows, ∃ entry : Str × Pose K, RowHolds num fieldnames row entry ∧ entry.1 ≠ []) ∧
        (rows.map fun row ↦ (cellText fieldnames row "name").map strip).Nodup := by
  have hnames : ∀ entries : List (Str × Pose K), List.Forall₂ (fun row entry ↦
        RowHolds num fieldnames row entry ∧ entry.1 ≠ []) rows entries →
      (rows.map fun row ↦ (cellText fieldnames row "name").map strip)
        = (entries.map Prod.fst).map some := by
    intro entries h
    induction h with
    | nil => rfl
    | @cons row entry rows entries hrow _ ih =>
      obtain ⟨s, hs, hname⟩ := hrow.1.name
      rw [List.map_cons, List.map_cons, List.map_cons, ih, hs, ← hname]
      rfl
  have hnodup : ∀ names : List Str, (names.map some).Nodup ↔ names.Nodup :=
    fun names ↦ List.nodup_map_iff (Option.some_injective Str)
  constructor
  · rintro ⟨entries, h, hentries⟩
    refine ⟨Loops.exists_forall₂_iff.mp ⟨entries, h⟩, ?_⟩
    rwa [hnames entries h, hnodup]
  · rintro ⟨h, happart⟩
    obtain ⟨entries, hentries⟩ := Loops.exists_forall₂_iff.mpr h
    refine ⟨entries, hentries, ?_⟩
    rwa [hnames entries hentries, hnodup] at happart

/-- **The local table.** It is made of the entries of the rows, when the header has the columns,
there are rows, and they are accepted. -/
theorem loadCsvPoses_eq_ok_iff {text : Str} {poses : List (Str × Pose K)} :
    Poses.loadCsvPoses num (some text) = .ok poses ↔ ∃ fieldnames data,
      Csv.read text = .ok (fieldnames :: data) ∧
      (∀ column ∈ csvHeaders, column.toList ∈ fieldnames.map strip) ∧ dictRows data ≠ [] ∧
      List.Forall₂ (fun row entry ↦ RowHolds num fieldnames row entry ∧ entry.1 ≠ [])
        (dictRows data) poses ∧ (poses.map Prod.fst).Nodup := by
  have hrows : ∀ (fieldnames : List Str) (data : List (List Str)) (poses : List (Str × Pose K)),
      (dataRows data).foldlM (loadRow num fieldnames) [] = .ok poses ↔
        List.Forall₂ (fun row entry ↦ RowHolds num fieldnames row entry ∧ entry.1 ≠ [])
          (dictRows data) poses ∧ (poses.map Prod.fst).Nodup := by
    intro fieldnames data poses
    have hindex : (dataRows data).map Prod.fst = dictRows data := List.zipIdx_map_fst 2 _
    rw [loadRows_eq_ok_iff (by exact List.nodup_nil), ← hindex, List.forall₂_map_left_iff]
    simp only [rowGives_iff, List.nil_append]
    constructor
    · rintro ⟨entries, hentries, hnodup, rfl⟩
      exact ⟨hentries, hnodup⟩
    · exact fun ⟨hentries, hnodup⟩ ↦ ⟨poses, hentries, hnodup, rfl⟩
  rw [loadCsvPoses_eq_ok]
  constructor
  · rintro ⟨_, rows, ⟨⟩, hread, fieldnames, data, rfl, hcolumns, hposes, hne⟩
    obtain ⟨hentries, hnodup⟩ := (hrows fieldnames data poses).mp hposes
    refine ⟨fieldnames, data, hread, hcolumns, fun hnil ↦ hne ?_, hentries, hnodup⟩
    rwa [hnil, List.forall₂_nil_left_iff] at hentries
  · rintro ⟨fieldnames, data, hread, hcolumns, hne, hentries, hnodup⟩
    refine ⟨text, _, rfl, hread, fieldnames, data, rfl, hcolumns,
      (hrows fieldnames data poses).mpr ⟨hentries, hnodup⟩, fun hnil ↦ hne ?_⟩
    rwa [hnil, List.forall₂_nil_right_iff] at hentries

/-- **The files that are accepted**, by what is in them. -/
theorem exists_loadCsvPoses_iff {text : Str} :
    (∃ poses : List (Str × Pose K), Poses.loadCsvPoses num (some text) = .ok poses) ↔
      ∃ fieldnames data, Csv.read text = .ok (fieldnames :: data) ∧
        Accepts num fieldnames (dictRows data) := by
  constructor
  · rintro ⟨poses, hload⟩
    obtain ⟨fieldnames, data, hread, hcolumns, hne, hrows⟩ := loadCsvPoses_eq_ok_iff.mp hload
    obtain ⟨hentries, happart⟩ := exists_entries_iff.mp ⟨poses, hrows⟩
    refine ⟨fieldnames, data, hread, hcolumns, hne, fun row hrow ↦ ?_, happart, fun row hrow ↦ ?_,
      fun row hrow ↦ ?_⟩
    · exact (exists_rowHolds_iff.mp (hentries row hrow)).1
    · exact (exists_rowHolds_iff.mp (hentries row hrow)).2.1
    · exact (exists_rowHolds_iff.mp (hentries row hrow)).2.2
  · rintro ⟨fieldnames, data, hread, h⟩
    obtain ⟨poses, hrows⟩ := (@exists_entries_iff _ num _ _).mpr ⟨fun row hrow ↦
      exists_rowHolds_iff.mpr ⟨h.name row hrow, h.id row hrow, h.coordinates row hrow⟩, h.apart⟩
    exact ⟨poses, loadCsvPoses_eq_ok_iff.mpr
      ⟨fieldnames, data, hread, h.columns, h.rows_ne, hrows⟩⟩

/-! ## The table is replaced or kept -/

theorem PipelineUtils.loadCsvPoses_of_ok {file : Option Str} {poses : List (Str × Pose K)}
    (h : Poses.loadCsvPoses num file = .ok poses) (u : PipelineUtils K) :
    PipelineUtils.loadCsvPoses num file u = .ok poses ⟨poses⟩ := by
  rw [PipelineUtils.loadCsvPoses, h]
  rfl

theorem PipelineUtils.loadCsvPoses_of_error {file : Option Str} {e : LoadError}
    (h : Poses.loadCsvPoses num file = .error e) (u : PipelineUtils K) :
    PipelineUtils.loadCsvPoses num file u = .error e u := by
  rw [PipelineUtils.loadCsvPoses, h]
  rfl

/-- The load returns a table when the local one is complete. -/
theorem PipelineUtils.loadCsvPoses_eq_ok_iff {file : Option Str} {u u' : PipelineUtils K}
    {poses : List (Str × Pose K)} : PipelineUtils.loadCsvPoses num file u = .ok poses u' ↔
      Poses.loadCsvPoses num file = .ok poses ∧ u' = ⟨poses⟩ := by
  rcases h : Poses.loadCsvPoses num file with e | table
  · rw [loadCsvPoses_of_error h]
    exact iff_of_false (by rintro ⟨⟩) (by rintro ⟨⟨⟩, -⟩)
  · rw [loadCsvPoses_of_ok h]
    constructor
    · rintro ⟨⟩
      exact ⟨rfl, rfl⟩
    · rintro ⟨⟨⟩, rfl⟩
      rfl

/-- **The table is replaced or kept.** A load that returns has put one entry for each row into
`self.poses`, in the order of the rows. One that raises has left it alone. It returns exactly for
the files whose header and rows are accepted, and no row is read beyond the width of the header. -/
theorem table_replaced_or_kept (num : Numbers K) (text : Str) (u : PipelineUtils K) :
    (∀ poses u', PipelineUtils.loadCsvPoses num (some text) u = .ok poses u' →
      u'.poses = poses ∧ (poses.map Prod.fst).Nodup ∧ ∃ fieldnames data,
        Csv.read text = .ok (fieldnames :: data) ∧
        List.Forall₂ (RowHolds num fieldnames) (dictRows data) poses) ∧
    (∀ e u', PipelineUtils.loadCsvPoses num (some text) u = .error e u' → u' = u) ∧
    ((∃ poses u', PipelineUtils.loadCsvPoses num (some text) u = .ok poses u') ↔
      ∃ fieldnames data, Csv.read text = .ok (fieldnames :: data) ∧
        Accepts num fieldnames (dictRows data)) ∧
    ∀ (fieldnames row : List Str) (entry : Str × Pose K),
      RowHolds num fieldnames (row.take fieldnames.length) entry ↔
        RowHolds num fieldnames row entry := by
  refine ⟨fun poses u' h ↦ ?_, fun e u' h ↦ ?_, ?_, fun fieldnames row entry ↦ ?_⟩
  · obtain ⟨hload, rfl⟩ := PipelineUtils.loadCsvPoses_eq_ok_iff.mp h
    obtain ⟨fieldnames, data, hread, -, -, hentries, hnodup⟩ := loadCsvPoses_eq_ok_iff.mp hload
    exact ⟨rfl, hnodup, fieldnames, data, hread, hentries.imp fun _ _ hrow ↦ hrow.1⟩
  · rcases hload : Poses.loadCsvPoses num (some text) with e' | table
    · rw [PipelineUtils.loadCsvPoses_of_error hload] at h
      cases h
      rfl
    · rw [PipelineUtils.loadCsvPoses_of_ok hload] at h
      cases h
  · simp only [PipelineUtils.loadCsvPoses_eq_ok_iff, exists_and_left, exists_eq, and_true]
    exact exists_loadCsvPoses_iff
  · exact rowHolds_take_iff

/-- The columns of a pose, and one more. -/
def noteColumns : List Str := (csvHeaders ++ ["note"]).map String.toList

/-- A row of nine cells. -/
def homeRow : List Str :=
  ["home", "1", "1.0", "0.0", "0.0", "1.0", "0.0", "0.0", "0.0"].map String.toList

/-- A row that is shorter than the header is accepted, when the cell it lacks is of no column of a
pose. -/
theorem short_row_accepted : ¬∀ (num : Numbers Bool) (text : Str) (u u' : PipelineUtils Bool)
    (poses : List (Str × Pose Bool)) (fieldnames : List Str) (data : List (List Str)),
    PipelineUtils.loadCsvPoses num (some text) u = .ok poses u' →
    Csv.read text = .ok (fieldnames :: data) →
    ∀ row ∈ dictRows data, fieldnames.length ≤ row.length := by
  intro h
  have hread : Csv.read (Csv.writerow noteColumns ++ Csv.writerow homeRow)
      = .ok [noteColumns, homeRow] := by
    decide +kernel
  have hload : Poses.loadCsvPoses zeroOne (some (Csv.writerow noteColumns ++ Csv.writerow homeRow))
      = .ok (onePoseTable "home") := by
    decide +kernel
  have hlength := h zeroOne _ ⟨[]⟩ _ _ _ _ (PipelineUtils.loadCsvPoses_of_ok hload _) hread homeRow
    (by decide)
  exact absurd hlength (by decide)

end VzletUr3e.Poses
