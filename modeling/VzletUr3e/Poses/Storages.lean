import VzletUr3e.Poses.Grid
import VzletUr3e.Poses.Record

/-!
# Storages that are kept apart

The grids of several storages in one pose file. Their prefixes and their storage ids are different,
but a name is a prefix with digits behind it, and an id is digits behind digits. Within a table of
cells, 1 and 11 and 11 and 1 are written alike; between two storages, the digits of the one id with
those of a cell behind them may begin like the other id. What the sizes must be for nothing of this
to happen can be told from the numbers alone.
-/

namespace VzletUr3e.Poses

open Control PyFloat Decimal

variable {K : Type} [PyFloat K] {grid grid' : Grid K}

/-! ## The cells

What the two kinds of grids have for cells, as a condition on the indices, so that the other proofs
do not look at the loops of the source. -/

theorem mem_cells_oneD (h : grid.gridType = .oneD) {cell : ℕ × ℕ} :
    cell ∈ grid.cells ↔ cell.1 = cell.2 ∧ (cell.1 : ℤ) < grid.count := by
  rw [Grid.cells, h]
  dsimp only
  rw [List.mem_map]
  constructor
  · rintro ⟨index, hindex, rfl⟩
    rw [List.mem_range] at hindex
    exact ⟨rfl, by dsimp only; omega⟩
  · rintro ⟨heq, hlt⟩
    exact ⟨cell.1, List.mem_range.mpr (by omega), Prod.ext rfl heq⟩

theorem mem_cells_twoD (h : grid.gridType = .twoD) {cell : ℕ × ℕ} :
    cell ∈ grid.cells ↔ (cell.1 : ℤ) < grid.gridX ∧ (cell.2 : ℤ) < grid.gridY := by
  rw [Grid.cells, h]
  dsimp only
  rw [List.mem_product, List.mem_range, List.mem_range]
  omega

theorem nodup_cells (grid : Grid K) : grid.cells.Nodup := by
  rw [Grid.cells]
  split
  · exact List.nodup_range.map fun _ _ h ↦ (Prod.mk.inj h).1
  · exact List.nodup_range.product List.nodup_range

/-- A grid that has cells has a first one. -/
theorem zero_mem_cells (h : grid.cells ≠ []) : (0, 0) ∈ grid.cells := by
  obtain ⟨cell, hcell⟩ := List.exists_mem_of_ne_nil _ h
  rcases htype : grid.gridType with _ | _
  · obtain ⟨-, hlt⟩ := (mem_cells_oneD htype).mp hcell
    exact (mem_cells_oneD htype).mpr ⟨rfl, by dsimp only; omega⟩
  · obtain ⟨hx, hy⟩ := (mem_cells_twoD htype).mp hcell
    exact (mem_cells_twoD htype).mpr ⟨by dsimp only; omega, by dsimp only; omega⟩

/-! ## The digits of a cell

A cell of a row is its index with at least two digits, and one of a table its two indices glued
together. Glued texts are the same only if the cut between the indices moves, which takes a second
index from 10 on and a first one from 11 on (`eleven_le_of_glue`), and the cells 11 0 and 1 10 show
that it does. -/

/-- A cell is written with two digits at least. -/
theorem two_le_indexLen (gridType : GridType) (ix iy : ℕ) : 2 ≤ indexLen gridType ix iy := by
  have hx := len_pos ix
  have hy := len_pos iy
  cases gridType with
  | oneD => exact le_max_left _ _
  | twoD =>
    rw [indexLen]
    omega

/-- The digits are enough for the value. -/
theorem indexValue_lt (gridType : GridType) (ix iy : ℕ) :
    indexValue gridType ix iy < 10 ^ indexLen gridType ix iy := by
  cases gridType with
  | oneD => exact (lt_pow_len ix).trans_le (Nat.pow_le_pow_right (by decide) (le_max_right _ _))
  | twoD => exact glue_lt_pow ix iy

theorem indexText_zero (gridType : GridType) : indexText gridType 0 0 = "00".toList := by
  cases gridType <;> decide

/-- Two cells of a table whose digits make up the same number are the same, or the second indices
are of different lengths. -/
theorem cell_eq_or_len_lt {cell cell' : ℕ × ℕ} (h : glue cell.1 cell.2 = glue cell'.1 cell'.2) :
    cell = cell' ∨ len cell.2 < len cell'.2 ∨ len cell'.2 < len cell.2 := by
  rcases lt_trichotomy (len cell.2) (len cell'.2) with hlt | heq | hgt
  · exact .inr (.inl hlt)
  · obtain ⟨hfst, hsnd⟩ := glue_inj heq h
    exact .inl (Prod.ext hfst hsnd)
  · exact .inr (.inr hgt)

/-- **The names of a grid**: no two cells are written alike, unless a table has the cells 11 0 and
1 10. -/
theorem indexText_inj_iff :
    (∀ cell ∈ grid.cells, ∀ cell' ∈ grid.cells,
      indexText grid.gridType cell.1 cell.2 = indexText grid.gridType cell'.1 cell'.2 →
        cell = cell') ↔
      (grid.gridType = .twoD → grid.gridX ≤ 11 ∨ grid.gridY ≤ 10) := by
  constructor
  · intro hinj htype
    by_contra! hsize
    have heq := hinj (11, 0) ((mem_cells_twoD htype).mpr
      ⟨by dsimp only; omega, by dsimp only; omega⟩)
      (1, 10) ((mem_cells_twoD htype).mpr ⟨by dsimp only; omega, by dsimp only; omega⟩)
      (by rw [htype]; decide)
    simp at heq
  · intro hsize cell hcell cell' hcell' htext
    obtain ⟨hlen, hvalue⟩ := indexText_eq_iff.mp htext
    rcases htype : grid.gridType with _ | _
    · obtain ⟨hdiag, -⟩ := (mem_cells_oneD htype).mp hcell
      obtain ⟨hdiag', -⟩ := (mem_cells_oneD htype).mp hcell'
      rw [htype] at hvalue
      have hfst : cell.1 = cell'.1 := hvalue
      exact Prod.ext hfst (hdiag.symm.trans (hfst.trans hdiag'))
    · obtain ⟨hx, hy⟩ := (mem_cells_twoD htype).mp hcell
      obtain ⟨hx', hy'⟩ := (mem_cells_twoD htype).mp hcell'
      rw [htype] at hlen hvalue
      have hsize := hsize htype
      rcases cell_eq_or_len_lt hvalue with heq | hlt | hlt
      · exact heq
      · obtain ⟨heleven, hten⟩ := eleven_le_of_glue hlt hlen hvalue
        omega
      · obtain ⟨heleven, hten⟩ := eleven_le_of_glue hlt hlen.symm hvalue.symm
        omega

/-! ## The ids of a grid

An id is the storage id with the digits of the cell behind it, read as a number. The digits can be
told from it as long as something other than zero is in front of them; behind a storage id of zero
the zeros in front of a cell are lost, and the bound on the first index is 1 instead of 11. -/

omit [PyFloat K] in
theorem id_eq {s : ℕ} (h : grid.storageId = s) (cell : ℕ × ℕ) :
    grid.id cell = (s * 10 ^ indexLen grid.gridType cell.1 cell.2
      + indexValue grid.gridType cell.1 cell.2 : ℕ) := by
  rw [Grid.id, h]
  rfl

omit [PyFloat K] in
/-- The sign of an id is that of its storage. -/
theorem id_nonneg (h : 0 ≤ grid.storageId) (cell : ℕ × ℕ) : 0 ≤ grid.id cell := by
  obtain ⟨s, hs⟩ := Int.eq_ofNat_of_zero_le h
  rw [id_eq hs]
  exact Int.natCast_nonneg _

omit [PyFloat K] in
/-- A storage id with a sign gives ids with a sign. -/
theorem id_neg (h : grid.storageId < 0) (cell : ℕ × ℕ) : grid.id cell < 0 := by
  obtain ⟨n, hn⟩ := Int.eq_negSucc_of_lt_zero h
  rw [Grid.id, hn]
  refine neg_neg_of_pos (Int.natCast_pos.mpr (Nat.add_pos_left ?_ _))
  exact Nat.mul_pos n.succ_pos (by positivity)

/-- Where a zero is in front, only the value of the digits is left. -/
theorem indexValue_inj_iff :
    (∀ cell ∈ grid.cells, ∀ cell' ∈ grid.cells,
      indexValue grid.gridType cell.1 cell.2 = indexValue grid.gridType cell'.1 cell'.2 →
        cell = cell') ↔
      (grid.gridType = .twoD → grid.gridX ≤ 1 ∨ grid.gridY ≤ 10) := by
  constructor
  · intro hinj htype
    by_contra! hsize
    have heq := hinj (1, 0) ((mem_cells_twoD htype).mpr
      ⟨by dsimp only; omega, by dsimp only; omega⟩)
      (0, 10) ((mem_cells_twoD htype).mpr ⟨by dsimp only; omega, by dsimp only; omega⟩)
      (by rw [htype]; decide)
    simp at heq
  · intro hsize cell hcell cell' hcell' hvalue
    rcases htype : grid.gridType with _ | _
    · obtain ⟨hdiag, -⟩ := (mem_cells_oneD htype).mp hcell
      obtain ⟨hdiag', -⟩ := (mem_cells_oneD htype).mp hcell'
      rw [htype] at hvalue
      have hfst : cell.1 = cell'.1 := hvalue
      exact Prod.ext hfst (hdiag.symm.trans (hfst.trans hdiag'))
    · obtain ⟨hx, hy⟩ := (mem_cells_twoD htype).mp hcell
      obtain ⟨hx', hy'⟩ := (mem_cells_twoD htype).mp hcell'
      rw [htype] at hvalue
      have hsize := hsize htype
      rcases cell_eq_or_len_lt hvalue with heq | hlt | hlt
      · exact heq
      · obtain ⟨hone, hten⟩ := one_le_of_glue hlt hvalue
        omega
      · obtain ⟨hone, hten⟩ := one_le_of_glue hlt hvalue.symm
        omega

/-- **The ids of a grid.** Behind a storage id other than zero they are as different as the names.
-/
theorem id_inj_iff {s : ℕ} (h : grid.storageId = s) :
    (∀ cell ∈ grid.cells, ∀ cell' ∈ grid.cells, grid.id cell = grid.id cell' → cell = cell') ↔
      (grid.gridType = .twoD →
        grid.gridX ≤ (if grid.storageId = 0 then 1 else 11) ∨ grid.gridY ≤ 10) := by
  simp only [id_eq h, Nat.cast_inj]
  rcases Nat.eq_zero_or_pos s with rfl | hpos
  · have hzero : grid.storageId = 0 := h
    rw [if_pos hzero, ← indexValue_inj_iff]
    simp only [Nat.zero_mul, Nat.zero_add]
  · rw [if_neg (by omega), ← indexText_inj_iff]
    constructor
    · intro hinj cell hcell cell' hcell' htext
      obtain ⟨hlen, hvalue⟩ := indexText_eq_iff.mp htext
      exact hinj cell hcell cell' hcell' (by rw [hlen, hvalue])
    · intro hinj cell hcell cell' hcell' hid
      exact hinj cell hcell cell' hcell'
        (indexText_eq_iff.mpr (shift_inj hpos (indexValue_lt _ _ _) (indexValue_lt _ _ _) hid))

/-! ## The ids of two grids

Let `s` be the smaller storage id. If a cell of it has the id of a cell of the other storage, the
digits of the first cell are cut in two: `s` with the front part behind it is the greater storage
id, and the rest is the other cell (`id_eq_id_iff`). `RunsInto` says which fronts there are, by the
place of the cut. For each of them there is a cell that is cut so with `00` or `10` for the rest. -/

/-- A cell of the grid is written with two digits of which the first one is not zero. -/
def Grid.HasTen (grid : Grid K) : Prop :=
  match grid.gridType with
  | .oneD => 10 < grid.count
  | .twoD => 1 < grid.gridX

/-- The greater storage id is the smaller one with the first digits of one of its cells behind it,
and what is left of that cell is written like a cell of the other grid. -/
def Grid.RunsInto (grid grid' : Grid K) : Prop :=
  match grid.gridType with
  | .oneD => ∃ w, 0 < w ∧ grid'.storageId.toNat = glue grid.storageId.toNat w ∧
      ((100 * w : ℕ) : ℤ) < grid.count
  | .twoD =>
    (∃ w, 0 < w ∧ grid'.storageId.toNat = glue grid.storageId.toNat w ∧
      ((10 * w : ℕ) : ℤ) < grid.gridX) ∨
    (∃ x, grid'.storageId.toNat = glue grid.storageId.toNat x ∧ (x : ℤ) < grid.gridX ∧
      10 < grid.gridY ∧ grid'.HasTen) ∨
    ∃ x w, 0 < w ∧ grid'.storageId.toNat = glue (glue grid.storageId.toNat x) w ∧
      (x : ℤ) < grid.gridX ∧ ((100 * w : ℕ) : ℤ) < grid.gridY

/-- The cell that is written 10. -/
theorem exists_ten (hne : grid.cells ≠ []) (h : grid.HasTen) : ∃ cell ∈ grid.cells,
    indexLen grid.gridType cell.1 cell.2 = 2 ∧ indexValue grid.gridType cell.1 cell.2 = 10 := by
  have hzero := zero_mem_cells hne
  rw [Grid.HasTen] at h
  rcases htype : grid.gridType with _ | _
  · rw [htype] at h
    exact ⟨(10, 10), (mem_cells_oneD htype).mpr ⟨rfl, h⟩, by decide, by decide⟩
  · rw [htype] at h
    obtain ⟨-, hy⟩ := (mem_cells_twoD htype).mp hzero
    exact ⟨(1, 0), (mem_cells_twoD htype).mpr ⟨h, hy⟩, by decide, by decide⟩

/-- A cell that is written like a number is written like one from ten on. -/
theorem hasTen_of_cell {cell : ℕ × ℕ} (hcell : cell ∈ grid.cells)
    (hlen : indexLen grid.gridType cell.1 cell.2
      = len (indexValue grid.gridType cell.1 cell.2)) : grid.HasTen := by
  have htwo := two_le_indexLen grid.gridType cell.1 cell.2
  have hten : 10 ^ 1 ≤ indexValue grid.gridType cell.1 cell.2 :=
    pow_le_of_lt_len (by omega) one_pos
  rw [Grid.HasTen]
  rcases htype : grid.gridType with _ | _
  · obtain ⟨-, hlt⟩ := (mem_cells_oneD htype).mp hcell
    rw [htype, indexValue] at hten
    dsimp only
    omega
  · obtain ⟨hx, -⟩ := (mem_cells_twoD htype).mp hcell
    rw [htype] at hlen
    have hpos : cell.1 ≠ 0 := by
      -- a zero in front would be a digit more than the number has
      intro hzero
      have hxlen := len_pos cell.1
      rw [hzero] at hxlen hlen
      have hvalue : indexValue .twoD 0 cell.2 = cell.2 := by
        rw [indexValue, glue, Nat.zero_mul, Nat.zero_add]
      rw [hvalue, indexLen] at hlen
      omega
    dsimp only
    omega

variable {s s' : ℕ}

omit [PyFloat K] in
/-- Two cells have one id when the digits of the cell of the smaller storage id are cut in two, of
which the front belongs to the greater one. -/
theorem id_eq_id_iff (hs : grid.storageId = s) (hs' : grid'.storageId = s') (hlt : s < s')
    (cell cell' : ℕ × ℕ) : grid.id cell = grid'.id cell' ↔
      indexLen grid'.gridType cell'.1 cell'.2 < indexLen grid.gridType cell.1 cell.2 ∧
      s' = s * 10 ^ (indexLen grid.gridType cell.1 cell.2
          - indexLen grid'.gridType cell'.1 cell'.2)
        + indexValue grid.gridType cell.1 cell.2 / 10 ^ indexLen grid'.gridType cell'.1 cell'.2 ∧
      indexValue grid'.gridType cell'.1 cell'.2
        = indexValue grid.gridType cell.1 cell.2
          % 10 ^ indexLen grid'.gridType cell'.1 cell'.2 := by
  rw [id_eq hs, id_eq hs', Nat.cast_inj]
  exact shift_eq_shift_iff (indexValue_lt _ _ _) (indexValue_lt _ _ _) hlt

/-- A row of cells, cut in two. -/
theorem runsInto_of_oneD (htype : grid.gridType = .oneD) (hs : grid.storageId = s)
    (hs' : grid'.storageId = s') (hlt : s < s') {cell cell' : ℕ × ℕ} (hcell : cell ∈ grid.cells)
    (hid : grid.id cell = grid'.id cell') : grid.RunsInto grid' := by
  obtain ⟨hlen, hfront, -⟩ := (id_eq_id_iff hs hs' hlt cell cell').mp hid
  have htwo := two_le_indexLen grid'.gridType cell'.1 cell'.2
  obtain ⟨-, hcount⟩ := (mem_cells_oneD htype).mp hcell
  generalize indexLen grid'.gridType cell'.1 cell'.2 = k at hlen hfront htwo
  rw [htype, indexLen] at hlen hfront
  rw [indexValue] at hfront
  -- more than two digits are an index without zeros in front
  have hlong : max 2 (len cell.1) = len cell.1 := by omega
  rw [hlong] at hlen hfront
  rw [Grid.RunsInto, htype]
  dsimp only
  refine ⟨cell.1 / 10 ^ k, div_pow_pos (by omega) hlen, ?_, ?_⟩
  · rw [hs, hs', Int.toNat_natCast, Int.toNat_natCast, glue, len_div_pow (by omega) hlen]
    exact hfront
  · have hpow : 10 ^ 2 ≤ 10 ^ k := Nat.pow_le_pow_right (by decide) htwo
    have hmul := Nat.mul_le_mul_right (cell.1 / 10 ^ k) hpow
    have hle := Nat.mul_div_le cell.1 (10 ^ k)
    omega

/-- A table of cells, cut within the second index, between the two, or within the first one. -/
theorem runsInto_of_twoD (htype : grid.gridType = .twoD) (hs : grid.storageId = s)
    (hs' : grid'.storageId = s') (hlt : s < s') {cell cell' : ℕ × ℕ} (hcell : cell ∈ grid.cells)
    (hcell' : cell' ∈ grid'.cells) (hid : grid.id cell = grid'.id cell') :
    grid.RunsInto grid' := by
  obtain ⟨hlen, hfront, hrest⟩ := (id_eq_id_iff hs hs' hlt cell cell').mp hid
  have htwo := two_le_indexLen grid'.gridType cell'.1 cell'.2
  have hten := hasTen_of_cell hcell'
  obtain ⟨hx, hy⟩ := (mem_cells_twoD htype).mp hcell
  generalize indexLen grid'.gridType cell'.1 cell'.2 = k at hlen hfront htwo hten hrest
  rw [htype, indexLen] at hlen hfront
  rw [htype, indexValue] at hrest
  rw [indexValue] at hfront
  rw [Grid.RunsInto, htype, hs, hs', Int.toNat_natCast, Int.toNat_natCast]
  dsimp only
  -- where the digits of the other cell begin
  rcases lt_trichotomy k (len cell.2) with hin | heq | hout
  · refine .inr (.inr ⟨cell.1, cell.2 / 10 ^ k, div_pow_pos (by omega) hin, ?_, hx, ?_⟩)
    · have hcut : len cell.1 + len cell.2 - k = len cell.1 + len (cell.2 / 10 ^ k) := by
        rw [len_div_pow (by omega) hin]
        omega
      rw [hfront, glue_div_of_lt (by omega) hin, hcut, shift_glue]
    · have hpow : 10 ^ 2 ≤ 10 ^ k := Nat.pow_le_pow_right (by decide) htwo
      have hmul := Nat.mul_le_mul_right (cell.2 / 10 ^ k) hpow
      have hle := Nat.mul_div_le cell.2 (10 ^ k)
      omega
  · rw [heq, glue_mod_len] at hrest
    have hlong : 10 ^ 1 ≤ cell.2 := pow_le_of_lt_len (by omega) one_pos
    refine .inr (.inl ⟨cell.1, ?_, hx, ?_, hten (by rw [hrest, heq])⟩)
    · rw [hfront, heq, glue_div_len, Nat.add_sub_cancel, glue]
    · omega
  · refine .inl ⟨cell.1 / 10 ^ (k - len cell.2), div_pow_pos (by omega) (by omega), ?_, ?_⟩
    · have hcut : len cell.1 + len cell.2 - k = len (cell.1 / 10 ^ (k - len cell.2)) := by
        rw [len_div_pow (by omega) (by omega)]
        omega
      rw [hfront, glue_div_of_gt hout, hcut, glue]
    · have hpow : 10 ^ 1 ≤ 10 ^ (k - len cell.2) := Nat.pow_le_pow_right (by decide) (by omega)
      have hmul := Nat.mul_le_mul_right (cell.1 / 10 ^ (k - len cell.2)) hpow
      have hle := Nat.mul_div_le cell.1 (10 ^ (k - len cell.2))
      omega

/-- Where the one storage runs into the other, there are two cells with one id. -/
theorem exists_id_eq_of_runsInto (hs : grid.storageId = s) (hs' : grid'.storageId = s')
    (hlt : s < s') (hne : grid.cells ≠ []) (hne' : grid'.cells ≠ []) (h : grid.RunsInto grid') :
    ∃ cell ∈ grid.cells, ∃ cell' ∈ grid'.cells, grid.id cell = grid'.id cell' := by
  have hzero' := zero_mem_cells hne'
  have hlen' : indexLen grid'.gridType 0 0 = 2 := by cases grid'.gridType <;> decide
  have hvalue' : indexValue grid'.gridType 0 0 = 0 := by cases grid'.gridType <;> decide
  rw [Grid.RunsInto, hs, hs', Int.toNat_natCast, Int.toNat_natCast] at h
  rcases htype : grid.gridType with _ | _
  · rw [htype] at h
    obtain ⟨w, hw, rfl, hlt'⟩ := h
    -- the digits of `w` with two zeros behind them, which are the first cell of the other grid
    refine ⟨(100 * w, 100 * w), (mem_cells_oneD htype).mpr ⟨rfl, hlt'⟩, (0, 0), hzero', ?_⟩
    have hlenw : len (100 * w) = len w + 2 := by
      rw [Nat.mul_comm]
      exact len_mul_pow hw 2
    have hpos := len_pos w
    have hmax : max 2 (len w + 2) = len w + 2 := by omega
    rw [id_eq hs, id_eq hs', htype, hlen', hvalue', indexLen, indexValue, hlenw, hmax,
      glue, pow_add]
    push_cast
    ring
  · rw [htype] at h
    obtain ⟨hx, hy⟩ := (mem_cells_twoD htype).mp (zero_mem_cells hne)
    rcases h with ⟨w, hw, rfl, hlt'⟩ | ⟨x, rfl, hlt', hten, hhas⟩ | ⟨x, w, hw, rfl, hltx, hlty⟩
    · refine ⟨(10 * w, 0), (mem_cells_twoD htype).mpr ⟨hlt', hy⟩, (0, 0), hzero', ?_⟩
      have hlenw : len (10 * w) = len w + 1 := by
        rw [Nat.mul_comm]
        exact len_mul_pow hw 1
      have hone : len 0 = 1 := len_eq_one (by decide)
      rw [id_eq hs, id_eq hs', htype, hlen', hvalue', indexLen, indexValue, hlenw, hone, glue, glue,
        hone, pow_add, pow_add]
      push_cast
      ring
    · obtain ⟨cell', hcell', hlen, hvalue⟩ := exists_ten hne' hhas
      refine ⟨(x, 10), (mem_cells_twoD htype).mpr ⟨hlt', hten⟩, cell', hcell', ?_⟩
      have htwo : len 10 = 2 := by decide
      rw [id_eq hs, id_eq hs', htype, hlen, hvalue, indexLen, indexValue, glue, glue, htwo, pow_add]
      push_cast
      ring
    · refine ⟨(x, 100 * w), (mem_cells_twoD htype).mpr ⟨hltx, hlty⟩, (0, 0), hzero', ?_⟩
      have hlenw : len (100 * w) = len w + 2 := by
        rw [Nat.mul_comm]
        exact len_mul_pow hw 2
      rw [id_eq hs, id_eq hs', htype, hlen', hvalue', indexLen, indexValue, hlenw, glue, glue, glue,
        hlenw, pow_add, pow_add]
      push_cast
      ring

/-- **The ids of two storages** meet exactly where the one runs into the other. -/
theorem runsInto_iff (hs : grid.storageId = s) (hs' : grid'.storageId = s') (hlt : s < s')
    (hne : grid.cells ≠ []) (hne' : grid'.cells ≠ []) :
    grid.RunsInto grid' ↔
      ∃ cell ∈ grid.cells, ∃ cell' ∈ grid'.cells, grid.id cell = grid'.id cell' := by
  constructor
  · exact exists_id_eq_of_runsInto hs hs' hlt hne hne'
  · rintro ⟨cell, hcell, cell', hcell', hid⟩
    rcases htype : grid.gridType with _ | _
    · exact runsInto_of_oneD htype hs hs' hlt hcell hid
    · exact runsInto_of_twoD htype hs hs' hlt hcell hcell' hid

/-! ## The names of two grids

A name can be taken apart again, since a prefix that is not empty ends in an underscore and the
digits have none. -/

theorem underscore_notMem_indexText (gridType : GridType) (ix iy : ℕ) :
    '_' ∉ indexText gridType ix iy := fun h ↦
      absurd (isDigit_indexText gridType ix iy _ h) (by decide)

/-- A prefix ends in an underscore, also without the spaces in front of it. -/
theorem lstrip_stem (prefixName : Str) : lstrip (stem prefixName) = [] ∨
    ∃ front, lstrip (stem prefixName) = front ++ ['_'] := by
  rw [stem]
  split
  · right
    rw [lstrip, List.dropWhile_append]
    split
    · exact ⟨[], by decide⟩
    · exact ⟨_, rfl⟩
  · exact .inl rfl

/-- What is in front of digits ends at the last underscore. -/
theorem eq_of_append_eq {s t s' t' : Str} (hs : s = [] ∨ ∃ front, s = front ++ ['_'])
    (hs' : s' = [] ∨ ∃ front, s' = front ++ ['_']) (ht : '_' ∉ t) (ht' : '_' ∉ t')
    (h : s ++ t = s' ++ t') : s = s' := by
  -- of the two ways to cut the same text, one cuts it later
  have hkey : ∀ {s t s' t' : Str}, (s' = [] ∨ ∃ front, s' = front ++ ['_']) → '_' ∉ t →
      ∀ mid, s' = s ++ mid → t = mid ++ t' → s = s' := by
    rintro s t s' t' hs' ht mid rfl rfl
    rcases List.eq_nil_or_concat mid with rfl | ⟨init, c, rfl⟩
    · rw [List.append_nil]
    · rcases hs' with hnil | ⟨front, hfront⟩
      · simp at hnil
      · rw [List.concat_eq_append, ← List.append_assoc] at hfront
        obtain ⟨-, hc⟩ := List.append_inj' hfront rfl
        rw [List.concat_eq_append, List.singleton_inj.mp hc] at ht
        exact absurd (by simp) ht
  rcases List.append_eq_append_iff.mp h with ⟨mid, hmid, htail⟩ | ⟨mid, hmid, htail⟩
  · exact hkey hs' ht mid hmid htail
  · exact (hkey hs ht' mid hmid htail).symm

/-- The name of a cell without the spaces around it. -/
def Grid.strippedName (grid : Grid K) (cell : ℕ × ℕ) : Str :=
  lstrip (stem grid.prefixName) ++ indexText grid.gridType cell.1 cell.2

omit [PyFloat K] in
/-- What is left of a name once it is saved and loaded. -/
theorem strip_name (grid : Grid K) (cell : ℕ × ℕ) :
    strip (grid.name cell) = grid.strippedName cell ∧
      strip (strip (grid.name cell)) = grid.strippedName cell := by
  have hspace := notSpace_indexText grid.gridType cell.1 cell.2
  have hne := indexText_ne_nil grid.gridType cell.1 cell.2
  have hname : strip (grid.name cell) = grid.strippedName cell := strip_append hne hspace
  refine ⟨hname, ?_⟩
  rw [hname, Grid.strippedName, strip_append hne hspace, lstrip_lstrip]

/-- **The names of two grids** meet exactly when both have cells and their prefixes are the same
without the spaces in front. -/
theorem disjoint_strippedName_iff : List.Disjoint (grid.cells.map grid.strippedName)
    (grid'.cells.map grid'.strippedName) ↔
      (grid.cells ≠ [] → grid'.cells ≠ [] →
        lstrip (stem grid.prefixName) ≠ lstrip (stem grid'.prefixName)) := by
  constructor
  · intro hdisjoint hne hne' heq
    have hzero := List.mem_map_of_mem (f := grid.strippedName) (zero_mem_cells hne)
    have hzero' := List.mem_map_of_mem (f := grid'.strippedName) (zero_mem_cells hne')
    have hsame : grid.strippedName (0, 0) = grid'.strippedName (0, 0) := by
      rw [Grid.strippedName, Grid.strippedName, heq, indexText_zero, indexText_zero]
    rw [← hsame] at hzero'
    exact hdisjoint hzero hzero'
  · intro hstem name hname hname'
    obtain ⟨cell, hcell, rfl⟩ := List.mem_map.mp hname
    obtain ⟨cell', hcell', heq⟩ := List.mem_map.mp hname'
    refine hstem (List.ne_nil_of_mem hcell) (List.ne_nil_of_mem hcell') ?_
    exact eq_of_append_eq (lstrip_stem _) (lstrip_stem _) (underscore_notMem_indexText _ _ _)
      (underscore_notMem_indexText _ _ _) heq.symm

/-! ## A file of grids

All rows together have different names, or ids, if those of each grid are different and no two grids
share one. Both parts were settled above, so what is left is to put them together over the list. -/

/-- What `str.isdigit` says of the text of an id. -/
structure DigitTest (isdigit : Str → Bool) : Prop where
  digits : ∀ n, isdigit (digits n) = true
  sign : ∀ s, isdigit ('-' :: s) = false

omit [PyFloat K] in
/-- The grids are found under their names and ids: the names are different, the ids are different,
and a file with the rows is accepted and leads to the pose of each row by its own id. -/
structure Addressable (num : Numbers K) (isdigit : Str → Bool)
    (grids : List (List (Str × Pose K))) : Prop where
  names : (grids.flatten.map Prod.fst).Nodup
  ids : (grids.flatten.map fun row ↦ row.2.id).Nodup
  reached : grids.flatten ≠ [] → ∃ table, loadCsvPoses num (some (poseFile num grids)) = .ok table ∧
    ∀ row ∈ grids.flatten,
      getPoseById num isdigit table (intText row.2.id) = .ok (some row.2) ∧
        getNameById num table (intText row.2.id) = some (strip row.1)

/-- The storages are kept apart by their numbers. -/
structure Apart (grids : List (Grid K)) : Prop where
  /-- No storage id has a sign. -/
  storage : ∀ grid ∈ grids, grid.cells ≠ [] → 0 ≤ grid.storageId
  /-- A table has not more than eleven cells one way, or not more than ten the other way. -/
  indices : ∀ grid ∈ grids, grid.gridType = .twoD →
    grid.gridX ≤ (if grid.storageId = 0 then 1 else 11) ∨ grid.gridY ≤ 10
  /-- The prefixes do not only differ in spaces in front. -/
  prefixes : grids.Pairwise fun grid grid' ↦ grid.cells ≠ [] → grid'.cells ≠ [] →
    lstrip (stem grid.prefixName) ≠ lstrip (stem grid'.prefixName)
  /-- No storage runs into another one. -/
  storages : ∀ grid ∈ grids, ∀ grid' ∈ grids, grid.cells ≠ [] → grid'.cells ≠ [] →
    grid.storageId < grid'.storageId → ¬ grid.RunsInto grid'

variable {num : Numbers K} {isdigit : Str → Bool} {grids : List (Grid K)}
  {rows : List (List (Str × Pose K))}

/-- The names and the ids of all rows. -/
theorem columns_of_grids (decimals : num.Decimals)
    (h : List.Forall₂ (fun grid rows ↦ createGridPoses num grid = .ok rows) grids rows) :
    rows.flatten.map Prod.fst = (grids.map fun grid ↦ grid.cells.map grid.name).flatten ∧
      rows.flatten.map (fun row ↦ row.2.id)
        = (grids.map fun grid ↦ grid.cells.map grid.id).flatten := by
  induction h with
  | nil => exact ⟨rfl, rfl⟩
  | cons hgrid _ ih =>
    obtain ⟨hnames, hids⟩ := ih
    obtain ⟨row, rfl, hrow⟩ := createGridPoses_eq_ok decimals hgrid
    rw [List.flatten_cons, List.map_append, List.map_append, hnames, hids, List.map_map,
      List.map_map]
    refine ⟨congrArg (· ++ _) ?_, congrArg (· ++ _) ?_⟩
    · exact List.map_congr_left fun cell _ ↦ (hrow cell).1
    · exact List.map_congr_left fun cell _ ↦ (hrow cell).2

/-- The names without the spaces around them. -/
theorem strippedNames_of_grids (decimals : num.Decimals)
    (h : List.Forall₂ (fun grid rows ↦ createGridPoses num grid = .ok rows) grids rows) :
    rows.flatten.map (fun row ↦ (entry row).1)
      = (grids.map fun grid ↦ grid.cells.map grid.strippedName).flatten := by
  obtain ⟨hnames, -⟩ := columns_of_grids decimals h
  have hstrip : rows.flatten.map (fun row ↦ (entry row).1)
      = (rows.flatten.map Prod.fst).map (strip ∘ strip) := by rw [List.map_map]; rfl
  rw [hstrip, hnames, List.map_flatten, List.map_map]
  refine congrArg List.flatten (List.map_congr_left fun grid _ ↦ ?_)
  rw [Function.comp_apply, List.map_map]
  exact List.map_congr_left fun cell _ ↦ (strip_name grid cell).2

/-- **All names** are different without the spaces around them, when those of each grid are and no
two prefixes are the same. -/
theorem nodup_strippedNames_iff :
    ((grids.map fun grid ↦ grid.cells.map grid.strippedName).flatten).Nodup ↔
      (∀ grid ∈ grids, grid.gridType = .twoD → grid.gridX ≤ 11 ∨ grid.gridY ≤ 10) ∧
        grids.Pairwise fun grid grid' ↦ grid.cells ≠ [] → grid'.cells ≠ [] →
          lstrip (stem grid.prefixName) ≠ lstrip (stem grid'.prefixName) := by
  rw [List.nodup_flatten, List.forall_mem_map, List.pairwise_map]
  refine and_congr (forall₂_congr fun grid _ ↦ ?_) ?_
  · rw [List.nodup_map_iff_inj_on (nodup_cells grid), ← indexText_inj_iff]
    simp only [Grid.strippedName, List.append_cancel_left_eq]
  · simp only [disjoint_strippedName_iff]

/-- **All ids** of storages without a sign are different, when those of each grid are and no storage
runs into another one. -/
theorem nodup_ids_iff (hsign : ∀ grid ∈ grids, grid.cells ≠ [] → 0 ≤ grid.storageId)
    (hstorage : grids.Pairwise fun grid grid' ↦ grid.storageId ≠ grid'.storageId) :
    ((grids.map fun grid ↦ grid.cells.map grid.id).flatten).Nodup ↔
      (∀ grid ∈ grids, grid.cells ≠ [] → grid.gridType = .twoD →
        grid.gridX ≤ (if grid.storageId = 0 then 1 else 11) ∨ grid.gridY ≤ 10) ∧
        ∀ grid ∈ grids, ∀ grid' ∈ grids, grid.cells ≠ [] → grid'.cells ≠ [] →
          grid.storageId < grid'.storageId → ¬ grid.RunsInto grid' := by
  have hnat : ∀ grid ∈ grids, grid.cells ≠ [] → ∃ s : ℕ, grid.storageId = s := fun grid hgrid hne ↦
    ⟨_, (Int.toNat_of_nonneg (hsign grid hgrid hne)).symm⟩
  -- two grids share an id if the one with the smaller storage id runs into the other
  have hmeet : ∀ grid ∈ grids, ∀ grid' ∈ grids, grid.storageId < grid'.storageId →
      (List.Disjoint (grid.cells.map grid.id) (grid'.cells.map grid'.id) ↔
        (grid.cells ≠ [] → grid'.cells ≠ [] → ¬ grid.RunsInto grid')) := by
    intro grid hgrid grid' hgrid' hlt
    constructor
    · intro hdisjoint hne hne' hruns
      obtain ⟨s, hs⟩ := hnat grid hgrid hne
      obtain ⟨s', hs'⟩ := hnat grid' hgrid' hne'
      obtain ⟨cell, hcell, cell', hcell', hid⟩ :=
        (runsInto_iff hs hs' (by omega) hne hne').mp hruns
      exact hdisjoint (List.mem_map_of_mem hcell) (hid ▸ List.mem_map_of_mem hcell')
    · intro hruns id hid hid'
      obtain ⟨cell, hcell, rfl⟩ := List.mem_map.mp hid
      obtain ⟨cell', hcell', heq⟩ := List.mem_map.mp hid'
      have hne := List.ne_nil_of_mem hcell
      have hne' := List.ne_nil_of_mem hcell'
      obtain ⟨s, hs⟩ := hnat grid hgrid hne
      obtain ⟨s', hs'⟩ := hnat grid' hgrid' hne'
      exact hruns hne hne' ((runsInto_iff hs hs' (by omega) hne hne').mpr
        ⟨cell, hcell, cell', hcell', heq.symm⟩)
  rw [List.nodup_flatten, List.forall_mem_map, List.pairwise_map]
  refine and_congr (forall₂_congr fun grid hgrid ↦ ?_) ?_
  · by_cases hne : grid.cells = []
    · rw [hne]
      exact iff_of_true List.nodup_nil fun h ↦ absurd rfl h
    · obtain ⟨s, hs⟩ := hnat grid hgrid hne
      rw [List.nodup_map_iff_inj_on (nodup_cells grid), id_inj_iff hs]
      exact (imp_iff_right hne).symm
  · constructor
    · intro hdisjoint grid hgrid grid' hgrid' hne hne' hlt
      have hsymm : Std.Symm fun grid grid' : Grid K ↦
          List.Disjoint (grid.cells.map grid.id) (grid'.cells.map grid'.id) :=
        ⟨fun _ _ h ↦ h.symm⟩
      have hdiff : grid ≠ grid' := fun heq ↦ absurd hlt (by rw [heq]; exact lt_irrefl _)
      exact (hmeet grid hgrid grid' hgrid' hlt).mp (hdisjoint.forall hgrid hgrid' hdiff) hne hne'
    · intro hruns
      refine hstorage.imp_of_mem fun {grid grid'} hgrid hgrid' hdiff ↦ ?_
      rcases lt_or_gt_of_ne hdiff with hlt | hgt
      · exact (hmeet grid hgrid grid' hgrid' hlt).mpr fun hne hne' ↦
          hruns grid hgrid grid' hgrid' hne hne' hlt
      · exact ((hmeet grid' hgrid' grid hgrid hgt).mpr fun hne hne' ↦
          hruns grid' hgrid' grid hgrid hne hne' hgt).symm

/-! ## The lookups

`get_pose_by_id` refuses a text that is not made of digits, and so an id with a sign, while
`get_name_by_id` does not ask. Among different ids both find the row that was saved. -/

omit [PyFloat K] in
/-- In a table with different ids each entry is the first one with its id. -/
theorem find_entry {rows : List (Str × Pose K)} (hids : (rows.map fun row ↦ row.2.id).Nodup)
    {row : Str × Pose K} (hrow : row ∈ rows) :
    (rows.map entry).find? (fun e ↦ e.2.id = row.2.id) = some (entry row) := by
  induction rows with
  | nil => cases hrow
  | cons first rows ih =>
    rw [List.map_cons, List.nodup_cons] at hids
    rcases List.mem_cons.mp hrow with rfl | hrow
    · rw [List.map_cons]
      exact List.find?_cons_of_pos (decide_eq_true rfl)
    · have hne : ¬ (entry first).2.id = row.2.id := fun heq ↦
        hids.1 (List.mem_map.mpr ⟨row, hrow, heq.symm⟩)
      rw [List.map_cons, List.find?_cons_of_neg (by simpa using hne)]
      exact ih hids.2 hrow

omit [PyFloat K] in
/-- An id with a sign is not looked up. -/
theorem getPoseById_intText (decimals : num.Decimals) (test : DigitTest isdigit)
    (table : List (Str × Pose K)) (id : ℤ) : getPoseById num isdigit table (intText id)
      = .ok (if 0 ≤ id then (table.find? fun e ↦ e.2.id = id).map Prod.snd else none) := by
  rw [getPoseById, strip_intText]
  cases id with
  | ofNat n =>
    have hdigit : isdigit (intText (Int.ofNat n)) = true := test.digits n
    have hpos : 0 ≤ Int.ofNat n := Int.natCast_nonneg n
    rw [if_neg (not_not.mpr hdigit), decimals.int_intText, if_pos hpos]
  | negSucc n =>
    have hdigit : isdigit (intText (Int.negSucc n)) = false := test.sign _
    rw [if_pos (by rw [hdigit]; decide), if_neg (by omega)]

omit [PyFloat K] in
/-- A name is looked up under every id. -/
theorem getNameById_intText (decimals : num.Decimals) (table : List (Str × Pose K)) (id : ℤ) :
    getNameById num table (intText id) = (table.find? fun e ↦ e.2.id = id).map Prod.fst := by
  rw [getNameById, strip_intText, decimals.int_intText]

/-- Every row is one of a cell. -/
theorem exists_cell_of_row (decimals : num.Decimals)
    (h : List.Forall₂ (fun grid rows ↦ createGridPoses num grid = .ok rows) grids rows)
    {row : Str × Pose K} (hrow : row ∈ rows.flatten) :
    ∃ grid ∈ grids, ∃ cell ∈ grid.cells, row.1 = grid.name cell ∧ row.2.id = grid.id cell := by
  obtain ⟨gridRows, hgridRows, hrow⟩ := List.mem_flatten.mp hrow
  obtain ⟨i, hi, rfl⟩ := List.getElem_of_mem hgridRows
  have hgrid := h.get (by rw [h.length_eq]; exact hi) hi
  obtain ⟨row', hrow', hcell⟩ := createGridPoses_eq_ok decimals hgrid
  rw [List.get_eq_getElem] at hrow'
  rw [hrow'] at hrow
  obtain ⟨cell, hmem, rfl⟩ := List.mem_map.mp hrow
  exact ⟨_, List.get_mem _ _, cell, hmem, hcell cell⟩

/-- No name is empty. -/
theorem strip_row_ne_nil (decimals : num.Decimals)
    (h : List.Forall₂ (fun grid rows ↦ createGridPoses num grid = .ok rows) grids rows) :
    ∀ row ∈ rows.flatten, strip (strip row.1) ≠ [] := by
  intro row hrow
  obtain ⟨grid, -, cell, -, hname, -⟩ := exists_cell_of_row decimals h hrow
  rw [hname, (strip_name grid cell).2]
  exact List.append_ne_nil_of_right_ne_nil _ (indexText_ne_nil _ _ _)

/-- **Grids in one file.** Of grids with different storage ids, all names and all ids are different,
and the file with their rows is accepted and leads to each pose by its own id, exactly when the
storages are kept apart by their numbers. -/
theorem grid_poses_iff (laws : num.Lawful) (decimals : num.Decimals) (test : DigitTest isdigit)
    (hrows : grids.mapM (createGridPoses num) = .ok rows)
    (hstorage : grids.Pairwise fun grid grid' ↦ grid.storageId ≠ grid'.storageId) :
    Addressable num isdigit rows ↔ Apart grids := by
  have hall := Loops.mapM_eq_ok_iff.mp hrows
  obtain ⟨hnames, hids⟩ := columns_of_grids decimals hall
  have hstripped := strippedNames_of_grids decimals hall
  have hnonempty := strip_row_ne_nil decimals hall
  constructor
  · rintro ⟨-, hnodup, hreached⟩
    have hloaded : (rows.flatten.map fun row ↦ (entry row).1).Nodup := by
      by_cases hnil : rows.flatten = []
      · rw [hnil]
        exact List.nodup_nil
      · obtain ⟨table, hload, -⟩ := hreached hnil
        exact ((load_poseFile_iff laws decimals hnonempty).mp hload).2.1
    rw [hstripped, nodup_strippedNames_iff] at hloaded
    obtain ⟨heleven, hprefixes⟩ := hloaded
    have hsign : ∀ grid ∈ grids, grid.cells ≠ [] → 0 ≤ grid.storageId := by
      intro grid hgrid hne
      -- the first cell of the grid is among the rows and is reached
      have hmem : grid.id (0, 0) ∈ rows.flatten.map fun row ↦ row.2.id := by
        rw [hids]
        exact List.mem_flatten.mpr
          ⟨_, List.mem_map_of_mem hgrid, List.mem_map_of_mem (zero_mem_cells hne)⟩
      obtain ⟨row, hrow, hid⟩ := List.mem_map.mp hmem
      obtain ⟨table, -, htable⟩ := hreached (List.ne_nil_of_mem hrow)
      obtain ⟨hpose, -⟩ := htable row hrow
      by_contra hneg
      rw [getPoseById_intText decimals test, if_neg] at hpose
      · cases hpose
      · rw [hid]
        exact not_le.mpr (id_neg (not_le.mp hneg) _)
    rw [hids, nodup_ids_iff hsign hstorage] at hnodup
    refine ⟨hsign, fun grid hgrid htype ↦ ?_, hprefixes, hnodup.2⟩
    -- a table that is too large has cells
    by_cases hne : grid.cells = []
    · by_contra! hsize
      have hzero : (0, 0) ∈ grid.cells := by
        refine (mem_cells_twoD htype).mpr ⟨?_, ?_⟩
        · have hpos : (0 : ℤ) < if grid.storageId = 0 then 1 else 11 := by
            split <;> decide
          exact hpos.trans hsize.1
        · exact lt_trans (by decide) hsize.2
      rw [hne] at hzero
      cases hzero
    · exact hnodup.1 grid hgrid hne htype
  · rintro ⟨hsign, hindices, hprefixes, hstorages⟩
    have hnodup : (rows.flatten.map fun row ↦ row.2.id).Nodup := by
      rw [hids, nodup_ids_iff hsign hstorage]
      exact ⟨fun grid hgrid _ ↦ hindices grid hgrid, hstorages⟩
    have hloaded : (rows.flatten.map fun row ↦ (entry row).1).Nodup := by
      rw [hstripped, nodup_strippedNames_iff]
      refine ⟨fun grid hgrid htype ↦ (hindices grid hgrid htype).imp_left fun hx ↦ hx.trans ?_,
        hprefixes⟩
      split <;> decide
    -- names that differ when they are stripped differed before
    have hraw : (rows.flatten.map Prod.fst).Nodup := by
      have hmap : rows.flatten.map (fun row ↦ (entry row).1)
          = (rows.flatten.map Prod.fst).map (strip ∘ strip) := by rw [List.map_map]; rfl
      rw [hmap] at hloaded
      exact hloaded.of_map _
    refine ⟨hraw, hnodup, fun hne ↦ ⟨rows.flatten.map entry,
      (load_poseFile_iff laws decimals hnonempty).mpr ⟨hne, hloaded, rfl⟩, fun row hrow ↦ ?_⟩⟩
    obtain ⟨grid, hgrid, cell, hcell, hname, hid⟩ := exists_cell_of_row decimals hall hrow
    have hpos : 0 ≤ row.2.id := by
      rw [hid]
      exact id_nonneg (hsign grid hgrid (List.ne_nil_of_mem hcell)) cell
    have hfind := find_entry hnodup hrow
    rw [getPoseById_intText decimals test, if_pos hpos, getNameById_intText decimals, hfind]
    refine ⟨rfl, congrArg some ?_⟩
    change strip (strip row.1) = strip row.1
    rw [hname, (strip_name grid cell).2, (strip_name grid cell).1]

/-! ## Two files

The laws of the numbers are met by the rationals, with a text for each of them that is no integer.
-/

/-- Integers in decimals, with a sign or not. -/
def parseInt : Str → Option ℤ
  | '-' :: s => (parseNat s).map Neg.neg
  | s => parseNat s

/-- Zero and one are written as floats. For the others any text will do that is none of an integer.
-/
def reprRat (q : ℚ) : Str :=
  if q = 0 then "0.0".toList else if q = 1 then "1.0".toList
  else 'r' :: digits (Encodable.encode q)

def parseRat (s : Str) : Option ℚ :=
  if s = "0.0".toList then some 0 else if s = "1.0".toList then some 1
  else
    match s with
    | 'r' :: t => (parseNat t).bind fun n ↦ Encodable.decode n.toNat
    | _ => none

def rationals : Numbers ℚ := ⟨parseInt, parseRat, reprRat⟩

theorem parseNat_digits {s : Str} (hne : s ≠ []) (h : ∀ c ∈ s, c.isDigit = true) :
    parseNat s = some (Decimal.value s : ℤ) :=
  if_pos ⟨hne, List.all_eq_true.mpr h⟩

theorem parseNat_of_notDigit {c : Char} (h : c.isDigit = false) (s : Str) :
    parseNat (c :: s) = none := by
  refine if_neg ?_
  rintro ⟨-, hall⟩
  rw [List.all_cons, h] at hall
  cases hall

theorem parseInt_of_ne {c : Char} (h : c ≠ '-') (s : Str) :
    parseInt (c :: s) = parseNat (c :: s) := by
  rw [parseInt]
  rintro t heq
  exact h (List.cons.inj heq).1

theorem rationals_decimals : rationals.Decimals where
  int_digits s hne h := by
    obtain ⟨c, s, rfl⟩ := List.exists_cons_of_ne_nil hne
    have hsign : c ≠ '-' := by
      rintro rfl
      exact absurd (h '-' List.mem_cons_self) (by decide)
    exact (parseInt_of_ne hsign s).trans (parseNat_digits hne h)
  int_sign s hne h := congrArg (Option.map Neg.neg) (parseNat_digits hne h)

theorem rationals_lawful : rationals.Lawful where
  int_digits n := by
    have hparse := rationals_decimals.int_digits _ (digits_ne_nil n) (isDigit_digits n)
    rwa [value_digits] at hparse
  float_repr x := by
    change parseRat (reprRat x) = some x
    rw [reprRat]
    split
    · rename_i hzero
      rw [hzero]
      rfl
    · split
      · rename_i hone
        rw [hone]
        rfl
      · have hzero : 'r' :: digits (Encodable.encode x) ≠ "0.0".toList := fun h ↦
          absurd (List.cons.inj h).1 (by decide)
        have hone : 'r' :: digits (Encodable.encode x) ≠ "1.0".toList := fun h ↦
          absurd (List.cons.inj h).1 (by decide)
        rw [parseRat, if_neg hzero, if_neg hone]
        rw [parseNat_digits (digits_ne_nil _) (isDigit_digits _), value_digits, Option.bind_some,
          Int.toNat_natCast, Encodable.encodek]
  int_repr x := by
    change parseInt (reprRat x) = none
    rw [reprRat]
    split
    · decide
    · split
      · decide
      · rw [parseInt_of_ne (by decide), parseNat_of_notDigit (by decide)]
  repr_chars x := by
    change ∀ c ∈ reprRat x, _
    rw [reprRat]
    split
    · exact zeroOne_lawful.repr_chars false
    · split
      · exact zeroOne_lawful.repr_chars true
      · exact List.forall_mem_cons.mpr ⟨by decide, digits_chars _⟩
  int_z s := by
    change parseInt ('z' :: s) = none
    rw [parseInt_of_ne (by decide), parseNat_of_notDigit (by decide)]
  float_z s := by
    have hzero : 'z' :: s ≠ "0.0".toList := fun h ↦ absurd (List.cons.inj h).1 (by decide)
    have hone : 'z' :: s ≠ "1.0".toList := fun h ↦ absurd (List.cons.inj h).1 (by decide)
    change parseRat ('z' :: s) = none
    rw [parseRat, if_neg hzero, if_neg hone]
    exact fun t h ↦ absurd (List.cons.inj h).1 (by decide)

/-- A pose to start from, as it is read from a file. -/
def originRow : List (Str × Cell) := coordinateColumns.map fun column ↦
  (column.toList, .text (if column = "qw" then "1.0" else "0.0").toList)

theorem readBase_originRow : readBase rationals originRow = .ok ⟨0, 0, 0, 0, 0, 0, 1⟩ := by
  decide +kernel

/-- A table of as many cells both ways. -/
def bodyGrid (size : ℤ) : Grid ℚ :=
  ⟨.twoD, originRow, "body_storage".toList, 5, size, size, 42 / 1000, 42 / 1000⟩

/-- A row of eight cells. -/
def resistGrid : Grid ℚ := ⟨.oneD, originRow, "resist_storage".toList, 6, 8, 0, 16 / 1000, 0⟩

def asciiDigits (s : Str) : Bool := s ≠ [] ∧ s.all Char.isDigit

theorem asciiDigits_test : DigitTest asciiDigits where
  digits n := decide_eq_true ⟨digits_ne_nil n, List.all_eq_true.mpr (isDigit_digits n)⟩
  sign s := by
    refine decide_eq_false ?_
    rintro ⟨-, hall⟩
    rw [List.all_cons, Bool.and_eq_true] at hall
    exact absurd hall.1 (by decide)

theorem bodyGrid_created (size : ℤ) :
    ∃ rows, createGridPoses rationals (bodyGrid size) = .ok rows :=
  createGridPoses_isOk rationals_decimals readBase_originRow fun h ↦
    absurd h (by decide : GridType.twoD ≠ .oneD)

theorem resistGrid_created : ∃ rows, createGridPoses rationals resistGrid = .ok rows := by
  refine createGridPoses_isOk rationals_decimals readBase_originRow fun _ ↦ ?_
  have hx : isZero resistGrid.offsetX = false := by
    refine decide_eq_false ?_
    change ¬ |(16 / 1000 : ℚ)| < 1 / 10 ^ 12
    norm_num
  have hy : isZero resistGrid.offsetY = true := by
    refine decide_eq_true ?_
    change |(0 : ℚ)| < 1 / 10 ^ 12
    norm_num
  rw [hx, hy]
  decide

theorem apart_body_resist : Apart [bodyGrid 3, resistGrid] where
  storage := by
    rintro grid hgrid -
    rcases List.mem_pair.mp hgrid with rfl | rfl <;> decide
  indices := by
    rintro grid hgrid -
    rcases List.mem_pair.mp hgrid with rfl | rfl <;> decide
  prefixes := by
    refine List.pairwise_pair.mpr fun _ _ ↦ ?_
    decide
  storages := by
    rintro grid hgrid grid' hgrid' - - hlt hruns
    rcases List.mem_pair.mp hgrid with rfl | rfl <;> rcases List.mem_pair.mp hgrid' with rfl | rfl
    · exact absurd hlt (by decide)
    · -- every id with digits behind a five is fifty at least
      rcases hruns with ⟨w, -, hs, -⟩ | ⟨x, hs, -⟩ | ⟨x, w, -, hs, -⟩
      · have hsix : 6 = glue 5 w := hs
        have hle := ten_mul_le_glue 5 w
        omega
      · have hsix : 6 = glue 5 x := hs
        have hle := ten_mul_le_glue 5 x
        omega
      · have hsix : 6 = glue (glue 5 x) w := hs
        have hle := ten_mul_le_glue 5 x
        have hle' := ten_mul_le_glue (glue 5 x) w
        omega
    · exact absurd hlt (by decide)
    · exact absurd hlt (by decide)

/-- A table of bodies and a row of resistors are all found. -/
theorem body_and_resist_addressable : ∃ rows,
    [bodyGrid 3, resistGrid].mapM (createGridPoses rationals) = .ok rows ∧
      Addressable rationals asciiDigits rows := by
  obtain ⟨bodies, hbodies⟩ := bodyGrid_created 3
  obtain ⟨resists, hresists⟩ := resistGrid_created
  have hrows : [bodyGrid 3, resistGrid].mapM (createGridPoses rationals)
      = .ok [bodies, resists] := Loops.mapM_eq_ok_iff.mpr (.cons hbodies (.cons hresists .nil))
  exact ⟨_, hrows, (grid_poses_iff rationals_lawful rationals_decimals asciiDigits_test hrows
    (by decide)).mpr apart_body_resist⟩

/-- In a table of twelve by twelve bodies the cells 1 11 and 11 1 have one name and one id, and the
file is not accepted. -/
theorem twelve_bodies_collide : ∃ rows,
    [bodyGrid 12].mapM (createGridPoses rationals) = .ok rows ∧
      ¬ (rows.flatten.map Prod.fst).Nodup ∧ ¬ (rows.flatten.map fun row ↦ row.2.id).Nodup ∧
        ∀ table, loadCsvPoses rationals (some (poseFile rationals rows)) ≠ .ok table := by
  obtain ⟨bodies, hbodies⟩ := bodyGrid_created 12
  have hall : List.Forall₂ (fun grid rows ↦ createGridPoses rationals grid = .ok rows)
      [bodyGrid 12] [bodies] := .cons hbodies .nil
  obtain ⟨hnames, hids⟩ := columns_of_grids rationals_decimals hall
  have hstripped := strippedNames_of_grids rationals_decimals hall
  have hcollide : ¬ (∀ cell ∈ (bodyGrid 12).cells, ∀ cell' ∈ (bodyGrid 12).cells,
      indexText .twoD cell.1 cell.2 = indexText .twoD cell'.1 cell'.2 → cell = cell') := by
    intro hinj
    have hsize := indexText_inj_iff.mp hinj rfl
    exact absurd hsize (by decide)
  have hcells := nodup_cells (bodyGrid 12)
  refine ⟨_, Loops.mapM_eq_ok_iff.mpr hall, ?_, ?_, fun table hload ↦ ?_⟩
  · rw [hnames, List.map_singleton, List.flatten_singleton, List.nodup_map_iff_inj_on hcells]
    exact fun hinj ↦ hcollide fun cell hcell cell' hcell' htext ↦
      hinj cell hcell cell' hcell' (congrArg (_ ++ ·) htext)
  · rw [hids, List.map_singleton, List.flatten_singleton, List.nodup_map_iff_inj_on hcells]
    refine fun hinj ↦ hcollide fun cell hcell cell' hcell' htext ↦ ?_
    obtain ⟨hlen, hvalue⟩ := indexText_eq_iff.mp htext
    have hfive : (bodyGrid 12).storageId = (5 : ℕ) := rfl
    have htype : (bodyGrid 12).gridType = .twoD := rfl
    refine hinj cell hcell cell' hcell' ?_
    rw [id_eq hfive, id_eq hfive, htype, hlen, hvalue]
  · have hnonempty := strip_row_ne_nil rationals_decimals hall
    have hnodup := ((load_poseFile_iff rationals_lawful rationals_decimals hnonempty).mp hload).2.1
    rw [hstripped, nodup_strippedNames_iff] at hnodup
    have hsize := hnodup.1 _ List.mem_cons_self rfl
    exact absurd hsize (by decide)

end VzletUr3e.Poses
