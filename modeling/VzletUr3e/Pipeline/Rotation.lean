import VzletUr3e.Library.QuaternionMatrix
import VzletUr3e.Pipeline.Motion

/-!
# Quaternions and their matrices

`rotation_matrix_to_quaternion` has four branches, and each divides by a root. Over the reals, the
branch that is entered has a root of at least one, so that it gives back every rotation, half turns
included.
-/

namespace VzletUr3e.Pipeline

open Control PyFloat QuaternionMatrix

section Float

variable {K : Type} [PyFloat K]

attribute [local instance] neZero_three

/-- `quaternion_to_rotation_matrix`. -/
def quaternionToRotationMatrix (q : Quaternion K) : Matrix3 K :=
  let norm := sqrt (q.x * q.x + q.y * q.y + q.z * q.z + q.w * q.w)
  let x := q.x / norm
  let y := q.y / norm
  let z := q.z / norm
  let w := q.w / norm
  ![![lit 1 - lit 2 * (y * y + z * z), lit 2 * (x * y - z * w), lit 2 * (x * z + y * w)],
    ![lit 2 * (x * y + z * w), lit 1 - lit 2 * (x * x + z * z), lit 2 * (y * z - x * w)],
    ![lit 2 * (x * z - y * w), lit 2 * (y * z + x * w), lit 1 - lit 2 * (x * x + y * y)]]

/-- The branch of `rotation_matrix_to_quaternion` that a matrix enters. -/
def branch (m : Matrix3 K) : Component :=
  if lt (lit 0) (m 0 0 + m 1 1 + m 2 2) then .w
  else if lt (m 1 1) (m 0 0) ∧ lt (m 2 2) (m 0 0) then .x
  else if lt (m 2 2) (m 1 1) then .y
  else .z

/-- What the branch takes the root of. -/
def radicand (m : Matrix3 K) : Component → K
  | .w => m 0 0 + m 1 1 + m 2 2 + lit 1
  | .x => lit 1 + m 0 0 - m 1 1 - m 2 2
  | .y => lit 1 + m 1 1 - m 0 0 - m 2 2
  | .z => lit 1 + m 2 2 - m 0 0 - m 1 1

/-- What the branch divides by. -/
def divisor (m : Matrix3 K) (c : Component) : K := sqrt (radicand m c) * lit 2

/-- The quaternion of a branch, with its divisor. -/
def branchQuaternion (m : Matrix3 K) (s : K) : Component → Quaternion K
  | .w => { w := lit (1 / 4) * s, x := (m 2 1 - m 1 2) / s, y := (m 0 2 - m 2 0) / s,
            z := (m 1 0 - m 0 1) / s }
  | .x => { w := (m 2 1 - m 1 2) / s, x := lit (1 / 4) * s, y := (m 0 1 + m 1 0) / s,
            z := (m 0 2 + m 2 0) / s }
  | .y => { w := (m 0 2 - m 2 0) / s, x := (m 0 1 + m 1 0) / s, y := lit (1 / 4) * s,
            z := (m 1 2 + m 2 1) / s }
  | .z => { w := (m 1 0 - m 0 1) / s, x := (m 0 2 + m 2 0) / s, y := (m 1 2 + m 2 1) / s,
            z := lit (1 / 4) * s }

/-- The conversion takes the root and the divisor of its branch, and no other. -/
theorem rotationMatrixToQuaternion_eq (m : Matrix3 K) :
    rotationMatrixToQuaternion m = branchQuaternion m (divisor m (branch m)) (branch m) := by
  rw [rotationMatrixToQuaternion, branch]
  split_ifs
  · rfl
  · rfl
  · rfl
  · rfl

def Quaternion.get (q : Quaternion K) : Component → K
  | .w => q.w
  | .x => q.x
  | .y => q.y
  | .z => q.z

omit [PyFloat K] in
theorem Quaternion.get_injective {q q' : Quaternion K} (h : q.get = q'.get) : q = q' := by
  obtain ⟨x, y, z, w⟩ := q
  obtain ⟨x', y', z', w'⟩ := q'
  obtain rfl : x = x' := congrFun h .x
  obtain rfl : y = y' := congrFun h .y
  obtain rfl : z = z' := congrFun h .z
  obtain rfl : w = w' := congrFun h .w
  rfl

end Float

/-! ## Over the reals -/

/-- `|q|`. -/
noncomputable def Quaternion.abs (q : Quaternion ℝ) : ℝ :=
  √(q.x * q.x + q.y * q.y + q.z * q.z + q.w * q.w)

/-- `q / r`. -/
noncomputable def Quaternion.divBy (q : Quaternion ℝ) (r : ℝ) : Quaternion ℝ :=
  ⟨q.x / r, q.y / r, q.z / r, q.w / r⟩

/-- The entries by rows, as a matrix. -/
abbrev Matrix3.mat (m : Matrix3 ℝ) : Matrix (Fin 3) (Fin 3) ℝ := Matrix.of m

theorem lit_zero : (lit 0 : ℝ) = 0 := Rat.cast_zero

theorem lit_one : (lit 1 : ℝ) = 1 := Rat.cast_one

theorem lit_two : (lit 2 : ℝ) = 2 := Rat.cast_ofNat 2

theorem branch_eq_pivot (m : Matrix3 ℝ) : branch m = pivot m.mat := by
  rw [branch, pivot]
  simp only [lt_eq_true_iff, lit_zero, Matrix.of_apply]
  congr

theorem radicand_eq_outer (m : Matrix3 ℝ) (c : Component) : radicand m c = outer m.mat c c := by
  cases c <;> simp only [radicand, outer, lit_one, Matrix.of_apply]
  case w => ring

/-- The root of every branch is that of a positive number. -/
theorem radicand_branch_pos (m : Matrix3 ℝ) : 0 < radicand m (branch m) := by
  rw [radicand_eq_outer, branch_eq_pivot]
  exact outer_pivot_pos m.mat

theorem divisor_eq (m : Matrix3 ℝ) (c : Component) : divisor m c = 2 * √(outer m.mat c c) := by
  rw [divisor, radicand_eq_outer, lit_two, mul_comm]
  rfl

/-- Each branch divides its own row. -/
theorem get_branchQuaternion (m : Matrix3 ℝ) {c : Component} (hc : 0 < outer m.mat c c)
    (b : Component) : (branchQuaternion m (divisor m c) c).get b = fromRow m.mat c b := by
  have hself : lit (1 / 4) * divisor m c = fromRow m.mat c c := by
    have hquarter : (lit (1 / 4) : ℝ) = 1 / 4 := by
      change ((1 / 4 : ℚ) : ℝ) = 1 / 4
      norm_num
    rw [fromRow_self hc, divisor_eq, hquarter]
    ring
  rw [fromRow, ← divisor_eq]
  rw [fromRow, ← divisor_eq] at hself
  cases c <;> cases b <;> first | exact hself | rfl

theorem get_rotationMatrixToQuaternion (m : Matrix3 ℝ) :
    (rotationMatrixToQuaternion m).get = fromRow m.mat (pivot m.mat) := by
  funext b
  rw [rotationMatrixToQuaternion_eq, branch_eq_pivot]
  exact get_branchQuaternion m (outer_pivot_pos m.mat) b

/-- The matrix of a quaternion is that of the unit quaternion in its direction. -/
theorem quaternionToRotationMatrix_eq (q : Quaternion ℝ) :
    (quaternionToRotationMatrix q).mat = rotationMatrix (q.divBy q.abs).get := by
  have hsqrt : sqrt (q.x * q.x + q.y * q.y + q.z * q.z + q.w * q.w) = q.abs := rfl
  rw [quaternionToRotationMatrix, rotationMatrix, Matrix3.mat, hsqrt]
  simp only [lit_one, lit_two]
  rfl

theorem abs_eq (q : Quaternion ℝ) : q.abs = √(normSq q.get) := by
  rw [Quaternion.abs, normSq]
  congr 1
  change q.x * q.x + q.y * q.y + q.z * q.z + q.w * q.w
    = q.w * q.w + q.x * q.x + q.y * q.y + q.z * q.z
  ring

theorem Quaternion.divBy_one (q : Quaternion ℝ) : q.divBy 1 = q := by
  rw [divBy, div_one, div_one, div_one, div_one]

/-- A quaternion other than zero has a direction. -/
theorem normSq_divBy_abs {q : Quaternion ℝ} (hq : q ≠ ⟨0, 0, 0, 0⟩) :
    normSq (q.divBy q.abs).get = 1 := by
  have hx := mul_self_nonneg q.x
  have hy := mul_self_nonneg q.y
  have hz := mul_self_nonneg q.z
  have hw := mul_self_nonneg q.w
  have habs : q.abs * q.abs = q.x * q.x + q.y * q.y + q.z * q.z + q.w * q.w :=
    Real.mul_self_sqrt (by linarith)
  have hne : q.abs ≠ 0 := by
    intro hzero
    rw [hzero, mul_zero] at habs
    refine hq (Quaternion.get_injective (funext fun c ↦ ?_))
    cases c with
    | w => exact mul_self_eq_zero.mp (show q.w * q.w = 0 by linarith)
    | x => exact mul_self_eq_zero.mp (show q.x * q.x = 0 by linarith)
    | y => exact mul_self_eq_zero.mp (show q.y * q.y = 0 by linarith)
    | z => exact mul_self_eq_zero.mp (show q.z * q.z = 0 by linarith)
  change q.w / q.abs * (q.w / q.abs) + q.x / q.abs * (q.x / q.abs) + q.y / q.abs * (q.y / q.abs)
    + q.z / q.abs * (q.z / q.abs) = 1
  field_simp
  linear_combination -habs

instance : Neg (Quaternion ℝ) := ⟨fun q ↦ ⟨-q.x, -q.y, -q.z, -q.w⟩⟩

/-- The quaternion of a rotation has length one. -/
theorem abs_rotationMatrixToQuaternion {R : Matrix3 ℝ} (h : Orthonormal R.mat) :
    (rotationMatrixToQuaternion R).abs = 1 := by
  rw [abs_eq, get_rotationMatrixToQuaternion, h.normSq_fromRow (outer_pivot_pos R.mat),
    Real.sqrt_one]

/-- **A rotation comes back.** -/
theorem quaternionToRotationMatrix_of_orthonormal {R : Matrix3 ℝ} (h : Orthonormal R.mat) :
    quaternionToRotationMatrix (rotationMatrixToQuaternion R) = R := by
  apply Matrix.of.injective
  rw [show Matrix.of (quaternionToRotationMatrix _) = _ from quaternionToRotationMatrix_eq _,
    abs_rotationMatrixToQuaternion h, Quaternion.divBy_one, get_rotationMatrixToQuaternion,
    h.rotationMatrix_fromRow (outer_pivot_pos R.mat)]

/-- **A quaternion comes back** as the one of length one in its direction, up to its sign. -/
theorem rotationMatrixToQuaternion_of_ne_zero {q : Quaternion ℝ} (hq : q ≠ ⟨0, 0, 0, 0⟩) :
    rotationMatrixToQuaternion (quaternionToRotationMatrix q) = q.divBy q.abs ∨
      rotationMatrixToQuaternion (quaternionToRotationMatrix q) = -q.divBy q.abs := by
  have hget := get_rotationMatrixToQuaternion (quaternionToRotationMatrix q)
  have hpivot := outer_pivot_pos (quaternionToRotationMatrix q).mat
  rw [quaternionToRotationMatrix_eq] at hget hpivot
  rcases fromRow_rotationMatrix (normSq_divBy_abs hq) hpivot with hrow | hrow
  · exact .inl (Quaternion.get_injective (hget.trans hrow))
  · refine .inr (Quaternion.get_injective (hget.trans (hrow.trans (funext fun c ↦ ?_))))
    cases c <;> rfl

/-- **Matrices and quaternions.** For a rotation, the branch that is entered takes the root of a
positive number and divides by one other than zero, and gives a unit quaternion with that matrix.
Every quaternion other than zero comes back from its matrix with length one, up to its sign. -/
theorem rotation_matrix_to_quaternion_inverse :
    (∀ R : Matrix3 ℝ, R.mat ∈ Matrix.specialOrthogonalGroup (Fin 3) ℝ →
      0 < radicand R (branch R) ∧ divisor R (branch R) ≠ 0 ∧
        (rotationMatrixToQuaternion R).abs = 1 ∧
        quaternionToRotationMatrix (rotationMatrixToQuaternion R) = R) ∧
      ∀ q : Quaternion ℝ, q ≠ ⟨0, 0, 0, 0⟩ →
        rotationMatrixToQuaternion (quaternionToRotationMatrix q) = q.divBy q.abs ∨
          rotationMatrixToQuaternion (quaternionToRotationMatrix q) = -q.divBy q.abs := by
  refine ⟨fun R hR ↦ ?_, fun q hq ↦ rotationMatrixToQuaternion_of_ne_zero hq⟩
  have hrotation := orthonormal_of_mem hR
  refine ⟨radicand_branch_pos R, ?_, abs_rotationMatrixToQuaternion hrotation,
    quaternionToRotationMatrix_of_orthonormal hrotation⟩
  rw [divisor_eq, branch_eq_pivot]
  exact mul_ne_zero two_ne_zero (Real.sqrt_pos.mpr (outer_pivot_pos R.mat)).ne'

/-! ## Facing the ground -/

/-- The half turn about the first axis. -/
def halfTurn : Matrix3 ℝ := ![![1, 0, 0], ![0, -1, 0], ![0, 0, -1]]

theorem halfTurn_mem : halfTurn.mat ∈ Matrix.specialOrthogonalGroup (Fin 3) ℝ := by
  refine Matrix.mem_specialOrthogonalGroup_iff.mpr
    ⟨(Matrix.mem_orthogonalGroup_iff (Fin 3) ℝ).mpr ?_, ?_⟩
  · ext i j
    fin_cases i <;> fin_cases j <;>
      simp [halfTurn, Matrix.mul_apply, Fin.sum_univ_three]
  · rw [Matrix.det_fin_three]
    simp [halfTurn]

/-- The half turn has a negative trace. -/
theorem rotation_matrix_to_quaternion_half_turn :
    0 < radicand halfTurn (branch halfTurn) ∧
      (rotationMatrixToQuaternion (quaternionToRotationMatrix ⟨0, 0, 0, 2⟩)
          = (⟨0, 0, 0, 2⟩ : Quaternion ℝ).divBy (⟨0, 0, 0, 2⟩ : Quaternion ℝ).abs ∨
        rotationMatrixToQuaternion (quaternionToRotationMatrix ⟨0, 0, 0, 2⟩)
          = -(⟨0, 0, 0, 2⟩ : Quaternion ℝ).divBy (⟨0, 0, 0, 2⟩ : Quaternion ℝ).abs) :=
  ⟨(rotation_matrix_to_quaternion_inverse.1 halfTurn halfTurn_mem).1,
    rotation_matrix_to_quaternion_inverse.2 _ (by simp)⟩

/-- **The tool is turned to the ground**: its axis points down, whatever the orientation before. -/
theorem quaternionToRotationMatrix_makeTool0ZFaceGroundOrientation (q : Quaternion ℝ) :
    quaternionToRotationMatrix (makeTool0ZFaceGroundOrientation q) = halfTurn := by
  have hminus : (lit (-1) : ℝ) = -1 := by
    change ((-1 : ℚ) : ℝ) = -1
    norm_num
  -- the first axis is the product of the two others, which already has length one
  have hx : cross ![lit 0, lit (-1), lit 0] ![lit 0, lit 0, lit (-1)]
      = (![1, 0, 0] : Fin 3 → ℝ) := by
    ext i
    fin_cases i <;> simp [cross, lit_zero, hminus]
  have hlength : norm (![1, 0, 0] : Fin 3 → ℝ) = 1 := by
    change √((1 : ℝ) * 1 + 0 * 0 + 0 * 0) = 1
    norm_num
  have hcolumns : makeTool0ZFaceGroundOrientation q = rotationMatrixToQuaternion halfTurn := by
    rw [makeTool0ZFaceGroundOrientation]
    congr 1
    ext i j
    simp only [hx, hlength]
    fin_cases i <;> fin_cases j <;> simp [halfTurn, lit_zero, hminus]
  rw [hcolumns, quaternionToRotationMatrix_of_orthonormal (orthonormal_of_mem halfTurn_mem)]

end VzletUr3e.Pipeline
