import Mathlib

/-!
# Quaternions and rotation matrices

A unit quaternion and its negative stand for the same rotation. The way back from the matrix goes
through the products of the components: four times each of them is linear in the entries
(`outer`), and for a rotation these sixteen numbers have rank one (`outer_mul_outer`). So each row
of them is the quaternion up to a factor, and any row may be taken whose own square is not zero.

The pivot is the row that is told by the signs of the trace and of the differences on the diagonal.
Its square is at least one, whatever the matrix (`one_le_outer_pivot`).
-/

namespace QuaternionMatrix

universe u

theorem neZero_three : NeZero 3 := ⟨by decide⟩

-- The numerals of `Fin 3` in the definitions name this fact instead of proving it once more.
attribute [local instance] neZero_three

/-- The components of a quaternion. -/
inductive Component
  | w
  | x
  | y
  | z
deriving DecidableEq, Repr

open Component

section Ring

variable {R : Type u} [CommRing R]

/-- The sum of the squares. -/
def normSq (u : Component → R) : R := u w * u w + u x * u x + u y * u y + u z * u z

/-- The matrix of a unit quaternion. -/
def rotationMatrix (u : Component → R) : Matrix (Fin 3) (Fin 3) R :=
  !![1 - 2 * (u y * u y + u z * u z), 2 * (u x * u y - u z * u w), 2 * (u x * u z + u y * u w);
     2 * (u x * u y + u z * u w), 1 - 2 * (u x * u x + u z * u z), 2 * (u y * u z - u x * u w);
     2 * (u x * u z - u y * u w), 2 * (u y * u z + u x * u w), 1 - 2 * (u x * u x + u y * u y)]

/-- Four times the products of the components, by the entries of the matrix. -/
def outer (m : Matrix (Fin 3) (Fin 3) R) : Component → Component → R
  | w, w => 1 + m 0 0 + m 1 1 + m 2 2
  | x, x => 1 + m 0 0 - m 1 1 - m 2 2
  | y, y => 1 + m 1 1 - m 0 0 - m 2 2
  | z, z => 1 + m 2 2 - m 0 0 - m 1 1
  | w, x | x, w => m 2 1 - m 1 2
  | w, y | y, w => m 0 2 - m 2 0
  | w, z | z, w => m 1 0 - m 0 1
  | x, y | y, x => m 0 1 + m 1 0
  | x, z | z, x => m 0 2 + m 2 0
  | y, z | z, y => m 1 2 + m 2 1

variable {m : Matrix (Fin 3) (Fin 3) R} {u : Component → R}

theorem sum_outer : outer m w w + outer m x x + outer m y y + outer m z z = 4 := by
  simp only [outer]
  ring

/-- The entries of the matrix of a unit quaternion. -/
theorem outer_rotationMatrix (hu : normSq u = 1) (a b : Component) :
    outer (rotationMatrix u) a b = 4 * (u a * u b) := by
  rw [normSq] at hu
  cases a <;> cases b <;> simp only [outer, rotationMatrix, Matrix.of_apply, Matrix.cons_val]
  case w.w => linear_combination -4 * hu
  all_goals ring

/-! ## Rank one -/

/-- The equations of a rotation: its rows and its columns are orthonormal, and each entry is its own
cofactor. -/
structure Orthonormal (m : Matrix (Fin 3) (Fin 3) R) : Prop where
  row : ∀ i j, m i 0 * m j 0 + m i 1 * m j 1 + m i 2 * m j 2 = if i = j then 1 else 0
  col : ∀ i j, m 0 i * m 0 j + m 1 i * m 1 j + m 2 i * m 2 j = if i = j then 1 else 0
  cofactor : ∀ i j, m i j
    = m (i + 1) (j + 1) * m (i + 2) (j + 2) - m (i + 1) (j + 2) * m (i + 2) (j + 1)

theorem orthonormal_of_mem (h : m ∈ Matrix.specialOrthogonalGroup (Fin 3) R) : Orthonormal m := by
  obtain ⟨horth, hdet⟩ := Matrix.mem_specialOrthogonalGroup_iff.mp h
  have hrows := (Matrix.mem_orthogonalGroup_iff (Fin 3) R).mp horth
  have hcols := (Matrix.mem_orthogonalGroup_iff' (Fin 3) R).mp horth
  -- the adjugate is the transpose, as both are inverse to the matrix
  have hadjugate : m.adjugate = m.transpose := by
    calc m.adjugate = m.adjugate * (m * m.transpose) := by rw [hrows, mul_one]
      _ = m.transpose := by rw [← mul_assoc, Matrix.adjugate_mul, hdet, one_smul, one_mul]
  refine ⟨fun i j ↦ ?_, fun i j ↦ ?_, fun i j ↦ ?_⟩
  · have hij := congrFun (congrFun hrows i) j
    rwa [Matrix.mul_apply, Fin.sum_univ_three, Matrix.one_apply] at hij
  · have hij := congrFun (congrFun hcols i) j
    rwa [Matrix.mul_apply, Fin.sum_univ_three, Matrix.one_apply] at hij
  · have hij : m i j = m.adjugate j i := by rw [hadjugate, Matrix.transpose_apply]
    rw [hij, Matrix.adjugate_fin_three]
    fin_cases i <;> fin_cases j <;> simp <;> ring

/-- **The products have rank one.** -/
theorem Orthonormal.outer_mul_outer (h : Orthonormal m) (a b c : Component) :
    outer m a b * outer m a c = outer m a a * outer m b c := by
  have r00 : m 0 0 * m 0 0 + m 0 1 * m 0 1 + m 0 2 * m 0 2 = 1 := h.row 0 0
  have r11 : m 1 0 * m 1 0 + m 1 1 * m 1 1 + m 1 2 * m 1 2 = 1 := h.row 1 1
  have r22 : m 2 0 * m 2 0 + m 2 1 * m 2 1 + m 2 2 * m 2 2 = 1 := h.row 2 2
  have r01 : m 0 0 * m 1 0 + m 0 1 * m 1 1 + m 0 2 * m 1 2 = 0 := h.row 0 1
  have r02 : m 0 0 * m 2 0 + m 0 1 * m 2 1 + m 0 2 * m 2 2 = 0 := h.row 0 2
  have r12 : m 1 0 * m 2 0 + m 1 1 * m 2 1 + m 1 2 * m 2 2 = 0 := h.row 1 2
  have k00 : m 0 0 * m 0 0 + m 1 0 * m 1 0 + m 2 0 * m 2 0 = 1 := h.col 0 0
  have k11 : m 0 1 * m 0 1 + m 1 1 * m 1 1 + m 2 1 * m 2 1 = 1 := h.col 1 1
  have k01 : m 0 0 * m 0 1 + m 1 0 * m 1 1 + m 2 0 * m 2 1 = 0 := h.col 0 1
  have k02 : m 0 0 * m 0 2 + m 1 0 * m 1 2 + m 2 0 * m 2 2 = 0 := h.col 0 2
  have k12 : m 0 1 * m 0 2 + m 1 1 * m 1 2 + m 2 1 * m 2 2 = 0 := h.col 1 2
  have c00 : m 0 0 = m 1 1 * m 2 2 - m 1 2 * m 2 1 := h.cofactor 0 0
  have c01 : m 0 1 = m 1 2 * m 2 0 - m 1 0 * m 2 2 := h.cofactor 0 1
  have c02 : m 0 2 = m 1 0 * m 2 1 - m 1 1 * m 2 0 := h.cofactor 0 2
  have c10 : m 1 0 = m 2 1 * m 0 2 - m 2 2 * m 0 1 := h.cofactor 1 0
  have c11 : m 1 1 = m 2 2 * m 0 0 - m 2 0 * m 0 2 := h.cofactor 1 1
  have c12 : m 1 2 = m 2 0 * m 0 1 - m 2 1 * m 0 0 := h.cofactor 1 2
  have c20 : m 2 0 = m 0 1 * m 1 2 - m 0 2 * m 1 1 := h.cofactor 2 0
  have c21 : m 2 1 = m 0 2 * m 1 0 - m 0 0 * m 1 2 := h.cofactor 2 1
  have c22 : m 2 2 = m 0 0 * m 1 1 - m 0 1 * m 1 0 := h.cofactor 2 2
  cases a <;> cases b <;> cases c <;> simp only [outer]
  case w.x.x | x.w.w => linear_combination -2 * c00 + r11 + r22 - k00
  case w.x.y | w.y.x => linear_combination -c01 - c10 - r01 - k01
  case w.x.z | w.z.x => linear_combination -c02 - c20 - r02 - k02
  case w.y.y | y.w.w => linear_combination -2 * c11 + r00 + r22 - k11
  case w.y.z | w.z.y => linear_combination -c12 - c21 - r12 - k12
  case w.z.z | z.w.w => linear_combination -2 * c22 - r22 + k00 + k11
  case x.w.y | x.y.w => linear_combination -c02 + c20 + r02 - k02
  case x.w.z | x.z.w => linear_combination c01 - c10 - r01 + k01
  case x.y.y | y.x.x => linear_combination 2 * c22 - r22 + k00 + k11
  case x.y.z | x.z.y => linear_combination -c12 - c21 + r12 + k12
  case x.z.z | z.x.x => linear_combination 2 * c11 + r00 + r22 - k11
  case y.w.x | y.x.w => linear_combination c12 - c21 - r12 + k12
  case y.w.z | y.z.w => linear_combination c01 - c10 + r01 - k01
  case y.x.z | y.z.x => linear_combination -c02 - c20 + r02 + k02
  case y.z.z | z.y.y => linear_combination 2 * c00 + r11 + r22 - k00
  case z.w.x | z.x.w => linear_combination c12 - c21 + r12 - k12
  case z.w.y | z.y.w => linear_combination -c02 + c20 - r02 + k02
  case z.x.y | z.y.x => linear_combination -c01 - c10 + r01 + k01
  all_goals ring

end Ring

/-! ## The pivot -/

section Order

variable {R : Type u} [CommRing R] [LinearOrder R] [IsStrictOrderedRing R]

/-- The row to take. -/
def pivot (m : Matrix (Fin 3) (Fin 3) R) : Component :=
  if 0 < m 0 0 + m 1 1 + m 2 2 then w
  else if m 1 1 < m 0 0 ∧ m 2 2 < m 0 0 then x
  else if m 2 2 < m 1 1 then y
  else z

/-- **The pivot's square** is at least one. -/
theorem one_le_outer_pivot (m : Matrix (Fin 3) (Fin 3) R) :
    1 ≤ outer m (pivot m) (pivot m) := by
  -- without a positive trace, the largest entry of the diagonal stands out
  have hlargest : ∀ a b c : R, ¬0 < a + b + c → b ≤ a → c ≤ a → 1 ≤ 1 + a - b - c := by
    intro a b c htrace hb hc
    rcases le_total 0 a with ha | ha
    · linarith
    · linarith
  rw [pivot]
  split_ifs with htrace hx hy
  · change 1 ≤ 1 + m 0 0 + m 1 1 + m 2 2
    linarith
  · exact hlargest _ _ _ htrace hx.1.le hx.2.le
  · have hle : m 0 0 ≤ m 1 1 := by
      by_contra hlt
      exact hx ⟨not_le.mp hlt, hy.trans (not_le.mp hlt)⟩
    exact hlargest _ _ _ (by rwa [add_comm (m 1 1)]) hle hy.le
  · have hle : m 0 0 ≤ m 2 2 := by
      by_contra hlt
      exact hx ⟨(not_lt.mp hy).trans_lt (not_le.mp hlt), not_le.mp hlt⟩
    exact hlargest _ _ _ (by rwa [add_assoc, add_comm]) hle (not_lt.mp hy)

theorem outer_pivot_pos (m : Matrix (Fin 3) (Fin 3) R) : 0 < outer m (pivot m) (pivot m) :=
  zero_lt_one.trans_le (one_le_outer_pivot m)

end Order

/-! ## Back to the quaternion -/

section Real

variable {m : Matrix (Fin 3) (Fin 3) ℝ} {u : Component → ℝ} {p : Component}

/-- The quaternion of a row. -/
noncomputable def fromRow (m : Matrix (Fin 3) (Fin 3) ℝ) (p b : Component) : ℝ :=
  outer m p b / (2 * √(outer m p p))

/-- What the row itself gives there, without its division. -/
theorem fromRow_self (hp : 0 < outer m p p) : fromRow m p p = √(outer m p p) / 2 := by
  have hsqrt : √(outer m p p) ≠ 0 := (Real.sqrt_pos.mpr hp).ne'
  rw [fromRow, div_eq_div_iff (mul_ne_zero two_ne_zero hsqrt) two_ne_zero]
  linear_combination -2 * Real.mul_self_sqrt hp.le

/-- **The products of a row** are those of the matrix. -/
theorem Orthonormal.fromRow_mul_fromRow (h : Orthonormal m) (hp : 0 < outer m p p)
    (b c : Component) : fromRow m p b * fromRow m p c = outer m b c / 4 := by
  rw [fromRow, fromRow, div_mul_div_comm, h.outer_mul_outer]
  rw [show 2 * √(outer m p p) * (2 * √(outer m p p)) = outer m p p * 4 by
    linear_combination 4 * Real.mul_self_sqrt hp.le]
  exact mul_div_mul_left _ _ hp.ne'

theorem Orthonormal.normSq_fromRow (h : Orthonormal m) (hp : 0 < outer m p p) :
    normSq (fromRow m p) = 1 := by
  simp only [normSq, h.fromRow_mul_fromRow hp]
  linear_combination sum_outer (m := m) / 4

/-- **A rotation comes back** from each of its rows. -/
theorem Orthonormal.rotationMatrix_fromRow (h : Orthonormal m) (hp : 0 < outer m p p) :
    rotationMatrix (fromRow m p) = m := by
  ext i j
  simp only [rotationMatrix, h.fromRow_mul_fromRow hp]
  fin_cases i <;> fin_cases j <;> simp [outer] <;> ring

/-- **A unit quaternion comes back** up to its sign. -/
theorem fromRow_rotationMatrix (hu : normSq u = 1) (hp : 0 < outer (rotationMatrix u) p p) :
    fromRow (rotationMatrix u) p = u ∨ fromRow (rotationMatrix u) p = -u := by
  have hrow : ∀ b, fromRow (rotationMatrix u) p b = u p * u b / |u p| := by
    intro b
    have hsqrt : √(outer (rotationMatrix u) p p) = 2 * |u p| := by
      rw [outer_rotationMatrix hu, show 4 * (u p * u p) = (2 * u p) * (2 * u p) by ring,
        Real.sqrt_mul_self_eq_abs, abs_mul, abs_two]
    rw [fromRow, hsqrt, outer_rotationMatrix hu, show 2 * (2 * |u p|) = 4 * |u p| by ring]
    exact mul_div_mul_left _ _ four_ne_zero
  have hne : u p ≠ 0 := by
    intro hzero
    rw [outer_rotationMatrix hu, hzero, mul_zero, mul_zero] at hp
    exact lt_irrefl 0 hp
  rcases abs_choice (u p) with habs | habs
  · refine .inl (funext fun b ↦ ?_)
    rw [hrow, habs, mul_div_cancel_left₀ _ hne]
  · refine .inr (funext fun b ↦ ?_)
    rw [hrow, habs, div_neg, mul_div_cancel_left₀ _ hne]
    rfl

end Real

end QuaternionMatrix
