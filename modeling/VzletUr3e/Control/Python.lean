import Mathlib

/-!
# Python's numbers

A Python `float` is an arbitrary type with the operations that the scripts use. Comparisons are
Boolean, so a NaN can be a value of the type. Over the reals the operations are the exact ones.
-/

namespace VzletUr3e.Control

/-- The operations on floats. -/
class PyFloat (K : Type) where
  add : K → K → K
  sub : K → K → K
  mul : K → K → K
  div : K → K → K
  /-- A literal, or an `int` that meets a float. -/
  lit : ℚ → K
  lt : K → K → Bool
  abs : K → K
  /-- `math.hypot`. -/
  hypot : K → K → K
  sqrt : K → K

section Operators

-- The priority is low, so that `ℝ` keeps its own operations.
variable {K : Type} [PyFloat K]

instance (priority := low) instPyAdd : Add K := ⟨PyFloat.add⟩

instance (priority := low) instPySub : Sub K := ⟨PyFloat.sub⟩

instance (priority := low) instPyMul : Mul K := ⟨PyFloat.mul⟩

instance (priority := low) instPyDiv : Div K := ⟨PyFloat.div⟩

end Operators

/-- Exact real arithmetic. -/
noncomputable instance : PyFloat ℝ where
  add x y := x + y
  sub x y := x - y
  mul x y := x * y
  div x y := x / y
  lit q := (q : ℝ)
  lt x y := decide (x < y)
  abs x := |x|
  hypot x y := √(x ^ 2 + y ^ 2)
  sqrt x := √x

/-- Rational arithmetic, in which runs can be evaluated. Roots are cut to integers. -/
instance instPyFloatRat : PyFloat ℚ where
  add x y := x + y
  sub x y := x - y
  mul x y := x * y
  div x y := x / y
  lit q := q
  lt x y := decide (x < y)
  abs x := |x|
  hypot x y := Nat.sqrt (x ^ 2 + y ^ 2).floor.toNat
  sqrt x := Nat.sqrt x.floor.toNat

/-- The comparison `<=`, which a NaN fails as it fails `>`. -/
class PyOrder (K : Type) where
  le : K → K → Bool

noncomputable instance instPyOrderReal : PyOrder ℝ := ⟨fun x y ↦ decide (x ≤ y)⟩

variable {K : Type} [PyFloat K]

open PyFloat

/-- Division of floats, which raises for a zero. -/
def pyDiv [PyOrder K] (x y : K) : Option K :=
  if PyOrder.le y (lit 0) ∧ PyOrder.le (lit 0) y then none else some (x / y)

/-- `sum` of floats, which starts from the integer zero. -/
def pySum (l : List K) : K := l.foldl (· + ·) (lit 0)

/-- `max(0.0, x)`: the first argument stays unless the other one is greater. -/
def maxZero (x : K) : K := if lt (lit 0) x then x else lit 0

theorem lt_eq_true_iff {x y : ℝ} : lt x y = true ↔ x < y := decide_eq_true_iff

theorem lt_eq_false_iff {x y : ℝ} : lt x y = false ↔ y ≤ x :=
  decide_eq_false_iff_not.trans not_lt

/-- Over the reals `sum` is the sum. -/
theorem pySum_real (l : List ℝ) : pySum l = l.sum := by
  have hfold : ∀ (l : List ℝ) (a : ℝ), l.foldl (· + ·) a = a + l.sum := by
    intro l
    induction l with
    | nil => simp
    | cons x l ih =>
      intro a
      rw [List.foldl_cons, ih, List.sum_cons, add_assoc]
  change l.foldl (· + ·) (((0 : ℚ) : ℝ)) = l.sum
  rw [hfold, Rat.cast_zero, zero_add]

end VzletUr3e.Control
