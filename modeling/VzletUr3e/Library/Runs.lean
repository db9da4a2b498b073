import Mathlib

/-!
# Properties along runs

A system takes one input after the other, and an input may be answered in several ways or in none.
`Along P` says that `P` holds at every step of every run over a list of inputs. Two properties of a
step that agree in the states of an invariant agree along runs, if either of them keeps the
invariant: this is how a condition that is exact for one step becomes exact for runs.

A system that answers in one way has a single run over its inputs, `run`. What its steps keep holds
behind every run.

A loop that may stutter ends, if it stutters finitely often and each other step brings it closer to
its end (`exists_of_finite_stutter`).
-/

namespace Runs

universe u v w

variable {σ : Type u} {ι : Type v} {next : σ → ι → σ → Prop} {J : σ → Prop} {P Q : σ → ι → Prop}

/-- `P` holds of the state and the input at every step of a run over `inputs`. -/
def Along (next : σ → ι → σ → Prop) (P : σ → ι → Prop) : σ → List ι → Prop
  | _, [] => True
  | s, i :: inputs => P s i ∧ ∀ s', next s i s' → Along next P s' inputs

@[simp] theorem along_nil (s : σ) : Along next P s [] := trivial

theorem along_cons_iff {s : σ} {i : ι} {inputs : List ι} :
    Along next P s (i :: inputs) ↔ P s i ∧ ∀ s', next s i s' → Along next P s' inputs := Iff.rfl

/-- Steps that are equivalent wherever the invariant holds are equivalent along runs. -/
theorem along_iff_along (hiff : ∀ s i, J s → (P s i ↔ Q s i))
    (hkeep : ∀ s i s', J s → P s i → next s i s' → J s') {inputs : List ι} :
    ∀ {s : σ}, J s → (Along next P s inputs ↔ Along next Q s inputs) := by
  induction inputs with
  | nil => exact fun _ ↦ Iff.rfl
  | cons i inputs ih =>
    intro s hs
    rw [along_cons_iff, along_cons_iff, hiff s i hs]
    refine and_congr_right fun hq ↦ forall_congr' fun s' ↦ forall_congr' fun hnext ↦ ?_
    exact ih (hkeep s i s' hs ((hiff s i hs).mpr hq) hnext)

section Deterministic

variable {step : σ → ι → σ}

/-- The state behind a run over `inputs`. -/
def run (step : σ → ι → σ) (s : σ) (inputs : List ι) : σ := inputs.foldl step s

/-- `P` holds of the state and the input at every step of the run over `inputs`. -/
abbrev Throughout (step : σ → ι → σ) (P : σ → ι → Prop) : σ → List ι → Prop :=
  Along (fun s i s' ↦ step s i = s') P

@[simp] theorem run_nil (s : σ) : run step s [] = s := rfl

@[simp] theorem run_cons (s : σ) (i : ι) (inputs : List ι) :
    run step s (i :: inputs) = run step (step s i) inputs := rfl

theorem run_append (s : σ) (first second : List ι) :
    run step s (first ++ second) = run step (run step s first) second := List.foldl_append

theorem throughout_cons_iff {s : σ} {i : ι} {inputs : List ι} :
    Throughout step P s (i :: inputs) ↔ P s i ∧ Throughout step P (step s i) inputs := by
  rw [Throughout, along_cons_iff]
  refine and_congr_right fun _ ↦ ⟨fun h ↦ h _ rfl, ?_⟩
  rintro h _ rfl
  exact h

/-- What holds of every state and each of the inputs holds throughout. -/
theorem Throughout.of_forall {inputs : List ι} :
    ∀ {s : σ}, (∀ s, ∀ i ∈ inputs, P s i) → Throughout step P s inputs := by
  induction inputs with
  | nil => exact fun _ ↦ trivial
  | cons i inputs ih =>
    intro s h
    rw [throughout_cons_iff]
    exact ⟨h s i List.mem_cons_self, ih fun s j hj ↦ h s j (List.mem_cons_of_mem i hj)⟩

/-- What every step keeps holds behind every run. -/
theorem run_invariant (hkeep : ∀ s i, J s → P s i → J (step s i)) {inputs : List ι} :
    ∀ {s : σ}, J s → Throughout step P s inputs → J (run step s inputs) := by
  induction inputs with
  | nil => exact fun hs _ ↦ hs
  | cons i inputs ih =>
    intro s hs h
    obtain ⟨hp, h⟩ := throughout_cons_iff.mp h
    exact ih (hkeep s i hs hp) h

/-- A step that an abstract step answers to wherever the invariant holds is answered along runs. -/
theorem run_refines {τ : Type w} {abs : σ → τ} {abstractStep : τ → ι → τ}
    (hkeep : ∀ s i, J s → J (step s i))
    (hstep : ∀ s i, J s → abs (step s i) = abstractStep (abs s) i) {inputs : List ι} :
    ∀ {s : σ}, J s → abs (run step s inputs) = run abstractStep (abs s) inputs ∧
      J (run step s inputs) := by
  induction inputs with
  | nil => exact fun hs ↦ ⟨rfl, hs⟩
  | cons i inputs ih =>
    intro s hs
    rw [run_cons, run_cons, ← hstep s i hs]
    exact ih (hkeep s i hs)

end Deterministic

/-- A measure that goes down at every step, except at finitely many, cannot do so for ever. -/
theorem exists_of_finite_stutter {done : ℕ → Prop} {stutter : Set ℕ} (hfinite : stutter.Finite)
    (measure : ℕ → ℕ) (hstep : ∀ k, ¬done k → k ∉ stutter → measure (k + 1) < measure k) :
    ∃ k, done k := by
  by_contra hnever
  rw [not_exists] at hnever
  obtain ⟨bound, hbound⟩ := hfinite.bddAbove
  have hdown : ∀ i, measure (bound + 1 + i) + i ≤ measure (bound + 1) := by
    intro i
    induction i with
    | zero => exact le_rfl
    | succ i ih =>
      have hnot : bound + 1 + i ∉ stutter := by
        intro hmem
        have hle := hbound hmem
        omega
      have hlt := hstep _ (hnever _) hnot
      rw [show bound + 1 + (i + 1) = bound + 1 + i + 1 from (add_assoc _ _ _).symm]
      omega
  have hlast := hdown (measure (bound + 1) + 1)
  omega

end Runs
