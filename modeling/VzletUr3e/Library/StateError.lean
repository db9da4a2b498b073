import Mathlib

/-!
# Stateful code that can fail

`EStateM ε σ` runs code over a state, ends with a value or an error, and keeps the state reached
either way. A run is taken apart at each bind: `bind_eq_ok_iff` and `bind_eq_error_iff` say how a
sequence can end, and everything about a longer function is a chain of these.

The second half is a program logic over the same runs. `Triple P x Q E` says what `x` guarantees of
a value (`Q`) and of an error (`E`) when it starts in a state of `P`; the rules follow the way
functions are put together, so a proof about a function cites the triples of what it calls.
-/

namespace StateError

universe u

variable {ε σ α β : Type u}

/-! ## Taking runs apart -/

@[simp] theorem pure_apply (a : α) (s : σ) : (pure a : EStateM ε σ α) s = .ok a s := rfl

@[simp] theorem throw_apply (e : ε) (s : σ) : (throw e : EStateM ε σ α) s = .error e s := rfl

theorem bind_apply (x : EStateM ε σ α) (f : α → EStateM ε σ β) (s : σ) :
    (x >>= f) s = match x s with
      | .ok a s' => f a s'
      | .error e s' => .error e s' := by
  change EStateM.bind x f s = _
  unfold EStateM.bind
  cases x s <;> rfl

theorem bind_of_ok {x : EStateM ε σ α} {f : α → EStateM ε σ β} {s s' : σ} {a : α}
    (h : x s = .ok a s') : (x >>= f) s = f a s' := by
  rw [bind_apply, h]

theorem bind_of_error {x : EStateM ε σ α} {f : α → EStateM ε σ β} {s s' : σ} {e : ε}
    (h : x s = .error e s') : (x >>= f) s = .error e s' := by
  rw [bind_apply, h]

theorem bind_eq_ok_iff {x : EStateM ε σ α} {f : α → EStateM ε σ β} {s s'' : σ} {b : β} :
    (x >>= f) s = .ok b s'' ↔ ∃ a s', x s = .ok a s' ∧ f a s' = .ok b s'' := by
  rw [bind_apply]
  cases x s with
  | ok a s' =>
    constructor
    · exact fun h ↦ ⟨a, s', rfl, h⟩
    · rintro ⟨_, _, ⟨⟩, h⟩
      exact h
  | error e s' =>
    constructor
    · exact fun h ↦ by cases h
    · rintro ⟨_, _, ⟨⟩, _⟩

theorem bind_eq_error_iff {x : EStateM ε σ α} {f : α → EStateM ε σ β} {s s'' : σ} {e : ε} :
    (x >>= f) s = .error e s'' ↔
      x s = .error e s'' ∨ ∃ a s', x s = .ok a s' ∧ f a s' = .error e s'' := by
  rw [bind_apply]
  cases x s with
  | ok a s' =>
    constructor
    · exact fun h ↦ Or.inr ⟨a, s', rfl, h⟩
    · rintro (h | ⟨_, _, ⟨⟩, h⟩)
      · cases h
      · exact h
  | error e' s' =>
    constructor
    · exact fun h ↦ Or.inl (by cases h; rfl)
    · rintro (h | ⟨_, _, ⟨⟩, _⟩)
      cases h
      rfl

@[simp] theorem throw_bind (e : ε) (f : α → EStateM ε σ β) :
    (throw e >>= f : EStateM ε σ β) = throw e := rfl

/-- A check that throws lets a run through exactly when its condition fails. -/
theorem ite_throw_eq_ok_iff {c : Prop} [Decidable c] {e : ε} {x : EStateM ε σ α} {s s' : σ}
    {a : α} : (if c then throw e else x) s = .ok a s' ↔ ¬ c ∧ x s = .ok a s' := by
  by_cases h : c
  · rw [if_pos h, throw_apply]
    simp [h]
  · rw [if_neg h]
    simp [h]

/-- `final` is run behind `x`, whichever way `x` ends. An error of `final` takes the place of the
end of `x`. -/
def ensuring (x : EStateM ε σ α) (final : EStateM ε σ PUnit) : EStateM ε σ α := fun s ↦
  match x s with
  | .ok a s' =>
    match final s' with
    | .ok _ s'' => .ok a s''
    | .error e s'' => .error e s''
  | .error e s' =>
    match final s' with
    | .ok _ s'' => .error e s''
    | .error e' s'' => .error e' s''

/-! ## Frames

What a run leaves alone, whichever way it ends. -/

/-- The state a run ends in. -/
def finalState : EStateM.Result ε σ α → σ
  | .ok _ s => s
  | .error _ s => s

@[simp] theorem finalState_ok (a : α) (s : σ) : finalState (.ok a s : EStateM.Result ε σ α) = s :=
  rfl

@[simp] theorem finalState_error (e : ε) (s : σ) :
    finalState (.error e s : EStateM.Result ε σ α) = s := rfl

/-- No run of `x` changes `f` of the state. -/
def Preserves {γ : Type*} (f : σ → γ) (x : EStateM ε σ α) : Prop :=
  ∀ s, f (finalState (x s)) = f s

namespace Preserves

variable {γ : Type*} {f : σ → γ}

theorem pure (a : α) : Preserves f (Pure.pure a : EStateM ε σ α) := fun _ ↦ rfl

theorem throw (e : ε) : Preserves f (MonadExcept.throw e : EStateM ε σ α) := fun _ ↦ rfl

theorem bind {x : EStateM ε σ α} {g : α → EStateM ε σ β} (hx : Preserves f x)
    (hg : ∀ a, Preserves f (g a)) : Preserves f (x >>= g) := by
  intro s
  have h := hx s
  rw [bind_apply]
  cases hr : x s with
  | ok a s' =>
    rw [hr, finalState_ok] at h
    exact (hg a s').trans h
  | error e s' =>
    rw [hr, finalState_error] at h
    exact h

theorem ite {c : Prop} [Decidable c] {x y : EStateM ε σ α} (hx : Preserves f x)
    (hy : Preserves f y) : Preserves f (if c then x else y) := by
  split <;> assumption

end Preserves

/-! ## Runs that end alike from every state -/

/-- How a run ends, without the state. -/
def outcome : EStateM.Result ε σ α → Except ε α
  | .ok a _ => .ok a
  | .error e _ => .error e

/-- Every run of `x` ends in `r`. The state is written, and never decides anything. -/
def Settles (x : EStateM ε σ α) (r : Except ε α) : Prop := ∀ s, outcome (x s) = r

namespace Settles

theorem pure (a : α) : Settles (Pure.pure a : EStateM ε σ α) (.ok a) := fun _ ↦ rfl

theorem throw (e : ε) : Settles (MonadExcept.throw e : EStateM ε σ α) (.error e) := fun _ ↦ rfl

theorem bind {x : EStateM ε σ α} {f : α → EStateM ε σ β} {r : Except ε α} {g : α → Except ε β}
    (hx : Settles x r) (hf : ∀ a, Settles (f a) (g a)) : Settles (x >>= f) (r >>= g) := by
  intro s
  rw [← hx s, bind_apply]
  cases x s with
  | ok a s' => exact hf a s'
  | error e s' => rfl

theorem ite {c : Prop} [Decidable c] {x y : EStateM ε σ α} {r t : Except ε α}
    (hx : c → Settles x r) (hy : ¬c → Settles y t) :
    Settles (if c then x else y) (if c then r else t) := by
  split
  · exact hx ‹_›
  · exact hy ‹_›

/-- A first part that always ends with the same value. -/
theorem bind_ok {x : EStateM ε σ α} {f : α → EStateM ε σ β} {a : α} {r : Except ε β}
    (hx : Settles x (.ok a)) (hf : Settles (f a) r) : Settles (x >>= f) r := by
  intro s
  have h := hx s
  rw [bind_apply]
  cases hr : x s with
  | ok b s' =>
    rw [hr] at h
    obtain rfl : b = a := Except.ok.inj h
    exact hf s'
  | error e s' =>
    rw [hr] at h
    cases h

/-- There is one end. -/
theorem unique {x : EStateM ε σ α} {r t : Except ε α} (hr : Settles x r) (ht : Settles x t)
    (s : σ) : r = t := (hr s).symm.trans (ht s)

end Settles

/-! ## Triples -/

/-- A run ends with a value and a state of `Q`, or with an error and a state of `E`. -/
def Ends (Q : α → σ → Prop) (E : ε → σ → Prop) : EStateM.Result ε σ α → Prop
  | .ok a s => Q a s
  | .error e s => E e s

/-- Every run of `x` from a state of `P` ends in `Q` or in `E`. -/
def Triple (P : σ → Prop) (x : EStateM ε σ α) (Q : α → σ → Prop) (E : ε → σ → Prop) : Prop :=
  ∀ s, P s → Ends Q E (x s)

namespace Triple

variable {P P' : σ → Prop} {Q Q' : α → σ → Prop} {R : β → σ → Prop} {E E' : ε → σ → Prop}
  {x y : EStateM ε σ α} {f : α → EStateM ε σ β}

theorem pure {a : α} (h : ∀ s, P s → Q a s) : Triple P (Pure.pure a) Q E := h

theorem throw {e : ε} (h : ∀ s, P s → E e s) : Triple P (MonadExcept.throw e) Q E := h

theorem bind (hx : Triple P x Q E) (hf : ∀ a, Triple (Q a) (f a) R E) : Triple P (x >>= f) R E := by
  intro s hs
  have h := hx s hs
  rw [bind_apply]
  cases hr : x s with
  | ok a s' =>
    rw [hr] at h
    exact hf a s' h
  | error e s' =>
    rw [hr] at h
    exact h

/-- What holds at either end holds of the state in which the run ends. -/
theorem finalState {A : σ → Prop} (hx : Triple P x (fun _ ↦ A) fun _ ↦ A) {s : σ} (hs : P s) :
    A (finalState (x s)) := by
  have h := hx s hs
  cases hr : x s with
  | ok a s' =>
    rw [hr] at h
    exact h
  | error e s' =>
    rw [hr] at h
    exact h

/-- The rule of consequence. -/
theorem mono (hx : Triple P x Q E) (hP : ∀ s, P' s → P s) (hQ : ∀ a s, Q a s → Q' a s)
    (hE : ∀ e s, E e s → E' e s) : Triple P' x Q' E' := by
  intro s hs
  have h := hx s (hP s hs)
  cases hr : x s with
  | ok a s' =>
    rw [hr] at h
    exact hQ a s' h
  | error e s' =>
    rw [hr] at h
    exact hE e s' h

theorem imp (hx : Triple P x Q E) (hQ : ∀ a s, Q a s → Q' a s) (hE : ∀ e s, E e s → E' e s) :
    Triple P x Q' E' := hx.mono (fun _ h ↦ h) hQ hE

theorem imp_ok (hx : Triple P x Q E) (hQ : ∀ a s, Q a s → Q' a s) : Triple P x Q' E :=
  hx.imp hQ fun _ _ h ↦ h

theorem ite {c : Prop} [Decidable c] (hx : c → Triple P x Q E) (hy : ¬ c → Triple P y Q E) :
    Triple P (if c then x else y) Q E := by
  split
  · exact hx ‹_›
  · exact hy ‹_›

/-- Two assertions can be followed side by side. -/
theorem and {P₁ P₂ : σ → Prop} {Q₁ Q₂ : α → σ → Prop} {E₁ E₂ : ε → σ → Prop}
    (h₁ : Triple P₁ x Q₁ E₁) (h₂ : Triple P₂ x Q₂ E₂) :
    Triple (fun s ↦ P₁ s ∧ P₂ s) x (fun a s ↦ Q₁ a s ∧ Q₂ a s) fun e s ↦ E₁ e s ∧ E₂ e s := by
  rintro s ⟨hs₁, hs₂⟩
  have h := And.intro (h₁ s hs₁) (h₂ s hs₂)
  cases hr : x s with
  | ok a s' =>
    rw [hr] at h
    exact h
  | error e s' =>
    rw [hr] at h
    exact h

/-- A first step that must return `true` for the rest to be run. -/
theorem guard {ε σ β : Type} {P : σ → Prop} {x : EStateM ε σ Bool} {Q : Bool → σ → Prop}
    {y : EStateM ε σ β} {b : β} {R : β → σ → Prop} {E : ε → σ → Prop} (hx : Triple P x Q E)
    (hfail : ∀ s, Q false s → R b s) (hy : Triple (Q true) y R E) :
    Triple P (x >>= fun ok ↦ if ¬ ok = true then Pure.pure b else y) R E := by
  refine bind hx fun ok ↦ ?_
  cases ok with
  | false => exact ite (fun _ ↦ pure hfail) fun h ↦ absurd Bool.false_ne_true h
  | true => exact ite (fun h ↦ absurd rfl h) fun _ ↦ hy

/-- A handler starts where the error left off. -/
theorem tryCatch {handle : ε → EStateM ε σ α} (hx : Triple P x Q E)
    (hh : ∀ e, Triple (E e) (handle e) Q E') : Triple P (tryCatch x handle) Q E' := by
  intro s hs
  have h := hx s hs
  change Ends Q E' (EStateM.tryCatch x handle s)
  rw [EStateM.tryCatch]
  cases hr : x s with
  | ok a s' =>
    rw [hr] at h
    exact h
  | error e s' =>
    rw [hr] at h
    exact hh e s' h

/-- What is run at the end starts from either end. -/
theorem ensuring {final : EStateM ε σ PUnit} (hx : Triple P x Q E)
    (hok : ∀ a, Triple (Q a) final (fun _ ↦ Q' a) E')
    (herror : ∀ e, Triple (E e) final (fun _ ↦ E' e) E') :
    Triple P (ensuring x final) Q' E' := by
  intro s hs
  have h := hx s hs
  rw [StateError.ensuring]
  cases hr : x s with
  | ok a s' =>
    rw [hr] at h
    have hfinal := hok a s' h
    dsimp only
    cases hf : final s' with
    | ok _ s'' =>
      rw [hf] at hfinal
      exact hfinal
    | error e s'' =>
      rw [hf] at hfinal
      exact hfinal
  | error e s' =>
    rw [hr] at h
    have hfinal := herror e s' h
    dsimp only
    cases hf : final s' with
    | ok _ s'' =>
      rw [hf] at hfinal
      exact hfinal
    | error e' s'' =>
      rw [hf] at hfinal
      exact hfinal

end Triple

end StateError
