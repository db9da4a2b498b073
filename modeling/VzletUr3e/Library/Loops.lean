import Mathlib

/-!
# Steps and loops that can fail

Steps in `Except` one after the other, and loops that compute one element for each element of a list
and stop at the first failure.
-/

namespace Loops

universe u

variable {α β ε : Type u} {l : List α}

/-- A step that succeeds, and then another one. -/
theorem bind_eq_ok {x : Except ε α} {f : α → Except ε β} {b : β} :
    (x >>= f) = .ok b ↔ ∃ a, x = .ok a ∧ f a = .ok b := by
  cases x with
  | error e =>
    constructor
    · intro h
      cases h
    · rintro ⟨_, ⟨⟩, _⟩
  | ok a =>
    constructor
    · exact fun h ↦ ⟨a, rfl, h⟩
    · rintro ⟨_, ⟨⟩, h⟩
      exact h

theorem mapError_eq_ok {ε' : Type u} {g : ε → ε'} {x : Except ε α} {a : α} :
    x.mapError g = .ok a ↔ x = .ok a := by
  cases x with
  | error e =>
    constructor
    · intro h
      cases h
    · intro h
      cases h
  | ok a' => exact ⟨fun h ↦ congrArg _ (Except.ok.inj h), fun h ↦ congrArg _ (Except.ok.inj h)⟩

theorem map_eq_ok {x : Except ε α} {f : α → β} {b : β} :
    x.map f = .ok b ↔ ∃ a, x = .ok a ∧ f a = b := by
  cases x with
  | error e => exact iff_of_false (by rintro ⟨⟩) (by rintro ⟨_, ⟨⟩, _⟩)
  | ok a =>
    constructor
    · rintro ⟨⟩
      exact ⟨a, rfl, rfl⟩
    · rintro ⟨_, ⟨⟩, rfl⟩
      rfl

@[simp] theorem throw_bind (e : ε) (f : α → Except ε β) :
    (throw e >>= f : Except ε β) = throw e := rfl

/-- A check that throws lets a step through exactly when its condition fails. -/
theorem ite_throw_eq_ok {c : Prop} [Decidable c] {e : ε} {x : Except ε α} {a : α} :
    (if c then throw e else x) = .ok a ↔ ¬ c ∧ x = .ok a := by
  split
  · rename_i hc
    constructor
    · intro h
      cases h
    · rintro ⟨hn, -⟩
      exact absurd hc hn
  · rename_i hc
    exact ⟨fun h ↦ ⟨hc, h⟩, fun h ↦ h.2⟩

/-- A loop goes through when every step does. -/
theorem mapM_eq_ok_iff {f : α → Except ε β} {l' : List β} :
    l.mapM f = .ok l' ↔ List.Forall₂ (fun x y ↦ f x = .ok y) l l' := by
  induction l generalizing l' with
  | nil =>
    rw [List.forall₂_nil_left_iff]
    exact ⟨fun h ↦ (Except.ok.inj h).symm, fun h ↦ congrArg Except.ok h.symm⟩
  | cons x l ih =>
    rw [List.mapM_cons, bind_eq_ok, List.forall₂_cons_left_iff]
    constructor
    · rintro ⟨y, hy, h⟩
      obtain ⟨ys, hys, ⟨⟩⟩ := bind_eq_ok.mp h
      exact ⟨y, ys, hy, ih.mp hys, rfl⟩
    · rintro ⟨y, ys, hy, hys, rfl⟩
      exact ⟨y, hy, bind_eq_ok.mpr ⟨ys, ih.mpr hys, rfl⟩⟩

/-- A loop that fails nowhere. -/
theorem mapM_eq_ok {f : α → Except ε β} {g : α → β} (h : ∀ x ∈ l, f x = .ok (g x)) :
    l.mapM f = .ok (l.map g) := by
  induction l with
  | nil => rfl
  | cons x l ih =>
    obtain ⟨hx, hl⟩ := List.forall_mem_cons.mp h
    rw [List.mapM_cons, hx, ih hl]
    rfl

/-- A loop that fails somewhere, and everywhere with the same error. -/
theorem mapM_eq_error {f : α → Except ε β} {e : ε} (h : ∀ x ∈ l, ∀ e', f x = .error e' → e' = e)
    {x : α} (hx : x ∈ l) (hfail : f x = .error e) : l.mapM f = .error e := by
  induction l with
  | nil => simp at hx
  | cons y l ih =>
    obtain ⟨hy, hl⟩ := List.forall_mem_cons.mp h
    rw [List.mapM_cons]
    rcases hfy : f y with e' | b
    · rw [hy e' hfy]
      rfl
    · have htail : x ∈ l := by
        rcases List.mem_cons.mp hx with rfl | hx
        · rw [hfail] at hfy
          cases hfy
        · exact hx
      rw [ih hl htail]
      rfl

/-- A loop in `Option` that fails nowhere. -/
theorem mapM_eq_some {f : α → Option β} {g : α → β} (h : ∀ x ∈ l, f x = some (g x)) :
    l.mapM f = some (l.map g) := by
  induction l with
  | nil => rfl
  | cons x l ih =>
    obtain ⟨hx, hl⟩ := List.forall_mem_cons.mp h
    rw [List.mapM_cons, hx, ih hl]
    rfl

/-- A loop in `Option` that fails nowhere collects all there is. -/
theorem mapM_eq_filterMap {f : α → Option β} (h : ∀ x ∈ l, (f x).isSome) :
    l.mapM f = some (l.filterMap f) := by
  induction l with
  | nil => rfl
  | cons x l ih =>
    obtain ⟨hx, hl⟩ := List.forall_mem_cons.mp h
    obtain ⟨b, hb⟩ := Option.isSome_iff_exists.mp hx
    rw [List.mapM_cons, ih hl, hb, List.filterMap_cons_some hb]
    rfl

/-- A loop over indices that computes the elements of a list. -/
theorem mapM_range_eq_some {β : Type} {l : List β} : ∀ {f : ℕ → Option β},
    (∀ i (hi : i < l.length), f i = some l[i]) → (List.range l.length).mapM f = some l := by
  induction l with
  | nil => exact fun _ ↦ rfl
  | cons b l ih =>
    intro f h
    have h0 : f 0 = some b := h 0 (Nat.succ_pos _)
    have hrest : (List.range l.length).mapM (f ∘ Nat.succ) = some l :=
      ih fun i hi ↦ h (i + 1) (Nat.succ_lt_succ hi)
    rw [List.length_cons, List.range_succ_eq_map, List.mapM_cons, h0, List.mapM_map, hrest]
    rfl

/-- A list has a related one when each of its elements has. -/
theorem exists_forall₂_iff {β : Type*} {R : α → β → Prop} :
    (∃ l', List.Forall₂ R l l') ↔ ∀ a ∈ l, ∃ b, R a b := by
  induction l with
  | nil => exact ⟨fun _ ↦ by simp, fun _ ↦ ⟨[], .nil⟩⟩
  | cons a l ih =>
    rw [List.forall_mem_cons, ← ih]
    constructor
    · rintro ⟨_, h⟩
      obtain ⟨b, l', hb, hl', rfl⟩ := List.forall₂_cons_left_iff.mp h
      exact ⟨⟨b, hb⟩, l', hl'⟩
    · rintro ⟨⟨b, hb⟩, l', hl'⟩
      exact ⟨b :: l', .cons hb hl'⟩

end Loops
