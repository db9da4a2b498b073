import VzletUr3e.Library.StateError

/-!
# Views that are evaluated again

A lazy view of a list evaluates a function at each element whenever it is traversed. When the
function has a state, two traversals of one view need not see the same values. `Evaluates` says what
one traversal sees, from the state it starts in to the state it ends in; a search stops at the first
element that it looks for.
-/

namespace LazyView

open StateError

variable {ε σ ι α : Type} {f : ι → EStateM ε σ α} {p : α → Prop} {q : α → Bool} {is : List ι}
  {s s' : σ}

/-- The elements are evaluated one after the other, and their values have the property. -/
inductive Evaluates (f : ι → EStateM ε σ α) (p : α → Prop) : List ι → σ → σ → Prop
  | nil (s : σ) : Evaluates f p [] s s
  | cons {i : ι} {is : List ι} {s s' s'' : σ} {a : α} :
    f i s = .ok a s' → p a → Evaluates f p is s' s'' → Evaluates f p (i :: is) s s''

/-- The element is the next one when those before it have been evaluated with the property. -/
def Reaches (f : ι → EStateM ε σ α) (p : α → Prop) (is : List ι) (s : σ) (i : ι) (s' : σ) : Prop :=
  ∃ before behind, is = before ++ i :: behind ∧ Evaluates f p before s s'

/-- A traversal sees what its elements are evaluated to. -/
theorem Evaluates.of_imp {β : Type} {g : ι → EStateM ε σ β} {p' : β → Prop}
    (himp : ∀ i s s', (∃ a, f i s = .ok a s' ∧ p a) → ∃ b, g i s = .ok b s' ∧ p' b)
    (h : Evaluates f p is s s') : Evaluates g p' is s s' := by
  induction h with
  | nil s => exact .nil s
  | cons hi ha _ ih =>
    obtain ⟨b, hb, hp⟩ := himp _ _ _ ⟨_, hi, ha⟩
    exact .cons hb hp ih

theorem evaluates_congr {β : Type} {g : ι → EStateM ε σ β} {p' : β → Prop}
    (hiff : ∀ i s s', (∃ a, f i s = .ok a s' ∧ p a) ↔ ∃ b, g i s = .ok b s' ∧ p' b) :
    Evaluates f p is s s' ↔ Evaluates g p' is s s' :=
  ⟨.of_imp fun i s s' ↦ (hiff i s s').mp, .of_imp fun i s s' ↦ (hiff i s s').mpr⟩

theorem reaches_congr {β : Type} {g : ι → EStateM ε σ β} {p' : β → Prop} {i : ι}
    (hiff : ∀ i s s', (∃ a, f i s = .ok a s' ∧ p a) ↔ ∃ b, g i s = .ok b s' ∧ p' b) :
    Reaches f p is s i s' ↔ Reaches g p' is s i s' :=
  exists_congr fun _ ↦ exists_congr fun _ ↦ and_congr_right fun _ ↦ evaluates_congr hiff

theorem reaches_head (i : ι) : Reaches f p (i :: is) s i s := ⟨[], is, rfl, .nil s⟩

theorem Reaches.cons {i j : ι} {s'' : σ} {a : α} (h : Reaches f p is s' j s'')
    (hi : f i s = .ok a s') (ha : p a) : Reaches f p (i :: is) s j s'' := by
  obtain ⟨before, behind, rfl, hbefore⟩ := h
  exact ⟨i :: before, behind, rfl, .cons hi ha hbefore⟩

theorem Reaches.ne_nil {i : ι} (h : Reaches f p is s i s') : is ≠ [] := by
  obtain ⟨before, behind, rfl, -⟩ := h
  simp

/-- The next element is the head, or lies behind it. -/
theorem reaches_cons_iff {i j : ι} : Reaches f p (i :: is) s j s' ↔
    (j = i ∧ s' = s) ∨ ∃ s₁ a, f i s = .ok a s₁ ∧ p a ∧ Reaches f p is s₁ j s' := by
  constructor
  · rintro ⟨before, behind, heq, hbefore⟩
    rcases hbefore with _ | ⟨hi, ha, hbefore⟩
    · obtain ⟨rfl, rfl⟩ := List.cons.inj heq
      exact .inl ⟨rfl, rfl⟩
    · obtain ⟨rfl, rfl⟩ := List.cons.inj heq
      exact .inr ⟨_, _, hi, ha, _, behind, rfl, hbefore⟩
  · rintro (⟨rfl, rfl⟩ | ⟨s₁, a, hi, ha, hrest⟩)
    · exact reaches_head j
    · exact hrest.cons hi ha

theorem reaches_singleton_iff {i j : ι} : Reaches f p [i] s j s' ↔ j = i ∧ s' = s := by
  rw [reaches_cons_iff]
  refine or_iff_left ?_
  rintro ⟨s₁, a, -, -, hrest⟩
  exact hrest.ne_nil rfl

/-- `any_of` over the view. -/
def anyOf (q : α → Bool) (f : ι → EStateM ε σ α) (is : List ι) : EStateM ε σ Bool :=
  is.anyM fun i ↦ q <$> f i

theorem anyOf_nil : anyOf q f [] s = .ok false s := rfl

/-- One step of a search. -/
theorem anyOf_cons_of_ok {i : ι} {a : α} (h : f i s = .ok a s') :
    anyOf q f (i :: is) s = if q a = true then .ok true s' else anyOf q f is s' := by
  have hstep : anyOf q f (i :: is) = (q <$> f i) >>= fun b ↦
      if b = true then pure true else anyOf q f is := List.anyM_cons
  rw [hstep, map_eq_pure_bind, bind_assoc, bind_of_ok h]
  change (if q a = true then (pure true : EStateM ε σ Bool) else anyOf q f is) s' = _
  split <;> rfl

theorem anyOf_cons_of_error {i : ι} {e : ε} (h : f i s = .error e s') :
    anyOf q f (i :: is) s = .error e s' := by
  have hstep : anyOf q f (i :: is) = (q <$> f i) >>= fun b ↦
      if b = true then pure true else anyOf q f is := List.anyM_cons
  rw [hstep, map_eq_pure_bind, bind_assoc, bind_of_error h]

/-- **A search finds nothing** when a whole traversal has nothing to find. -/
theorem anyOf_eq_false_iff : ∀ {is : List ι} {s : σ},
    anyOf q f is s = .ok false s' ↔ Evaluates f (q · = false) is s s' := by
  intro is
  induction is with
  | nil =>
    intro s
    rw [anyOf_nil]
    constructor
    · rintro ⟨⟩
      exact .nil _
    · rintro ⟨⟩
      rfl
  | cons i is ih =>
    intro s
    constructor
    · intro h
      rcases hi : f i s with ⟨a, s₁⟩ | ⟨e, s₁⟩
      · rw [anyOf_cons_of_ok hi] at h
        by_cases ha : q a = true
        · rw [if_pos ha] at h
          cases h
        · rw [if_neg ha] at h
          exact .cons hi (Bool.eq_false_iff.mpr ha) (ih.mp h)
      · rw [anyOf_cons_of_error hi] at h
        cases h
    · rintro (_ | ⟨hi, ha, hrest⟩)
      rw [anyOf_cons_of_ok hi, if_neg (Bool.eq_false_iff.mp ha)]
      exact ih.mpr hrest

/-- **It fails** at the first element whose evaluation fails. -/
theorem anyOf_eq_error_iff {e : ε} : ∀ {is : List ι} {s : σ}, anyOf q f is s = .error e s' ↔
    ∃ i s₁, Reaches f (q · = false) is s i s₁ ∧ f i s₁ = .error e s' := by
  intro is
  induction is with
  | nil =>
    intro s
    refine iff_of_false (by rintro ⟨⟩) ?_
    rintro ⟨i, s₁, hreaches, -⟩
    exact hreaches.ne_nil rfl
  | cons i is ih =>
    intro s
    constructor
    · intro h
      rcases hi : f i s with ⟨a, s₁⟩ | ⟨e', s₁⟩
      · rw [anyOf_cons_of_ok hi] at h
        by_cases ha : q a = true
        · rw [if_pos ha] at h
          cases h
        · rw [if_neg ha] at h
          obtain ⟨j, s₂, hreaches, hj⟩ := ih.mp h
          exact ⟨j, s₂, hreaches.cons hi (Bool.eq_false_iff.mpr ha), hj⟩
      · rw [anyOf_cons_of_error hi] at h
        cases h
        exact ⟨i, s, reaches_head i, hi⟩
    · rintro ⟨j, s₁, hreaches, hj⟩
      rcases reaches_cons_iff.mp hreaches with ⟨rfl, rfl⟩ | ⟨s₂, a, hi, ha, hrest⟩
      · exact anyOf_cons_of_error hj
      · rw [anyOf_cons_of_ok hi, if_neg (Bool.eq_false_iff.mp ha)]
        exact ih.mpr ⟨j, s₁, hrest, hj⟩

end LazyView
