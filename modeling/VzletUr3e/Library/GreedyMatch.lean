import Mathlib

/-!
# Greedy matching, and averages of what is matched

References are served one after the other, each with the nearest item that is left. The items end up
permuted: none is lost, and none is used twice. The distance is a value of any type with a
comparison, so that nothing here needs an order.

The last section bounds an average in the plane: samples within `d` of a point pull it away by at
most their share of `d`.
-/

namespace GreedyMatch

universe u v w

variable {α : Type u} {β : Type v} {γ : Type w}

/-! ## The nearest item -/

/-- The loop over the items that remain, with the index and the distance of the best one so far. A
later item replaces it only when it is strictly nearer. -/
def nearestFrom (lt : γ → γ → Bool) (d : β → γ) : ℕ → Option (ℕ × γ) → List β → Option (ℕ × γ)
  | _, best, [] => best
  | i, none, b :: items => nearestFrom lt d (i + 1) (some (i, d b)) items
  | i, some (j, e), b :: items =>
    nearestFrom lt d (i + 1) (if lt (d b) e then some (i, d b) else some (j, e)) items

/-- The first nearest item, by index and distance. -/
def nearest (lt : γ → γ → Bool) (d : β → γ) (items : List β) : Option (ℕ × γ) :=
  nearestFrom lt d 0 none items

variable {lt : γ → γ → Bool} {d : β → γ}

private theorem nearestFrom_spec {all : List β} : ∀ {items done : List β} {best : Option (ℕ × γ)},
    all = done ++ items → (∀ j e, best = some (j, e) → ∃ b, all[j]? = some b ∧ e = d b) →
    ∀ j e, nearestFrom lt d done.length best items = some (j, e) →
      ∃ b, all[j]? = some b ∧ e = d b := by
  intro items
  induction items with
  | nil => exact fun _ hbest ↦ hbest
  | cons b items ih =>
    intro done best hall hbest j e h
    -- the items that were passed are `done`, so its length is the index
    have hb : all[done.length]? = some b := by
      rw [hall, List.getElem?_append_right (le_refl _), Nat.sub_self, List.getElem?_cons_zero]
    have hnew : ∀ j e, some (done.length, d b) = some (j, e) →
        ∃ b', all[j]? = some b' ∧ e = d b' := by
      rintro _ _ ⟨⟩
      exact ⟨b, hb, rfl⟩
    have hlen : (done ++ [b]).length = done.length + 1 := by simp
    have hall' : all = (done ++ [b]) ++ items := by rw [hall]; simp
    rcases best with _ | ⟨i, c⟩
    · rw [nearestFrom, ← hlen] at h
      exact ih hall' hnew j e h
    · rw [nearestFrom, ← hlen] at h
      refine ih hall' ?_ j e h
      split
      · exact hnew
      · exact hbest

/-- The index is one of the list, and the distance is that of the item there. -/
theorem nearest_spec {items : List β} {j : ℕ} {e : γ} (h : nearest lt d items = some (j, e)) :
    ∃ b, items[j]? = some b ∧ e = d b := by
  have hall : items = [] ++ items := rfl
  exact nearestFrom_spec hall (by simp) j e h

/-! ## Matching -/

/-- Serve the references in order from the items that are left. -/
def greedy (lt : γ → γ → Bool) (dist : α → β → γ) (bound : γ) : List α → List β → Option (List β)
  | [], _ => some []
  | a :: refs, items =>
    match nearest lt (dist a) items with
    | none => none
    | some (j, e) =>
      if lt bound e then none
      else
        match items[j]? with
        | none => none
        | some b => (greedy lt dist bound refs (items.eraseIdx j)).map (b :: ·)

variable {dist : α → β → γ} {bound : γ}

theorem greedy_cons_eq_some {a : α} {refs : List α} {items matched : List β}
    (h : greedy lt dist bound (a :: refs) items = some matched) :
    ∃ j e b rest, nearest lt (dist a) items = some (j, e) ∧ items[j]? = some b ∧
      lt bound (dist a b) = false ∧
      greedy lt dist bound refs (items.eraseIdx j) = some rest ∧ matched = b :: rest := by
  rw [greedy] at h
  split at h
  · exact absurd h (by simp)
  · rename_i j e hnearest
    obtain ⟨b, hb, rfl⟩ := nearest_spec hnearest
    split at h
    · exact absurd h (by simp)
    · rename_i hbound
      rw [hb] at h
      obtain ⟨rest, hrest, rfl⟩ := Option.map_eq_some_iff.mp h
      exact ⟨j, _, b, rest, hnearest, hb, by simpa using hbound, hrest, rfl⟩

/-- Every reference is matched within the bound. -/
theorem greedy_within : ∀ {refs : List α} {items matched : List β},
    greedy lt dist bound refs items = some matched →
    List.Forall₂ (fun a b ↦ lt bound (dist a b) = false) refs matched := by
  intro refs
  induction refs with
  | nil =>
    rintro items _ ⟨⟩
    exact .nil
  | cons a refs ih =>
    intro items matched h
    obtain ⟨j, _, b, rest, -, -, hwithin, hrest, rfl⟩ := greedy_cons_eq_some h
    exact .cons hwithin (ih hrest)

/-- What is matched and what is left over make up the items. -/
theorem greedy_perm_append : ∀ {refs : List α} {items matched : List β},
    greedy lt dist bound refs items = some matched → ∃ rest, items.Perm (matched ++ rest) := by
  intro refs
  induction refs with
  | nil =>
    rintro items _ ⟨⟩
    exact ⟨items, .refl _⟩
  | cons a refs ih =>
    intro items matched h
    obtain ⟨j, _, b, tail, -, hb, -, htail, rfl⟩ := greedy_cons_eq_some h
    obtain ⟨rest, hperm⟩ := ih htail
    obtain ⟨hj, rfl⟩ := List.getElem?_eq_some_iff.mp hb
    refine ⟨rest, ?_⟩
    have hitems : items.Perm (items[j] :: items.eraseIdx j) :=
      (List.getElem_cons_eraseIdx_perm hj).symm
    exact hitems.trans (hperm.cons _)

/-- **No item is lost and none is used twice**, when there are as many items as references. -/
theorem greedy_perm {refs : List α} {items matched : List β}
    (h : greedy lt dist bound refs items = some matched) (hlen : refs.length = items.length) :
    items.Perm matched := by
  obtain ⟨rest, hperm⟩ := greedy_perm_append h
  have hcount := hperm.length_eq
  rw [List.length_append, ← (greedy_within h).length_eq, hlen] at hcount
  obtain rfl : rest = [] := List.length_eq_zero_iff.mp (by omega)
  rwa [List.append_nil] at hperm

private theorem nearestFrom_isSome {items : List β} : ∀ {i : ℕ} {best : Option (ℕ × γ)},
    best.isSome ∨ items ≠ [] → (nearestFrom lt d i best items).isSome := by
  induction items with
  | nil =>
    rintro i best (h | h)
    · exact h
    · exact absurd rfl h
  | cons b items ih =>
    rintro i (_ | ⟨j, e⟩) -
    · exact ih (.inl rfl)
    · refine ih (.inl ?_)
      split <;> rfl

/-- All references are matched if no item is out of bounds of any and there are enough of them. -/
theorem greedy_isSome : ∀ {refs : List α} {items : List β},
    refs.length ≤ items.length → (∀ a ∈ refs, ∀ b ∈ items, lt bound (dist a b) = false) →
    (greedy lt dist bound refs items).isSome := by
  intro refs
  induction refs with
  | nil => exact fun _ _ ↦ rfl
  | cons a refs ih =>
    intro items hlen hwithin
    obtain ⟨ha, hrefs⟩ := List.forall_mem_cons.mp hwithin
    have hne : items ≠ [] := by
      rintro rfl
      simp at hlen
    obtain ⟨⟨j, e⟩, hnearest⟩ := Option.isSome_iff_exists.mp
      (@nearestFrom_isSome β γ lt (dist a) items 0 none (.inr hne))
    obtain ⟨b, hb, rfl⟩ := nearest_spec hnearest
    obtain ⟨hj, -⟩ := List.getElem?_eq_some_iff.mp hb
    have hbound := ha b (List.mem_of_getElem? hb)
    rw [greedy, nearest, hnearest]
    dsimp only
    rw [if_neg (by rw [hbound]; simp), hb]
    dsimp only
    rw [Option.isSome_map]
    refine ih ?_ fun a' ha' b' hb' ↦ hrefs a' ha' b' (List.mem_of_mem_eraseIdx hb')
    rw [List.length_eraseIdx_of_lt hj]
    rw [List.length_cons] at hlen
    omega

/-- While the references are served, the nearest item left is related to the reference. -/
def NearestIn (lt : γ → γ → Bool) (dist : α → β → γ) (R : α → β → Prop) :
    List α → List β → Prop
  | [], _ => True
  | a :: refs, items => ∀ j e b, nearest lt (dist a) items = some (j, e) → items[j]? = some b →
    R a b ∧ NearestIn lt dist R refs (items.eraseIdx j)

/-- **What is matched is related** exactly when the nearest item is, at every turn. -/
theorem greedy_forall₂_iff {R : α → β → Prop} : ∀ {refs : List α} {items matched : List β},
    greedy lt dist bound refs items = some matched →
    (List.Forall₂ R refs matched ↔ NearestIn lt dist R refs items) := by
  intro refs
  induction refs with
  | nil =>
    rintro items _ ⟨⟩
    exact ⟨fun _ ↦ trivial, fun _ ↦ .nil⟩
  | cons a refs ih =>
    intro items matched h
    obtain ⟨j, e, b, rest, hnearest, hb, -, hrest, rfl⟩ := greedy_cons_eq_some h
    rw [List.forall₂_cons, ih hrest, NearestIn]
    constructor
    · intro hrel j' e' b' hnearest' hb'
      -- the nearest item is the one that was taken
      rw [hnearest] at hnearest'
      cases hnearest'
      rw [hb] at hb'
      cases hb'
      exact hrel
    · exact fun hall ↦ hall j e b hnearest hb

/-- If all items are related to all references, the nearest ones are. -/
theorem nearestIn_of_forall {R : α → β → Prop} : ∀ {refs : List α} {items : List β},
    (∀ a ∈ refs, ∀ b ∈ items, R a b) → NearestIn lt dist R refs items := by
  intro refs
  induction refs with
  | nil => exact fun _ ↦ trivial
  | cons a refs ih =>
    intro items h j e b _ hb
    refine ⟨h a List.mem_cons_self b (List.mem_of_getElem? hb), ih fun a' ha' b' hb' ↦ ?_⟩
    exact h a' (List.mem_cons_of_mem _ ha') b' (List.mem_of_mem_eraseIdx hb')

/-! ## Assignments -/

/-- A one-to-one assignment of the items to the references in which every pair is related. -/
def Assignable (R : α → β → Prop) (refs : List α) (items : List β) : Prop :=
  ∃ matched, items.Perm matched ∧ List.Forall₂ R refs matched

theorem Assignable.length_eq {R : α → β → Prop} {refs : List α} {items : List β}
    (h : Assignable R refs items) : refs.length = items.length := by
  obtain ⟨matched, hperm, hall⟩ := h
  rw [hall.length_eq, hperm.length_eq]

/-- The order of the references and that of the items do not matter. -/
theorem Assignable.perm {R : α → β → Prop} {refs refs' : List α} {items items' : List β}
    (hrefs : refs.Perm refs') (hitems : items.Perm items') (h : Assignable R refs items) :
    Assignable R refs' items' := by
  obtain ⟨matched, hperm, hall⟩ := h
  obtain ⟨matched', hall', hperm'⟩ := List.perm_comp_forall₂ hrefs.symm hall
  exact ⟨matched', hitems.symm.trans (hperm.trans hperm'.symm), hall'⟩

/-- What is related through maps can be assigned through them. -/
theorem assignable_map_iff {α' : Type u} {β' : Type v} {R : α → β → Prop} {f : α' → α} {g : β' → β}
    {refs : List α'} {items : List β'} : Assignable R (refs.map f) (items.map g) ↔
      Assignable (fun a b ↦ R (f a) (g b)) refs items := by
  constructor
  · rintro ⟨matched, hperm, hall⟩
    have hmap : List.Forall₂ (fun b b' ↦ b = g b') (items.map g) items :=
      List.forall₂_map_left_iff.mpr (List.forall₂_same.mpr fun _ _ ↦ rfl)
    -- the assignment is made of images of items
    obtain ⟨m, heq, hperm'⟩ := List.perm_comp_forall₂ hperm.symm hmap
    obtain rfl : matched = m.map g :=
      List.forall₂_eq_eq_eq ▸ List.forall₂_map_right_iff.mpr heq
    rw [List.forall₂_map_left_iff, List.forall₂_map_right_iff] at hall
    exact ⟨m, hperm'.symm, hall⟩
  · rintro ⟨matched, hperm, hall⟩
    refine ⟨matched.map g, hperm.map g, ?_⟩
    rwa [List.forall₂_map_left_iff, List.forall₂_map_right_iff]

/-- **Only one assignment.** When no item is in reach of two references, each reference has one
item, whatever the order. -/
theorem eq_of_refs_apart {R : α → β → Prop} {refs refs' : List α} {m m' : List β}
    (hapart : refs.Pairwise fun a a' ↦ ∀ b ∈ m, R a b → ¬R a' b) (hall : List.Forall₂ R refs m)
    (hall' : List.Forall₂ R refs' m') (hmem : ∀ b ∈ m', b ∈ m) {i j : ℕ} {a : α}
    (hi : refs'[i]? = some a) (hj : refs[j]? = some a) : m'[i]? = m[j]? := by
  obtain ⟨hi, ha'⟩ := List.getElem?_eq_some_iff.mp hi
  obtain ⟨hj, ha⟩ := List.getElem?_eq_some_iff.mp hj
  have hi' : i < m'.length := by rwa [← hall'.length_eq]
  have hj' : j < m.length := by rwa [← hall.length_eq]
  obtain ⟨k, hk', hk⟩ := List.getElem_of_mem (hmem _ (List.getElem_mem hi'))
  have hrel : R a m[k] := by
    rw [hk, ← ha']
    exact hall'.get hi hi'
  have hkrefs : k < refs.length := by rwa [hall.length_eq]
  have hrel' : R refs[k] m[k] := hall.get hkrefs hk'
  rw [List.pairwise_iff_getElem] at hapart
  -- the reference that has the item in the assignment is this one
  have hkj : k = j := by
    rcases lt_trichotomy k j with hlt | heq | hlt
    · exact absurd (ha ▸ hrel) (hapart k j hkrefs hj hlt _ (List.getElem_mem hk') hrel')
    · exact heq
    · exact absurd hrel' (hapart j k hj hkrefs hlt _ (List.getElem_mem hk') (ha ▸ hrel))
  subst hkj
  rw [List.getElem?_eq_getElem hi', List.getElem?_eq_getElem hj', hk]

/-- No nearest choice takes the last chance of the references behind: while what is left can be
assigned, it still can be when the nearest item is taken. -/
def KeepsAssignable (lt : γ → γ → Bool) (dist : α → β → γ) (R : α → β → Prop) :
    List α → List β → Prop
  | [], _ => True
  | a :: refs, items => ∀ j e, nearest lt (dist a) items = some (j, e) →
    Assignable R (a :: refs) items →
      Assignable R refs (items.eraseIdx j) ∧ KeepsAssignable lt dist R refs (items.eraseIdx j)

/-- What is matched is an assignment. -/
theorem assignable_of_greedy {refs : List α} {items matched : List β}
    (h : greedy lt dist bound refs items = some matched) (hlen : refs.length = items.length) :
    Assignable (fun a b ↦ lt bound (dist a b) = false) refs items :=
  ⟨matched, greedy_perm h hlen, greedy_within h⟩

/-- Taking the item of the assignment leaves the rest of the assignment. -/
private theorem perm_eraseIdx {items rest : List β} {b b' : β} {j : ℕ}
    (hperm : items.Perm (b :: rest)) (hj : items[j]? = some b') (hnot : b' ∉ rest) :
    (items.eraseIdx j).Perm rest := by
  obtain ⟨hlt, rfl⟩ := List.getElem?_eq_some_iff.mp hj
  have hmem : items[j] ∈ b :: rest := hperm.mem_iff.mp (List.getElem_mem hlt)
  have heq : items[j] = b := (List.mem_cons.mp hmem).resolve_right hnot
  have hitems := (List.getElem_cons_eraseIdx_perm hlt).trans hperm
  rw [heq] at hitems
  exact hitems.cons_inv

section Order

variable [LinearOrder γ] (hlt : ∀ x y, lt x y = true ↔ x < y)

include hlt

private theorem nearestFrom_le {items : List β} : ∀ {i j : ℕ} {best : Option (ℕ × γ)} {e : γ},
    nearestFrom lt d i best items = some (j, e) →
      (∀ b ∈ items, e ≤ d b) ∧ ∀ i c, best = some (i, c) → e ≤ c := by
  induction items with
  | nil =>
    rintro i j best e h
    exact ⟨by simp, fun i c hbest ↦ by rw [nearestFrom, hbest] at h; cases h; exact le_rfl⟩
  | cons b items ih =>
    rintro i j (_ | ⟨k, c⟩) e h
    · obtain ⟨hitems, hnew⟩ := ih h
      exact ⟨List.forall_mem_cons.mpr ⟨hnew i (d b) rfl, hitems⟩, by rintro _ _ ⟨⟩⟩
    · rw [nearestFrom] at h
      obtain ⟨hitems, hnew⟩ := ih h
      by_cases hb : lt (d b) c = true
      · rw [if_pos hb] at hnew
        have hle := hnew i (d b) rfl
        refine ⟨List.forall_mem_cons.mpr ⟨hle, hitems⟩, ?_⟩
        rintro _ _ ⟨⟩
        exact hle.trans ((hlt _ _).mp hb).le
      · rw [if_neg hb] at hnew
        have hle := hnew k c rfl
        have hcb : c ≤ d b := not_lt.mp fun h ↦ hb ((hlt _ _).mpr h)
        refine ⟨List.forall_mem_cons.mpr ⟨hle.trans hcb, hitems⟩, ?_⟩
        rintro _ _ ⟨⟩
        exact hle

/-- Nothing is nearer than the nearest item. -/
theorem nearest_le {items : List β} {j : ℕ} {e : γ} (h : nearest lt d items = some (j, e)) :
    ∀ b ∈ items, e ≤ d b := (nearestFrom_le hlt h).1

/-- If an item is within the bound, the nearest one is. -/
theorem exists_nearest_within {items : List β} {b : β} (hb : b ∈ items)
    (hwithin : lt bound (d b) = false) :
    ∃ j b', nearest lt d items = some (j, d b') ∧ items[j]? = some b' ∧
      lt bound (d b') = false := by
  obtain ⟨⟨j, e⟩, hnearest⟩ := Option.isSome_iff_exists.mp
    (@nearestFrom_isSome β γ lt d items 0 none (.inr (List.ne_nil_of_mem hb)))
  obtain ⟨b', hb', rfl⟩ := nearest_spec hnearest
  refine ⟨j, b', hnearest, hb', ?_⟩
  have hle := nearest_le hlt hnearest b hb
  rw [Bool.eq_false_iff, ne_eq, hlt, not_lt] at hwithin ⊢
  exact hle.trans hwithin

/-- **Greedy matching and assignments.** The references are matched exactly when there is an
assignment within the bound and no nearest choice spoils it. -/
theorem greedy_isSome_iff : ∀ {refs : List α} {items : List β},
    (refs.length = items.length ∧ (greedy lt dist bound refs items).isSome) ↔
      Assignable (fun a b ↦ lt bound (dist a b) = false) refs items ∧
        KeepsAssignable lt dist (fun a b ↦ lt bound (dist a b) = false) refs items := by
  intro refs
  induction refs with
  | nil =>
    intro items
    constructor
    · rintro ⟨hlen, -⟩
      obtain rfl := List.length_eq_zero_iff.mp hlen.symm
      exact ⟨⟨[], .refl _, .nil⟩, trivial⟩
    · exact fun h ↦ ⟨h.1.length_eq, rfl⟩
  | cons a refs ih =>
    intro items
    constructor
    · rintro ⟨hlen, hsome⟩
      obtain ⟨matched, h⟩ := Option.isSome_iff_exists.mp hsome
      refine ⟨assignable_of_greedy h hlen, fun j e hnearest _ ↦ ?_⟩
      obtain ⟨j', e', b, rest, hnearest', hb, -, hrest, -⟩ := greedy_cons_eq_some h
      rw [hnearest'] at hnearest
      cases hnearest
      obtain ⟨hj, -⟩ := List.getElem?_eq_some_iff.mp hb
      refine ih.mp ⟨?_, by rw [hrest]; rfl⟩
      rw [List.length_eraseIdx_of_lt hj, ← hlen, List.length_cons, Nat.add_sub_cancel]
    · rintro ⟨hassign, hkeeps⟩
      obtain ⟨matched, hperm, hall⟩ := id hassign
      obtain ⟨b, rest, hab, -, rfl⟩ := List.forall₂_cons_left_iff.mp hall
      have hb : b ∈ items := hperm.mem_iff.mpr List.mem_cons_self
      -- the item of the assignment is in reach, so the nearest one is
      obtain ⟨j, b', hnearest, hb', hwithin⟩ := exists_nearest_within hlt hb hab
      obtain ⟨-, hsome⟩ := ih.mpr (hkeeps j _ hnearest hassign)
      obtain ⟨tail, htail⟩ := Option.isSome_iff_exists.mp hsome
      refine ⟨hassign.length_eq, ?_⟩
      rw [greedy, hnearest]
      dsimp only
      rw [if_neg (by rw [hwithin]; simp), hb', htail]
      rfl

/-- Nothing is spoiled when no item is in reach of two references. -/
theorem keepsAssignable_of_refs_apart : ∀ {refs : List α} {items : List β},
    refs.Pairwise (fun a a' ↦ ∀ b ∈ items, lt bound (dist a b) = false →
      lt bound (dist a' b) ≠ false) →
    KeepsAssignable lt dist (fun a b ↦ lt bound (dist a b) = false) refs items := by
  intro refs
  induction refs with
  | nil => exact fun _ ↦ trivial
  | cons a refs ih =>
    intro items hapart j e hnearest hassign
    obtain ⟨hhead, htail⟩ := List.pairwise_cons.mp hapart
    obtain ⟨matched, hperm, hall⟩ := hassign
    obtain ⟨b, rest, hab, hrest, rfl⟩ := List.forall₂_cons_left_iff.mp hall
    obtain ⟨j', b', hnearest', hb', hwithin⟩ :=
      exists_nearest_within hlt (hperm.mem_iff.mpr List.mem_cons_self) hab
    rw [hnearest'] at hnearest
    cases hnearest
    have hnot : b' ∉ rest := by
      -- whoever has it in the assignment would be in reach as well
      intro hmem
      obtain ⟨i, hi, rfl⟩ := List.getElem_of_mem hmem
      have hi' : i < refs.length := by rwa [hrest.length_eq]
      exact hhead refs[i] (List.getElem_mem hi') _ (List.mem_of_getElem? hb') hwithin
        (hrest.get hi' hi)
    refine ⟨⟨rest, perm_eraseIdx hperm hb' hnot, hrest⟩, ih (htail.imp fun h c hc ↦ ?_)⟩
    exact h c (List.mem_of_mem_eraseIdx hc)

/-- Nor when no reference has two items in reach. -/
theorem keepsAssignable_of_items_apart : ∀ {refs : List α} {items : List β},
    items.Pairwise (fun b b' ↦ ∀ a ∈ refs, lt bound (dist a b) = false →
      lt bound (dist a b') ≠ false) →
    KeepsAssignable lt dist (fun a b ↦ lt bound (dist a b) = false) refs items := by
  intro refs
  induction refs with
  | nil => exact fun _ ↦ trivial
  | cons a refs ih =>
    intro items hapart j e hnearest hassign
    obtain ⟨matched, hperm, hall⟩ := hassign
    obtain ⟨b, rest, hab, hrest, rfl⟩ := List.forall₂_cons_left_iff.mp hall
    obtain ⟨j', b', hnearest', hb', hwithin⟩ :=
      exists_nearest_within hlt (hperm.mem_iff.mpr List.mem_cons_self) hab
    rw [hnearest'] at hnearest
    cases hnearest
    have hnot : b' ∉ rest := by
      intro hmem
      have hpairwise := (hperm.pairwise_iff fun h a' ha' hb' hb ↦ h a' ha' hb hb').mp hapart
      exact (List.pairwise_cons.mp hpairwise).1 b' hmem a List.mem_cons_self hab hwithin
    refine ⟨⟨rest, perm_eraseIdx hperm hb' hnot, hrest⟩, ih ?_⟩
    exact (hapart.sublist (List.eraseIdx_sublist items j)).imp
      fun h a' ha' ↦ h a' (List.mem_cons_of_mem _ ha')

end Order

/-! ## Averages -/

/-- The average of `z` and of points within `d` of it stays within their share of `d`. -/
theorem norm_average_sub_le {z : ℂ} {l : List ℂ} {d : ℝ} (h : ∀ w ∈ l, ‖w - z‖ ≤ d) :
    ‖(z + l.sum) / ((l.length + 1 : ℕ) : ℂ) - z‖ ≤ d * l.length / (l.length + 1 : ℕ) := by
  have hsum : ∀ l : List ℂ, (∀ w ∈ l, ‖w - z‖ ≤ d) → ‖l.sum - l.length * z‖ ≤ d * l.length := by
    intro l
    induction l with
    | nil => simp
    | cons w l ih =>
      intro h
      obtain ⟨hw, hl⟩ := List.forall_mem_cons.mp h
      have hsplit : (w :: l).sum - ((w :: l).length : ℂ) * z
          = (w - z) + (l.sum - l.length * z) := by
        rw [List.sum_cons, List.length_cons]
        push_cast
        ring
      calc ‖(w :: l).sum - ((w :: l).length : ℂ) * z‖
          ≤ ‖w - z‖ + ‖l.sum - l.length * z‖ := by rw [hsplit]; exact norm_add_le _ _
        _ ≤ d + d * l.length := add_le_add hw (ih hl)
        _ = d * (w :: l).length := by rw [List.length_cons]; push_cast; ring
  have hpos : (0 : ℝ) < (l.length + 1 : ℕ) := by positivity
  have hne : ((l.length + 1 : ℕ) : ℂ) ≠ 0 := by exact_mod_cast hpos.ne'
  have hmean : (z + l.sum) / ((l.length + 1 : ℕ) : ℂ) - z
      = (l.sum - l.length * z) / ((l.length + 1 : ℕ) : ℂ) := by
    field_simp
    push_cast
    ring
  rw [hmean, norm_div, Complex.norm_natCast]
  exact div_le_div_of_nonneg_right (hsum l h) hpos.le

end GreedyMatch
