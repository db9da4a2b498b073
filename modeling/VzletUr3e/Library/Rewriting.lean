import Mathlib

/-!
# Replacing markers from the front

A text is searched from the front for a marker; the marker is replaced by its value, and the search
begins at the front again, until there is no marker left. What a marker is replaced by may depend on
a state, and may change it.

A text is *inert* if no marker begins in it, whatever comes behind it. Where the texts between the
markers and the values are inert, every marker is replaced once, in order (`rewrite_source`). Where
the value of a marker holds the marker again, the replacing never ends (`rewrite_eq_none`).
-/

namespace Rewriting

universe u v w x

variable {α : Type u} {β : Type v} {σ : Type w} {ε : Type x}
  {matchAt : List α → Option (β × List α)}

/-- The first marker of a text: what is before it, what it says, and what is behind it. -/
def search (matchAt : List α → Option (β × List α)) : List α → Option (List α × β × List α)
  | [] => (matchAt []).map fun found ↦ ([], found)
  | a :: text =>
    match matchAt (a :: text) with
    | some found => some ([], found)
    | none => (search matchAt text).map fun (before, found) ↦ (a :: before, found)

/-- The first marker is replaced by its value, until there is none left. -/
def rewrite (matchAt : List α → Option (β × List α))
    (value : σ → β → Option (σ × Except ε (List α))) :
    ℕ → σ → List α → Option (σ × Except ε (List α))
  | 0, _, _ => none
  | fuel + 1, s, text =>
    match search matchAt text with
    | none => some (s, .ok text)
    | some (before, b, after) =>
      match value s b with
      | none => none
      | some (s', .error e) => some (s', .error e)
      | some (s', .ok v) => rewrite matchAt value fuel s' (before ++ v ++ after)

/-- No marker begins in `p`. -/
def Inert (matchAt : List α → Option (β × List α)) (p : List α) : Prop :=
  ∀ q, q <:+ p → q ≠ [] → ∀ rest, matchAt (q ++ rest) = none

/-- `m` is a marker that says `b`. -/
def Marker (matchAt : List α → Option (β × List α)) (m : List α) (b : β) : Prop :=
  ∀ rest, matchAt (m ++ rest) = some (b, rest)

theorem Inert.of_suffix {p q : List α} (h : Inert matchAt p) (hq : q <:+ p) : Inert matchAt q :=
  fun r hr ↦ h r (hr.trans hq)

theorem Inert.append {p q : List α} (hp : Inert matchAt p) (hq : Inert matchAt q) :
    Inert matchAt (p ++ q) := by
  intro r hr hne rest
  obtain ⟨t, ht⟩ := hr
  rcases List.append_eq_append_iff.mp ht with ⟨r', rfl, rfl⟩ | ⟨t', rfl, rfl⟩
  · rcases eq_or_ne r' [] with rfl | hne'
    · exact hq _ (List.suffix_refl _) hne rest
    · rw [List.append_assoc]
      exact hp r' (List.suffix_append _ _) hne' _
  · exact hq r (List.suffix_append _ _) hne rest

/-! ## Searching -/

theorem search_cons_of_none {a : α} {text : List α} (h : matchAt (a :: text) = none) :
    search matchAt (a :: text)
      = (search matchAt text).map fun (before, found) ↦ (a :: before, found) := by
  rw [search, h]

theorem search_of_some {text : List α} {found : β × List α} (h : matchAt text = some found) :
    search matchAt text = some ([], found) := by
  rcases text with _ | ⟨a, text⟩
  · rw [search, h, Option.map_some]
  · rw [search, h]

/-- The search runs over an inert text. -/
theorem search_append {p : List α} (h : Inert matchAt p) (text : List α) :
    search matchAt (p ++ text)
      = (search matchAt text).map fun (before, found) ↦ (p ++ before, found) := by
  induction p with
  | nil => simp
  | cons a p ih =>
    have hnone := h (a :: p) (List.suffix_refl _) (List.cons_ne_nil a p) text
    rw [List.cons_append] at hnone ⊢
    rw [search_cons_of_none hnone, ih (h.of_suffix (List.suffix_cons a p)), Option.map_map]
    rfl

theorem search_inert {p : List α} (h : Inert matchAt p) (hend : matchAt [] = none) :
    search matchAt p = none := by
  have hsearch := search_append h []
  rw [List.append_nil] at hsearch
  rw [hsearch, search, hend, Option.map_none, Option.map_none]

theorem search_marker {p m : List α} {b : β} (hp : Inert matchAt p) (hm : Marker matchAt m b)
    (rest : List α) : search matchAt (p ++ (m ++ rest)) = some (p, b, rest) := by
  rw [search_append hp, search_of_some (hm rest)]
  simp

/-! ## Replacing -/

variable {value : σ → β → Option (σ × Except ε (List α))}

/-- A text in parts: each marker, what it says, and the text behind it. -/
def source (parts : List (List α × β × List α)) : List α :=
  parts.flatMap fun (m, _, p) ↦ m ++ p

/-- Each marker replaced by its value, in order, up to the first error. -/
def fill (value : σ → β → Option (σ × Except ε (List α))) :
    σ → List (List α × β × List α) → Option (σ × Except ε (List α))
  | s, [] => some (s, .ok [])
  | s, (_, b, p) :: parts =>
    match value s b with
    | none => none
    | some (s', .error e) => some (s', .error e)
    | some (s', .ok v) =>
      (fill value s' parts).map fun (s'', text) ↦ (s'', text.map fun text ↦ v ++ p ++ text)

/-- **Every marker is replaced once**, in order. -/
theorem rewrite_source (hend : matchAt [] = none)
    (hvalue : ∀ s b s' v, value s b = some (s', .ok v) → Inert matchAt v)
    {parts : List (List α × β × List α)}
    (hparts : ∀ part ∈ parts, Marker matchAt part.1 part.2.1 ∧ Inert matchAt part.2.2) :
    ∀ {first : List α} {fuel : ℕ} {s : σ}, Inert matchAt first → parts.length < fuel →
      rewrite matchAt value fuel s (first ++ source parts)
        = (fill value s parts).map fun (s', text) ↦ (s', text.map fun text ↦ first ++ text) := by
  induction parts with
  | nil =>
    rintro first (_ | fuel) s hfirst hfuel
    · exact absurd hfuel (Nat.lt_irrefl 0)
    · rw [source, List.flatMap_nil, List.append_nil, rewrite, search_inert hfirst hend]
      simp [fill, Except.map]
  | cons part parts ih =>
    obtain ⟨m, b, p⟩ := part
    rintro first (_ | fuel) s hfirst hfuel
    · exact absurd hfuel (Nat.not_lt_zero _)
    obtain ⟨⟨hm, hp⟩, hparts⟩ := List.forall_mem_cons.mp hparts
    have hsource : source ((m, b, p) :: parts) = m ++ (p ++ source parts) := by
      rw [source, List.flatMap_cons, List.append_assoc, source]
    rw [hsource, rewrite, search_marker hfirst hm, fill]
    rcases hb : value s b with _ | ⟨s', e | v⟩
    · simp only [hb, Option.map_none]
    · simp only [hb, Option.map_some, Except.map]
    · simp only [hb]
      have hv : Inert matchAt (first ++ v ++ p) :=
        (hfirst.append (hvalue s b s' v hb)).append hp
      rw [List.length_cons] at hfuel
      rw [← List.append_assoc, ih hparts hv (Nat.lt_of_succ_lt_succ hfuel), Option.map_map]
      congr 1
      funext ⟨s'', text⟩
      rcases text with e | text <;> simp [Except.map]

/-- What every value does to the state, the replacing does. -/
theorem rewrite_induction {R : σ → σ → Prop} (hrefl : ∀ s, R s s)
    (htrans : ∀ {s s' s''}, R s s' → R s' s'' → R s s'')
    (hvalue : ∀ s b s' r, value s b = some (s', r) → R s s') :
    ∀ (fuel : ℕ) {s s' : σ} {text : List α} {r : Except ε (List α)},
      rewrite matchAt value fuel s text = some (s', r) → R s s' := by
  intro fuel
  induction fuel with
  | zero =>
    intro s s' text r h
    cases h
  | succ fuel ih =>
    intro s s' text r h
    rw [rewrite] at h
    rcases hsearch : search matchAt text with _ | ⟨before, b, after⟩
    · simp only [hsearch, Option.some.injEq, Prod.mk.injEq] at h
      exact h.1 ▸ hrefl s
    · rcases hb : value s b with _ | ⟨s'', e | v⟩
      · simp [hsearch, hb] at h
      · simp only [hsearch, hb, Option.some.injEq, Prod.mk.injEq] at h
        exact h.1 ▸ hvalue s b s'' _ hb
      · simp only [hsearch, hb] at h
        exact htrans (hvalue s b s'' _ hb) (ih h)

/-- **A value that holds its marker** is never done with. -/
theorem rewrite_eq_none {m pre post : List α} {b : β} (hm : Marker matchAt m b)
    (hpre : Inert matchAt pre) {s : σ} (hvalue : value s b = some (s, .ok (pre ++ m ++ post))) :
    ∀ (fuel : ℕ) {first : List α}, Inert matchAt first → ∀ rest,
      rewrite matchAt value fuel s (first ++ (m ++ rest)) = none := by
  intro fuel
  induction fuel with
  | zero => exact fun _ _ ↦ rfl
  | succ fuel ih =>
    intro first hfirst rest
    rw [rewrite, search_marker hfirst hm]
    simp only [hvalue]
    have hassoc : first ++ (pre ++ m ++ post) ++ rest = first ++ pre ++ (m ++ (post ++ rest)) := by
      simp only [List.append_assoc]
    rw [hassoc]
    exact ih (hfirst.append hpre) (post ++ rest)

end Rewriting
