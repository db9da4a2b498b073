import Mathlib

/-!
# Dictionaries that keep the order of insertion

A dictionary is a list of pairs. Setting a key replaces its value in place, or adds the pair at the
end. All of it is natural in the values, so that what a key ends up with can be worked out on
indices first and read off a list of values later.
-/

namespace Dict

universe u v w

variable {κ : Type u} {α : Type v} {β : Type w} [DecidableEq κ]

/-- Set a key. -/
def set (d : List (κ × α)) (k : κ) (a : α) : List (κ × α) :=
  match d with
  | [] => [(k, a)]
  | (k', a') :: d => if k' = k then (k', a) :: d else (k', a') :: set d k a

/-- Set one key after the other. -/
def update (d : List (κ × α)) (pairs : List (κ × α)) : List (κ × α) :=
  pairs.foldl (fun d pair ↦ set d pair.1 pair.2) d

/-- The dictionary of a list of pairs. -/
def ofPairs (pairs : List (κ × α)) : List (κ × α) := update [] pairs

/-- The same keys with other values. -/
def mapValues (f : α → β) (d : List (κ × α)) : List (κ × β) := d.map fun pair ↦ (pair.1, f pair.2)

/-! ## One key -/

/-- A new key goes to the end. -/
theorem set_of_notMem {d : List (κ × α)} {k : κ} {a : α} (h : k ∉ d.map Prod.fst) :
    set d k a = d ++ [(k, a)] := by
  induction d with
  | nil => rfl
  | cons pair d ih =>
    obtain ⟨hne, hd⟩ := not_or.mp (fun hmem ↦ h (List.mem_cons.mpr hmem))
    rw [set, if_neg (Ne.symm hne), ih hd]
    rfl

theorem set_mapValues (f : α → β) (d : List (κ × α)) (k : κ) (a : α) :
    set (mapValues f d) k (f a) = mapValues f (set d k a) := by
  induction d with
  | nil => rfl
  | cons pair d ih =>
    have hcons : mapValues f (pair :: d) = (pair.1, f pair.2) :: mapValues f d := rfl
    rw [hcons, set, set]
    split
    · rfl
    · rw [ih]
      rfl

/-! ## Many keys -/

theorem update_append (d : List (κ × α)) (p q : List (κ × α)) :
    update d (p ++ q) = update (update d p) q := List.foldl_append

theorem update_mapValues (f : α → β) (d pairs : List (κ × α)) :
    update (mapValues f d) (mapValues f pairs) = mapValues f (update d pairs) := by
  induction pairs generalizing d with
  | nil => rfl
  | cons pair pairs ih =>
    change update (set (mapValues f d) pair.1 (f pair.2)) (mapValues f pairs) = _
    rw [set_mapValues, ih]
    rfl

theorem ofPairs_mapValues (f : α → β) (pairs : List (κ × α)) :
    ofPairs (mapValues f pairs) = mapValues f (ofPairs pairs) := update_mapValues f [] pairs

/-- What is found after mapping the values. -/
theorem lookup_mapValues {κ : Type u} [BEq κ] (f : α → β) (d : List (κ × α)) (k : κ) :
    (mapValues f d).lookup k = (d.lookup k).map f := by
  induction d with
  | nil => rfl
  | cons pair d ih =>
    have hcons : mapValues f (pair :: d) = (pair.1, f pair.2) :: mapValues f d := rfl
    rw [hcons, List.lookup_cons, List.lookup_cons, ih]
    split <;> rfl

theorem mem_set {d : List (κ × α)} {k : κ} {a : α} {pair : κ × α} (h : pair ∈ set d k a) :
    pair = (k, a) ∨ pair ∈ d := by
  induction d with
  | nil => exact .inl (List.mem_singleton.mp h)
  | cons first d ih =>
    rw [set] at h
    split at h
    · rename_i heq
      rcases List.mem_cons.mp h with rfl | h
      · exact .inl (by rw [heq])
      · exact .inr (List.mem_cons_of_mem _ h)
    · rcases List.mem_cons.mp h with rfl | h
      · exact .inr List.mem_cons_self
      · rcases ih h with hnew | hold
        · exact .inl hnew
        · exact .inr (List.mem_cons_of_mem _ hold)

theorem mem_update {d pairs : List (κ × α)} {pair : κ × α} (h : pair ∈ update d pairs) :
    pair ∈ pairs ∨ pair ∈ d := by
  induction pairs generalizing d with
  | nil => exact .inr h
  | cons first pairs ih =>
    rcases @ih (set d first.1 first.2) h with hmem | hset
    · exact .inl (List.mem_cons_of_mem _ hmem)
    · rcases mem_set hset with rfl | hd
      · exact .inl List.mem_cons_self
      · exact .inr hd

/-- A key is still there, or is the one that was set. -/
theorem mem_keys_set {d : List (κ × α)} {k k' : κ} {a : α} :
    k' ∈ (set d k a).map Prod.fst ↔ k' = k ∨ k' ∈ d.map Prod.fst := by
  induction d with
  | nil => simp [set]
  | cons first d ih =>
    rw [set]
    split
    · rename_i heq
      simp [heq]
    · rw [List.map_cons, List.mem_cons, ih, List.map_cons, List.mem_cons]
      tauto

/-- Keys stay different. -/
theorem nodup_set {d : List (κ × α)} {k : κ} {a : α} (h : (d.map Prod.fst).Nodup) :
    ((set d k a).map Prod.fst).Nodup := by
  induction d with
  | nil => simp [set]
  | cons first d ih =>
    rw [List.map_cons, List.nodup_cons] at h
    rw [set]
    split
    · rwa [List.map_cons, List.nodup_cons]
    · rename_i hne
      rw [List.map_cons, List.nodup_cons, mem_keys_set, not_or]
      exact ⟨⟨hne, h.1⟩, ih h.2⟩

theorem nodup_update {d pairs : List (κ × α)} (h : (d.map Prod.fst).Nodup) :
    ((update d pairs).map Prod.fst).Nodup := by
  induction pairs generalizing d with
  | nil => exact h
  | cons pair pairs ih => exact ih (nodup_set h)

theorem lookup_cons {κ : Type u} [DecidableEq κ] {pair : κ × α} {d : List (κ × α)} {k : κ} :
    (pair :: d).lookup k = if k = pair.1 then some pair.2 else d.lookup k := by
  rw [List.lookup_cons]
  by_cases h : k = pair.1
  · rw [if_pos h, beq_iff_eq.mpr h]
  · rw [if_neg h, beq_eq_false_iff_ne.mpr h]

/-- What is found after setting a key. -/
theorem lookup_set {κ : Type u} [DecidableEq κ] {d : List (κ × α)} {k k' : κ} {a : α} :
    (set d k a).lookup k' = if k' = k then some a else d.lookup k' := by
  induction d with
  | nil => rw [set, lookup_cons]
  | cons first d ih =>
    rw [set]
    by_cases hfirst : first.1 = k
    · rw [if_pos hfirst, lookup_cons, lookup_cons, hfirst]
      by_cases h : k' = k
      · rw [if_pos h, if_pos h]
      · rw [if_neg h, if_neg h, if_neg h]
    · rw [if_neg hfirst, lookup_cons, lookup_cons, ih]
      by_cases h : k' = k
      · rw [if_pos h, if_neg (by rw [h]; exact Ne.symm hfirst), if_pos h]
      · rw [if_neg h, if_neg h]

/-- Pairs with different keys take precedence over the dictionary that they update. -/
theorem lookup_update {κ : Type u} [DecidableEq κ] {d pairs : List (κ × α)} {k : κ}
    (h : (pairs.map Prod.fst).Nodup) :
    (update d pairs).lookup k = (pairs.lookup k).or (d.lookup k) := by
  induction pairs generalizing d with
  | nil => rfl
  | cons pair pairs ih =>
    rw [List.map_cons, List.nodup_cons] at h
    change (update (set d pair.1 pair.2) pairs).lookup k = _
    rw [ih h.2, lookup_set, lookup_cons]
    by_cases hk : k = pair.1
    · have hnone : pairs.lookup pair.1 = none := by
        rw [List.lookup_eq_none_iff]
        rintro p hp
        rw [bne_iff_ne]
        exact fun heq ↦ h.1 (List.mem_map.mpr ⟨p, hp, heq.symm⟩)
      simp [hk, hnone]
    · simp [hk]

/-- A dictionary has only the pairs it was made of. -/
theorem mem_of_mem_ofPairs {pairs : List (κ × α)} {pair : κ × α} (h : pair ∈ ofPairs pairs) :
    pair ∈ pairs := by
  rcases mem_update h with hmem | hnil
  · exact hmem
  · cases hnil

/-- What is found is a pair of the dictionary. -/
theorem mem_of_lookup {κ : Type u} [BEq κ] [LawfulBEq κ] {d : List (κ × α)} {k : κ} {a : α}
    (h : d.lookup k = some a) : (k, a) ∈ d := by
  obtain ⟨l₁, l₂, rfl, -⟩ := List.lookup_eq_some_iff.mp h
  simp

/-- A pair whose key occurs once is found. -/
theorem lookup_of_mem {κ : Type u} [BEq κ] [LawfulBEq κ] {d : List (κ × α)} {k : κ} {a : α}
    (hnodup : (d.map Prod.fst).Nodup) (h : (k, a) ∈ d) : d.lookup k = some a := by
  induction d with
  | nil => cases h
  | cons pair d ih =>
    rw [List.map_cons, List.nodup_cons] at hnodup
    rcases List.mem_cons.mp h with rfl | h
    · exact List.lookup_cons_self
    · have hne : k ≠ pair.1 := by
        rintro rfl
        exact hnodup.1 (List.mem_map.mpr ⟨_, h, rfl⟩)
      rw [List.lookup_cons, beq_eq_false_iff_ne.mpr hne]
      exact ih hnodup.2 h

end Dict
