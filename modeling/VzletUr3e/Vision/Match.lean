import VzletUr3e.Vision.Kinds

/-!
# Which frames can be matched

`_match_candidates_to_reference` serves the reference candidates in their order, each with the
nearest candidate that is left. What it returns is a one-to-one assignment within the distance. It
does not search for one: a nearest choice can take the only candidate in reach of a later reference,
and then a frame that could be matched is rejected. Where candidates lie further apart than the
distance, no choice can do that.
-/

namespace VzletUr3e.Vision

open Control PyFloat

/-- Two candidates within the distance of each other. -/
def Within {K : Type} [PyFloat K] (maxDist : K) (ref c : Candidate K) : Prop :=
  lt maxDist (centerDist ref c) = false

/-- A one-to-one assignment of the current candidates to the reference candidates, in which every
pair is within the distance. -/
def CanBeMatched {K : Type} [PyFloat K] (maxDist : K) (ref current : List (Candidate K)) : Prop :=
  GreedyMatch.Assignable (Within maxDist) ref current

/-- While the references are served, an assignment of what is left stays possible. -/
def NoChoiceSpoils {K : Type} [PyFloat K] (maxDist : K) (ref current : List (Candidate K)) : Prop :=
  GreedyMatch.KeepsAssignable lt centerDist (Within maxDist) ref current

/-- What is returned is an assignment. -/
theorem canBeMatched_of_match {K : Type} [PyFloat K] {maxDist : K}
    {ref current m : List (Candidate K)}
    (h : matchCandidatesToReference maxDist ref current = some m) :
    current.Perm m ∧ List.Forall₂ (Within maxDist) ref m := ⟨perm_of_match h, within_of_match h⟩

variable {maxDist : ℝ} {ref current : List (Candidate ℝ)}

/-- In exact arithmetic a match is found exactly when there is one and no choice spoils it. -/
theorem isSome_match_iff : (matchCandidatesToReference maxDist ref current).isSome ↔
    CanBeMatched maxDist ref current ∧ NoChoiceSpoils maxDist ref current := by
  have hlt : ∀ x y : ℝ, lt x y = true ↔ x < y := fun _ _ ↦ lt_eq_true_iff
  refine Iff.trans ?_ (GreedyMatch.greedy_isSome_iff hlt)
  rw [matchCandidatesToReference]
  by_cases hlen : ref.length = current.length
  · rw [if_neg (not_not.mpr hlen)]
    exact (and_iff_right hlen).symm
  · rw [if_pos hlen]
    exact iff_of_false (by simp) fun h ↦ hlen h.1

/-- No two references are within the distance of one current candidate. -/
def RefsApart (maxDist : ℝ) (ref current : List (Candidate ℝ)) : Prop :=
  ref.Pairwise fun r r' ↦ ∀ c ∈ current, Within maxDist r c → ¬Within maxDist r' c

/-- No two current candidates are within the distance of one reference. -/
def CurrentApart (maxDist : ℝ) (ref current : List (Candidate ℝ)) : Prop :=
  current.Pairwise fun c c' ↦ ∀ r ∈ ref, Within maxDist r c → ¬Within maxDist r c'

/-- **Matching.** `_match_candidates_to_reference` returns a matching exactly when there is a
one-to-one assignment within the distance and no nearest choice spoils it. What it returns is such
an assignment; and no choice spoils one when no two references compete for a candidate, or no two
candidates for a reference. -/
theorem match_candidates_iff (maxDist : ℝ) (ref current : List (Candidate ℝ)) :
    ((matchCandidatesToReference maxDist ref current).isSome ↔
      CanBeMatched maxDist ref current ∧ NoChoiceSpoils maxDist ref current) ∧
    (∀ m, matchCandidatesToReference maxDist ref current = some m →
      current.Perm m ∧ List.Forall₂ (Within maxDist) ref m) ∧
    (RefsApart maxDist ref current ∨ CurrentApart maxDist ref current →
      ((matchCandidatesToReference maxDist ref current).isSome ↔
        CanBeMatched maxDist ref current)) := by
  have hlt : ∀ x y : ℝ, lt x y = true ↔ x < y := fun _ _ ↦ lt_eq_true_iff
  refine ⟨isSome_match_iff, fun m h ↦ canBeMatched_of_match h, fun hapart ↦ ?_⟩
  refine isSome_match_iff.trans (and_iff_left ?_)
  rcases hapart with href | hcurrent
  · exact GreedyMatch.keepsAssignable_of_refs_apart hlt href
  · exact GreedyMatch.keepsAssignable_of_items_apart hlt hcurrent

/-! ## A frame that is rejected -/

/-- A sensor at the upper edge of the image. -/
noncomputable def sensorAt (u : ℝ) : Candidate ℝ :=
  makeDebugCandidate ⟨u - 1, 0, u + 1, 1, some 1, some 0⟩ "sensor" .center none

theorem centerDist_sensorAt (u u' : ℝ) : centerDist (sensorAt u) (sensorAt u') = |u' - u| := by
  have hhalf : (lit (1 / 2) : ℝ) = 1 / 2 := by
    change ((1 / 2 : ℚ) : ℝ) = 1 / 2
    norm_num
  have hcenter (u : ℝ) : (sensorAt u).centerU = u ∧ (sensorAt u).centerV = 1 / 2 := by
    constructor
    · change lit (1 / 2) * (u - 1 + (u + 1)) = u
      rw [hhalf]
      ring
    · change lit (1 / 2) * ((0 : ℝ) + 1) = 1 / 2
      rw [hhalf, zero_add, mul_one]
  obtain ⟨hu, hv⟩ := hcenter u
  obtain ⟨hu', hv'⟩ := hcenter u'
  change √(((sensorAt u').centerU - (sensorAt u).centerU) ^ 2
    + ((sensorAt u').centerV - (sensorAt u).centerV) ^ 2) = _
  rw [hu, hv, hu', hv', sub_self, zero_pow two_ne_zero, add_zero, Real.sqrt_sq_eq_abs]

theorem within_sensorAt {d u u' : ℝ} : Within d (sensorAt u) (sensorAt u') ↔ |u' - u| ≤ d := by
  rw [Within, lt_eq_false_iff, centerDist_sensorAt]

/-- Two sensors seven pixels apart, and both four pixels to the left: the second one is now three
pixels from where the first one was, and is taken for it. -/
theorem sensors_rejected :
    CanBeMatched 5 [sensorAt 100, sensorAt 107] [sensorAt 96, sensorAt 103] ∧
      matchCandidatesToReference 5 [sensorAt 100, sensorAt 107] [sensorAt 96, sensorAt 103]
        = none := by
  constructor
  · refine ⟨_, .refl _, .cons ?_ (.cons ?_ .nil)⟩
    · exact within_sensorAt.mpr (by norm_num [abs_le])
    · exact within_sensorAt.mpr (by norm_num [abs_le])
  · have hcloser : lt (centerDist (sensorAt 100) (sensorAt 103))
        (centerDist (sensorAt 100) (sensorAt 96)) = true := by
      rw [lt_eq_true_iff, centerDist_sensorAt, centerDist_sensorAt]
      norm_num [abs_lt]
    have hnearest : GreedyMatch.nearest lt (centerDist (sensorAt 100)) [sensorAt 96, sensorAt 103]
        = some (1, centerDist (sensorAt 100) (sensorAt 103)) := if_pos hcloser
    rw [← Option.not_isSome_iff_eq_none, isSome_match_iff]
    rintro ⟨hassign, hkeeps⟩
    -- what is left is eleven pixels from the second reference
    obtain ⟨⟨m, hperm, hall⟩, -⟩ := hkeeps _ _ hnearest hassign
    obtain rfl := List.singleton_perm.mp hperm
    obtain ⟨hwithin, -⟩ := List.forall₂_cons.mp hall
    have hle := within_sensorAt.mp hwithin
    norm_num at hle

end VzletUr3e.Vision
