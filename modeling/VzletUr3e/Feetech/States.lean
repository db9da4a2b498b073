import VzletUr3e.Feetech.Goals

/-!
# What the states of a joint say

`read` turns the two words of a reading into the position and the velocity of a joint. A position is
an affine map of its word, and undoes what `write` makes of a command up to the truncation to a
tick. A velocity is put through the same affine map. The word is sign-magnitude and a rate has no
offset, so that no word gets the velocity it stands for.
-/

namespace VzletUr3e.Feetech

variable {n : ℕ}

/-! ## The conversions over the reals -/

theorem toRadians_real (data : ℤ) : (toRadians data : ℝ) = data * (2 * Real.pi / 4096) := by
  change ((data : ℚ) : ℝ) * ((2 : ℚ) : ℝ) * Real.pi / ((kStsResolution : ℚ) : ℝ) = _
  rw [kStsResolution]
  push_cast
  ring

theorem toMeters_real (radians : ℝ) : toMeters radians = 0.012794 * (2.670354 - radians) := by
  change ((0.012794 : ℚ) : ℝ) * (((2.670354 : ℚ) : ℝ) - radians) = _
  norm_num

theorem fromMeters_real (meters : ℝ) : fromMeters meters = 2.670354 - meters / 0.012794 := by
  change ((2.670354 : ℚ) : ℝ) - meters / ((0.012794 : ℚ) : ℝ) = _
  norm_num

theorem fromRadians_real (angle : ℝ) :
    fromRadians angle = CppDouble.toInt (angle * 4096 / (2 * Real.pi)) := by
  change CppDouble.toInt (angle * ((kStsResolution : ℚ) : ℝ) / (((2 : ℚ) : ℝ) * Real.pi)) = _
  rw [kStsResolution]
  push_cast
  rfl

/-- Truncation loses less than one. -/
theorem abs_toInt_sub_lt (x : ℝ) : |(CppDouble.toInt x : ℝ) - x| < 1 := by
  change |((if 0 ≤ x then ⌊x⌋ else ⌈x⌉ : ℤ) : ℝ) - x| < 1
  rw [abs_lt]
  by_cases h : 0 ≤ x
  · rw [if_pos h]
    exact ⟨by linarith [Int.lt_floor_add_one x], by linarith [Int.floor_le x]⟩
  · rw [if_neg h]
    exact ⟨by linarith [Int.le_ceil x], by linarith [Int.ceil_lt_add_one x]⟩

/-- It keeps the order, on both sides of zero and across it. -/
theorem toInt_mono {x y : ℝ} (h : x ≤ y) : CppDouble.toInt x ≤ CppDouble.toInt y := by
  change (if 0 ≤ x then ⌊x⌋ else ⌈x⌉) ≤ if 0 ≤ y then ⌊y⌋ else ⌈y⌉
  by_cases hx : 0 ≤ x
  · rw [if_pos hx, if_pos (hx.trans h)]
    exact Int.floor_mono h
  · rw [if_neg hx]
    by_cases hy : 0 ≤ y
    · rw [if_pos hy]
      exact (Int.ceil_le.mpr (by push_cast; linarith)).trans (Int.floor_nonneg.mpr hy)
    · rw [if_neg hy]
      exact Int.ceil_mono h

/-! ## A read -/

/-- A read that succeeds stores what the line has delivered. -/
theorem Hardware.read_eq_ok {K : Type} [CppDouble K] {hw hw' : Hardware n K}
    (h : Hardware.read hw = .ok .ok hw') : ∃ data port,
      syncRead 4 (List.ofFn hw.jointIds) smsStsPresentPositionL hw.port = .ok data port ∧
        hw' = ({ hw with port := port }).store data := by
  rcases hrun : syncRead 4 (List.ofFn hw.jointIds) smsStsPresentPositionL hw.port
    with ⟨data, port⟩ | ⟨message | e, port⟩
  · rw [Hardware.read_of_ok hrun] at h
    cases h
    exact ⟨data, port, rfl, rfl⟩
  · obtain ⟨hw'', hread⟩ := Hardware.read_of_unexpected hrun
    rw [hread] at h
    cases h
  · rw [Hardware.read_of_thrown hrun] at h
    cases h

/-! ## Positions -/

/-- The position of a word is off the command by what the truncation has lost. -/
theorem toMeters_tick (m : ℝ) :
    |toMeters (toRadians (fromRadians (fromMeters m)) : ℝ) - m|
      < 0.012794 * 2 * Real.pi / 4096 := by
  have hpi := Real.pi_pos
  have hlost := abs_toInt_sub_lt ((fromMeters m) * 4096 / (2 * Real.pi))
  rw [← fromRadians_real] at hlost
  generalize fromRadians (fromMeters m) = tick at hlost ⊢
  have hm : m = 0.012794 * (2.670354 - fromMeters m) := by
    rw [fromMeters_real]
    ring
  have hdiff : toMeters (toRadians tick : ℝ) - m = -(0.012794 * 2 * Real.pi / 4096)
      * ((tick : ℝ) - fromMeters m * 4096 / (2 * Real.pi)) := by
    rw [toMeters_real, toRadians_real]
    nth_rewrite 1 [hm]
    field_simp
    ring
  have hscale : 0 < 0.012794 * 2 * Real.pi / 4096 := by positivity
  rw [hdiff, abs_mul, abs_neg, abs_of_pos hscale]
  exact mul_lt_of_lt_one_right hscale hlost

/-- A longer way is a lower tick. -/
theorem fromRadians_fromMeters_anti {m m' : ℝ} (h : m ≤ m') :
    fromRadians (fromMeters m') ≤ fromRadians (fromMeters m) := by
  rw [fromRadians_real, fromRadians_real]
  apply toInt_mono
  have hpi := Real.pi_pos
  have hmeters : fromMeters m' ≤ fromMeters m := by
    rw [fromMeters_real, fromMeters_real]
    gcongr
  gcongr

/-- A tick from zero on is its own word. -/
theorem goalWord_of_nonneg {tick : ℤ} (h0 : 0 ≤ tick) (h : tick ≤ 32767) :
    goalWord (goalBlock tick) = tick := by
  rw [goalWord_goalBlock, tickWord, if_neg (by omega)]
  exact fromSts_toSts h0 (by omega)

/-- **Positions.** Let a joint be commanded to a tick from 0 to 32767. When its servo reports the
word that it was sent, `read` stores a position that is off the command by less than one tick; and a
joint that is commanded further never has a higher tick. -/
theorem position_read_back (sent : Hardware n ℝ) (i : Fin n) :
    (0 ≤ sent.tick i → sent.tick i ≤ 32767 → ∀ (hw hw' : Hardware n ℝ) data port,
      syncRead 4 (List.ofFn hw.jointIds) smsStsPresentPositionL hw.port = .ok data port →
      presentWord data i = goalWord (goalBlock (sent.tick i)) → Hardware.read hw = .ok .ok hw' →
        |hw'.stateHwPositions i - sent.hwPositions i| < 0.012794 * 2 * Real.pi / 4096) ∧
    ∀ sent' : Hardware n ℝ, sent.hwPositions i ≤ sent'.hwPositions i →
      sent'.tick i ≤ sent.tick i := by
  constructor
  · intro h0 h hw hw' data port hrun hword hread
    obtain ⟨data', port', hrun', rfl⟩ := Hardware.read_eq_ok hread
    rw [hrun] at hrun'
    cases hrun'
    rw [goalWord_of_nonneg h0 h, Hardware.tick] at hword
    change |toMeters (toRadians (presentWord data i - kStsMidpoint)) - sent.hwPositions i| < _
    rw [hword, add_sub_cancel_right]
    exact toMeters_tick _
  · intro sent' hle
    exact add_le_add_left (fromRadians_fromMeters_anti hle) _

/-! ## Velocities -/

/-- The speed word of the reading of joint `i`. -/
def speedWord (data : List (List UInt8)) (i : Fin n) : ℤ :=
  fromSts ⟨(data.getD i []).getD 2 0, (data.getD i []).getD 3 0⟩

/-- The rate of change of the position while the servo reports that speed. -/
noncomputable def rateOfSpeed (word : ℤ) : ℝ :=
  -0.012794 * toRadians (decodeSignMagnitude word smsStsSignBitVelocity)

/-- **The offset.** The affine map of a position meets the rate on no word. -/
theorem toMeters_ne_rateOfSpeed {word : ℤ} (h0 : 0 ≤ word) (h : word < 2 ^ 16) :
    (toMeters (toRadians word) : ℝ) ≠ rateOfSpeed word := by
  have hpi := Real.pi_gt_three
  rw [rateOfSpeed, toMeters_real, toRadians_real, toRadians_real]
  intro heq
  by_cases hsign : word < 2 ^ 15
  · -- without the sign bit the two differ by the offset
    have hdecode : decodeSignMagnitude word smsStsSignBitVelocity = word :=
      decodeSignMagnitude_of_lt h0 hsign
    rw [hdecode] at heq
    norm_num at heq
    linarith
  · -- with it the slopes have opposite signs, and meet below all such words
    have hword : (2 : ℤ) ^ smsStsSignBitVelocity + (word - 2 ^ 15) = word := by
      change (2 : ℤ) ^ 15 + (word - 2 ^ 15) = word
      ring
    have hlt : word - 2 ^ 15 < 2 ^ smsStsSignBitVelocity := by
      change word - 2 ^ 15 < (2 : ℤ) ^ 15
      omega
    have hdecode := decodeSignMagnitude_add (sub_nonneg.mpr (not_lt.mp hsign)) hlt
    rw [hword] at hdecode
    rw [hdecode] at heq
    have hge : (2 ^ 15 : ℝ) ≤ word := by exact_mod_cast not_lt.mp hsign
    push_cast at heq
    nlinarith

/-- **Velocities.** After no read that succeeds is the velocity of a joint the rate of change of its
position. -/
theorem velocity_never_rate {hw hw' : Hardware n ℝ} (h : Hardware.read hw = .ok .ok hw') :
    ∃ data port, syncRead 4 (List.ofFn hw.jointIds) smsStsPresentPositionL hw.port
        = .ok data port ∧
      ∀ i, hw'.stateHwVelocities i ≠ rateOfSpeed (speedWord data i) := by
  obtain ⟨data, port, hrun, rfl⟩ := Hardware.read_eq_ok h
  exact ⟨data, port, hrun, fun _ ↦ toMeters_ne_rateOfSpeed (fromSts_nonneg _) (fromSts_lt _)⟩

/-- A servo that stands still at its midpoint is read. -/
theorem read_still_servo : ∃ hw' port,
    syncRead 4 (List.ofFn (reportingGripper 0x00 0x08 0xf0).jointIds) smsStsPresentPositionL
      (reportingGripper 0x00 0x08 0xf0).port = .ok [[0x00, 0x08, 0, 0]] port ∧
    Hardware.read (reportingGripper 0x00 0x08 0xf0) = .ok .ok hw' ∧
    hw'.stateHwVelocities 0 = velocityOfReading [0x00, 0x08, 0, 0] := by
  have hver : (positionReply 0x00 0x08 0xf0).Verifies := by decide
  obtain ⟨port, hrun⟩ := syncRead_reportingGripper hver
  exact ⟨_, port, hrun, Hardware.read_of_ok hrun, rfl⟩

theorem velocity_never_rate_still : ∃ hw',
    Hardware.read (reportingGripper 0x00 0x08 0xf0) = .ok .ok hw' ∧
      ∃ data port, syncRead 4 (List.ofFn (reportingGripper 0x00 0x08 0xf0).jointIds)
          smsStsPresentPositionL (reportingGripper 0x00 0x08 0xf0).port = .ok data port ∧
        ∀ i, hw'.stateHwVelocities i ≠ rateOfSpeed (speedWord data i) := by
  obtain ⟨hw', -, -, hread, -⟩ := read_still_servo
  exact ⟨hw', hread, velocity_never_rate hread⟩

/-- It is said to move at the offset of the position. -/
theorem still_servo_moves : rateOfSpeed 0 = 0 ∧ ∃ hw' port,
    syncRead 4 (List.ofFn (reportingGripper 0x00 0x08 0xf0).jointIds) smsStsPresentPositionL
      (reportingGripper 0x00 0x08 0xf0).port = .ok [[0x00, 0x08, 0, 0]] port ∧
    Hardware.read (reportingGripper 0x00 0x08 0xf0) = .ok .ok hw' ∧
    hw'.stateHwVelocities 0 = 0.012794 * 2.670354 := by
  have hrate : rateOfSpeed 0 = 0 := by
    have hdecode : decodeSignMagnitude 0 smsStsSignBitVelocity = 0 := by decide
    rw [rateOfSpeed, hdecode, toRadians_real]
    norm_num
  obtain ⟨hw', port, hrun, hread, hvelocity⟩ := read_still_servo
  refine ⟨hrate, hw', port, hrun, hread, ?_⟩
  have hword : fromSts ⟨0, 0⟩ = 0 := by decide
  rw [hvelocity]
  change toMeters (toRadians (fromSts ⟨0, 0⟩)) = _
  rw [hword, toMeters_real, toRadians_real]
  norm_num

end VzletUr3e.Feetech
