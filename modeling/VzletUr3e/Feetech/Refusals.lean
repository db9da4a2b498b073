import VzletUr3e.Feetech.Goals

/-!
# Commands that cannot be sent

`write` runs in the control loop, and says by its return value whether the joints were commanded.
The encoder it uses says it by an exception. Nothing between the two catches it, so that one tick
that does not fit into its word ends the loop, for all joints.
-/

namespace VzletUr3e.Feetech

open StateError ChecksumFrame

variable {n : ℕ} {K : Type}

/-! ## Serial writes do not throw -/

theorem not_escapes_syncWriteBlocks {N : ℕ} : ∀ (pairs : List (UInt8 × List.Vector UInt8 N))
    (checksum : UInt8) (port : SerialPort), ¬Escapes (syncWriteBlocks pairs checksum) port := by
  intro pairs
  induction pairs with
  | nil => exact fun checksum port ↦ not_escapes_pure checksum port
  | cons p pairs ih =>
    intro checksum port
    obtain ⟨id, block⟩ := p
    rw [syncWriteBlocks, escapes_bind_iff, escapes_mapUnexpected_iff, escapes_bind_iff]
    rintro ((h | ⟨-, port', -, h⟩) | ⟨-, port', -, h⟩)
    · exact not_escapes_write _ _ h
    · exact not_escapes_write _ _ h
    · exact ih _ _ h

/-- A sync write ends with an error value whatever happens to its serial writes. -/
theorem not_escapes_syncWrite {N : ℕ} {ids : List UInt8} {memoryAddress : UInt8}
    {parameters : List (List.Vector UInt8 N)} (port : SerialPort) :
    ¬Escapes (syncWrite ids memoryAddress parameters) port := by
  unfold syncWrite
  by_cases hlen : ids.length ≠ parameters.length
  · rw [if_pos hlen]
    exact not_escapes_unexpected _ port
  · rw [if_neg hlen]
    change ¬Escapes (write _ >>= fun _ ↦ syncWriteBlocks _ _ >>= fun _ ↦ write _) port
    rw [escapes_bind_iff, not_or]
    refine ⟨not_escapes_write _ port, ?_⟩
    rintro ⟨-, port', -, h⟩
    rw [escapes_bind_iff] at h
    rcases h with h | ⟨checksum, port'', -, h⟩
    · exact not_escapes_syncWriteBlocks _ _ _ h
    · exact not_escapes_write _ _ h

section Write

variable [CppDouble K] {hw : Hardware n K}

/-! ## One write -/

/-- The goals of the commanded joints, each with its own tick. -/
def Hardware.goals (hw : Hardware n K) : List Goal :=
  hw.commanded.map fun i ↦ ⟨hw.jointIds i, 50, hw.tick i, 0, 2400⟩

/-- `write` returns, whatever is commanded and whatever happens to its serial writes. When it
returns `OK` every commanded joint has been sent its own tick. A tick that cannot be encoded makes
it return `ERROR` and sends nothing. -/
structure WriteReports (hw : Hardware n K) : Prop where
  returns : ∃ r hw', Hardware.write hw = .ok r hw'
  sent : ∀ hw', Hardware.write hw = .ok .ok hw' → ∃ sent, hw'.port.tx = hw.port.tx ++ sent ∧
    (hw.commanded = [] ∧ sent = [] ∨ receiveGoals sent = some hw.goals)
  refused : (∃ i ∈ hw.commanded, ∃ e,
      encodeSignMagnitude (hw.tick i) smsStsSignBitPosition = .error e) →
    ∃ hw', Hardware.write hw = .ok .error hw' ∧ hw'.port.tx = hw.port.tx

/-- A tick that does not fit throws. -/
theorem Hardware.write_of_lt {i : Fin n} (hi : i ∈ hw.commanded)
    (h : 32767 < (hw.tick i).natAbs) :
    Hardware.write hw = .error (.outOfRange "Magnitude exceeds max for sign bit") hw := by
  have hrun : syncWritePosition (hw.commanded.map hw.jointIds) (hw.commanded.map hw.tick)
      (hw.commanded.map fun _ ↦ 2400) (hw.commanded.map fun _ ↦ 50) hw.port
      = .error (.thrown (.outOfRange "Magnitude exceeds max for sign bit")) hw.port := by
    rw [syncWritePosition_of_lt hi h, throw_apply]
  rw [write_of_ne_nil (List.ne_nil_of_mem hi), bind_of_error (communicationProtocol_of_thrown hrun)]

/-- Ticks that fit let `write` return. -/
theorem Hardware.write_returns (h : ∀ i ∈ hw.commanded, (hw.tick i).natAbs ≤ 32767) :
    ∃ r hw', Hardware.write hw = .ok r hw' := by
  by_cases hnil : hw.commanded = []
  · exact ⟨_, _, write_of_nil hnil⟩
  · rw [write_of_ne_nil hnil, syncWritePosition_of_le h]
    rcases hrun : syncWrite (hw.commanded.map hw.jointIds) smsStsAcc
      (hw.commanded.map fun i ↦ goalBlock (hw.tick i)) hw.port with ⟨⟨⟩, port⟩ | ⟨message | e, port⟩
    · rw [bind_of_ok (communicationProtocol_of_ok hrun)]
      exact ⟨_, _, rfl⟩
    · rw [bind_of_ok (communicationProtocol_of_unexpected hrun)]
      exact ⟨_, _, rfl⟩
    · exact absurd ⟨e, port, hrun⟩ (not_escapes_syncWrite hw.port)

/-- A tick is encoded exactly when it fits. -/
theorem encode_eq_error_iff {tick : ℤ} :
    (∃ e, encodeSignMagnitude tick smsStsSignBitPosition = .error e) ↔ 32767 < tick.natAbs := by
  by_cases h : tick.natAbs ≤ 32767
  · rw [encode_tick h]
    exact iff_of_false (by simp) (by omega)
  · have hle : 2 ^ smsStsSignBitPosition ≤ tick.natAbs := Nat.succ_le_of_lt (not_le.mp h)
    exact iff_of_true ⟨_, encodeSignMagnitude_of_le hle⟩ (not_le.mp h)

/-- **When `write` keeps its word.** Exactly when the ticks of all commanded joints fit, and there
are at most 31 of them or one of its serial writes fails. -/
theorem write_reports_iff : WriteReports hw ↔
    (∀ i ∈ hw.commanded, (hw.tick i).natAbs ≤ 32767) ∧
      (hw.commanded.length ≤ 31 ∨ ¬hw.port.CanWrite (2 * hw.commanded.length + 2)) := by
  constructor
  · intro h
    have hticks : ∀ i ∈ hw.commanded, (hw.tick i).natAbs ≤ 32767 := by
      by_contra hnot
      push Not at hnot
      obtain ⟨i, hi, hlt⟩ := hnot
      obtain ⟨r, hw', hwrite⟩ := h.returns
      rw [Hardware.write_of_lt hi hlt] at hwrite
      cases hwrite
    refine ⟨hticks, ?_⟩
    by_contra hnot
    push Not at hnot
    obtain ⟨hlen, hcan⟩ := hnot
    have hne : hw.commanded ≠ [] := by
      rintro hnil
      rw [hnil] at hlen
      simp at hlen
    -- the frame goes out, and nobody understands it
    obtain ⟨sent, htx, ⟨hnil, -⟩ | hreceive⟩ := h.sent _
      ((Hardware.write_eq_ok_iff hne).mpr ⟨hticks, hcan, rfl⟩)
    · exact hne hnil
    · obtain rfl := List.append_cancel_left htx
      rw [Hardware.receiveGoals_of_lt hlen] at hreceive
      cases hreceive
  · rintro ⟨hticks, hlen⟩
    refine ⟨Hardware.write_returns hticks, fun hw' hwrite ↦ ?_, fun ⟨i, hi, herror⟩ ↦ ?_⟩
    · by_cases hnil : hw.commanded = []
      · rw [Hardware.write_of_nil hnil] at hwrite
        cases hwrite
        exact ⟨[], (List.append_nil _).symm, .inl ⟨hnil, rfl⟩⟩
      · obtain ⟨-, hcan, rfl⟩ := (Hardware.write_eq_ok_iff hnil).mp hwrite
        have hcount := hlen.resolve_right (not_not.mpr hcan)
        exact ⟨_, rfl, .inr (Hardware.receiveGoals_goalFrame hcount hticks)⟩
    · exact absurd (encode_eq_error_iff.mp herror) (not_lt.mpr (hticks i hi))

end Write

/-! ## A command out of reach -/

/-- A gripper that is sent to 40000 ticks from its midpoint. -/
noncomputable def farGripper : Hardware 1 ℝ := gripper [] (toMeters (toRadians 40000)) 0

/-- Its command ends the control loop. -/
theorem far_command_throws : ¬WriteReports farGripper ∧
    Hardware.write farGripper
      = .error (.outOfRange "Magnitude exceeds max for sign bit") farGripper := by
  have htick : farGripper.tick 0 = 42048 := by
    change fromRadians (fromMeters (toMeters (toRadians 40000) : ℝ)) + kStsMidpoint = 42048
    rw [fromMeters_toMeters, fromRadians_toRadians]
    rfl
  have hmem : (0 : Fin 1) ∈ farGripper.commanded := List.mem_singleton_self _
  have hthrow : Hardware.write farGripper
      = .error (.outOfRange "Magnitude exceeds max for sign bit") farGripper :=
    Hardware.write_of_lt hmem (by rw [htick]; decide)
  refine ⟨fun h ↦ ?_, hthrow⟩
  obtain ⟨r, hw', hwrite⟩ := h.returns
  rw [hthrow] at hwrite
  cases hwrite

end VzletUr3e.Feetech
