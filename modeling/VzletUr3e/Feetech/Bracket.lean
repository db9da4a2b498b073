import VzletUr3e.Library.Monitor
import VzletUr3e.Feetech.Configure

/-!
# The bracket around the parameters

A servo keeps its parameters in an EEPROM that has a lock. `configure_joints_` should write there
only between freeing the servo and locking it again, give the torque back only behind a lock, and
never return with a servo unlocked.

A monitor of the writes says what each servo has been told, and which writes are allowed then. The
writes of a joint are taken in three parts, each of which keeps the law whatever the bus answers.
The last demand fails when a parameter is not acknowledged: the function then returns at once.
-/

namespace VzletUr3e.Feetech

open Script

/-! ## The monitor -/

/-- What a servo has been told. -/
structure ServoView where
  /-- Its torque was switched off, and not on again since. -/
  torqueOff : Bool
  /-- It was unlocked, and no lock was issued since. -/
  unlocked : Bool
  /-- It was locked, and no unlock was issued since. -/
  locked : Bool

/-- A write, and whether it was acknowledged, as the servo that it addresses sees it. A write to the
broadcast id is one to a servo of its own. -/
def ServoView.observe (v : ServoView) (w : RegisterWrite) (ok : Bool) : ServoView :=
  if w.address = smsStsTorqueEnable then
    if w.data = [0] then { v with torqueOff := v.torqueOff || ok }
    else { v with torqueOff := false }
  else if w.address = smsStsLock then
    if w.data = [0] then { v with unlocked := v.unlocked || ok, locked := false }
    else { v with unlocked := false, locked := ok }
  else v

/-- The registers that are kept in the EEPROM. -/
def IsEeprom (address : UInt8) : Prop := 5 ≤ address ∧ address ≤ 39

/-- Joint `i` has a command interface. -/
def IsCommanded (joints : List Joint) (i : ℕ) : Prop :=
  ∃ joint, joints[i]? = some joint ∧ joint.commandInterfaces ≠ []

/-- The writes and what is allowed of them. -/
def writeMonitor (joints : List Joint) : Monitor (RegisterWrite × Bool) (UInt8 → ServoView) where
  start _ := ⟨false, false, false⟩
  observe v e := Function.update v e.1.id ((v e.1.id).observe e.1 e.2)
  Allowed v e :=
    (IsEeprom e.1.address → (v e.1.id).torqueOff = true ∧ (v e.1.id).unlocked = true) ∧
      (e.1.address = smsStsTorqueEnable → e.1.data ≠ [0] →
        (v e.1.id).locked = true ∧ IsCommanded joints e.1.joint)

variable {joints : List Joint}

/-- No servo is unlocked. -/
def AllLocked (joints : List Joint) (log : List (RegisterWrite × Bool)) : Prop :=
  ∀ id, ((writeMonitor joints).view log id).unlocked = false

/-- The law: every write was allowed when it was issued, and when the function has returned, no
servo is unlocked. -/
def Bracketed (joints : List Joint) : EStateM.Result Stop ConfigureState Unit → Prop
  | .ok _ st => (writeMonitor joints).Safe st.log ∧ AllLocked joints st.log
  | .error .returned st => (writeMonitor joints).Safe st.log ∧ AllLocked joints st.log
  | .error (.thrown _) st => (writeMonitor joints).Safe st.log

theorem not_isEeprom_torque : ¬IsEeprom smsStsTorqueEnable :=
  fun h ↦ absurd h.2 (by decide)

theorem not_isEeprom_lock : ¬IsEeprom smsStsLock :=
  fun h ↦ absurd h.2 (by decide)

theorem lock_ne_torque : smsStsLock ≠ smsStsTorqueEnable := by decide

/-! ## The parts of a joint -/

/-- Between joints. -/
def Closed (joints : List Joint) (log : List (RegisterWrite × Bool)) : Prop :=
  (writeMonitor joints).Safe log ∧ AllLocked joints log

/-- The servo `id` is free, and no other one is. -/
structure Opened (joints : List Joint) (id : UInt8) (log : List (RegisterWrite × Bool)) : Prop where
  safe : (writeMonitor joints).Safe log
  torqueOff : ((writeMonitor joints).view log id).torqueOff = true
  unlocked : ((writeMonitor joints).view log id).unlocked = true
  others : ∀ id', id' ≠ id → ((writeMonitor joints).view log id').unlocked = false

/-- Behind a write that was not acknowledged: a servo is left unlocked exactly when the write was
for a parameter. -/
def Broken (joints : List Joint) (w : RegisterWrite) (log : List (RegisterWrite × Bool)) : Prop :=
  (writeMonitor joints).Safe log ∧ (AllLocked joints log ↔ IsControl w.address)

theorem view_write (w : RegisterWrite) (ok : Bool) (log : List (RegisterWrite × Bool))
    (id : UInt8) :
    (writeMonitor joints).view ((w, ok) :: log) id
      = if id = w.id then ((writeMonitor joints).view log w.id).observe w ok
        else (writeMonitor joints).view log id := by
  rw [Monitor.view_cons]
  exact Function.update_apply _ _ _ _

/-- A parameter write is allowed while the servo is free, and changes nothing. -/
theorem opened_parameter {id : UInt8} {w : RegisterWrite} {ok : Bool}
    {log : List (RegisterWrite × Bool)} (h : Opened joints id log) (hid : w.id = id)
    (hcontrol : ¬IsControl w.address) : Opened joints id ((w, ok) :: log) := by
  obtain ⟨htorque, hlock⟩ := not_or.mp hcontrol
  have hview : (writeMonitor joints).view ((w, ok) :: log) = (writeMonitor joints).view log := by
    funext id'
    rw [view_write]
    split
    · rename_i heq
      rw [ServoView.observe, if_neg htorque, if_neg hlock, heq]
    · rfl
  refine ⟨⟨⟨fun _ ↦ ?_, fun haddress ↦ absurd haddress htorque⟩, h.safe⟩, ?_, ?_, ?_⟩
  · change ((writeMonitor joints).view log w.id).torqueOff = true ∧
      ((writeMonitor joints).view log w.id).unlocked = true
    rw [hid]
    exact ⟨h.torqueOff, h.unlocked⟩
  · rw [hview]
    exact h.torqueOff
  · rw [hview]
    exact h.unlocked
  · rw [hview]
    exact h.others

/-- A servo that is free is not locked. -/
theorem not_allLocked_of_opened {id : UInt8} {log : List (RegisterWrite × Bool)}
    (h : Opened joints id log) : ¬AllLocked joints log := by
  intro hall
  have hlocked := hall id
  rw [h.unlocked] at hlocked
  cases hlocked

/-- Writes that leave every servo but one locked, and that one too, leave all of them locked. -/
theorem allLocked_write {w : RegisterWrite} {ok : Bool} {log : List (RegisterWrite × Bool)}
    (hself : (((writeMonitor joints).view log w.id).observe w ok).unlocked = false)
    (hothers : ∀ id, id ≠ w.id → ((writeMonitor joints).view log id).unlocked = false) :
    AllLocked joints ((w, ok) :: log) := by
  intro id
  rw [view_write]
  split
  · exact hself
  · rename_i hne
    exact hothers id hne

/-- **Freeing a servo.** -/
theorem plays_free (bus : BusAnswers) (i : ℕ) (id : UInt8) :
    Plays bus.ok (Closed joints) (commands (freeSteps i id)) (Opened joints id)
      (Broken joints) := by
  have hcontrol : IsControl smsStsTorqueEnable := .inl rfl
  have hcontrol' : IsControl smsStsLock := .inr rfl
  have htorque (ok : Bool) (log : List (RegisterWrite × Bool)) (h : Closed joints log) :
      Closed joints ((⟨i, id, smsStsTorqueEnable, [0]⟩, ok) :: log) :=
    ⟨⟨⟨fun h ↦ absurd h not_isEeprom_torque, fun _ hdata ↦ absurd rfl hdata⟩, h.1⟩,
      allLocked_write (h.2 id) fun id' _ ↦ h.2 id'⟩
  -- between the two writes the torque is off
  have hfirst : Plays bus.ok (Closed joints) [⟨i, id, smsStsTorqueEnable, [0]⟩]
      (fun log ↦ Closed joints log ∧ ((writeMonitor joints).view log id).torqueOff = true)
      (Broken joints) := by
    refine plays_singleton (fun log h ↦ ⟨htorque true log h, ?_⟩) fun log h ↦ ?_
    · rw [view_write, if_pos rfl]
      exact Bool.or_true _
    · have hclosed := htorque false log h
      exact ⟨hclosed.1, iff_of_true hclosed.2 hcontrol⟩
  have hsafe (ok : Bool) (log : List (RegisterWrite × Bool)) (h : (writeMonitor joints).Safe log) :
      (writeMonitor joints).Safe ((⟨i, id, smsStsLock, [0]⟩, ok) :: log) :=
    ⟨⟨fun h ↦ absurd h not_isEeprom_lock, fun h ↦ absurd h lock_ne_torque⟩, h⟩
  refine hfirst.append (plays_singleton (fun log h ↦ ?_) fun log h ↦ ?_)
  · refine ⟨hsafe true log h.1.1, ?_, ?_, fun id' hne ↦ ?_⟩
    · rw [view_write, if_pos rfl]
      exact h.2
    · rw [view_write, if_pos rfl]
      exact Bool.or_true _
    · rw [view_write, if_neg hne]
      exact h.1.2 id'
  · refine ⟨hsafe false log h.1.1, iff_of_true (allLocked_write ?_ fun id' _ ↦ h.1.2 id') hcontrol'⟩
    change (((writeMonitor joints).view log id).unlocked || false) = false
    rw [Bool.or_false]
    exact h.1.2 id

/-- **The parameters.** -/
theorem plays_parameters (bus : BusAnswers) (i : ℕ) (id : UInt8) (merged : JointParams) :
    Plays bus.ok (Opened joints id)
      (commands (parameters.flatMap (parameterSteps i id merged))) (Opened joints id)
      (Broken joints) := by
  refine plays_of_forall (fun w hw log h ↦ ?_) fun w hw log h ↦ ?_
  · obtain ⟨p, hp, _, _, _, _, rfl⟩ := parameterWrite_of_mem hw
    exact opened_parameter h rfl (not_isControl_of_mem hp)
  · obtain ⟨p, hp, _, data, _, _, rfl⟩ := parameterWrite_of_mem hw
    have hopened : Opened joints id ((⟨i, id, p.address, data⟩, false) :: log) :=
      opened_parameter h rfl (not_isControl_of_mem hp)
    exact ⟨hopened.safe,
      iff_of_false (not_allLocked_of_opened hopened) (not_isControl_of_mem hp)⟩

/-- **Locking the servo**, and its torque. -/
theorem plays_lock (bus : BusAnswers) {i : ℕ} (id : UInt8) {joint : Joint}
    (hjoint : joints[i]? = some joint) :
    Plays bus.ok (Opened joints id) (commands (lockSteps i id joint.commandInterfaces))
      (Closed joints) (Broken joints) := by
  have hlock (ok : Bool) (log : List (RegisterWrite × Bool)) (h : Opened joints id log) :
      Closed joints ((⟨i, id, smsStsLock, [1]⟩, ok) :: log) :=
    ⟨⟨⟨fun h ↦ absurd h not_isEeprom_lock, fun h ↦ absurd h lock_ne_torque⟩,
      h.safe⟩, allLocked_write rfl h.others⟩
  have hfirst : Plays bus.ok (Opened joints id) [⟨i, id, smsStsLock, [1]⟩]
      (fun log ↦ Closed joints log ∧ ((writeMonitor joints).view log id).locked = true)
      (Broken joints) := by
    refine plays_singleton (fun log h ↦ ⟨hlock true log h, ?_⟩) fun log h ↦ ?_
    · rw [view_write, if_pos rfl]
      rfl
    · have hclosed := hlock false log h
      exact ⟨hclosed.1, iff_of_true hclosed.2 (.inr rfl)⟩
  unfold lockSteps
  by_cases hempty : joint.commandInterfaces.isEmpty = true
  · rw [if_pos hempty]
    exact hfirst.mono (fun _ h ↦ h) fun _ h ↦ h.1
  · rw [if_neg hempty]
    have hcommanded : IsCommanded joints i :=
      ⟨joint, hjoint, fun hnil ↦ hempty (by rw [hnil]; rfl)⟩
    have htorque (ok : Bool) (log : List (RegisterWrite × Bool))
        (h : Closed joints log ∧ ((writeMonitor joints).view log id).locked = true) :
        Closed joints ((⟨i, id, smsStsTorqueEnable, [1]⟩, ok) :: log) :=
      ⟨⟨⟨fun h ↦ absurd h not_isEeprom_torque, fun _ _ ↦ ⟨h.2, hcommanded⟩⟩, h.1.1⟩,
        allLocked_write (h.1.2 id) fun id' _ ↦ h.1.2 id'⟩
    refine hfirst.append (plays_singleton (fun log h ↦ htorque true log h) fun log h ↦ ?_)
    have hclosed := htorque false log h
    exact ⟨hclosed.1, iff_of_true hclosed.2 (.inl rfl)⟩

/-! ## All joints -/

/-- Behind steps that did not fail: they throw, or no servo is unlocked. -/
def Behind (joints : List Joint) (stop : Option Stop) (log : List (RegisterWrite × Bool)) : Prop :=
  (writeMonitor joints).Safe log ∧ ((∀ e, stop ≠ some (.thrown e)) → AllLocked joints log)

theorem plays_joint (bus : BusAnswers) (yamlById : JointIdConfigMap) {i : ℕ} {joint : Joint}
    (hjoint : joints[i]? = some joint) :
    Plays bus.ok (Closed joints) (commands (jointSteps yamlById i joint))
      (Behind joints (ending (jointSteps yamlById i joint))) (Broken joints) := by
  have hnothing (s : Step) (hs : commands [s] = []) : Plays bus.ok (Closed joints) (commands [s])
      (Behind joints (ending [s])) (Broken joints) := by
    rw [hs]
    exact plays_nil.mono (fun _ h ↦ h) fun _ h ↦ ⟨h.1, fun _ ↦ h.2⟩
  rcases hfind : joint.parameters.find "id" with _ | text
  · rw [jointSteps, hfind]
    exact hnothing _ rfl
  · rcases hid : stoi text with e | id
    · rw [jointSteps, hfind]
      dsimp only
      rw [hid]
      exact hnothing _ rfl
    · rw [commands_jointSteps_of_id hfind hid, ending_jointSteps_of_id hfind hid]
      have hparams := @plays_parameters joints bus i (UInt8.ofInt id)
        (mergedParams yamlById joint id)
      refine (plays_free bus i (UInt8.ofInt id)).append ?_
      rcases hend : ending (parameters.flatMap (parameterSteps i (UInt8.ofInt id)
        (mergedParams yamlById joint id))) with _ | stop
      · rw [commands_append hend]
        exact (hparams.append (plays_lock bus _ hjoint)).mono (fun _ h ↦ h)
          fun _ h ↦ ⟨h.1, fun _ ↦ h.2⟩
      · -- the parameters stop by throwing
        rw [commands_append_of_ending hend]
        refine hparams.mono (fun _ h ↦ h) fun _ h ↦ ⟨h.safe, fun hnot ↦ ?_⟩
        rcases stop with _ | e
        · exact absurd hend (ending_flatMap_ne_returned _)
        · exact absurd rfl (hnot e)

/-- **All joints.** -/
theorem plays_joints (bus : BusAnswers) (yamlById : JointIdConfigMap) :
    ∀ {i : ℕ} {rest : List Joint},
      (∀ k joint, rest[k]? = some joint → joints[i + k]? = some joint) →
      Plays bus.ok (Closed joints) (commands (stepsFrom yamlById i rest))
        (Behind joints (ending (stepsFrom yamlById i rest))) (Broken joints) := by
  intro i rest
  induction rest generalizing i with
  | nil => exact fun _ ↦ plays_nil.mono (fun _ h ↦ h) fun _ h ↦ ⟨h.1, fun _ ↦ h.2⟩
  | cons joint rest ih =>
    intro hrest
    have hhead : joints[i]? = some joint := hrest 0 joint rfl
    have hjoint := plays_joint bus yamlById hhead
    rw [stepsFrom, ending_append]
    rcases hend : ending (jointSteps yamlById i joint) with _ | stop
    · rw [hend] at hjoint
      rw [commands_append hend, Option.none_or]
      refine (hjoint.mono (fun _ h ↦ h) fun _ h ↦ ?_).append (ih fun k joint hk ↦ ?_)
      · exact ⟨h.1, h.2 (by simp)⟩
      · rw [Nat.add_right_comm, Nat.add_assoc]
        exact hrest (k + 1) joint hk
    · rw [hend] at hjoint
      rwa [commands_append_of_ending hend, Option.some_or]

/-- **The bracket.** In the writes of `configure_joints_` the EEPROM of a servo is only written
between freeing and locking it, and torque is only enabled behind a lock and with a command
interface; and no servo is left unlocked when it returns, exactly when the first write that is not
acknowledged, if there is one, is not for a parameter. -/
theorem bracketed_iff (bus : BusAnswers) (yamlById : JointIdConfigMap) (joints : List Joint) :
    Bracketed joints (configureJoints bus yamlById joints) ↔
      ∀ w, FailsAt bus.ok 0 (commands (stepsFrom yamlById 0 joints)) w → IsControl w.address := by
  have hran := ran_runSteps bus (stepsFrom yamlById 0 joints)
    ⟨List.replicate joints.length 0, [], [], []⟩
  have hplays := @plays_joints joints bus yamlById 0 joints fun k joint hk ↦ by rwa [Nat.zero_add]
  obtain ⟨hcompleted, hfailed⟩ := hplays [] ⟨trivial, fun _ ↦ rfl⟩
  rw [configureJoints, configureFrom_eq]
  generalize runSteps bus (stepsFrom yamlById 0 joints) _ = result at hran
  cases hran with
  | @finished st' hall hend hlog _ =>
    have hbehind := hcompleted hall
    rw [hend, ← hlog] at hbehind
    refine iff_of_true ⟨hbehind.1, hbehind.2 (by simp)⟩ fun w hw ↦ ?_
    exact absurd hall hw.not_completes
  | @stopped stop st' hall hend hlog =>
    have hbehind := hcompleted hall
    rw [hend, ← hlog] at hbehind
    refine iff_of_true ?_ fun w hw ↦ absurd hall hw.not_completes
    rcases stop with _ | e
    · exact ⟨hbehind.1, hbehind.2 (by simp)⟩
    · exact hbehind.1
  | @failed w st' hfail hlog =>
    obtain ⟨hsafe, hiff⟩ := hfailed w hfail
    rw [← hlog] at hsafe hiff
    constructor
    · rintro ⟨-, hlocked⟩ w' hw'
      rw [hw'.unique hfail]
      exact hiff.mp hlocked
    · exact fun hall ↦ ⟨hsafe, hiff.mpr (hall w hfail)⟩

/-- A joint with the id 1 and one parameter. -/
def oneParameterJoint : Joint where
  name := "joint"
  parameters := ⟨[("id", "1".toList), ("p_coefficient", "32".toList)], by decide⟩
  commandInterfaces := ["position"]

/-- A bus on which the third write is not acknowledged. -/
def thirdUnanswered : BusAnswers := fun n ↦ if n = 2 then .error "timeout" else .ok ()

/-- The servo is left unlocked, with its torque off. -/
theorem servo_left_unlocked :
    ¬Bracketed [oneParameterJoint] (configureJoints thirdUnanswered [] [oneParameterJoint]) := by
  have hrun : configureJoints thirdUnanswered [] [oneParameterJoint] = .error .returned
      ⟨[1], [(⟨0, 1, smsStsPCoef, [32]⟩, false), (⟨0, 1, smsStsLock, [0]⟩, true),
        (⟨0, 1, smsStsTorqueEnable, [0]⟩, true)],
        ["FeetechHardwareInterface::configure_joints_ -> timeout"], []⟩ := by rfl
  rw [hrun]
  rintro ⟨-, hlocked⟩
  exact absurd (hlocked 1) (by decide)

end VzletUr3e.Feetech
