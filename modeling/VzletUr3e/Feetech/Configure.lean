import VzletUr3e.Feetech.Protocol
import VzletUr3e.Library.Dict
import VzletUr3e.Library.Script

/-!
# The configuration of the joints

`FeetechHardwareInterface::configure_joints_` goes through the joints one after the other: it frees
the servo of a joint, writes the parameters that are given for it, locks it, and enables its torque
if the joint has a command interface. Parameters are texts; each is read as an `int`, put into the
bytes of its register, and sent.

Of the bus only the answers to the writes matter here. They are given by the number of the write.

The second half takes the function apart into a list of steps, which does not depend on the bus.
-/

namespace VzletUr3e.Feetech

/-! ## Texts -/

/-- What can be thrown, or worse. -/
inductive Thrown
  /-- `std::invalid_argument`. -/
  | invalidArgument (what : String)
  | exception (e : Exception)
  /-- `std::abs` of the least `int`, which C++ leaves undefined. -/
  | undefined
deriving DecidableEq, Repr

/-- `std::isspace` in the C locale. -/
def isCSpace (c : Char) : Bool :=
  c = ' ' ∨ c = '\t' ∨ c = '\n' ∨ c = '\x0b' ∨ c = '\x0c' ∨ c = '\r'

/-- The value of decimal digits. -/
def digitsValue (digits : List Char) : ℕ :=
  digits.foldl (fun value c ↦ 10 * value + (c.toNat - '0'.toNat)) 0

/-- The sign that a number may begin with, and the rest. -/
def splitSign : List Char → Bool × List Char
  | '-' :: rest => (true, rest)
  | '+' :: rest => (false, rest)
  | rest => (false, rest)

/-- `std::stoi`: white space, a sign, digits, and whatever follows them. -/
def stoi (text : List Char) : Except Thrown ℤ :=
  let (isNegative, rest) := splitSign (text.dropWhile isCSpace)
  let digits := rest.takeWhile Char.isDigit
  if digits = [] then .error (.invalidArgument "stoi")
  else
    let value : ℤ := if isNegative then -(digitsValue digits : ℤ) else digitsValue digits
    if value < -2 ^ 31 ∨ 2 ^ 31 ≤ value then .error (.exception (.outOfRange "stoi"))
    else .ok value

/-! ## Parameters -/

/-- `JointParams`, a map from names to texts. -/
structure JointParams where
  entries : List (String × List Char)
  nodup : (entries.map Prod.fst).Nodup

/-- `find`. -/
def JointParams.find (params : JointParams) (name : String) : Option (List Char) :=
  params.entries.lookup name

/-- `merge_joint_params`. -/
def mergeJointParams (yamlParams urdfParams : JointParams) : JointParams where
  entries := Dict.update urdfParams.entries yamlParams.entries
  nodup := Dict.nodup_update urdfParams.nodup

/-- YAML takes precedence. -/
theorem find_mergeJointParams (yamlParams urdfParams : JointParams) (name : String) :
    (mergeJointParams yamlParams urdfParams).find name
      = (yamlParams.find name).or (urdfParams.find name) :=
  Dict.lookup_update yamlParams.nodup

/-- `JointIdConfigMap`. -/
abbrev JointIdConfigMap := List (ℤ × JointParams)

/-- What is read of a joint of `info_`. -/
structure Joint where
  name : String
  parameters : JointParams
  commandInterfaces : List String

/-! ## Registers -/

/-- How a parameter is kept in its register. -/
inductive Encoding
  /-- One byte. -/
  | byte
  /-- Two bytes, low byte first. -/
  | word
  | signMagnitude (signBit : ℕ)
deriving DecidableEq, Repr

/-- The two bytes of a word. -/
def wordBytes (data : ℤ) : List UInt8 := [(toSts data).low, (toSts data).high]

/-- The bytes that are sent for a value. -/
def Encoding.encode : Encoding → ℤ → Except Thrown (List UInt8)
  | .byte, value => .ok [UInt8.ofInt value]
  | .word, value => .ok (wordBytes value)
  | .signMagnitude signBit, value =>
    if value = -2 ^ 31 then .error .undefined
    else
      match encodeSignMagnitude value signBit with
      | .error e => .error (.exception e)
      | .ok encoded => .ok (wordBytes encoded)

/-- The value that the servo reads off its register. -/
def Encoding.decode : Encoding → List UInt8 → ℤ
  | .byte, data => (data.getD 0 0).toNat
  | .word, data => fromSts ⟨data.getD 0 0, data.getD 1 0⟩
  | .signMagnitude signBit, data =>
    decodeSignMagnitude (fromSts ⟨data.getD 0 0, data.getD 1 0⟩) signBit

/-- A parameter with its register. -/
structure Parameter where
  name : String
  address : UInt8
  encoding : Encoding
deriving DecidableEq, Repr

def smsStsReturnDelay : UInt8 := 7
def smsStsMinAngleLimitL : UInt8 := 9
def smsStsMaxAngleLimitL : UInt8 := 11
def smsStsMaxTorqueL : UInt8 := 16
def smsStsPCoef : UInt8 := 21
def smsStsDCoef : UInt8 := 22
def smsStsICoef : UInt8 := 23
def smsStsProtectionCurrentL : UInt8 := 28
def smsStsOfsL : UInt8 := 31
def smsStsOverloadTorque : UInt8 := 36
def smsStsLock : UInt8 := 55

def smsStsSignBitHomingOffset : ℕ := 11

/-- The single-byte parameters. -/
def byteParameters : List Parameter :=
  [⟨"p_coefficient", smsStsPCoef, .byte⟩, ⟨"d_coefficient", smsStsDCoef, .byte⟩,
    ⟨"i_coefficient", smsStsICoef, .byte⟩, ⟨"overload_torque", smsStsOverloadTorque, .byte⟩,
    ⟨"return_delay_time", smsStsReturnDelay, .byte⟩, ⟨"acceleration", smsStsAcc, .byte⟩]

/-- The two-byte unsigned parameters. -/
def wordParameters : List Parameter :=
  [⟨"range_min", smsStsMinAngleLimitL, .word⟩, ⟨"range_max", smsStsMaxAngleLimitL, .word⟩,
    ⟨"max_torque_limit", smsStsMaxTorqueL, .word⟩,
    ⟨"protection_current", smsStsProtectionCurrentL, .word⟩]

/-- The two-byte signed parameters. -/
def signedParameters : List Parameter :=
  [⟨"homing_offset", smsStsOfsL, .signMagnitude smsStsSignBitHomingOffset⟩]

/-! ## The function -/

/-- A register write, with the number of the joint that it is for. -/
structure RegisterWrite where
  joint : ℕ
  id : UInt8
  address : UInt8
  data : List UInt8
deriving DecidableEq, Repr

/-- How the function ends early. -/
inductive Stop
  /-- `return CallbackReturn::ERROR`. -/
  | returned
  | thrown (e : Thrown)
deriving DecidableEq, Repr

structure ConfigureState where
  jointIds : List UInt8
  /-- The writes so far and whether they were acknowledged, the newest first. -/
  log : List (RegisterWrite × Bool)
  errors : List String
  warnings : List String

abbrev Configure := EStateM Stop ConfigureState

/-- What `CommunicationProtocol::write` returns for the write of that number. -/
abbrev BusAnswers := ℕ → Except String Unit

/-- Whether the answer has a value. -/
def BusAnswers.ok (bus : BusAnswers) (n : ℕ) : Bool :=
  match bus n with
  | .ok () => true
  | .error _ => false

section Function

variable (bus : BusAnswers)

/-- `communication_protocol_->write`. -/
def issue (w : RegisterWrite) : Configure (Except String Unit) :=
  modifyGet fun st ↦ (bus st.log.length, { st with log := (w, bus.ok st.log.length) :: st.log })

/-- `spdlog::error`. -/
def reportError (message : String) : Configure Unit :=
  modify fun st ↦ { st with errors := st.errors ++ [message] }

/-- `spdlog::warn`. -/
def reportWarning (message : String) : Configure Unit :=
  modify fun st ↦ { st with warnings := st.warnings ++ [message] }

/-- A value, or what is thrown instead. -/
def valueOf {α : Type} : Except Thrown α → Configure α
  | .ok a => pure a
  | .error e => throw (.thrown e)

/-- The end of a call: an error is reported and ends the function. -/
def check (what : String) : Except String Unit → Configure Unit
  | .ok () => pure ()
  | .error error => do
    reportError s!"FeetechHardwareInterface::configure_joints_ {what}-> {error}"
    throw .returned

def setTorque (joint : ℕ) (id : UInt8) (enable : Bool) : Configure (Except String Unit) :=
  issue bus ⟨joint, id, smsStsTorqueEnable, [if enable then 1 else 0]⟩

def lockEprom (joint : ℕ) (id : UInt8) : Configure (Except String Unit) :=
  issue bus ⟨joint, id, smsStsLock, [1]⟩

def unlockEprom (joint : ℕ) (id : UInt8) : Configure (Except String Unit) :=
  issue bus ⟨joint, id, smsStsLock, [0]⟩

def disableTorque (joint : ℕ) (id : UInt8) : Configure (Except String Unit) := do
  match ← setTorque bus joint id false with
  | .error error => return .error error
  | .ok () => unlockEprom bus joint id

/-- One turn of a loop over parameters. -/
def writeParameter (joint : ℕ) (id : UInt8) (mergedParams : JointParams) (p : Parameter) :
    Configure Unit :=
  match mergedParams.find p.name with
  | none => pure ()
  | some text => do
    let value ← valueOf (stoi text)
    let data ← valueOf (p.encoding.encode value)
    let result ← issue bus ⟨joint, id, p.address, data⟩
    check "" result

/-- The parameters of a joint under the YAML overlay. -/
def mergedParams (yamlById : JointIdConfigMap) (joint : Joint) (id : ℤ) : JointParams :=
  match yamlById.lookup id with
  | some yamlParams => mergeJointParams yamlParams joint.parameters
  | none => joint.parameters

/-- The warning about a parameter that is ignored. -/
def warnOffset (joint : Joint) (mergedParams : JointParams) : Configure Unit :=
  if (mergedParams.find "offset").isSome then
    reportWarning s!"Joint '{joint.name}': 'offset' param is deprecated and ignored — use 'homing_offset' instead"
  else pure ()

/-- Only a joint with command interfaces gets its torque back. -/
def enableCommanded (i : ℕ) (id : UInt8) (joint : Joint) : Configure Unit :=
  if joint.commandInterfaces.isEmpty then pure ()
  else do
    let result ← setTorque bus i id true
    check "set_torque " result

/-- The turn from its first write on. -/
def configureServo (i : ℕ) (id : UInt8) (joint : Joint) (mergedParams : JointParams) :
    Configure Unit := do
  let result ← disableTorque bus i id
  check "disable_torque " result
  byteParameters.forM (writeParameter bus i id mergedParams)
  wordParameters.forM (writeParameter bus i id mergedParams)
  signedParameters.forM (writeParameter bus i id mergedParams)
  let result ← lockEprom bus i id
  check "lock_eprom " result
  enableCommanded bus i id joint

/-- One turn of the loop over the joints. -/
def configureJoint (yamlById : JointIdConfigMap) (i : ℕ) (joint : Joint) : Configure Unit :=
  match joint.parameters.find "id" with
  | none => do
    reportError s!"Joint '{joint.name}' does not have required 'id' parameter"
    throw .returned
  | some urdfId => do
    let id ← valueOf (stoi urdfId)
    modify fun st ↦ { st with jointIds := st.jointIds.set i (UInt8.ofInt id) }
    warnOffset joint (mergedParams yamlById joint id)
    configureServo bus i (UInt8.ofInt id) joint (mergedParams yamlById joint id)

/-- The loop over the joints from number `i` on. -/
def configureFrom (yamlById : JointIdConfigMap) : ℕ → List Joint → Configure Unit
  | _, [] => pure ()
  | i, joint :: joints => do
    configureJoint bus yamlById i joint
    configureFrom yamlById (i + 1) joints

/-- `configure_joints_`, from the start of its loop. -/
def configureJoints (yamlById : JointIdConfigMap) (joints : List Joint) :
    EStateM.Result Stop ConfigureState Unit :=
  configureFrom bus yamlById 0 joints ⟨List.replicate joints.length 0, [], [], []⟩

end Function

/-! ## The steps -/

/-- What the function does, one step after the other. -/
inductive Step
  | assign (joint : ℕ) (id : UInt8)
  | warn (message : String)
  /-- A write that must be acknowledged, with the text of its error. -/
  | write (what : String) (w : RegisterWrite)
  /-- The joint has no id. -/
  | noId (message : String)
  | raised (e : Thrown)

/-- The step in the function. -/
def Step.run (bus : BusAnswers) : Step → Configure Unit
  | .assign joint id => modify fun st ↦ { st with jointIds := st.jointIds.set joint id }
  | .warn message => reportWarning message
  | .write what w => do
    let result ← issue bus w
    check what result
  | .noId message => do
    reportError message
    throw .returned
  | .raised e => throw (.thrown e)

/-- One step after the other. -/
def runSteps (bus : BusAnswers) : List Step → Configure Unit
  | [] => pure ()
  | s :: steps => do
    s.run bus
    runSteps bus steps

theorem runSteps_append (bus : BusAnswers) (steps more : List Step) :
    runSteps bus (steps ++ more) = (do runSteps bus steps; runSteps bus more) := by
  induction steps with
  | nil => rfl
  | cons s steps ih =>
    rw [List.cons_append, runSteps, runSteps, ih, bind_assoc]

/-- The steps for a parameter. -/
def parameterSteps (joint : ℕ) (id : UInt8) (mergedParams : JointParams) (p : Parameter) :
    List Step :=
  match mergedParams.find p.name with
  | none => []
  | some text =>
    match stoi text >>= p.encoding.encode with
    | .error e => [.raised e]
    | .ok data => [.write "" ⟨joint, id, p.address, data⟩]

/-- All parameters, in the order of the loops. -/
def parameters : List Parameter := byteParameters ++ wordParameters ++ signedParameters

/-- The writes that free a servo. -/
def freeSteps (joint : ℕ) (id : UInt8) : List Step :=
  [.write "disable_torque " ⟨joint, id, smsStsTorqueEnable, [0]⟩,
    .write "disable_torque " ⟨joint, id, smsStsLock, [0]⟩]

/-- The writes behind the parameters. -/
def lockSteps (joint : ℕ) (id : UInt8) (commandInterfaces : List String) : List Step :=
  .write "lock_eprom " ⟨joint, id, smsStsLock, [1]⟩ ::
    if commandInterfaces.isEmpty then []
    else [.write "set_torque " ⟨joint, id, smsStsTorqueEnable, [1]⟩]

/-- The steps for a servo. -/
def servoSteps (i : ℕ) (id : UInt8) (joint : Joint) (merged : JointParams) : List Step :=
  freeSteps i id ++ parameters.flatMap (parameterSteps i id merged)
    ++ lockSteps i id joint.commandInterfaces

/-- The warning about an offset. -/
def offsetSteps (joint : Joint) (merged : JointParams) : List Step :=
  if (merged.find "offset").isSome then
    [.warn s!"Joint '{joint.name}': 'offset' param is deprecated and ignored — use 'homing_offset' instead"]
  else []

/-- The steps for a joint. -/
def jointSteps (yamlById : JointIdConfigMap) (i : ℕ) (joint : Joint) : List Step :=
  match joint.parameters.find "id" with
  | none => [.noId s!"Joint '{joint.name}' does not have required 'id' parameter"]
  | some urdfId =>
    match stoi urdfId with
    | .error e => [.raised e]
    | .ok id =>
      .assign i (UInt8.ofInt id) :: (offsetSteps joint (mergedParams yamlById joint id)
        ++ servoSteps i (UInt8.ofInt id) joint (mergedParams yamlById joint id))

/-- The steps for the joints from number `i` on. -/
def stepsFrom (yamlById : JointIdConfigMap) : ℕ → List Joint → List Step
  | _, [] => []
  | i, joint :: joints => jointSteps yamlById i joint ++ stepsFrom yamlById (i + 1) joints

variable {bus : BusAnswers}

theorem valueOf_ok_bind {α β : Type} (a : α) (f : α → Configure β) :
    valueOf (.ok a) >>= f = f a := rfl

theorem runSteps_singleton (s : Step) : runSteps bus [s] = s.run bus := bind_pure _

theorem writeParameter_eq (joint : ℕ) (id : UInt8) (merged : JointParams) (p : Parameter) :
    writeParameter bus joint id merged p = runSteps bus (parameterSteps joint id merged p) := by
  unfold writeParameter parameterSteps
  cases merged.find p.name with
  | none => rfl
  | some text =>
    dsimp only
    rcases stoi text with e | value
    · rfl
    · have hbind : (Except.ok value >>= p.encoding.encode) = p.encoding.encode value := rfl
      rw [hbind, valueOf_ok_bind]
      rcases p.encoding.encode value with e | data
      · rfl
      · rw [valueOf_ok_bind, runSteps_singleton]
        rfl

theorem forM_writeParameter_eq (joint : ℕ) (id : UInt8) (merged : JointParams)
    (ps : List Parameter) : ps.forM (writeParameter bus joint id merged)
      = runSteps bus (ps.flatMap (parameterSteps joint id merged)) := by
  induction ps with
  | nil => rfl
  | cons p ps ih =>
    rw [List.flatMap_cons, runSteps_append, ← writeParameter_eq, ← ih]
    rfl

/-- Freeing a servo. -/
theorem disableTorque_eq (joint : ℕ) (id : UInt8) :
    (do let result ← disableTorque bus joint id; check "disable_torque " result)
      = runSteps bus (freeSteps joint id) := by
  rw [disableTorque, setTorque, unlockEprom, freeSteps, runSteps, runSteps_singleton, Step.run,
    Step.run, bind_assoc, bind_assoc]
  refine congrArg _ (funext fun result ↦ ?_)
  cases result with
  | error error => rfl
  | ok u => rfl

theorem lockSteps_eq (i : ℕ) (id : UInt8) (joint : Joint) :
    (do let result ← lockEprom bus i id; check "lock_eprom " result; enableCommanded bus i id joint)
      = runSteps bus (lockSteps i id joint.commandInterfaces) := by
  have henable : enableCommanded bus i id joint = runSteps bus
      (if joint.commandInterfaces.isEmpty then []
        else [.write "set_torque " ⟨i, id, smsStsTorqueEnable, [1]⟩]) := by
    unfold enableCommanded
    split
    · rfl
    · rw [runSteps_singleton]
      rfl
  rw [lockSteps, runSteps, ← henable, Step.run, bind_assoc]
  rfl

theorem configureServo_eq (i : ℕ) (id : UInt8) (joint : Joint) (merged : JointParams) :
    configureServo bus i id joint merged = runSteps bus (servoSteps i id joint merged) := by
  rw [servoSteps, runSteps_append, runSteps_append, ← disableTorque_eq, ← lockSteps_eq, parameters,
    List.flatMap_append, List.flatMap_append, runSteps_append, runSteps_append,
    ← forM_writeParameter_eq, ← forM_writeParameter_eq, ← forM_writeParameter_eq, configureServo]
  simp only [bind_assoc]

/-- A joint is its steps. -/
theorem configureJoint_eq (yamlById : JointIdConfigMap) (i : ℕ) (joint : Joint) :
    configureJoint bus yamlById i joint = runSteps bus (jointSteps yamlById i joint) := by
  unfold configureJoint jointSteps
  cases joint.parameters.find "id" with
  | none => rw [runSteps_singleton]; rfl
  | some urdfId =>
    dsimp only
    rcases stoi urdfId with e | id
    · rfl
    · have hoffset : warnOffset joint (mergedParams yamlById joint id)
          = runSteps bus (offsetSteps joint (mergedParams yamlById joint id)) := by
        unfold warnOffset offsetSteps
        split
        · rw [runSteps_singleton]
          rfl
        · rfl
      rw [valueOf_ok_bind, hoffset, configureServo_eq]
      dsimp only
      rw [runSteps, runSteps_append]
      rfl

/-- **The function is its steps.** -/
theorem configureFrom_eq (yamlById : JointIdConfigMap) (i : ℕ) (joints : List Joint) :
    configureFrom bus yamlById i joints = runSteps bus (stepsFrom yamlById i joints) := by
  induction joints generalizing i with
  | nil => rfl
  | cons joint joints ih =>
    rw [configureFrom, stepsFrom, runSteps_append, configureJoint_eq, ih]

/-! ## Writes and endings -/

/-- The writes of the steps, as far as they go on a bus that acknowledges everything. -/
def commands : List Step → List RegisterWrite
  | [] => []
  | .assign _ _ :: steps => commands steps
  | .warn _ :: steps => commands steps
  | .write _ w :: steps => w :: commands steps
  | .noId _ :: _ => []
  | .raised _ :: _ => []

/-- How the steps end there. -/
def ending : List Step → Option Stop
  | [] => none
  | .assign _ _ :: steps => ending steps
  | .warn _ :: steps => ending steps
  | .write _ _ :: steps => ending steps
  | .noId _ :: _ => some .returned
  | .raised e :: _ => some (.thrown e)

/-- The ids when they end without stopping. -/
def assigned : List Step → List UInt8 → List UInt8
  | [], ids => ids
  | .assign joint id :: steps, ids => assigned steps (ids.set joint id)
  | _ :: steps, ids => assigned steps ids

theorem ending_append (steps more : List Step) :
    ending (steps ++ more) = (ending steps).or (ending more) := by
  induction steps with
  | nil => rfl
  | cons s steps ih => cases s <;> first | exact ih | rfl

theorem commands_append {steps : List Step} (h : ending steps = none) (more : List Step) :
    commands (steps ++ more) = commands steps ++ commands more := by
  induction steps with
  | nil => rfl
  | cons s steps ih =>
    cases s with
    | assign joint id => exact ih h
    | warn message => exact ih h
    | write what w => exact congrArg (w :: ·) (ih h)
    | noId message => cases h
    | raised e => cases h

/-- Steps that stop keep what is behind them from running. -/
theorem commands_append_of_ending {steps : List Step} {stop : Stop} (h : ending steps = some stop)
    (more : List Step) : commands (steps ++ more) = commands steps := by
  induction steps with
  | nil => cases h
  | cons s steps ih =>
    cases s with
    | assign joint id => exact ih h
    | warn message => exact ih h
    | write what w => exact congrArg (w :: ·) (ih h)
    | noId message => rfl
    | raised e => rfl

theorem assigned_append (steps more : List Step) (ids : List UInt8) :
    assigned (steps ++ more) ids = assigned more (assigned steps ids) := by
  induction steps generalizing ids with
  | nil => rfl
  | cons s steps ih => cases s <;> exact ih _

theorem ending_offsetSteps (joint : Joint) (merged : JointParams) :
    ending (offsetSteps joint merged) = none := by
  unfold offsetSteps
  split <;> rfl

theorem ending_lockSteps (i : ℕ) (id : UInt8) (commandInterfaces : List String) :
    ending (lockSteps i id commandInterfaces) = none := by
  unfold lockSteps
  split <;> rfl

/-- If parameters stop, they throw. -/
theorem ending_flatMap_ne_returned {joint : ℕ} {id : UInt8} {merged : JointParams}
    (ps : List Parameter) :
    ending (ps.flatMap (parameterSteps joint id merged)) ≠ some .returned := by
  induction ps with
  | nil => simp [ending]
  | cons p ps ih =>
    have hp : ending (parameterSteps joint id merged p) ≠ some .returned := by
      unfold parameterSteps
      split
      · simp [ending]
      · split <;> simp [ending]
    rw [List.flatMap_cons, ending_append]
    intro h
    rcases Option.or_eq_some_iff.mp h with hfirst | ⟨-, hrest⟩
    · exact hp hfirst
    · exact ih hrest

/-- The steps of a joint with an id that is a number. -/
theorem jointSteps_of_id {yamlById : JointIdConfigMap} {joint : Joint} {text : List Char} {id : ℤ}
    (hfind : joint.parameters.find "id" = some text) (hid : stoi text = .ok id) (i : ℕ) :
    jointSteps yamlById i joint = .assign i (UInt8.ofInt id) ::
      (offsetSteps joint (mergedParams yamlById joint id)
        ++ servoSteps i (UInt8.ofInt id) joint (mergedParams yamlById joint id)) := by
  rw [jointSteps, hfind]
  dsimp only
  rw [hid]

/-- Only the parameters can stop them. -/
theorem ending_jointSteps_of_id {yamlById : JointIdConfigMap} {joint : Joint} {text : List Char}
    {id : ℤ} (hfind : joint.parameters.find "id" = some text) (hid : stoi text = .ok id) (i : ℕ) :
    ending (jointSteps yamlById i joint) = ending (parameters.flatMap
      (parameterSteps i (UInt8.ofInt id) (mergedParams yamlById joint id))) := by
  rw [jointSteps_of_id hfind hid, ending, ending_append, ending_offsetSteps, Option.none_or,
    servoSteps, ending_append, ending_append, ending_lockSteps, Option.or_none]
  rfl

/-- The writes are those that free the servo, those of the parameters, and those behind them as far
as the parameters do not stop. -/
theorem commands_jointSteps_of_id {yamlById : JointIdConfigMap} {joint : Joint} {text : List Char}
    {id : ℤ} (hfind : joint.parameters.find "id" = some text) (hid : stoi text = .ok id) (i : ℕ) :
    commands (jointSteps yamlById i joint) = commands (freeSteps i (UInt8.ofInt id))
      ++ commands (parameters.flatMap (parameterSteps i (UInt8.ofInt id)
          (mergedParams yamlById joint id)) ++ lockSteps i (UInt8.ofInt id)
            joint.commandInterfaces) := by
  have hoffset : commands (offsetSteps joint (mergedParams yamlById joint id)) = [] := by
    unfold offsetSteps
    split <;> rfl
  have hfree : ending (freeSteps i (UInt8.ofInt id)) = none := rfl
  rw [jointSteps_of_id hfind hid, commands, commands_append (ending_offsetSteps _ _), hoffset,
    List.nil_append, servoSteps, List.append_assoc, commands_append hfree]

/-- A write for a parameter that is present. -/
def ParameterWrite (joint : ℕ) (id : UInt8) (merged : JointParams) (w : RegisterWrite) : Prop :=
  ∃ p ∈ parameters, ∃ text data, merged.find p.name = some text ∧
    (stoi text >>= p.encoding.encode) = .ok data ∧ w = ⟨joint, id, p.address, data⟩

theorem mem_commands_parameterSteps_iff {joint : ℕ} {id : UInt8} {merged : JointParams}
    {w : RegisterWrite} {p : Parameter} : w ∈ commands (parameterSteps joint id merged p) ↔
      ∃ text data, merged.find p.name = some text ∧ (stoi text >>= p.encoding.encode) = .ok data ∧
        w = ⟨joint, id, p.address, data⟩ := by
  unfold parameterSteps
  rcases merged.find p.name with _ | text
  · simp [commands]
  · dsimp only
    rcases hdata : stoi text >>= p.encoding.encode with e | data
    · refine iff_of_false (by simp [commands]) ?_
      rintro ⟨_, data, ⟨⟩, hdata', -⟩
      rw [hdata] at hdata'
      cases hdata'
    · constructor
      · intro hw
        exact ⟨text, data, rfl, hdata, List.mem_singleton.mp hw⟩
      · rintro ⟨_, data', ⟨⟩, hdata', rfl⟩
        rw [hdata] at hdata'
        cases hdata'
        exact List.mem_singleton_self _

/-- The writes of a loop are for its parameters. -/
theorem exists_of_mem_commands_flatMap {joint : ℕ} {id : UInt8} {merged : JointParams}
    {w : RegisterWrite} {ps : List Parameter}
    (h : w ∈ commands (ps.flatMap (parameterSteps joint id merged))) :
    ∃ p ∈ ps, w ∈ commands (parameterSteps joint id merged p) := by
  induction ps with
  | nil => cases h
  | cons p ps ih =>
    rw [List.flatMap_cons] at h
    rcases hend : ending (parameterSteps joint id merged p) with _ | stop
    · rw [commands_append hend, List.mem_append] at h
      rcases h with hp | hps
      · exact ⟨p, List.mem_cons_self, hp⟩
      · obtain ⟨q, hq, hw⟩ := ih hps
        exact ⟨q, List.mem_cons_of_mem _ hq, hw⟩
    · rw [commands_append_of_ending hend] at h
      exact ⟨p, List.mem_cons_self, h⟩

/-- They are for all of them when it ends without stopping. -/
theorem mem_commands_flatMap {joint : ℕ} {id : UInt8} {merged : JointParams} {w : RegisterWrite}
    {ps : List Parameter} (h : ending (ps.flatMap (parameterSteps joint id merged)) = none)
    {p : Parameter} (hp : p ∈ ps) (hw : w ∈ commands (parameterSteps joint id merged p)) :
    w ∈ commands (ps.flatMap (parameterSteps joint id merged)) := by
  induction ps with
  | nil => cases hp
  | cons q ps ih =>
    rw [List.flatMap_cons, ending_append, Option.or_eq_none_iff] at h
    rw [List.flatMap_cons, commands_append h.1, List.mem_append]
    rcases List.mem_cons.mp hp with rfl | hp
    · exact .inl hw
    · exact .inr (ih h.2 hp)

theorem parameterWrite_of_mem {joint : ℕ} {id : UInt8} {merged : JointParams} {w : RegisterWrite}
    (h : w ∈ commands (parameters.flatMap (parameterSteps joint id merged))) :
    ParameterWrite joint id merged w := by
  obtain ⟨p, hp, hw⟩ := exists_of_mem_commands_flatMap h
  exact ⟨p, hp, mem_commands_parameterSteps_iff.mp hw⟩

/-- The addresses of the writes that are not for parameters. -/
def IsControl (address : UInt8) : Prop := address = smsStsTorqueEnable ∨ address = smsStsLock

theorem not_isControl_of_mem {p : Parameter} (h : p ∈ parameters) : ¬IsControl p.address := by
  have hall : ∀ p ∈ parameters, p.address ≠ smsStsTorqueEnable ∧ p.address ≠ smsStsLock := by decide
  rintro (heq | heq)
  · exact (hall p h).1 heq
  · exact (hall p h).2 heq

/-- The writes of two lists of steps are writes of one of them. -/
theorem mem_or_mem_of_mem_commands_append {steps more : List Step} {w : RegisterWrite}
    (h : w ∈ commands (steps ++ more)) : w ∈ commands steps ∨ w ∈ commands more := by
  rcases hend : ending steps with _ | stop
  · rwa [commands_append hend, List.mem_append] at h
  · rw [commands_append_of_ending hend] at h
    exact .inl h

/-- The controls of a servo are for its joint. -/
theorem isControl_of_mem_freeSteps {i : ℕ} {id : UInt8} {w : RegisterWrite}
    (h : w ∈ commands (freeSteps i id)) : w.joint = i ∧ IsControl w.address := by
  rcases List.mem_pair.mp h with rfl | rfl
  · exact ⟨rfl, .inl rfl⟩
  · exact ⟨rfl, .inr rfl⟩

theorem isControl_of_mem_lockSteps {i : ℕ} {id : UInt8} {commandInterfaces : List String}
    {w : RegisterWrite} (h : w ∈ commands (lockSteps i id commandInterfaces)) :
    w.joint = i ∧ IsControl w.address := by
  unfold lockSteps at h
  split at h
  · cases List.mem_singleton.mp h
    exact ⟨rfl, .inr rfl⟩
  · rcases List.mem_pair.mp h with rfl | rfl
    · exact ⟨rfl, .inr rfl⟩
    · exact ⟨rfl, .inl rfl⟩

/-- **What is written for a joint** is a control, or a parameter under the overlay, in every run. -/
theorem cases_of_mem_jointSteps {yamlById : JointIdConfigMap} {i : ℕ} {joint : Joint}
    {w : RegisterWrite} (h : w ∈ commands (jointSteps yamlById i joint)) :
    ∃ text id, joint.parameters.find "id" = some text ∧ stoi text = .ok id ∧ w.joint = i ∧
      (IsControl w.address ∨
        ParameterWrite i (UInt8.ofInt id) (mergedParams yamlById joint id) w) := by
  cases hfind : joint.parameters.find "id" with
  | none =>
    rw [jointSteps, hfind] at h
    cases h
  | some text =>
    cases hid : stoi text with
    | error e =>
      rw [jointSteps, hfind] at h
      dsimp only at h
      rw [hid] at h
      cases h
    | ok id =>
      refine ⟨text, id, rfl, hid, ?_⟩
      rw [commands_jointSteps_of_id hfind hid, List.mem_append] at h
      rcases h with hfree | h
      · exact (isControl_of_mem_freeSteps hfree).imp_right .inl
      · rcases mem_or_mem_of_mem_commands_append h with hparams | hlock
        · have hwrite := parameterWrite_of_mem hparams
          have hjoint : w.joint = i := by
            obtain ⟨_, _, _, _, _, _, hw⟩ := hwrite
            rw [hw]
          exact ⟨hjoint, .inr hwrite⟩
        · exact (isControl_of_mem_lockSteps hlock).imp_right .inl

/-- Joint `i + k` of the loop from number `i` on. -/
theorem cases_of_mem_stepsFrom {yamlById : JointIdConfigMap} {i : ℕ} {joints : List Joint}
    {w : RegisterWrite} (h : w ∈ commands (stepsFrom yamlById i joints)) :
    ∃ k joint text id, joints[k]? = some joint ∧ joint.parameters.find "id" = some text ∧
      stoi text = .ok id ∧ w.joint = i + k ∧ (IsControl w.address ∨
        ParameterWrite (i + k) (UInt8.ofInt id) (mergedParams yamlById joint id) w) := by
  induction joints generalizing i with
  | nil => cases h
  | cons joint joints ih =>
    rcases mem_or_mem_of_mem_commands_append h with h | h
    · obtain ⟨text, id, hfind, hid, hjoint, hcases⟩ := cases_of_mem_jointSteps h
      exact ⟨0, joint, text, id, rfl, hfind, hid, hjoint, hcases⟩
    · obtain ⟨k, joint', text, id, hk, hfind, hid, hjoint, hcases⟩ := ih h
      rw [Nat.succ_add, ← Nat.add_succ] at hjoint hcases
      exact ⟨k + 1, joint', text, id, hk, hfind, hid, hjoint, hcases⟩

theorem run_write_of_ok {what : String} {w : RegisterWrite} {st : ConfigureState}
    (h : bus.ok st.log.length = true) :
    (Step.write what w).run bus st = .ok () { st with log := (w, true) :: st.log } := by
  have hissue : issue bus w st
      = .ok (bus st.log.length) { st with log := (w, true) :: st.log } := by
    rw [← h]
    rfl
  rw [Step.run, StateError.bind_of_ok hissue]
  unfold BusAnswers.ok at h
  split at h
  · rename_i hanswer
    rw [hanswer]
    rfl
  · cases h

theorem run_write_of_not_ok {what : String} {w : RegisterWrite} {st : ConfigureState}
    (h : bus.ok st.log.length = false) : ∃ st',
      (Step.write what w).run bus st = .error .returned st' ∧ st'.log = (w, false) :: st.log := by
  have hissue : issue bus w st
      = .ok (bus st.log.length) { st with log := (w, false) :: st.log } := by
    rw [← h]
    rfl
  rw [Step.run, StateError.bind_of_ok hissue]
  unfold BusAnswers.ok at h
  split at h
  · cases h
  · rename_i hanswer
    rw [hanswer]
    exact ⟨_, rfl, rfl⟩

/-- A run of the steps: either every write is acknowledged and the steps end as they do, or the
first write that is not ends them. -/
inductive Ran (bus : BusAnswers) (steps : List Step) (st : ConfigureState) :
    EStateM.Result Stop ConfigureState Unit → Prop
  | finished {st' : ConfigureState} :
    Script.Completes bus.ok st.log.length (commands steps) → ending steps = none →
    st'.log = Script.play bus.ok (commands steps) st.log →
    st'.jointIds = assigned steps st.jointIds → Ran bus steps st (.ok () st')
  | stopped {stop : Stop} {st' : ConfigureState} :
    Script.Completes bus.ok st.log.length (commands steps) → ending steps = some stop →
    st'.log = Script.play bus.ok (commands steps) st.log → Ran bus steps st (.error stop st')
  | failed {w : RegisterWrite} {st' : ConfigureState} :
    Script.FailsAt bus.ok st.log.length (commands steps) w →
    st'.log = Script.play bus.ok (commands steps) st.log → Ran bus steps st (.error .returned st')

/-- **The run.** -/
theorem ran_runSteps (bus : BusAnswers) (steps : List Step) (st : ConfigureState) :
    Ran bus steps st (runSteps bus steps st) := by
  induction steps generalizing st with
  | nil => exact .finished trivial rfl rfl rfl
  | cons s steps ih =>
    have hquiet (st₁ : ConfigureState) (hrun : s.run bus st = .ok () st₁)
        (hlog : st₁.log = st.log) (hcommands : commands (s :: steps) = commands steps)
        (hending : ending (s :: steps) = ending steps)
        (hids : assigned (s :: steps) st.jointIds = assigned steps st₁.jointIds) :
        Ran bus (s :: steps) st (runSteps bus (s :: steps) st) := by
      rw [runSteps, StateError.bind_of_ok hrun]
      have hran := ih st₁
      generalize runSteps bus steps st₁ = result at hran
      cases hran with
      | finished hall hend hst hids' =>
        rw [hlog] at hall hst
        exact .finished (by rwa [hcommands]) (by rwa [hending]) (by rwa [hcommands])
          (by rwa [hids])
      | stopped hall hend hst =>
        rw [hlog] at hall hst
        exact .stopped (by rwa [hcommands]) (by rwa [hending]) (by rwa [hcommands])
      | failed hfail hst =>
        rw [hlog] at hfail hst
        exact .failed (by rwa [hcommands]) (by rwa [hcommands])
    cases s with
    | assign joint id => exact hquiet _ rfl rfl rfl rfl rfl
    | warn message => exact hquiet _ rfl rfl rfl rfl rfl
    | noId message => exact .stopped trivial rfl rfl
    | raised e => exact .stopped trivial rfl rfl
    | write what w =>
      by_cases hok : bus.ok st.log.length = true
      · rw [runSteps, StateError.bind_of_ok (run_write_of_ok hok)]
        have hran := ih { st with log := (w, true) :: st.log }
        generalize runSteps bus steps { st with log := (w, true) :: st.log } = result at hran
        have hplay : Script.play bus.ok (commands (.write what w :: steps)) st.log
            = Script.play bus.ok (commands steps) ((w, true) :: st.log) := if_pos hok
        cases hran with
        | finished hall hend hst hids =>
          exact .finished ⟨hok, hall⟩ hend (hst.trans hplay.symm) hids
        | stopped hall hend hst => exact .stopped ⟨hok, hall⟩ hend (hst.trans hplay.symm)
        | failed hfail hst => exact .failed (hfail.cons hok) (hst.trans hplay.symm)
      · obtain ⟨st', hrun, hlog⟩ :=
          @run_write_of_not_ok bus what w st (Bool.eq_false_iff.mpr hok)
        rw [runSteps, StateError.bind_of_error hrun]
        exact .failed ⟨[], commands steps, rfl, trivial, Bool.eq_false_iff.mpr hok⟩
          (hlog.trans (if_neg hok).symm)

end VzletUr3e.Feetech
