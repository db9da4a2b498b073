import VzletUr3e.Feetech.Configure

/-!
# What ends up in the registers

On a bus that acknowledges every write, `configure_joints_` should keep what it is given: either the
servo ids and the registers are exactly the numbers of the parameters, or it returns `ERROR`.

The conversions in between do not ask. A text that is no number, or a homing offset that is too
large, is thrown out of the function; an id or a value that does not fit is cut down to its lowest
bits and sent. The contract holds exactly of the joint lists without any of these.
-/

namespace VzletUr3e.Feetech

/-! ## Values and registers

An encoding has two domains: the values for which it does not throw, and those that the register
gives back. Only for a sign bit are they the same. For a byte or a word nothing is thrown, and what
does not fit is cut down in silence. -/

/-- The values that a register can hold. -/
def Encoding.Fits : Encoding → ℤ → Prop
  | .byte, value => 0 ≤ value ∧ value < 2 ^ 8
  | .word, value => 0 ≤ value ∧ value < 2 ^ 16
  | .signMagnitude signBit, value => value.natAbs < 2 ^ signBit

/-- The values for which the encoding does not throw. -/
def Encoding.Accepts : Encoding → ℤ → Prop
  | .byte, _ => True
  | .word, _ => True
  | .signMagnitude signBit, value => value.natAbs < 2 ^ signBit

/-- A sign bit lies within the word. -/
def Encoding.InWord : Encoding → Prop
  | .byte => True
  | .word => True
  | .signMagnitude signBit => signBit < 16

theorem inWord_of_mem {p : Parameter} (h : p ∈ parameters) : p.encoding.InWord := by
  have hall : ∀ p ∈ parameters, p.encoding = .byte ∨ p.encoding = .word ∨
      p.encoding = .signMagnitude 11 := by decide
  rcases hall p h with heq | heq | heq
  · rw [heq]
    trivial
  · rw [heq]
    trivial
  · rw [heq]
    exact (by decide : 11 < 16)

theorem accepts_of_fits {e : Encoding} {value : ℤ} (h : e.Fits value) : e.Accepts value := by
  cases e with
  | byte => trivial
  | word => trivial
  | signMagnitude signBit => exact h

theorem fromSts_wordBytes (data : ℤ) :
    fromSts ⟨(wordBytes data).getD 0 0, (wordBytes data).getD 1 0⟩ = fromSts (toSts data) := rfl

/-- What survives in a word is the value modulo `2 ^ 16`. -/
theorem fromSts_toSts_eq (data : ℤ) : fromSts (toSts data) = data % 2 ^ 16 := by
  rw [fromSts_eq, toSts, toNat_ofInt, toNat_ofInt, Int.shiftRight_eq_div_pow]
  omega

/-- The encoding throws exactly the values that it does not accept. -/
theorem exists_encode_iff {e : Encoding} (hword : e.InWord) {value : ℤ} :
    (∃ data, e.encode value = .ok data) ↔ e.Accepts value := by
  cases e with
  | byte => exact ⟨fun _ ↦ trivial, fun _ ↦ ⟨_, rfl⟩⟩
  | word => exact ⟨fun _ ↦ trivial, fun _ ↦ ⟨_, rfl⟩⟩
  | signMagnitude signBit =>
    have hpow : 2 ^ signBit ≤ 2 ^ 31 := Nat.pow_le_pow_right (by norm_num) (by
      change signBit < 16 at hword
      omega)
    rw [Encoding.encode]
    by_cases hmin : value = -2 ^ 31
    · rw [if_pos hmin]
      refine iff_of_false (by simp) ?_
      change ¬value.natAbs < 2 ^ signBit
      omega
    · rw [if_neg hmin]
      by_cases hlt : value.natAbs < 2 ^ signBit
      · have hencode := encodeSignMagnitude_eq_ok_iff.mpr ⟨hlt, rfl⟩
        rw [hencode]
        exact ⟨fun _ ↦ hlt, fun _ ↦ ⟨_, rfl⟩⟩
      · rw [encodeSignMagnitude_of_le (not_lt.mp hlt)]
        exact iff_of_false (by simp) hlt

/-- **A register decodes to the value** exactly when the value fits it. -/
theorem decode_encode_iff {e : Encoding} (hword : e.InWord) {value : ℤ} {data : List UInt8}
    (h : e.encode value = .ok data) : e.decode data = value ↔ e.Fits value := by
  cases e with
  | byte =>
    cases h
    change ((UInt8.ofInt value).toNat : ℤ) = value ↔ 0 ≤ value ∧ value < 2 ^ 8
    rw [toNat_ofInt]
    omega
  | word =>
    cases h
    change fromSts (toSts value) = value ↔ 0 ≤ value ∧ value < 2 ^ 16
    rw [fromSts_toSts_eq]
    omega
  | signMagnitude signBit =>
    have hfits : value.natAbs < 2 ^ signBit := (exists_encode_iff hword).mp ⟨data, h⟩
    refine iff_of_true ?_ hfits
    rw [Encoding.encode, if_neg] at h
    · have hencode := encodeSignMagnitude_eq_ok_iff.mpr ⟨hfits, rfl⟩
      rw [hencode] at h
      cases h
      obtain ⟨h0, hlt⟩ := encodeSignMagnitude_bounds hencode
      have hpow : (2 : ℤ) ^ (signBit + 1) ≤ 2 ^ 16 :=
        pow_le_pow_right₀ (by norm_num) (by change signBit < 16 at hword; omega)
      rw [Encoding.decode, fromSts_wordBytes, fromSts_toSts h0 (hlt.trans_le hpow)]
      exact decode_of_encode hencode
    · rintro rfl
      have hpow : 2 ^ signBit ≤ 2 ^ 31 := Nat.pow_le_pow_right (by norm_num) (by
        change signBit < 16 at hword
        omega)
      omega

/-! ## What is given -/

/-- `feetech_driver::kMaxServoId`. -/
def kMaxServoId : ℤ := 253

/-- The joint has an id. -/
def Joint.hasId (joint : Joint) : Bool := (joint.parameters.find "id").isSome

/-- The id of a joint is a number of `I`, and each parameter that is present after the merge is a
number of `V`. -/
def Given (I : ℤ → Prop) (V : Encoding → ℤ → Prop) (yamlById : JointIdConfigMap) (joint : Joint) :
    Prop :=
  ∃ text id, joint.parameters.find "id" = some text ∧ stoi text = .ok id ∧ I id ∧
    ∀ p ∈ parameters, ∀ text, (mergedParams yamlById joint id).find p.name = some text →
      ∃ value, stoi text = .ok value ∧ V p.encoding value

/-- All texts are numbers, and the homing offset can be encoded. -/
def Readable (yamlById : JointIdConfigMap) (joint : Joint) : Prop :=
  Given (fun _ ↦ True) Encoding.Accepts yamlById joint

/-- All texts are numbers that fit. -/
def Fitting (yamlById : JointIdConfigMap) (joint : Joint) : Prop :=
  Given (fun id ↦ 0 ≤ id ∧ id ≤ kMaxServoId) Encoding.Fits yamlById joint

/-- A joint has one id. -/
theorem id_unique {joint : Joint} {text text' : List Char} {id id' : ℤ}
    (hfind : joint.parameters.find "id" = some text) (hid : stoi text = .ok id)
    (hfind' : joint.parameters.find "id" = some text') (hid' : stoi text' = .ok id') :
    id = id' := by
  obtain rfl : text = text' := Option.some.inj (hfind.symm.trans hfind')
  exact Except.ok.inj (hid.symm.trans hid')

theorem hasId_of_readable {yamlById : JointIdConfigMap} {joint : Joint}
    (h : Readable yamlById joint) : joint.hasId = true := by
  obtain ⟨text, id, hfind, -⟩ := h
  rw [Joint.hasId, hfind]
  rfl

/-! ## How the steps end

Every step list ends in one of few ways, and which one is decided by the texts alone. The lemmas are
dichotomies, of the ending and of the texts at once, so that neither direction has to be proved
apart: they are put together over the parameters of a joint, and then over the joints. -/

/-- The data of a parameter, if its text is a number that is accepted. -/
theorem exists_data_iff {p : Parameter} (hp : p ∈ parameters) {text : List Char} :
    (∃ data, (stoi text >>= p.encoding.encode) = .ok data) ↔
      ∃ value, stoi text = .ok value ∧ p.encoding.Accepts value := by
  rcases stoi text with e | value
  · exact iff_of_false (by rintro ⟨_, ⟨⟩⟩) (by rintro ⟨_, ⟨⟩, _⟩)
  · rw [show (Except.ok value >>= p.encoding.encode) = p.encoding.encode value from rfl,
      exists_encode_iff (inWord_of_mem hp)]
    exact ⟨fun h ↦ ⟨value, rfl, h⟩, by rintro ⟨_, ⟨⟩, h⟩; exact h⟩

theorem ending_parameterSteps {p : Parameter} (hp : p ∈ parameters) (joint : ℕ) (id : UInt8)
    (merged : JointParams) : (ending (parameterSteps joint id merged p) = none ∧
        ∀ text, merged.find p.name = some text →
          ∃ value, stoi text = .ok value ∧ p.encoding.Accepts value) ∨
      ((∃ e, ending (parameterSteps joint id merged p) = some (.thrown e)) ∧
        ¬∀ text, merged.find p.name = some text →
          ∃ value, stoi text = .ok value ∧ p.encoding.Accepts value) := by
  unfold parameterSteps
  rcases merged.find p.name with _ | text
  · exact .inl ⟨rfl, by simp⟩
  · have hiff := @exists_data_iff p hp text
    dsimp only
    rcases hdata : stoi text >>= p.encoding.encode with e | data
    · refine .inr ⟨⟨e, rfl⟩, fun hall ↦ ?_⟩
      obtain ⟨_, hsome⟩ := hiff.mpr (hall text rfl)
      rw [hdata] at hsome
      cases hsome
    · refine .inl ⟨rfl, ?_⟩
      rintro _ ⟨⟩
      exact hiff.mp ⟨data, hdata⟩

/-- The parameters end without stopping exactly when all of them can be sent, and else with
something that is thrown. -/
theorem ending_flatMap_parameterSteps (joint : ℕ) (id : UInt8) (merged : JointParams) :
    ∀ {ps : List Parameter}, (∀ p ∈ ps, p ∈ parameters) →
      (ending (ps.flatMap (parameterSteps joint id merged)) = none ∧
        ∀ p ∈ ps, ∀ text, merged.find p.name = some text →
          ∃ value, stoi text = .ok value ∧ p.encoding.Accepts value) ∨
      ((∃ e, ending (ps.flatMap (parameterSteps joint id merged)) = some (.thrown e)) ∧
        ¬∀ p ∈ ps, ∀ text, merged.find p.name = some text →
          ∃ value, stoi text = .ok value ∧ p.encoding.Accepts value) := by
  intro ps
  induction ps with
  | nil => exact fun _ ↦ .inl ⟨rfl, by simp⟩
  | cons p ps ih =>
    intro hps
    obtain ⟨hp, hps⟩ := List.forall_mem_cons.mp hps
    rw [List.flatMap_cons, ending_append]
    rcases ending_parameterSteps hp joint id merged with ⟨hend, hall⟩ | ⟨⟨e, hend⟩, hnot⟩
    · rw [hend, Option.none_or]
      rcases ih hps with ⟨hrest, hrestall⟩ | ⟨hrest, hnot⟩
      · exact .inl ⟨hrest, List.forall_mem_cons.mpr ⟨hall, hrestall⟩⟩
      · exact .inr ⟨hrest, fun h ↦ hnot (List.forall_mem_cons.mp h).2⟩
    · rw [hend, Option.some_or]
      exact .inr ⟨⟨e, rfl⟩, fun h ↦ hnot (List.forall_mem_cons.mp h).1⟩

/-- A joint with an id goes through when it is readable, and throws when it is not. -/
theorem ending_jointSteps (yamlById : JointIdConfigMap) (i : ℕ) {joint : Joint}
    (h : joint.hasId = true) :
    (ending (jointSteps yamlById i joint) = none ∧ Readable yamlById joint) ∨
      ((∃ e, ending (jointSteps yamlById i joint) = some (.thrown e)) ∧
        ¬Readable yamlById joint) := by
  obtain ⟨urdfId, hfind⟩ := Option.isSome_iff_exists.mp h
  rcases hid : stoi urdfId with e | id
  · have hsteps : jointSteps yamlById i joint = [.raised e] := by
      rw [jointSteps, hfind]
      dsimp only
      rw [hid]
    refine .inr ⟨⟨e, by rw [hsteps]; rfl⟩, ?_⟩
    rintro ⟨text, id, hfind', hid', -⟩
    rw [hfind] at hfind'
    cases hfind'
    rw [hid] at hid'
    cases hid'
  · rw [ending_jointSteps_of_id hfind hid]
    rcases ending_flatMap_parameterSteps i (UInt8.ofInt id) (mergedParams yamlById joint id)
      (fun _ hp ↦ hp) with ⟨hnone, hall⟩ | ⟨hthrown, hnot⟩
    · exact .inl ⟨hnone, urdfId, id, hfind, hid, trivial, hall⟩
    · refine .inr ⟨hthrown, ?_⟩
      rintro ⟨text, id', hfind', hid', -, hall⟩
      obtain rfl := id_unique hfind hid hfind' hid'
      exact hnot hall

theorem ending_of_not_hasId (yamlById : JointIdConfigMap) (i : ℕ) {joint : Joint}
    (h : joint.hasId = false) : ending (jointSteps yamlById i joint) = some .returned := by
  have hfind : joint.parameters.find "id" = none := by
    rw [Joint.hasId] at h
    exact Option.not_isSome_iff_eq_none.mp (by rw [h]; simp)
  unfold jointSteps
  rw [hfind]
  rfl

/-- **How the joints end.** Nothing is thrown exactly when all joints before the first one without
an id are readable, and the end is reached when no joint is without an id. -/
theorem ending_stepsFrom (yamlById : JointIdConfigMap) (i : ℕ) (joints : List Joint) :
    ((∀ joint ∈ joints.takeWhile Joint.hasId, Readable yamlById joint) ∧
        (ending (stepsFrom yamlById i joints) = none ∧ (∀ joint ∈ joints, joint.hasId = true) ∨
          ending (stepsFrom yamlById i joints) = some .returned ∧
            ¬∀ joint ∈ joints, joint.hasId = true)) ∨
      ((¬∀ joint ∈ joints.takeWhile Joint.hasId, Readable yamlById joint) ∧
        ∃ e, ending (stepsFrom yamlById i joints) = some (.thrown e)) := by
  induction joints generalizing i with
  | nil => exact .inl ⟨by simp, .inl ⟨rfl, by simp⟩⟩
  | cons joint joints ih =>
    rw [stepsFrom, ending_append]
    by_cases hid : joint.hasId = true
    · rw [List.takeWhile_cons_of_pos hid]
      rcases ending_jointSteps yamlById i hid with ⟨hend, hread⟩ | ⟨⟨e, hend⟩, hnot⟩
      · rw [hend, Option.none_or]
        rcases ih (i + 1) with ⟨hall, hnone | hreturned⟩ | ⟨hnot, hthrown⟩
        · exact .inl ⟨List.forall_mem_cons.mpr ⟨hread, hall⟩,
            .inl ⟨hnone.1, List.forall_mem_cons.mpr ⟨hid, hnone.2⟩⟩⟩
        · exact .inl ⟨List.forall_mem_cons.mpr ⟨hread, hall⟩,
            .inr ⟨hreturned.1, fun h ↦ hreturned.2 (List.forall_mem_cons.mp h).2⟩⟩
        · exact .inr ⟨fun h ↦ hnot (List.forall_mem_cons.mp h).2, hthrown⟩
      · rw [hend, Option.some_or]
        exact .inr ⟨fun h ↦ hnot (List.forall_mem_cons.mp h).1, e, rfl⟩
    · rw [List.takeWhile_cons_of_neg hid, ending_of_not_hasId yamlById i (by simpa using hid)]
      exact .inl ⟨by simp, .inr ⟨rfl, fun h ↦ hid (List.forall_mem_cons.mp h).1⟩⟩

/-- Where the end is reached, every joint has an id and is readable. -/
theorem readable_of_ending {yamlById : JointIdConfigMap} {i : ℕ} {joints : List Joint}
    (h : ending (stepsFrom yamlById i joints) = none) :
    (∀ joint ∈ joints, joint.hasId = true) ∧ ∀ joint ∈ joints, Readable yamlById joint := by
  rcases ending_stepsFrom yamlById i joints with ⟨hread, ⟨-, hhas⟩ | ⟨hend, -⟩⟩ | ⟨-, e, hend⟩
  · rw [List.takeWhile_eq_self_iff.mpr hhas] at hread
    exact ⟨hhas, hread⟩
  · rw [h] at hend
    cases hend
  · rw [h] at hend
    cases hend

/-! ## What is written and assigned

Where nothing is thrown, no write is cut off by what comes later. The writes of a joint are then
those of its parameters, and they are found among the writes of the whole run. -/

/-- Parameters are told apart by their registers. -/
theorem eq_of_address_eq {p q : Parameter} (hp : p ∈ parameters) (hq : q ∈ parameters)
    (h : p.address = q.address) : p = q := by
  have hall : ∀ p ∈ parameters, ∀ q ∈ parameters, p.address = q.address → p = q := by decide
  exact hall p hp q hq h

/-- What a joint that is readable adds. -/
structure JointRan (yamlById : JointIdConfigMap) (i : ℕ) (joint : Joint) (id : ℤ) : Prop where
  ending_eq : ending (jointSteps yamlById i joint) = none
  assigned_eq : ∀ ids, assigned (jointSteps yamlById i joint) ids = ids.set i (UInt8.ofInt id)
  writes : ∀ w, ParameterWrite i (UInt8.ofInt id) (mergedParams yamlById joint id) w →
    w ∈ commands (jointSteps yamlById i joint)

theorem assigned_flatMap_parameterSteps {joint : ℕ} {id : UInt8} {merged : JointParams}
    (ps : List Parameter) (ids : List UInt8) :
    assigned (ps.flatMap (parameterSteps joint id merged)) ids = ids := by
  induction ps with
  | nil => rfl
  | cons p ps ih =>
    have hp : assigned (parameterSteps joint id merged p) ids = ids := by
      unfold parameterSteps
      split
      · rfl
      · split <;> rfl
    rw [List.flatMap_cons, assigned_append, hp, ih]

/-- **One joint.** -/
theorem jointRan_of_readable {yamlById : JointIdConfigMap} {joint : Joint} (i : ℕ)
    (h : Readable yamlById joint) {text : List Char} {id : ℤ}
    (hfind : joint.parameters.find "id" = some text) (hid : stoi text = .ok id) :
    JointRan yamlById i joint id := by
  have hend : ending (jointSteps yamlById i joint) = none := by
    rcases ending_jointSteps yamlById i (hasId_of_readable h) with ⟨hend, -⟩ | ⟨-, hnot⟩
    · exact hend
    · exact absurd h hnot
  have hparams := (ending_jointSteps_of_id hfind hid i).symm.trans hend
  have hassigned (ids : List UInt8) :
      assigned (jointSteps yamlById i joint) ids = ids.set i (UInt8.ofInt id) := by
    have hoffset (ids : List UInt8) :
        assigned (offsetSteps joint (mergedParams yamlById joint id)) ids = ids := by
      unfold offsetSteps
      split <;> rfl
    have hlock (ids : List UInt8) :
        assigned (lockSteps i (UInt8.ofInt id) joint.commandInterfaces) ids = ids := by
      unfold lockSteps
      split <;> rfl
    rw [jointSteps_of_id hfind hid, assigned, assigned_append, hoffset, servoSteps, assigned_append,
      assigned_append, hlock, assigned_flatMap_parameterSteps]
    rfl
  refine ⟨hend, hassigned, fun w hw ↦ ?_⟩
  obtain ⟨p, hp, hw⟩ := hw
  rw [commands_jointSteps_of_id hfind hid, commands_append hparams, List.mem_append,
    List.mem_append]
  exact .inr (.inl (mem_commands_flatMap hparams hp (mem_commands_parameterSteps_iff.mpr hw)))

/-! ## All joints -/

/-- The steps of joint `i + k` are among those of the joints from number `i` on. -/
structure JointsRan (yamlById : JointIdConfigMap) (i : ℕ) (joints : List Joint) : Prop where
  ending_eq : ending (stepsFrom yamlById i joints) = none
  assigned_lt : ∀ ids k, k < i → (assigned (stepsFrom yamlById i joints) ids)[k]? = ids[k]?
  assigned_eq : ∀ ids k joint text id, joints[k]? = some joint → i + k < ids.length →
    joint.parameters.find "id" = some text → stoi text = .ok id →
    (assigned (stepsFrom yamlById i joints) ids)[i + k]? = some (UInt8.ofInt id)
  writes : ∀ k joint text id, joints[k]? = some joint → joint.parameters.find "id" = some text →
    stoi text = .ok id → ∀ w, ParameterWrite (i + k) (UInt8.ofInt id)
      (mergedParams yamlById joint id) w → w ∈ commands (stepsFrom yamlById i joints)

/-- **All joints**, when all of them are readable. -/
theorem jointsRan_of_readable {yamlById : JointIdConfigMap} {joints : List Joint} (i : ℕ)
    (h : ∀ joint ∈ joints, Readable yamlById joint) : JointsRan yamlById i joints := by
  induction joints generalizing i with
  | nil =>
    refine ⟨rfl, fun _ _ _ ↦ rfl, ?_, ?_⟩
    · rintro _ _ _ _ _ ⟨⟩
    · rintro _ _ _ _ ⟨⟩
  | cons joint joints ih =>
    obtain ⟨hjoint, hjoints⟩ := List.forall_mem_cons.mp h
    obtain ⟨text, id, hfind, hid, -, -⟩ := id hjoint
    have hone := jointRan_of_readable i hjoint hfind hid
    have hrest := ih (i + 1) hjoints
    have hcommands : commands (stepsFrom yamlById i (joint :: joints))
        = commands (jointSteps yamlById i joint) ++ commands (stepsFrom yamlById (i + 1) joints) :=
      commands_append hone.ending_eq _
    have hassigned (ids : List UInt8) : assigned (stepsFrom yamlById i (joint :: joints)) ids
        = assigned (stepsFrom yamlById (i + 1) joints) (ids.set i (UInt8.ofInt id)) := by
      rw [stepsFrom, assigned_append, hone.assigned_eq]
    refine ⟨?_, fun ids k hk ↦ ?_, ?_, ?_⟩
    · rw [stepsFrom, ending_append, hone.ending_eq, Option.none_or]
      exact hrest.ending_eq
    · rw [hassigned, hrest.assigned_lt _ k (by omega), List.getElem?_set_ne (by omega)]
    · intro ids k joint' text' id' hk hlt hfind' hid'
      rw [hassigned]
      rcases k with _ | k
      · cases hk
        obtain rfl := id_unique hfind hid hfind' hid'
        have hset : (ids.set i (UInt8.ofInt id))[i]? = some (UInt8.ofInt id) :=
          List.getElem?_set_self hlt
        exact (hrest.assigned_lt _ i (Nat.lt_succ_self i)).trans hset
      · have hlt' : i + 1 + k < (ids.set i (UInt8.ofInt id)).length := by
          rw [List.length_set]
          omega
        rw [← hrest.assigned_eq _ k joint' text' id' hk hlt' hfind' hid']
        congr 1
        omega
    · intro k joint' text' id' hk hfind' hid' w hw
      rw [hcommands, List.mem_append]
      rcases k with _ | k
      · cases hk
        obtain rfl := id_unique hfind hid hfind' hid'
        exact .inl (hone.writes w hw)
      · rw [Nat.add_succ, ← Nat.succ_add] at hw
        exact .inr (hrest.writes k joint' text' id' hk hfind' hid' w hw)

/-! ## The contract -/

/-- A bus that acknowledges every write. -/
def acknowledging : BusAnswers := fun _ ↦ .ok ()

/-- The servo ids and the registers are the numbers that are given. -/
structure AsGiven (yamlById : JointIdConfigMap) (joints : List Joint) (st : ConfigureState) :
    Prop where
  ids : ∀ (i : ℕ) (joint : Joint), joints[i]? = some joint → ∃ text id, ∃ servo : UInt8,
    joint.parameters.find "id" = some text ∧ stoi text = .ok id ∧ 0 ≤ id ∧ id ≤ kMaxServoId ∧
      st.jointIds[i]? = some servo ∧ (servo.toNat : ℤ) = id
  registers : ∀ (i : ℕ) (joint : Joint) text id, joints[i]? = some joint →
    joint.parameters.find "id" = some text → stoi text = .ok id →
    ∀ p ∈ parameters, ∀ text, (mergedParams yamlById joint id).find p.name = some text →
      ∃ value, stoi text = .ok value ∧
        (∃ entry ∈ st.log, entry.1.joint = i ∧ entry.1.address = p.address) ∧
        ∀ entry ∈ st.log, entry.1.joint = i → entry.1.address = p.address →
          p.encoding.decode entry.1.data = value

/-- What is promised of `configure_joints_` on such a bus. -/
structure ConfigureContract (yamlById : JointIdConfigMap) (joints : List Joint)
    (result : EStateM.Result Stop ConfigureState Unit) : Prop where
  neverThrows : ∀ e st, result ≠ .error (.thrown e) st
  asGiven : ∀ st, result = .ok () st → AsGiven yamlById joints st
  errorUnlessFit : (¬∀ joint ∈ joints, Fitting yamlById joint) →
    ∃ st, result = .error .returned st

/-- The joints before the first one without an id are readable; and if there is none without an id,
all numbers fit. -/
def Configurable (yamlById : JointIdConfigMap) (joints : List Joint) : Prop :=
  (∀ joint ∈ joints.takeWhile Joint.hasId, Readable yamlById joint) ∧
    ((∀ joint ∈ joints, joint.hasId = true) → ∀ joint ∈ joints, Fitting yamlById joint)

/-- When all joints are readable, the ids and registers are as given exactly when all numbers fit.
-/
theorem asGiven_iff {yamlById : JointIdConfigMap} {joints : List Joint} {st : ConfigureState}
    (h : ∀ joint ∈ joints, Readable yamlById joint)
    (hids : st.jointIds = assigned (stepsFrom yamlById 0 joints) (List.replicate joints.length 0))
    (hlog : ∀ w, (w, true) ∈ st.log ↔ w ∈ commands (stepsFrom yamlById 0 joints))
    (hok : ∀ entry ∈ st.log, entry.2 = true) :
    AsGiven yamlById joints st ↔ ∀ joint ∈ joints, Fitting yamlById joint := by
  have hran := jointsRan_of_readable 0 h
  have hget (i : ℕ) (joint : Joint) (text : List Char) (id : ℤ) (hi : joints[i]? = some joint)
      (hfind : joint.parameters.find "id" = some text) (hid : stoi text = .ok id) :
      st.jointIds[i]? = some (UInt8.ofInt id) := by
    have hlt : i < joints.length := (List.getElem?_eq_some_iff.mp hi).1
    have hassigned := hran.assigned_eq (List.replicate joints.length 0) i joint text id hi
      (by rw [List.length_replicate]; omega) hfind hid
    rw [hids]
    rwa [Nat.zero_add] at hassigned
  constructor
  · intro hgiven joint hjoint
    obtain ⟨i, hi⟩ := List.mem_iff_getElem?.mp hjoint
    obtain ⟨text, id, servo, hfind, hid, h0, hle, -, -⟩ := hgiven.ids i joint hi
    refine ⟨text, id, hfind, hid, ⟨h0, hle⟩, fun p hp ptext hptext ↦ ?_⟩
    obtain ⟨value, hvalue, -, hdecode⟩ := hgiven.registers i joint text id hi hfind hid p hp ptext
      hptext
    refine ⟨value, hvalue, ?_⟩
    -- the register of the parameter has the bytes that its value is encoded to
    obtain ⟨_, _, hfind', hid', -, hparams⟩ := h joint hjoint
    obtain rfl := id_unique hfind hid hfind' hid'
    obtain ⟨data, hdata⟩ := (exists_data_iff hp).mpr (hparams p hp ptext hptext)
    have hwrite := hran.writes i joint text id hi hfind hid ⟨0 + i, UInt8.ofInt id, p.address, data⟩
      ⟨p, hp, ptext, data, hptext, hdata, rfl⟩
    have heq := hdecode _ ((hlog _).mpr hwrite) (Nat.zero_add i) rfl
    rw [hvalue] at hdata
    exact (decode_encode_iff (inWord_of_mem hp) hdata).mp heq
  · intro hfit
    refine ⟨fun i joint hi ↦ ?_, fun i joint text id hi hfind hid p hp ptext hptext ↦ ?_⟩
    · obtain ⟨text, id, hfind, hid, ⟨h0, hle⟩, -⟩ := hfit joint (List.mem_of_getElem? hi)
      refine ⟨text, id, _, hfind, hid, h0, hle, hget i joint text id hi hfind hid, ?_⟩
      rw [toNat_ofInt]
      unfold kMaxServoId at hle
      omega
    · obtain ⟨_, _, hfind', hid', -, hparams⟩ := hfit joint (List.mem_of_getElem? hi)
      obtain rfl := id_unique hfind hid hfind' hid'
      obtain ⟨value, hvalue, hfits⟩ := hparams p hp ptext hptext
      refine ⟨value, hvalue, ?_, ?_⟩
      · obtain ⟨data, hdata⟩ := (exists_data_iff hp).mpr ⟨value, hvalue, accepts_of_fits hfits⟩
        have hwrite := hran.writes i joint text id hi hfind hid
          ⟨0 + i, UInt8.ofInt id, p.address, data⟩ ⟨p, hp, ptext, data, hptext, hdata, rfl⟩
        exact ⟨_, (hlog _).mpr hwrite, Nat.zero_add i, rfl⟩
      · rintro ⟨w, ok⟩ hentry hjoint haddress
        obtain rfl : ok = true := hok _ hentry
        obtain ⟨k, joint', text', id', hk, hfind', hid', heq, hcases⟩ :=
          cases_of_mem_stepsFrom ((hlog w).mp hentry)
        obtain rfl : k = i := by
          have hjoint : w.joint = i := hjoint
          omega
        rw [hi] at hk
        cases hk
        obtain rfl := id_unique hfind hid hfind' hid'
        rcases hcases with hcontrol | ⟨q, hq, qtext, data, hqtext, hdata, rfl⟩
        · rw [show w.address = p.address from haddress] at hcontrol
          exact absurd hcontrol (not_isControl_of_mem hp)
        · obtain rfl := eq_of_address_eq hq hp haddress
          rw [hptext] at hqtext
          cases hqtext
          rw [hvalue] at hdata
          exact (decode_encode_iff (inWord_of_mem hp) hdata).mpr hfits

theorem ok_acknowledging (n : ℕ) : BusAnswers.ok acknowledging n = true := rfl

/-- A run over joints that are all readable keeps the contract exactly when all numbers fit. -/
theorem contract_finished_iff {yamlById : JointIdConfigMap} {joints : List Joint}
    {st : ConfigureState} (hread : ∀ joint ∈ joints, Readable yamlById joint)
    (hids : st.jointIds = assigned (stepsFrom yamlById 0 joints) (List.replicate joints.length 0))
    (hlog : st.log
      = Script.play (BusAnswers.ok acknowledging) (commands (stepsFrom yamlById 0 joints)) []) :
    ConfigureContract yamlById joints (.ok () st) ↔ ∀ joint ∈ joints, Fitting yamlById joint := by
  rw [Script.play_of_completes (Script.completes_of_forall ok_acknowledging),
    List.append_nil] at hlog
  have hmem (w : RegisterWrite) :
      (w, true) ∈ st.log ↔ w ∈ commands (stepsFrom yamlById 0 joints) := by
    rw [hlog]
    simp
  have hok : ∀ entry ∈ st.log, entry.2 = true := by
    intro entry hentry
    rw [hlog, List.mem_reverse] at hentry
    obtain ⟨_, -, rfl⟩ := List.mem_map.mp hentry
    rfl
  have hiff := asGiven_iff hread hids hmem hok
  constructor
  · exact fun hcontract ↦ hiff.mp (hcontract.asGiven st rfl)
  · refine fun hfit ↦ ⟨by rintro _ _ ⟨⟩, ?_, fun hnot ↦ absurd hfit hnot⟩
    rintro _ ⟨⟩
    exact hiff.mpr hfit

/-- **Configuration.** On a bus that acknowledges every write, `configure_joints_` never throws and
either keeps all numbers exactly or returns `ERROR`, exactly when the joints before the first one
without an id are readable and, if there is none without, all numbers fit. -/
theorem configure_joints_iff (yamlById : JointIdConfigMap) (joints : List Joint) :
    ConfigureContract yamlById joints (configureJoints acknowledging yamlById joints) ↔
      Configurable yamlById joints := by
  have hran := ran_runSteps acknowledging (stepsFrom yamlById 0 joints)
    ⟨List.replicate joints.length 0, [], [], []⟩
  have hcases := ending_stepsFrom yamlById 0 joints
  rw [configureJoints, configureFrom_eq]
  generalize runSteps acknowledging (stepsFrom yamlById 0 joints) _ = result at hran
  cases hran with
  | finished hall hend hlog hids =>
    obtain ⟨hhas, hread⟩ := readable_of_ending hend
    rw [contract_finished_iff hread hids hlog, Configurable, List.takeWhile_eq_self_iff.mpr hhas]
    exact ⟨fun hfit ↦ ⟨hread, fun _ ↦ hfit⟩, fun h ↦ h.2 hhas⟩
  | @stopped stop st' hall hend hlog =>
    rcases hcases with ⟨hread, ⟨hend', -⟩ | ⟨hend', hhas⟩⟩ | ⟨hnot, e, hend'⟩
    · rw [hend] at hend'
      cases hend'
    · -- a joint without an id makes it return
      rw [hend] at hend'
      cases hend'
      refine iff_of_true ⟨?_, ?_, fun _ ↦ ⟨st', rfl⟩⟩ ⟨hread, fun h ↦ absurd h hhas⟩
      · rintro _ _ ⟨⟩
      · rintro _ ⟨⟩
    · rw [hend] at hend'
      cases hend'
      exact iff_of_false (fun h ↦ h.neverThrows e st' rfl) fun h ↦ hnot h.1
  | failed hfail _ => exact absurd (Script.completes_of_forall ok_acknowledging) hfail.not_completes

/-- A joint with the id 1 and a coefficient of 300. -/
def wideJoint : Joint where
  name := "joint"
  parameters := ⟨[("id", "1".toList), ("p_coefficient", "300".toList)], by decide⟩
  commandInterfaces := ["position"]

/-- Its coefficient is cut down to 44, and `configure_joints_` returns `SUCCESS`. -/
theorem coefficient_cut_down :
    ¬ConfigureContract [] [wideJoint] (configureJoints acknowledging [] [wideJoint]) := by
  intro h
  have hrun : configureJoints acknowledging [] [wideJoint] = .ok () ⟨[1],
      [(⟨0, 1, smsStsTorqueEnable, [1]⟩, true), (⟨0, 1, smsStsLock, [1]⟩, true),
        (⟨0, 1, smsStsPCoef, [44]⟩, true), (⟨0, 1, smsStsLock, [0]⟩, true),
        (⟨0, 1, smsStsTorqueEnable, [0]⟩, true)], [], []⟩ := by rfl
  rw [hrun] at h
  obtain ⟨value, hvalue, -, hdecode⟩ := (h.asGiven _ rfl).registers 0 wideJoint "1".toList 1 rfl
    (by decide) (by decide) ⟨"p_coefficient", smsStsPCoef, .byte⟩ (by decide) "300".toList
    (by decide)
  have htext : stoi "300".toList = .ok 300 := by decide
  have hdecoded := hdecode (⟨0, 1, smsStsPCoef, [44]⟩, true) (by decide) rfl rfl
  rw [htext] at hvalue
  cases hvalue
  exact absurd hdecoded (by decide)

end VzletUr3e.Feetech
