import VzletUr3e.Library.DoubleBuffer
import VzletUr3e.Rtde.Parser

/-!
# The writer of RTDE packages

`RTDEWriter` collects requests in one of two data packages, while a thread sends the other one. A
request sets the fields of its output and a mask, which says what the robot shall take over. Behind
each package the thread sets the masks of the recipe to zero, and nothing else.

Every request goes into one package, and the requests of a package are consecutive. A mask is the
one of the last request for it in the package, or zero, but other fields come back from the package
before the last one (`fields_of_batches`).

## The argument

The writer is a double buffer of data packages (`RTDEWriter.ofBuffers_step`), and the library says
which requests a buffer has seen when it is sent: those of its batch, behind those of every second
batch before it. What is left is about data packages alone. A request assigns at most one value to a
field, whatever the field was (`assigns`), and a reset assigns to the masks and to nothing else
(`resetMasks_typed`).
-/

namespace VzletUr3e.Rtde

open DoubleBuffer Runs

/-! ## Requests

The methods `send*` differ in what they check and in the fields they set, the mask first. Doubles
are their bits here, as they are in a package. -/

/-- `value > 1.0`, on the bits of a double. -/
def aboveOne (value : UInt64) : Bool := 0x3FF0000000000000 < value && value ≤ 0x7FF0000000000000

/-- `value < 0.0`. -/
def belowZero (value : UInt64) : Bool := 0x8000000000000000 < value && value ≤ 0xFFF0000000000000

inductive AnalogOutputType
  | setOnTeachPendant
  | current
  | voltage
deriving DecidableEq, Repr

def pinToMask (pin : UInt8) : UInt8 := if 7 < pin then 0 else 1 <<< pin

/-- What a call sets, one field after the other. A call that is refused sets nothing. -/
abbrev Fields := Option (List (String × Entry))

/-- The fraction has to be between zero and one. -/
def sendSpeedSlider (speedSliderFraction : UInt64) : Fields :=
  if aboveOne speedSliderFraction || belowZero speedSliderFraction then none
  else some [("speed_slider_mask", ⟨.uint32, 1⟩),
    ("speed_slider_fraction", ⟨.double, speedSliderFraction⟩)]

/-- A pin of a bank of digital outputs. -/
def sendDigitalOutput (lastPin : UInt8) (keyMask keyOutput : String) (outputPin : UInt8)
    (value : Bool) : Fields :=
  if lastPin < outputPin then none
  else some [(keyMask, ⟨.uint8, pinToMask outputPin⟩),
    (keyOutput, ⟨.uint8, if value then 255 else 0⟩)]

def sendStandardDigitalOutput : UInt8 → Bool → Fields :=
  sendDigitalOutput 7 "standard_digital_output_mask" "standard_digital_output"

def sendConfigurableDigitalOutput : UInt8 → Bool → Fields :=
  sendDigitalOutput 7 "configurable_digital_output_mask" "configurable_digital_output"

def sendToolDigitalOutput : UInt8 → Bool → Fields :=
  sendDigitalOutput 1 "tool_digital_output_mask" "tool_digital_output"

/-- Both outputs get the value, the mask selects one of them. -/
def sendStandardAnalogOutput (outputPin : UInt8) (value : UInt64) (type : AnalogOutputType) :
    Fields :=
  if 1 < outputPin then none
  else if aboveOne value || belowZero value then none
  else
    let typeField := match type with
      | .setOnTeachPendant => []
      | .current => [("standard_analog_output_type", ⟨.uint8, 0 <<< outputPin⟩)]
      | .voltage => [("standard_analog_output_type", ⟨.uint8, 1 <<< outputPin⟩)]
    some (("standard_analog_output_mask", ⟨.uint8, pinToMask outputPin⟩) :: typeField ++
      [("standard_analog_output_0", ⟨.double, value⟩),
        ("standard_analog_output_1", ⟨.double, value⟩)])

/-- A register of the range that is kept free for external use. -/
def sendInputRegister (type : FieldType) (key : String) (first last : UInt32) (registerId : UInt32)
    (value : type.Value) : Fields :=
  if registerId < first || last < registerId then none
  else some [(key ++ toString registerId.toNat, ⟨type, value⟩)]

def sendInputBitRegister : UInt32 → Bool → Fields :=
  sendInputRegister .bool "input_bit_register_" 64 127

def sendInputIntRegister : UInt32 → Int32 → Fields :=
  sendInputRegister .int32 "input_int_register_" 24 47

def sendInputDoubleRegister : UInt32 → UInt64 → Fields :=
  sendInputRegister .double "input_double_register_" 24 47

def sendExternalForceTorque (externalForceTorque : Fin 6 → UInt64) : Fields :=
  some [("external_force_torque", ⟨.vector6d, externalForceTorque⟩)]

/-- The calls of other threads. -/
inductive Request
  | package (package : DataPackage)
  | speedSlider (speedSliderFraction : UInt64)
  | standardDigitalOutput (outputPin : UInt8) (value : Bool)
  | configurableDigitalOutput (outputPin : UInt8) (value : Bool)
  | toolDigitalOutput (outputPin : UInt8) (value : Bool)
  | standardAnalogOutput (outputPin : UInt8) (value : UInt64) (type : AnalogOutputType)
  | inputBitRegister (registerId : UInt32) (value : Bool)
  | inputIntRegister (registerId : UInt32) (value : Int32)
  | inputDoubleRegister (registerId : UInt32) (value : UInt64)
  | externalForceTorque (externalForceTorque : Fin 6 → UInt64)
deriving DecidableEq

/-- `sendPackage` is no such call, since it replaces all fields. -/
def Request.fields : Request → Fields
  | .package _ => none
  | .speedSlider speedSliderFraction => sendSpeedSlider speedSliderFraction
  | .standardDigitalOutput outputPin value => sendStandardDigitalOutput outputPin value
  | .configurableDigitalOutput outputPin value => sendConfigurableDigitalOutput outputPin value
  | .toolDigitalOutput outputPin value => sendToolDigitalOutput outputPin value
  | .standardAnalogOutput outputPin value type => sendStandardAnalogOutput outputPin value type
  | .inputBitRegister registerId value => sendInputBitRegister registerId value
  | .inputIntRegister registerId value => sendInputIntRegister registerId value
  | .inputDoubleRegister registerId value => sendInputDoubleRegister registerId value
  | .externalForceTorque value => sendExternalForceTorque value

/-- `success && setData(...)`, up to the first field that cannot be set. -/
def DataPackage.setAll : List (String × Entry) → DataPackage → DataPackage × Bool
  | [], package => (package, true)
  | (name, value) :: fields, package =>
    match package.setData name value with
    | (package, true) => package.setAll fields
    | (package, false) => (package, false)

/-- A call in the buffer that stores, and its success. A package comes without its recipe id. -/
def Request.apply (store : DataPackage) : Request → DataPackage × Bool
  | .package new => ({ store with data := new.data, protocolVersion := new.protocolVersion }, true)
  | request =>
    match request.fields with
    | none => (store, false)
    | some fields => store.setAll fields

/-! ## The writer

A call holds the mutex of the buffer that stores, so it is one step. The thread takes three of them:
it swaps the buffers, writes the one to be sent, and resets its masks. -/

def isMask (field : String) : Bool :=
  5 ≤ field.length && field.toList.drop (field.length - 5) == "_mask".toList

/-- What a mask is reset to. -/
def maskType (maskName : String) : FieldType :=
  if maskName = "speed_slider_mask" then .uint32 else .uint8

def resetMasks (usedMasks : List String) (buffer : DataPackage) : DataPackage :=
  usedMasks.foldl (fun buffer maskName ↦
    (buffer.setData maskName ⟨maskType maskName, (maskType maskName).empty⟩).1) buffer

/-- The writer, as long as it is running. -/
structure RTDEWriter where
  usedMasks : List String
  currentStoreBuffer : DataPackage
  currentSendBuffer : DataPackage
  newDataAvailable : Bool
  pc : Pc
  stream : List (List UInt8)
deriving DecidableEq

/-- A call, or a step of the thread. -/
def RTDEWriter.step (writer : RTDEWriter) : Event Request → RTDEWriter
  | .request request =>
    let (package, success) := request.apply writer.currentStoreBuffer
    { writer with
      currentStoreBuffer := package
      newDataAvailable := writer.newDataAvailable || success }
  | .sender =>
    match writer.pc with
    | .waiting =>
      if writer.newDataAvailable then
        { writer with
          currentStoreBuffer := writer.currentSendBuffer
          currentSendBuffer := writer.currentStoreBuffer
          newDataAvailable := false
          pc := .swapped }
      else writer
    | .swapped =>
      { writer with
        stream := writer.stream ++ [writer.currentSendBuffer.serializePackage]
        pc := .written }
    | .written =>
      { writer with
        currentSendBuffer := resetMasks writer.usedMasks writer.currentSendBuffer
        pc := .waiting }

/-- `setInputRecipe` and `init`. -/
def RTDEWriter.start (recipe : List String) (recipeId : UInt8) : Option RTDEWriter :=
  (DataPackage.new recipe recipeId 2).map fun package ↦
    { usedMasks := recipe.filter isMask
      currentStoreBuffer := package
      currentSendBuffer := package
      newDataAvailable := false
      pc := .waiting
      stream := [] }

/-- The thread swaps the buffers next. -/
def RTDEWriter.swaps (writer : RTDEWriter) : Bool :=
  writer.pc = .waiting && writer.newDataAvailable

/-- The requests of a run, as the swaps of the thread cut them into batches. -/
def RTDEWriter.cut (writer : RTDEWriter) (events : List (Event Request)) :
    Cut RTDEWriter Request := DoubleBuffer.cut RTDEWriter.step RTDEWriter.swaps writer events

/-- The writer is a double buffer that writes what it sends. -/
def RTDEWriter.ofBuffers (usedMasks : List String) (buffers : Buffers DataPackage) :
    RTDEWriter where
  usedMasks := usedMasks
  currentStoreBuffer := buffers.store
  currentSendBuffer := buffers.send
  newDataAvailable := buffers.newData
  pc := buffers.pc
  stream := buffers.sent.map DataPackage.serializePackage

/-- Each step of the writer is one of the double buffer. -/
theorem RTDEWriter.ofBuffers_step (usedMasks : List String) (buffers : Buffers DataPackage)
    (event : Event Request) :
    RTDEWriter.ofBuffers usedMasks (DoubleBuffer.step Request.apply (resetMasks usedMasks)
      buffers event)
      = (RTDEWriter.ofBuffers usedMasks buffers).step event := by
  rcases event with request | _
  · rfl
  · obtain ⟨store, send, newData, pc, sent⟩ := buffers
    rcases pc
    case waiting => rcases newData <;> rfl
    case swapped =>
      rw [DoubleBuffer.step, RTDEWriter.ofBuffers, List.map_append]
      rfl
    case written => rfl

/-! ## Fields of packages

A package keeps the names and types of its recipe whatever is set in it. A recipe may name a field
twice; both `getData` and `setData` are about the first one. -/

/-- The fields of a recipe, with their types. -/
def DataPackage.Typed (recipe : List String) (package : DataPackage) : Prop :=
  package.data.map (·.1) = recipe ∧ ∀ field ∈ package.data, typeList.lookup field.1 = some field.2.1

theorem bne_of_not_mem {data : List (String × Entry)} {name : String} (h : name ∉ data.map (·.1)) :
    ∀ field ∈ data, (name != field.1) = true := by
  intro field hfield
  rw [bne_iff_ne]
  rintro rfl
  exact h (List.mem_map_of_mem hfield)

/-- The first field of a name. -/
theorem DataPackage.exists_field {package : DataPackage} {name : String}
    (h : name ∈ package.data.map (·.1)) : ∃ before value after,
      package.data = before ++ (name, value) :: after ∧ name ∉ before.map (·.1) := by
  rcases hlookup : package.data.lookup name with _ | value
  · obtain ⟨field, hfield, rfl⟩ := List.mem_map.mp h
    have hne := List.lookup_eq_none_iff.mp hlookup field hfield
    simp at hne
  · obtain ⟨before, after, hdata, hbefore⟩ := List.lookup_eq_some_iff.mp hlookup
    refine ⟨before, value, after, hdata, fun hmem ↦ ?_⟩
    obtain ⟨field, hfield, rfl⟩ := List.mem_map.mp hmem
    simpa using hbefore field hfield

/-- It is the one that is read. -/
theorem getData_of_field {package : DataPackage} {name : String}
    {before after : List (String × Entry)} {value : Entry}
    (hdata : package.data = before ++ (name, value) :: after)
    (hbefore : name ∉ before.map (·.1)) : package.getData name = some value :=
  List.lookup_eq_some_iff.mpr ⟨before, after, hdata, bne_of_not_mem hbefore⟩

/-- And the one that is set. -/
theorem setData_of_field {package : DataPackage} {name : String}
    {before after : List (String × Entry)} {old : Entry}
    (hdata : package.data = before ++ (name, old) :: after)
    (hbefore : name ∉ before.map (·.1)) {value : Entry} (htype : old.1 = value.1) :
    package.setData name value =
      ({ package with data := before ++ (name, value) :: after }, true) := by
  have hnone : before.findIdx? (·.1 == name) = none := by
    rw [List.findIdx?_eq_none_iff]
    intro field hfield
    have hne := bne_of_not_mem hbefore field hfield
    rw [bne_iff_ne] at hne
    exact beq_eq_false_iff_ne.mpr hne.symm
  have hindex : package.data.findIdx? (·.1 == name) = some before.length := by
    rw [hdata, List.findIdx?_append, hnone, List.findIdx?_cons, if_pos (beq_self_eq_true name)]
    simp
  have hfield : package.data[before.length]? = some (name, old) := by
    rw [hdata, List.getElem?_append_right le_rfl, Nat.sub_self, List.getElem?_cons_zero]
  have hset : package.data.set before.length (name, value) = before ++ (name, value) :: after := by
    rw [hdata, List.set_append_right _ _ le_rfl, Nat.sub_self, List.set_cons_zero]
  simp only [DataPackage.setData, hindex, hfield, if_pos htype, hset]

theorem setData_of_not_mem {package : DataPackage} {name : String}
    (h : name ∉ package.data.map (·.1)) (value : Entry) :
    package.setData name value = (package, false) := by
  have hindex : package.data.findIdx? (·.1 == name) = none := by
    rw [List.findIdx?_eq_none_iff]
    intro field hfield
    have hne := bne_of_not_mem h field hfield
    rw [bne_iff_ne] at hne
    exact beq_eq_false_iff_ne.mpr hne.symm
  simp only [DataPackage.setData, hindex]

/-- A field of the recipe is set, and no other one changes. -/
theorem setData_typed {recipe : List String} {package : DataPackage} (h : package.Typed recipe)
    {name : String} {value : Entry} (htype : typeList.lookup name = some value.1)
    (hname : name ∈ recipe) :
    (package.setData name value).2 = true ∧ (package.setData name value).1.Typed recipe ∧
      (package.setData name value).1.getData name = some value ∧
      ∀ other, other ≠ name →
        (package.setData name value).1.getData other = package.getData other := by
  obtain ⟨hnames, htypes⟩ := h
  obtain ⟨before, old, after, hdata, hbefore⟩ := package.exists_field (hnames ▸ hname)
  have hold : old.1 = value.1 := by
    have hlookup := htypes (name, old) (by rw [hdata]; simp)
    exact Option.some.inj (hlookup.symm.trans htype)
  rw [setData_of_field hdata hbefore hold]
  refine ⟨rfl, ⟨?_, ?_⟩, getData_of_field rfl hbefore, fun other hother ↦ ?_⟩
  · rw [← hnames, hdata]
    simp
  · intro field hfield
    have hmem := htypes field
    rw [hdata, List.mem_append, List.mem_cons] at hmem
    rw [List.mem_append, List.mem_cons] at hfield
    rcases hfield with hfield | rfl | hfield
    · exact hmem (.inl hfield)
    · exact htype
    · exact hmem (.inr (.inr hfield))
  · have hne : (other == name) = false := beq_eq_false_iff_ne.mpr hother
    rw [DataPackage.getData, DataPackage.getData, hdata, List.lookup_append, List.lookup_append,
      List.lookup_cons, List.lookup_cons, hne]

/-- The fields of a call that are in the recipe, up to the first one that is not. -/
def fieldsIn (recipe : List String) (fields : List (String × Entry)) : List (String × Entry) :=
  fields.takeWhile (·.1 ∈ recipe)

/-- The fields of a call are set up to the first one that is not in the recipe. The last value for a
name stays. -/
theorem setAll_typed {recipe : List String} {fields : List (String × Entry)} :
    ∀ {package : DataPackage}, package.Typed recipe →
      (∀ field ∈ fields, typeList.lookup field.1 = some field.2.1) →
      (package.setAll fields).1.Typed recipe ∧ ∀ name,
        (package.setAll fields).1.getData name
          = ((fieldsIn recipe fields).reverse.lookup name).or (package.getData name) := by
  induction fields with
  | nil => exact fun h _ ↦ ⟨h, fun _ ↦ rfl⟩
  | cons field fields ih =>
    obtain ⟨key, value⟩ := field
    intro package h htypes
    obtain ⟨htype, htypes⟩ := List.forall_mem_cons.mp htypes
    by_cases hkey : key ∈ recipe
    · obtain ⟨hsuccess, htyped, hget, hothers⟩ := setData_typed h htype hkey
      rcases hset : package.setData key value with ⟨stored, success⟩
      rw [hset] at hsuccess htyped hget hothers
      obtain rfl : success = true := hsuccess
      obtain ⟨hkept, hvalues⟩ := ih htyped htypes
      have hall : package.setAll ((key, value) :: fields) = stored.setAll fields := by
        rw [DataPackage.setAll, hset]
      rw [hall]
      refine ⟨hkept, fun name ↦ ?_⟩
      have hin : fieldsIn recipe ((key, value) :: fields) =
          (key, value) :: fieldsIn recipe fields :=
        List.takeWhile_cons_of_pos (by simpa using hkey)
      rw [hvalues, hin, List.reverse_cons, List.lookup_append, Option.or_assoc]
      by_cases hname : name = key
      · rw [hname, List.lookup_cons, beq_self_eq_true, hget]
        rfl
      · rw [List.lookup_cons, beq_eq_false_iff_ne.mpr hname, hothers name hname]
        rfl
    · have hall : package.setAll ((key, value) :: fields) = (package, false) := by
        rw [DataPackage.setAll, setData_of_not_mem (h.1.symm ▸ hkey)]
      have hin : fieldsIn recipe ((key, value) :: fields) = [] :=
        List.takeWhile_cons_of_neg (by simpa using hkey)
      rw [hall, hin]
      exact ⟨h, fun _ ↦ rfl⟩

/-! ## The fields that a request assigns

The types of the values are those of the recipe: the check of a register for its range is what makes
sure that there is such a field. -/

/-- The part of the table that has one type. -/
theorem lookup_named (name : String) (keys : List String) (type : FieldType) :
    (keys.map (·, type)).lookup name = if name ∈ keys then some type else none := by
  induction keys with
  | nil => rfl
  | cons key keys ih =>
    rw [List.map_cons, List.lookup_cons, ih]
    by_cases hname : name = key
    · simp [hname]
    · simp [hname, beq_eq_false_iff_ne.mpr hname]

/-- Registers with different seventh letters have different names. -/
theorem append_notMem_map {key other : String} (hkey : 6 < key.toList.length)
    (hother : 6 < other.toList.length) (hne : key.toList[6]? ≠ other.toList[6]?) (suffix : String)
    (ids : List ℕ) : key ++ suffix ∉ ids.map fun i ↦ other ++ toString i := by
  intro hmem
  obtain ⟨i, -, heq⟩ := List.mem_map.mp hmem
  have hletter := congrArg (fun name : String ↦ name.toList[6]?) heq
  simp only [String.toList_append] at hletter
  rw [List.getElem?_append_left hkey, List.getElem?_append_left hother] at hletter
  exact hne hletter.symm

/-- The type of a register for input. -/
theorem lookup_inputRegister (k : ℕ) :
    (64 ≤ k → k < 128 → typeList.lookup ("input_bit_register_" ++ toString k) = some .bool) ∧
      (k < 48 → typeList.lookup ("input_int_register_" ++ toString k) = some .int32) ∧
      (k < 48 → typeList.lookup ("input_double_register_" ++ toString k) = some .double) := by
  rw [typeList]
  simp only [List.append_assoc, List.lookup_append, lookup_named]
  refine ⟨fun hmin hmax ↦ ?_, fun hmax ↦ ?_, fun hmax ↦ ?_⟩
  · rw [if_pos (List.mem_map.mpr ⟨k, List.mem_range'_1.mpr ⟨hmin, by omega⟩, rfl⟩)]
    rfl
  · rw [if_neg (append_notMem_map (by decide) (by decide) (by decide) _ _),
      if_pos (List.mem_map.mpr ⟨k, List.mem_range'_1.mpr ⟨Nat.zero_le k, by omega⟩, rfl⟩)]
    rfl
  · rw [if_neg (append_notMem_map (by decide) (by decide) (by decide) _ _),
      if_neg (append_notMem_map (by decide) (by decide) (by decide) _ _),
      if_pos (List.mem_map.mpr ⟨k, List.mem_range'_1.mpr ⟨Nat.zero_le k, by omega⟩, rfl⟩)]
    rfl

/-- A bank of outputs, by the types of its two fields. -/
theorem sendDigitalOutput_typed {lastPin : UInt8} {keyMask keyOutput : String}
    (hmask : typeList.lookup keyMask = some .uint8)
    (houtput : typeList.lookup keyOutput = some .uint8)
    {outputPin : UInt8} {value : Bool} {fields : List (String × Entry)}
    (h : sendDigitalOutput lastPin keyMask keyOutput outputPin value = some fields) :
    ∀ field ∈ fields, typeList.lookup field.1 = some field.2.1 := by
  rw [sendDigitalOutput] at h
  by_cases hpin : lastPin < outputPin
  · rw [if_pos hpin] at h
    exact nomatch h
  · rw [if_neg hpin] at h
    obtain rfl := Option.some.inj h
    simp [hmask, houtput]

/-- A range of registers, by the type of each of them. -/
theorem sendInputRegister_typed {type : FieldType} {key : String} {first last : UInt32}
    (hlookup : ∀ k, first.toNat ≤ k → k ≤ last.toNat →
      typeList.lookup (key ++ toString k) = some type)
    {registerId : UInt32} {value : type.Value} {fields : List (String × Entry)}
    (h : sendInputRegister type key first last registerId value = some fields) :
    ∀ field ∈ fields, typeList.lookup field.1 = some field.2.1 := by
  rw [sendInputRegister] at h
  split_ifs at h with hrange
  obtain rfl := Option.some.inj h
  rw [Bool.or_eq_true, decide_eq_true_iff, decide_eq_true_iff, not_or, UInt32.not_lt,
    UInt32.not_lt] at hrange
  exact List.forall_mem_singleton.mpr (hlookup _ hrange.1 hrange.2)

/-- The fields of a call have the types that the recipe gives them. -/
theorem Request.typed {request : Request} {fields : List (String × Entry)}
    (h : request.fields = some fields) :
    ∀ field ∈ fields, typeList.lookup field.1 = some field.2.1 := by
  rcases request
  case package => exact nomatch h
  case speedSlider speedSliderFraction =>
    have hmask : typeList.lookup "speed_slider_mask" = some .uint32 := by decide +kernel
    have hfraction : typeList.lookup "speed_slider_fraction" = some .double := by decide +kernel
    rw [Request.fields, sendSpeedSlider] at h
    split_ifs at h
    obtain rfl := Option.some.inj h
    simp [hmask, hfraction]
  case standardDigitalOutput =>
    exact sendDigitalOutput_typed (by decide +kernel) (by decide +kernel) h
  case configurableDigitalOutput =>
    exact sendDigitalOutput_typed (by decide +kernel) (by decide +kernel) h
  case toolDigitalOutput => exact sendDigitalOutput_typed (by decide +kernel) (by decide +kernel) h
  case standardAnalogOutput outputPin value type =>
    have hmask : typeList.lookup "standard_analog_output_mask" = some .uint8 := by decide +kernel
    have htype : typeList.lookup "standard_analog_output_type" = some .uint8 := by decide +kernel
    have hfirst : typeList.lookup "standard_analog_output_0" = some .double := by decide +kernel
    have hsecond : typeList.lookup "standard_analog_output_1" = some .double := by decide +kernel
    rw [Request.fields, sendStandardAnalogOutput.eq_def] at h
    split_ifs at h
    obtain rfl := Option.some.inj h
    rcases type <;> simp [hmask, htype, hfirst, hsecond]
  case inputBitRegister registerId value =>
    rw [Request.fields, sendInputBitRegister] at h
    refine sendInputRegister_typed (fun k hmin hmax ↦ ?_) h
    exact (lookup_inputRegister k).1 hmin (Nat.lt_succ_of_le hmax)
  case inputIntRegister registerId value =>
    rw [Request.fields, sendInputIntRegister] at h
    refine sendInputRegister_typed (fun k _ hmax ↦ ?_) h
    exact (lookup_inputRegister k).2.1 (Nat.lt_succ_of_le hmax)
  case inputDoubleRegister registerId value =>
    rw [Request.fields, sendInputDoubleRegister] at h
    refine sendInputRegister_typed (fun k _ hmax ↦ ?_) h
    exact (lookup_inputRegister k).2.2 (Nat.lt_succ_of_le hmax)
  case externalForceTorque =>
    have hlookup : typeList.lookup "external_force_torque" = some .vector6d := by decide +kernel
    obtain rfl := Option.some.inj h
    exact List.forall_mem_singleton.mpr hlookup

/-- What a request assigns to a field of the recipe. -/
def assigned (recipe : List String) (name : String) : Request → Option (Option Entry)
  | .package new => some (new.getData name)
  | request => ((fieldsIn recipe (request.fields.getD [])).reverse.lookup name).map some

/-- A package that is sent as a whole has the fields of the recipe. -/
def Request.OfRecipe (recipe : List String) : Request → Prop
  | .package new => new.Typed recipe
  | _ => True

/-- A request keeps the names and types of a package, and its effect on a field does not depend on
what the field was. -/
theorem assigns (recipe : List String) (name : String) :
    Assigns Request.apply (·.getData name) (assigned recipe name) (·.Typed recipe)
      (Request.OfRecipe recipe) := by
  have hfields : ∀ (package : DataPackage) (fields : List (String × Entry)), package.Typed recipe →
      (∀ field ∈ fields, typeList.lookup field.1 = some field.2.1) →
      (package.setAll fields).1.Typed recipe ∧ (package.setAll fields).1.getData name
        = (((fieldsIn recipe fields).reverse.lookup name).map some).getD
          (package.getData name) := by
    intro package fields h htypes
    obtain ⟨hkept, hvalues⟩ := setAll_typed h htypes
    refine ⟨hkept, (hvalues name).trans ?_⟩
    rcases (fieldsIn recipe fields).reverse.lookup name <;> rfl
  have hboth : ∀ (package : DataPackage) (request : Request), package.Typed recipe →
      request.OfRecipe recipe → (request.apply package).1.Typed recipe ∧
        (request.apply package).1.getData name
          = (assigned recipe name request).getD (package.getData name) := by
    intro package request h hrequest
    rcases request
    case package new => exact ⟨hrequest, rfl⟩
    all_goals
      rw [Request.apply.eq_def, assigned.eq_def]
      dsimp only
      split
      · next hnone =>
        rw [hnone]
        exact ⟨h, rfl⟩
      · next fields hsome =>
        rw [hsome]
        exact hfields package fields h (Request.typed hsome)
  exact ⟨fun package request h hrequest ↦ (hboth package request h hrequest).1,
    fun package request h hrequest ↦ (hboth package request h hrequest).2⟩

/-! ## Masks

The code knows a mask by the end of its name, and its type by whether it is that of the speed
slider. For the names of the table this is right (`maskType_of_lookup`). -/

/-- What a field is initialized with. -/
def emptyOf (name : String) : Option Entry :=
  (typeList.lookup name).map fun type ↦ ⟨type, type.empty⟩

/-- The name of a register ends with a digit. -/
theorem isMask_append_toString (key : String) (i : ℕ) : isMask (key ++ toString i) = false := by
  rw [isMask, Bool.and_eq_false_iff, beq_eq_false_iff_ne]
  by_cases hlength : 5 ≤ (key ++ toString i).length
  · refine .inr fun hdrop ↦ ?_
    have hlast := congrArg List.getLast? hdrop
    rw [List.getLast?_drop, if_neg (by rw [String.length_toList]; omega), String.toList_append,
      List.getLast?_append, show (toString i).toList = Nat.toDigits 10 i from Nat.toList_repr,
      List.getLast?_eq_some_getLast Nat.toDigits_ne_nil, Option.some_or] at hlast
    have hdigit := Nat.isDigit_of_mem_toDigits (b := 10) (by decide) le_rfl
      (List.getLast_mem (Nat.toDigits_ne_nil (n := i) (b := 10)))
    rw [Option.some.inj (hlast.trans (show "_mask".toList.getLast? = some 'k' by decide))] at hdigit
    exact absurd hdigit (by decide)
  · exact .inl (decide_eq_false hlength)

/-- The type of a mask is the one that is assumed for its reset. -/
theorem maskType_of_lookup {maskName : String} {type : FieldType} (hmask : isMask maskName = true)
    (h : typeList.lookup maskName = some type) : type = maskType maskName := by
  obtain ⟨before, after, heq, -⟩ := List.lookup_eq_some_iff.mp h
  have hmem : (maskName, type) ∈ typeList := by
    rw [heq]
    simp
  have hregister : ∀ (keys : List ℕ) (key : String) (registerType : FieldType),
      (maskName, type) ∉ (keys.map fun i ↦ key ++ toString i).map (·, registerType) := by
    intro keys key registerType hin
    obtain ⟨name, hname, hpair⟩ := List.mem_map.mp hin
    obtain ⟨i, -, rfl⟩ := List.mem_map.mp hname
    rw [← (Prod.mk.inj hpair).1, isMask_append_toString] at hmask
    exact nomatch hmask
  have hnamed : ∀ (keys : List String) (keyType : FieldType),
      keys.all (fun key ↦ keyType == maskType key || !isMask key) = true →
      (maskName, type) ∈ keys.map (·, keyType) → type = maskType maskName := by
    intro keys keyType hall hin
    obtain ⟨key, hkey, hpair⟩ := List.mem_map.mp hin
    obtain ⟨rfl, rfl⟩ := Prod.mk.inj hpair
    have hkey := List.all_eq_true.mp hall key hkey
    simpa [hmask] using hkey
  rw [typeList] at hmem
  simp only [List.mem_append, hregister, false_or, or_assoc] at hmem
  rcases hmem with hin | hin | hin | hin | hin | hin | hin | hin
  all_goals exact hnamed _ _ (by decide +kernel) hin

/-- The masks are what they were initialized with, and nothing else changes. -/
theorem resetMasks_typed {recipe usedMasks : List String}
    (hmasks : ∀ maskName ∈ usedMasks, maskName ∈ recipe ∧ isMask maskName = true) :
    ∀ {package : DataPackage}, package.Typed recipe →
      (resetMasks usedMasks package).Typed recipe ∧ ∀ name,
        (resetMasks usedMasks package).getData name
          = if name ∈ usedMasks then emptyOf name else package.getData name := by
  induction usedMasks with
  | nil => exact fun h ↦ ⟨h, fun _ ↦ rfl⟩
  | cons maskName usedMasks ih =>
    obtain ⟨⟨hmem, hmask⟩, hmasks⟩ := List.forall_mem_cons.mp hmasks
    intro package h
    have htype : typeList.lookup maskName = some (maskType maskName) := by
      obtain ⟨before, value, after, hdata, -⟩ := package.exists_field (h.1.symm ▸ hmem)
      have hlookup := h.2 (maskName, value) (by rw [hdata]; simp)
      rw [hlookup, maskType_of_lookup hmask hlookup]
    let value : Entry := ⟨maskType maskName, (maskType maskName).empty⟩
    have hvalue : typeList.lookup maskName = some value.1 := htype
    obtain ⟨-, htyped, hget, hothers⟩ := setData_typed h hvalue hmem
    obtain ⟨hkept, hvalues⟩ := ih hmasks htyped
    refine ⟨hkept, fun name ↦ (hvalues name).trans ?_⟩
    by_cases hname : name = maskName
    · subst hname
      rw [hget, emptyOf, htype]
      exact (ite_self _).trans (if_pos List.mem_cons_self).symm
    · rw [hothers name hname]
      simp [hname]

/-- A new package has the fields of its recipe, all of them empty. -/
theorem initEmpty_typed {recipe : List String} {data : List (String × Entry)}
    (h : initEmpty recipe = some data) (recipeId : UInt8) (protocolVersion : UInt16) :
    DataPackage.Typed recipe ⟨recipeId, data, protocolVersion⟩ ∧
      ∀ name ∈ recipe, data.lookup name = emptyOf name := by
  induction recipe generalizing data with
  | nil =>
    obtain rfl := Option.some.inj h
    exact ⟨⟨rfl, nofun⟩, nofun⟩
  | cons item recipe ih =>
    rw [initEmpty, List.mapM_cons] at h
    obtain ⟨entry, hentry, h⟩ := Option.bind_eq_some_iff.mp h
    obtain ⟨others, hothers, h⟩ := Option.bind_eq_some_iff.mp h
    obtain rfl := Option.some.inj h
    obtain ⟨type, htype, rfl⟩ := Option.map_eq_some_iff.mp hentry
    obtain ⟨⟨hnames, htypes⟩, hvalues⟩ := ih hothers
    refine ⟨⟨?_, List.forall_mem_cons.mpr ⟨htype, htypes⟩⟩, fun name hname ↦ ?_⟩
    · dsimp only at hnames ⊢
      rw [List.map_cons, hnames]
    · by_cases hitem : name = item
      · rw [hitem, List.lookup_cons, beq_self_eq_true, emptyOf, htype]
        rfl
      · rw [List.lookup_cons, beq_eq_false_iff_ne.mpr hitem]
        exact hvalues name ((List.mem_cons.mp hname).resolve_left hitem)

/-! ## What is sent

A package that the thread has swapped out is as good as written, since nothing changes it any more.
`taken` counts it, so that there is one package for each batch at all times. -/

/-- What the thread has written, and what it is about to write. -/
def RTDEWriter.taken (writer : RTDEWriter) : List (List UInt8) :=
  writer.stream ++
    if writer.pc = .swapped then [writer.currentSendBuffer.serializePackage] else []

/-- At the start both buffers are empty packages of the recipe. -/
theorem RTDEWriter.start_eq_some {recipe : List String} {recipeId : UInt8} {writer : RTDEWriter}
    (h : RTDEWriter.start recipe recipeId = some writer) :
    ∃ package : DataPackage, package.Typed recipe ∧
      (∀ name ∈ recipe, package.getData name = emptyOf name) ∧
      writer = RTDEWriter.ofBuffers (recipe.filter isMask)
        (DoubleBuffer.start package package) := by
  obtain ⟨package, hpackage, rfl⟩ := Option.map_eq_some_iff.mp h
  obtain ⟨data, hdata, rfl⟩ := Option.map_eq_some_iff.mp hpackage
  obtain ⟨htyped, hvalues⟩ := initEmpty_typed hdata recipeId 2
  exact ⟨_, htyped, hvalues, rfl⟩

/-- The packages of batches of requests. -/
def packages (usedMasks : List String) (package : DataPackage) (batches : List (List Request)) :
    List DataPackage :=
  (DoubleBuffer.behind Request.apply (resetMasks usedMasks) package package batches).sent

/-- The double buffer sends what the writer takes. -/
theorem taken_of_explained {usedMasks : List String} {package : DataPackage}
    {batches : List (List Request)} {current : List Request} {buffers : Buffers DataPackage}
    (h : Explained Request.apply (resetMasks usedMasks) package package batches current buffers) :
    (RTDEWriter.ofBuffers usedMasks buffers).taken
      = (packages usedMasks package batches).map DataPackage.serializePackage := by
  obtain ⟨-, -, -, hsent⟩ := h
  obtain ⟨store, send, newData, pc, sent⟩ := buffers
  rcases pc
  case swapped =>
    rw [packages, ← hsent, List.map_append]
    rfl
  all_goals
    rw [packages, ← hsent]
    exact List.append_nil _

/-- Every run of the writer goes through the batches of its cut, one for each package. -/
theorem RTDEWriter.taken_eq {recipe : List String} {recipeId : UInt8} {writer : RTDEWriter}
    (hstart : RTDEWriter.start recipe recipeId = some writer) (events : List (Event Request)) :
    ∃ package : DataPackage, package.Typed recipe ∧
      (∀ name ∈ recipe, package.getData name = emptyOf name) ∧
      (∀ batch ∈ (writer.cut events).batches, batch ≠ []) ∧
      (run RTDEWriter.step writer events).taken
        = (packages (recipe.filter isMask) package (writer.cut events).batches).map
            DataPackage.serializePackage := by
  obtain ⟨package, htyped, hempty, rfl⟩ := RTDEWriter.start_eq_some hstart
  let usedMasks := recipe.filter isMask
  -- the double buffer behind the writer cuts the requests in the same places
  have hswaps : ∀ buffers : Buffers DataPackage,
      (RTDEWriter.ofBuffers usedMasks buffers).swaps = buffers.swaps := fun _ ↦ rfl
  have hcut := cut_map (RTDEWriter.ofBuffers_step usedMasks) hswaps
    (DoubleBuffer.start package package) events
  obtain ⟨hnil, hexplained⟩ := @explained_cut _ _ Request.apply (resetMasks usedMasks)
    package package events
  have hbatches : (RTDEWriter.cut (RTDEWriter.ofBuffers usedMasks
      (DoubleBuffer.start package package)) events).batches
      = (DoubleBuffer.cut (DoubleBuffer.step Request.apply (resetMasks usedMasks)) Buffers.swaps
          (DoubleBuffer.start package package) events).batches := congrArg Cut.batches hcut.symm
  have hstate := congrArg Cut.state hcut
  rw [state_cut] at hstate
  refine ⟨package, htyped, hempty, hbatches ▸ hnil, ?_⟩
  rw [hbatches, ← hstate]
  exact taken_of_explained hexplained

/-- What is sent for a field, from the requests of every batch. -/
def fieldsSent (recipe : List String) (name : String) (batches : List (List Request)) :
    List (Option Entry) :=
  (if isMask name then batches else alternating [] [] batches).map fun batch ↦
    (lastAssigned (assigned recipe name) batch).getD (emptyOf name)

/-- A field of all packages. The reset is what tells a mask from another field: with it the value is
one of the batch, without it one of all batches of the buffer. -/
theorem getData_packages {recipe : List String} {package : DataPackage}
    (htyped : package.Typed recipe)
    (hempty : ∀ name ∈ recipe, package.getData name = emptyOf name) {batches : List (List Request)}
    (hbatches : ∀ batch ∈ batches, ∀ request ∈ batch, request.OfRecipe recipe) {name : String}
    (hname : name ∈ recipe) :
    (packages (recipe.filter isMask) package batches).map (·.getData name)
      = fieldsSent recipe name batches := by
  have hmasks : ∀ maskName ∈ recipe.filter isMask, maskName ∈ recipe ∧ isMask maskName = true :=
    fun maskName hmem ↦ List.mem_filter.mp hmem
  rw [fieldsSent, packages]
  by_cases hmask : isMask name = true
  · rw [if_pos hmask]
    refine (assigns recipe name).sent_of_reset (fun s hs ↦ ?_) hbatches ⟨htyped, hempty name hname⟩
      ⟨htyped, hempty name hname⟩
    obtain ⟨hkept, hvalues⟩ := resetMasks_typed hmasks hs
    exact ⟨hkept, (hvalues name).trans (if_pos (List.mem_filter.mpr ⟨hname, hmask⟩))⟩
  · rw [if_neg hmask]
    refine (assigns recipe name).sent_of_kept (fun s hs ↦ ?_) hbatches ⟨htyped, hempty name hname⟩
      ⟨htyped, hempty name hname⟩
    obtain ⟨hkept, hvalues⟩ := resetMasks_typed hmasks hs
    exact ⟨hkept, (hvalues name).trans (if_neg fun hmem ↦ hmask (List.mem_filter.mp hmem).2)⟩

/-- What the thread has sent are packages of the recipe, one for each batch of the cut. A batch is
never empty, and no request is left out. -/
structure RTDEWriter.Packed (recipe : List String) (writer : RTDEWriter)
    (events : List (Event Request)) (packages : List DataPackage) : Prop where
  requests : (writer.cut events).batches.flatten ++ (writer.cut events).current = requests events
  nonempty : ∀ batch ∈ (writer.cut events).batches, batch ≠ []
  length : packages.length = (writer.cut events).batches.length
  typed : ∀ package ∈ packages, package.Typed recipe
  taken : (run RTDEWriter.step writer events).taken = packages.map DataPackage.serializePackage

/-- The packages of a run, which the results about single fields share. -/
theorem RTDEWriter.exists_packed {recipe : List String} {recipeId : UInt8} {writer : RTDEWriter}
    (hstart : RTDEWriter.start recipe recipeId = some writer) {events : List (Event Request)}
    (hevents : ∀ request ∈ requests events, request.OfRecipe recipe) :
    ∃ packages, writer.Packed recipe events packages ∧ ∀ name ∈ recipe,
      packages.map (·.getData name) = fieldsSent recipe name (writer.cut events).batches := by
  obtain ⟨package, htyped, hempty, hnil, htaken⟩ := RTDEWriter.taken_eq hstart events
  have hrequests := requests_cut RTDEWriter.step RTDEWriter.swaps writer events
  have hbatches : ∀ batch ∈ (writer.cut events).batches, ∀ request ∈ batch,
      request.OfRecipe recipe := by
    intro batch hbatch request hrequest
    refine hevents request ?_
    rw [← hrequests]
    exact List.mem_append_left _ (List.mem_flatten.mpr ⟨batch, hbatch, hrequest⟩)
  have hreset : ∀ s : DataPackage, s.Typed recipe →
      (resetMasks (recipe.filter isMask) s).Typed recipe := fun s hs ↦
    (resetMasks_typed (fun maskName hmem ↦ List.mem_filter.mp hmem) hs).1
  refine ⟨_, ⟨hrequests, hnil, length_sent_behind _, ?_, htaken⟩,
    fun name hname ↦ getData_packages htyped hempty hbatches hname⟩
  exact (assigns recipe "").forall_sent hreset hbatches htyped htyped

/-- Every request goes into one package: the swaps of the thread cut the requests into one batch for
each package. A mask is what the last request of the batch has assigned, or zero. Any other field is
what was assigned last for this package, the package before the last one, and so on. -/
theorem fields_of_batches {recipe : List String} {recipeId : UInt8} {writer : RTDEWriter}
    (hstart : RTDEWriter.start recipe recipeId = some writer) {events : List (Event Request)}
    (hevents : ∀ request ∈ requests events, request.OfRecipe recipe) :
    ∃ packages, writer.Packed recipe events packages ∧ ∀ name ∈ recipe,
      packages.map (·.getData name) = fieldsSent recipe name (writer.cut events).batches :=
  RTDEWriter.exists_packed hstart hevents

theorem fields_of_batches_speedSlider :
    let recipe := ["speed_slider_mask", "speed_slider_fraction"]
    let package : DataPackage := ⟨1, [("speed_slider_mask", ⟨.uint32, 0⟩),
      ("speed_slider_fraction", ⟨.double, 0⟩)], 2⟩
    let writer : RTDEWriter := ⟨["speed_slider_mask"], package, package, false, .waiting, []⟩
    let events : List (Event Request) := [.request (.speedSlider 0), .sender, .sender]
    ∃ packages, writer.Packed recipe events packages ∧ ∀ name ∈ recipe,
      packages.map (·.getData name) = fieldsSent recipe name (writer.cut events).batches := by
  intro recipe package writer events
  have hstart : RTDEWriter.start recipe 1 = some writer := by decide +kernel
  exact fields_of_batches hstart (List.forall_mem_singleton.mpr trivial)

end VzletUr3e.Rtde
