import VzletUr3e.Library.ByteCodec

/-!
# Packages of the RTDE interface

The robot and its clients exchange packages: a header with the size and the type, and a payload. The
payload of a data package are the fields of a recipe, whose types both sides know from the names, so
the fields are written one after the other without any mark. `PackageSerializer` writes them, and
`BinParser` reads them back.

Doubles are known by their bits.
-/

namespace VzletUr3e.Rtde

open ByteCodec

/-! ## Fields -/

/-- The alternatives of `_rtde_type_variant`. -/
inductive FieldType
  | bool
  | uint8
  | uint32
  | uint64
  | int32
  | double
  | vector3d
  | vector6d
  | vector6int32
  | vector6uint32
  | string
deriving DecidableEq, Repr

/-- The values of a field. -/
@[reducible]
def FieldType.Value : FieldType → Type
  | .bool => Bool
  | .uint8 => UInt8
  | .uint32 => UInt32
  | .uint64 => UInt64
  | .int32 => Int32
  | .double => UInt64
  | .vector3d => Fin 3 → UInt64
  | .vector6d => Fin 6 → UInt64
  | .vector6int32 => Fin 6 → Int32
  | .vector6uint32 => Fin 6 → UInt32
  | .string => List UInt8

instance (type : FieldType) : DecidableEq type.Value := by
  rcases type <;> dsimp only [FieldType.Value] <;> infer_instance

/-- A value that is initialized without arguments. -/
def FieldType.empty : (type : FieldType) → type.Value
  | .bool => false
  | .uint8 => 0
  | .uint32 => 0
  | .uint64 => 0
  | .int32 => 0
  | .double => 0
  | .vector3d => fun _ ↦ 0
  | .vector6d => fun _ ↦ 0
  | .vector6int32 => fun _ ↦ 0
  | .vector6uint32 => fun _ ↦ 0
  | .string => []

/-- `sizeof`, which for a string is the size of the object. -/
def FieldType.size : FieldType → ℕ
  | .bool => 1
  | .uint8 => 1
  | .uint32 => 4
  | .uint64 => 8
  | .int32 => 4
  | .double => 8
  | .vector3d => 24
  | .vector6d => 48
  | .vector6int32 => 24
  | .vector6uint32 => 24
  | .string => 32

/-- A value with its type. -/
abbrev Entry := Sigma FieldType.Value

/-- `g_type_list`. -/
def typeList : List (String × FieldType) :=
  let named (type : FieldType) (names : List String) := names.map (·, type)
  let registers (type : FieldType) (key : String) (first count : ℕ) :=
    named type ((List.range' first count).map fun i ↦ key ++ toString i)
  registers .bool "input_bit_register_" 64 64 ++
  registers .int32 "input_int_register_" 0 48 ++
  registers .double "input_double_register_" 0 48 ++
  registers .bool "output_bit_register_" 64 64 ++
  registers .int32 "output_int_register_" 0 48 ++
  registers .double "output_double_register_" 0 48 ++
  named .uint32 ["speed_slider_mask", "input_bit_registers0_to_31",
    "input_bit_registers32_to_63", "runtime_state", "robot_status_bits", "safety_status_bits",
    "analog_io_types", "output_bit_registers0_to_31", "output_bit_registers32_to_63",
    "euromap67_input_bits", "euromap67_output_bits", "tool_mode", "tool_analog_input_types",
    "script_control_line"] ++
  named .double ["speed_slider_fraction", "standard_analog_output_0",
    "standard_analog_output_1", "timestamp", "actual_execution_time", "target_execution_time",
    "speed_scaling", "target_speed_fraction", "actual_momentum", "actual_main_voltage",
    "actual_robot_voltage", "actual_robot_current", "standard_analog_input0",
    "standard_analog_input1", "standard_analog_output0", "standard_analog_output1",
    "io_current", "actual_robot_energy_consumed", "actual_robot_braking_energy_dissipated",
    "euromap67_24V_voltage", "euromap67_24V_current", "tool_analog_input0",
    "tool_analog_input1", "tool_output_current", "tool_temperature", "tcp_force_scalar",
    "joint_position_deviation_ratio", "collision_detection_ratio", "payload"] ++
  named .uint8 ["standard_digital_output_mask", "standard_digital_output",
    "configurable_digital_output_mask", "configurable_digital_output",
    "standard_analog_output_mask", "standard_analog_output_type", "tool_output_mode",
    "tool_digital_output0_mode", "tool_digital_output1_mode", "tool_digital_output_mask",
    "tool_digital_output"] ++
  named .vector6d ["external_force_torque", "target_q", "target_qd", "target_qdd",
    "target_current", "target_moment", "actual_q", "actual_qd", "actual_current",
    "actual_current_window", "actual_current_as_torque", "joint_control_output",
    "actual_TCP_pose", "actual_TCP_speed", "actual_TCP_force", "target_TCP_pose",
    "target_TCP_speed", "tcp_offset", "actual_TCP_acceleration", "target_TCP_acceleration",
    "joint_temperatures", "actual_joint_voltage", "ft_raw_wrench",
    "wrench_calc_from_currents", "payload_inertia", "target_base_acceleration"] ++
  named .uint64 ["actual_digital_input_bits", "actual_configurable_digital_input_bits",
    "actual_digital_output_bits", "actual_configurable_digital_output_bits"] ++
  named .int32 ["robot_mode", "safety_mode", "safety_status", "encoder0_raw", "encoder1_raw",
    "tool_output_voltage", "time_scale_source"] ++
  named .vector6int32 ["joint_mode"] ++
  named .vector3d ["actual_tool_accelerometer", "elbow_position", "elbow_velocity",
    "payload_cog", "target_gravity"]

/-! ## Bytes -/

def serializeUInt32 (value : UInt32) : List UInt8 := writeWord 4 value.toNat

def serializeUInt64 (value : UInt64) : List UInt8 := writeWord 8 value.toNat

def serializeInt32 (value : Int32) : List UInt8 := writeWord 4 value.toUInt32.toNat

/-- The `serialize` of each type. A string is written without its length. -/
def serialize : (type : FieldType) → type.Value → List UInt8
  | .bool, value => [if value then 1 else 0]
  | .uint8, value => [value]
  | .uint32, value => serializeUInt32 value
  | .uint64, value => serializeUInt64 value
  | .int32, value => serializeInt32 value
  | .double, value => serializeUInt64 value
  | .vector3d, value => writeArray serializeUInt64 3 value
  | .vector6d, value => writeArray serializeUInt64 6 value
  | .vector6int32, value => writeArray serializeInt32 6 value
  | .vector6uint32, value => writeArray serializeUInt32 6 value
  | .string, value => value

def parseUInt8 : Reader UInt8
  | [] => none
  | byte :: bytes => some (byte, bytes)

def parseUInt16 : Reader UInt16 := readAs 2 UInt16.ofNat

def parseUInt32 : Reader UInt32 := readAs 4 UInt32.ofNat

def parseUInt64 : Reader UInt64 := readAs 8 UInt64.ofNat

def parseInt32 : Reader Int32 := readAs 4 fun n ↦ (UInt32.ofNat n).toInt32

/-- A number of bytes. More than there are is undefined. -/
def parseBytes (length : ℕ) : Reader (List UInt8) := fun bytes ↦
  if length ≤ bytes.length then some (bytes.take length, bytes.drop length) else none

/-- The `parse` of each type. It throws where the bytes end too early. A string has its length in
front. -/
def parse : (type : FieldType) → Reader type.Value
  | .bool => fun bytes ↦ do
    let (inner, bytes) ← parseUInt8 bytes
    return (inner != 0, bytes)
  | .uint8 => parseUInt8
  | .uint32 => parseUInt32
  | .uint64 => parseUInt64
  | .int32 => parseInt32
  | .double => parseUInt64
  | .vector3d => readArray parseUInt64 3
  | .vector6d => readArray parseUInt64 6
  | .vector6int32 => readArray parseInt32 6
  | .vector6uint32 => readArray parseUInt32 6
  | .string => fun bytes ↦ do
    let (length, bytes) ← parseUInt8 bytes
    parseBytes length.toNat bytes

/-! ## Data packages -/

/-- A data package. `data_` has the names of the recipe, in its order. -/
structure DataPackage where
  recipeId : UInt8
  data : List (String × Entry)
  protocolVersion : UInt16
deriving DecidableEq

/-- `initEmpty`, which throws for an unknown name. -/
def initEmpty (recipe : List String) : Option (List (String × Entry)) :=
  recipe.mapM fun item ↦ (typeList.lookup item).map fun type ↦ (item, ⟨type, type.empty⟩)

/-- The constructor. The recipe id is not initialized there. -/
def DataPackage.new (recipe : List String) (recipeId : UInt8) (protocolVersion : UInt16) :
    Option DataPackage :=
  (initEmpty recipe).map (⟨recipeId, ·, protocolVersion⟩)

def DataPackage.types (package : DataPackage) : List FieldType := package.data.map (·.2.1)

/-- `setData`, for the entry of a name if its type is the same. -/
def DataPackage.setData (package : DataPackage) (name : String) (value : Entry) :
    DataPackage × Bool :=
  match package.data.findIdx? (·.1 == name) with
  | some i =>
    match package.data[i]? with
    | some entry =>
      if entry.2.1 = value.1 then
        ({ package with data := package.data.set i (name, value) }, true)
      else (package, false)
    | none => (package, false)
  | none => (package, false)

/-- `getData`. -/
def DataPackage.getData (package : DataPackage) (name : String) : Option Entry :=
  package.data.lookup name

/-- `RTDE_DATA_PACKAGE`. -/
def dataPackageType : UInt8 := 85

/-- `serializeHeader`. -/
def serializeHeader (packageType : UInt8) (payloadLength : UInt16) : List UInt8 :=
  writeWord 2 (3 + payloadLength).toNat ++ [packageType]

/-- The sum of the sizes, in 16 bits. -/
def DataPackage.payloadSize (package : DataPackage) : UInt16 :=
  package.types.foldl (fun size type ↦ size + UInt16.ofNat type.size) 1

/-- `serializePackage`. -/
def DataPackage.serializePackage (package : DataPackage) : List UInt8 :=
  serializeHeader dataPackageType package.payloadSize ++ package.recipeId ::
    writeRecord serialize (package.data.map (·.2))

/-! ## Fields are read back -/

theorem lawful_uint8 : Lawful (fun byte : UInt8 ↦ [byte]) parseUInt8 where
  read_write _ _ := rfl
  eq_of_read {bytes byte rest} h := by
    rcases bytes with _ | ⟨head, tail⟩
    · cases h
    · obtain ⟨rfl, rfl⟩ := Prod.mk.inj (Option.some.inj h)
      rfl

theorem lawful_uint16 : Lawful (fun value : UInt16 ↦ writeWord 2 value.toNat) parseUInt16 :=
  lawful_word (fun value ↦ value.toNat_lt) (fun _ ↦ UInt16.ofNat_toNat)
    fun _ hn ↦ UInt16.toNat_ofNat_of_lt' hn

theorem lawful_uint32 : Lawful serializeUInt32 parseUInt32 :=
  lawful_word (fun value ↦ value.toNat_lt) (fun _ ↦ UInt32.ofNat_toNat)
    fun _ hn ↦ UInt32.toNat_ofNat_of_lt' hn

theorem lawful_uint64 : Lawful serializeUInt64 parseUInt64 :=
  lawful_word (fun value ↦ value.toNat_lt) (fun _ ↦ UInt64.ofNat_toNat)
    fun _ hn ↦ UInt64.toNat_ofNat_of_lt' hn

theorem lawful_int32 : Lawful serializeInt32 parseInt32 :=
  lawful_word (fun value ↦ value.toUInt32.toNat_lt)
    (fun value ↦ by rw [UInt32.ofNat_toNat]; rfl) fun _ hn ↦ UInt32.toNat_ofNat_of_lt' hn

/-- What is taken for a value. Every byte but zero is true, and the length of a string fits in its
byte. -/
def Form : (type : FieldType) → type.Value → List UInt8 → Prop
  | .bool, value, w => ∃ byte : UInt8, w = [byte] ∧ (byte != 0) = value
  | .string, value, w => ∃ length : UInt8, length.toNat = value.length ∧ w = length :: value
  | type, value, w => w = serialize type value

theorem recognizes_bool : Recognizes (Form .bool) (parse .bool) := by
  intro bytes value rest
  rcases bytes with _ | ⟨byte, bytes⟩
  · simp [parse, parseUInt8, Form]
  · simp [parse, parseUInt8, Form, and_comm, eq_comm]

theorem recognizes_string : Recognizes (Form .string) (parse .string) := by
  intro bytes value rest
  rcases bytes with _ | ⟨length, bytes⟩
  · simp [parse, parseUInt8, Form]
  · constructor
    · intro hread
      have hbytes : parseBytes length.toNat bytes = some (value, rest) := hread
      rw [parseBytes] at hbytes
      split_ifs at hbytes with hle
      obtain ⟨rfl, rfl⟩ := Prod.mk.inj (Option.some.inj hbytes)
      refine ⟨_, ⟨length, (List.length_take_of_le hle).symm, rfl⟩, ?_⟩
      rw [List.cons_append, List.take_append_drop]
    · rintro ⟨w, ⟨length', hlength, rfl⟩, heq⟩
      obtain ⟨rfl, rfl⟩ := List.cons.inj heq
      change parseBytes length.toNat (value ++ rest) = some (value, rest)
      rw [parseBytes, hlength, if_pos (by simp), List.take_left, List.drop_left]

/-- What is parsed are the forms of the type. -/
theorem recognizes_parse (type : FieldType) : Recognizes (Form type) (parse type) := by
  rcases type
  · exact recognizes_bool
  · exact lawful_uint8.recognizes
  · exact lawful_uint32.recognizes
  · exact lawful_uint64.recognizes
  · exact lawful_int32.recognizes
  · exact lawful_uint64.recognizes
  · exact (lawful_uint64.array 3).recognizes
  · exact (lawful_uint64.array 6).recognizes
  · exact (lawful_int32.array 6).recognizes
  · exact (lawful_uint32.array 6).recognizes
  · exact recognizes_string

/-- All types but strings are written in one of their forms. -/
theorem form_serialize {type : FieldType} (h : type ≠ .string) (value : type.Value) :
    Form type value (serialize type value) := by
  rcases type
  case bool => exact ⟨_, rfl, by rcases value <;> rfl⟩
  case string => exact absurd rfl h
  all_goals rfl

theorem length_serialize {type : FieldType} (h : type ≠ .string) (value : type.Value) :
    (serialize type value).length = type.size := by
  rcases type
  case string => exact absurd rfl h
  case bool | uint8 => rfl
  case uint32 | uint64 | int32 | double => exact length_writeWord _ _
  all_goals exact length_writeArray (fun _ ↦ length_writeWord _ _) _ _

theorem typeList_ne_string : ∀ named ∈ typeList, named.2 ≠ .string := by
  have h : typeList.all (fun named ↦ decide (named.2 ≠ .string)) = true := by decide +kernel
  simpa using h

/-- The entries of a recipe are those of its names, and none of them is a string. -/
theorem initEmpty_eq_some {recipe : List String} {data : List (String × Entry)}
    (h : initEmpty recipe = some data) :
    data.map (·.1) = recipe ∧ ∀ entry ∈ data, entry.2.1 ≠ .string := by
  induction recipe generalizing data with
  | nil =>
    obtain rfl := Option.some.inj h
    simp
  | cons item recipe ih =>
    rw [initEmpty, List.mapM_cons] at h
    obtain ⟨entry, hentry, h⟩ := Option.bind_eq_some_iff.mp h
    obtain ⟨others, hothers, h⟩ := Option.bind_eq_some_iff.mp h
    obtain rfl := Option.some.inj h
    obtain ⟨type, htype, rfl⟩ := Option.map_eq_some_iff.mp hentry
    obtain ⟨hmap, hstring⟩ := ih hothers
    refine ⟨by rw [List.map_cons, hmap], List.forall_mem_cons.mpr ⟨?_, hstring⟩⟩
    obtain ⟨before, after, heq, -⟩ := List.lookup_eq_some_iff.mp htype
    exact typeList_ne_string (item, type) (by rw [heq]; simp)

end VzletUr3e.Rtde
