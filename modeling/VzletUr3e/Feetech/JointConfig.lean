import VzletUr3e.Library.StateError
import VzletUr3e.Feetech.Configure

/-!
# The file of joint parameters

`load_joint_config` reads a YAML file into a map from the names of joints to their parameters.
`load_yaml_config_and_warn_` goes through this map, in whatever order its hash table has, and builds
the map by servo ids that `configure_joints_` looks into.

The parser is a library. What the code asks of a node is a parameter here, and so is the order of
the hash table.

Nothing that is logged decides how a call ends. The second half says how it ends.
-/

namespace VzletUr3e.Feetech

open StateError

variable {Node : Type}

/-! ## What is outside -/

/-- What is asked of the nodes of yaml-cpp. An error is the text of a `YAML::Exception`. -/
structure YamlCpp (Node : Type) where
  /-- `node[key]`, if it is defined. -/
  child : Node → String → Except String (Option Node)
  /-- The pairs of a node that `IsMap`. -/
  asMap : Node → Option (List (Node × Node))
  /-- `as<std::string>()`. -/
  asString : Node → Except String String
  /-- The `Scalar()` of a node that `IsScalar`. -/
  asScalar : Node → Option (List Char)

/-- What there is under a path. -/
inductive Found (Node : Type)
  | missing
  /-- It exists and cannot be opened. -/
  | closed
  /-- A file, and what `YAML::Load` makes of it. -/
  | file (loaded : Except String Node)

/-- The order in which an `unordered_map` is gone through. It is any order. -/
structure HashOrder where
  visit : List (String × JointParams) → List (String × JointParams)
  perm : ∀ entries, (visit entries).Perm entries

/-- What is read of `info_`. -/
structure HardwareInfo where
  hardwareParameters : JointParams
  joints : List Joint

/-- What was sent to `spdlog`. -/
structure Messages where
  errors : List String
  warnings : List String
  infos : List String

/-! ## Maps -/

def JointParams.empty : JointParams := ⟨[], List.nodup_nil⟩

/-- `params[key] = value`. -/
def JointParams.set (params : JointParams) (key : String) (value : List Char) : JointParams where
  entries := Dict.set params.entries key value
  nodup := Dict.nodup_set params.nodup

theorem JointParams.find_set (params : JointParams) (key name : String) (value : List Char) :
    (params.set key value).find name = if name = key then some value else params.find name :=
  Dict.lookup_set

/-- `JointConfigMap`. -/
structure JointConfigMap where
  entries : List (String × JointParams)
  nodup : (entries.map Prod.fst).Nodup

def JointConfigMap.empty : JointConfigMap := ⟨[], List.nodup_nil⟩

/-- `emplace`, which leaves an entry that is there. -/
def JointConfigMap.emplace (config : JointConfigMap) (name : String) (params : JointParams) :
    JointConfigMap :=
  if h : name ∈ config.entries.map Prod.fst then config
  else
    { entries := config.entries ++ [(name, params)]
      nodup := by
        rw [List.map_append, List.map_singleton, List.nodup_append_comm]
        exact List.nodup_cons.mpr ⟨h, config.nodup⟩ }

theorem JointConfigMap.entries_emplace {config : JointConfigMap} {name : String}
    (h : name ∉ config.entries.map Prod.fst) (params : JointParams) :
    (config.emplace name params).entries = config.entries ++ [(name, params)] := by
  rw [emplace, dif_neg h]

/-! ## The file -/

/-- Code that can return an error or throw. -/
abbrev Loading := EStateM Stop Messages

/-- Code between `try` and `catch`. -/
abbrev Reading := EStateM String Messages

/-- `spdlog::error`. -/
def putError {ε : Type} (message : String) : EStateM ε Messages Unit :=
  modify fun st ↦ { st with errors := st.errors ++ [message] }

/-- `spdlog::warn`. -/
def putWarn {ε : Type} (message : String) : EStateM ε Messages Unit :=
  modify fun st ↦ { st with warnings := st.warnings ++ [message] }

/-- `spdlog::info`. -/
def putInfo {ε : Type} (message : String) : EStateM ε Messages Unit :=
  modify fun st ↦ { st with infos := st.infos ++ [message] }

/-- A value of the library, or its exception. -/
def yamlValue {α : Type} : Except String α → Reading α
  | .ok a => pure a
  | .error what => throw what

/-- `try` and `catch`. -/
def catching {α : Type} (x : Reading α) (handle : String → Loading α) : Loading α := fun st ↦
  match x st with
  | .ok a st' => .ok a st'
  | .error what st' => handle what st'

section Loader

variable (yaml : YamlCpp Node)

/-- The loop over the parameters of a joint. -/
def readParams (jointName : String) : List (Node × Node) → JointParams → Reading JointParams
  | [], params => pure params
  | p :: rest, params => do
    let key ← yamlValue (yaml.asString p.1)
    match yaml.asScalar p.2 with
    | some value => readParams jointName rest (params.set key value)
    | none => do
      putWarn s!"Ignoring non-scalar param '{key}' for joint '{jointName}'"
      readParams jointName rest params

/-- The loop over the joints. -/
def readJoints : List (Node × Node) → JointConfigMap → Reading JointConfigMap
  | [], config => pure config
  | it :: rest, config => do
    let jointName ← yamlValue (yaml.asString it.1)
    match yaml.asMap it.2 with
    | none => do
      putWarn s!"Joint '{jointName}' entry is not a map; ignoring"
      readJoints rest config
    | some jointNode => do
      let params ← readParams yaml jointName jointNode JointParams.empty
      readJoints rest (config.emplace jointName params)

/-- What is tried. -/
def readConfig (filePath : String) (loaded : Except String Node) :
    Reading (Option JointConfigMap) := do
  let root ← yamlValue loaded
  let joints ← yamlValue (yaml.child root "joints")
  match joints.bind yaml.asMap with
  | none => do
    putError s!"joint_config_file '{filePath}' has no top-level 'joints:' map"
    return none
  | some entries => do
    let config ← readJoints yaml entries JointConfigMap.empty
    putInfo s!"Loaded joint configuration for {config.entries.length} joints from '{filePath}'"
    return some config

/-- `load_joint_config`. -/
def loadJointConfig (filePath : String) : Found Node → Loading (Option JointConfigMap)
  | .missing => do
    putError s!"joint_config_file '{filePath}' does not exist"
    return none
  | .closed => do
    putError s!"Failed to open joint_config_file '{filePath}'"
    return none
  | .file loaded =>
    catching (readConfig yaml filePath loaded) fun what ↦ do
      putError s!"YAML parsing error in '{filePath}': {what}"
      return none

end Loader

/-! ## By servo ids -/

/-- A value, or what is thrown instead. -/
def loadingValue {α : Type} : Except Thrown α → Loading α
  | .ok a => pure a
  | .error e => throw (.thrown e)

/-- The loop that keys the parameters by servo id. -/
def rekey : List (String × JointParams) → JointIdConfigMap → Loading JointIdConfigMap
  | [], outYaml => pure outYaml
  | (name, params) :: rest, outYaml =>
    match params.find "id" with
    | none => do
      putError s!"YAML joint '{name}' has no 'id' parameter"
      throw .returned
    | some text => do
      let id ← loadingValue (stoi text)
      if id ∈ outYaml.map Prod.fst then do
        putError s!"Duplicate servo id {id} in YAML (joint '{name}')"
        throw .returned
      else rekey rest (outYaml ++ [(id, params)])

/-- The warning about a joint that has no entry. -/
def warnMissing (outYaml : JointIdConfigMap) (j : Joint) : Loading Unit :=
  match j.parameters.find "id" with
  | none => pure ()
  | some text => do
    let id ← loadingValue (stoi text)
    if id ∈ outYaml.map Prod.fst then pure ()
    else
      putWarn
        s!"URDF joint '{j.name}' (id={String.ofList text}) has no YAML entry (using URDF defaults)"

/-- `load_yaml_config_and_warn_`. Its map is returned with `SUCCESS`. -/
def loadYamlConfigAndWarn (yaml : YamlCpp Node) (order : HashOrder) (disk : String → Found Node)
    (info : HardwareInfo) : Loading JointIdConfigMap :=
  match info.hardwareParameters.find "joint_config_file" with
  | none => pure []
  | some path =>
    if path = [] then pure []
    else do
      let loaded ← loadJointConfig yaml (String.ofList path) (disk (String.ofList path))
      match loaded with
      | none => throw .returned
      | some config => do
        let outYaml ← rekey (order.visit config.entries) []
        info.joints.forM (warnMissing outYaml)
        return outYaml

/-! ## How the calls end -/

variable {yaml : YamlCpp Node}

/-- The parameters that are read, or the exception. -/
def paramsOf (yaml : YamlCpp Node) : List (Node × Node) → JointParams → Except String JointParams
  | [], params => .ok params
  | p :: rest, params => do
    let key ← yaml.asString p.1
    match yaml.asScalar p.2 with
    | some value => paramsOf yaml rest (params.set key value)
    | none => paramsOf yaml rest params

/-- The joints that are read. -/
def jointsOf (yaml : YamlCpp Node) :
    List (Node × Node) → JointConfigMap → Except String JointConfigMap
  | [], config => .ok config
  | it :: rest, config => do
    let jointName ← yaml.asString it.1
    match yaml.asMap it.2 with
    | none => jointsOf yaml rest config
    | some jointNode => do
      let params ← paramsOf yaml jointNode JointParams.empty
      jointsOf yaml rest (config.emplace jointName params)

/-- The map of the joints, if they are a map. -/
def configBelow (yaml : YamlCpp Node) :
    Option (List (Node × Node)) → Except String (Option JointConfigMap)
  | none => .ok none
  | some entries => do
    let config ← jointsOf yaml entries JointConfigMap.empty
    return some config

/-- The map of a file. -/
def configOf (yaml : YamlCpp Node) (loaded : Except String Node) :
    Except String (Option JointConfigMap) := do
  let root ← loaded
  let joints ← yaml.child root "joints"
  configBelow yaml (joints.bind yaml.asMap)

/-- What is loaded from a path. -/
def loadedFrom (yaml : YamlCpp Node) : Found Node → Option JointConfigMap
  | .missing => none
  | .closed => none
  | .file loaded => (configOf yaml loaded).toOption.join

/-- The map by ids, or the way the loop ends early. -/
def rekeyed : List (String × JointParams) → JointIdConfigMap → Except Stop JointIdConfigMap
  | [], outYaml => .ok outYaml
  | (_, params) :: rest, outYaml =>
    match params.find "id" with
    | none => .error .returned
    | some text => do
      let id ← (stoi text).mapError Stop.thrown
      if id ∈ outYaml.map Prod.fst then .error .returned
      else rekeyed rest (outYaml ++ [(id, params)])

theorem settles_modify {ε : Type} (f : Messages → Messages) :
    Settles (modify f : EStateM ε Messages Unit) (.ok ()) := fun _ ↦ rfl

theorem settles_yamlValue {α : Type} (r : Except String α) : Settles (yamlValue r) r := by
  cases r with
  | ok a => exact .pure a
  | error what => exact .throw what

theorem settles_loadingValue {α : Type} (r : Except Thrown α) :
    Settles (loadingValue r) (r.mapError Stop.thrown) := by
  cases r with
  | ok a => exact .pure a
  | error e => exact .throw _

theorem settles_readParams (jointName : String) (m : List (Node × Node)) (params : JointParams) :
    Settles (readParams yaml jointName m params) (paramsOf yaml m params) := by
  induction m generalizing params with
  | nil => exact .pure params
  | cons p rest ih =>
    refine (settles_yamlValue _).bind fun key ↦ ?_
    cases yaml.asScalar p.2 with
    | some value => exact ih _
    | none => exact (settles_modify _).bind fun _ ↦ ih params

theorem settles_readJoints (entries : List (Node × Node)) (config : JointConfigMap) :
    Settles (readJoints yaml entries config) (jointsOf yaml entries config) := by
  induction entries generalizing config with
  | nil => exact .pure config
  | cons it rest ih =>
    refine (settles_yamlValue _).bind fun jointName ↦ ?_
    cases yaml.asMap it.2 with
    | none => exact (settles_modify _).bind fun _ ↦ ih config
    | some jointNode => exact (settles_readParams _ _ _).bind fun params ↦ ih _

theorem settles_readConfig (filePath : String) (loaded : Except String Node) :
    Settles (readConfig yaml filePath loaded) (configOf yaml loaded) := by
  refine (settles_yamlValue _).bind fun root ↦ (settles_yamlValue _).bind fun joints ↦ ?_
  cases joints.bind yaml.asMap with
  | none => exact (settles_modify _).bind fun _ ↦ .pure _
  | some entries =>
    exact (settles_readJoints _ _).bind fun config ↦ (settles_modify _).bind fun _ ↦ .pure _

theorem settles_catching_ok {α : Type} {x : Reading α} {handle : String → Loading α} {a : α}
    (hx : Settles x (.ok a)) : Settles (catching x handle) (.ok a) := by
  intro st
  have h := hx st
  rw [catching]
  cases hr : x st with
  | ok b st' =>
    rw [hr] at h
    exact congrArg _ (Except.ok.inj h)
  | error what st' =>
    rw [hr] at h
    cases h

theorem settles_catching_error {α : Type} {x : Reading α} {handle : String → Loading α}
    {what : String} {r : Except Stop α} (hx : Settles x (.error what))
    (hh : Settles (handle what) r) : Settles (catching x handle) r := by
  intro st
  have h := hx st
  rw [catching]
  cases hr : x st with
  | ok b st' =>
    rw [hr] at h
    cases h
  | error what' st' =>
    rw [hr] at h
    obtain rfl : what' = what := Except.error.inj h
    exact hh st'

theorem settles_loadJointConfig (filePath : String) (found : Found Node) :
    Settles (loadJointConfig yaml filePath found) (.ok (loadedFrom yaml found)) := by
  cases found with
  | missing => exact (settles_modify _).bind fun _ ↦ .pure _
  | closed => exact (settles_modify _).bind fun _ ↦ .pure _
  | file loaded =>
    have hconfig := @settles_readConfig _ yaml filePath loaded
    rw [loadJointConfig, loadedFrom]
    generalize configOf yaml loaded = r at hconfig
    cases r with
    | error what => exact settles_catching_error hconfig ((settles_modify _).bind fun _ ↦ .pure _)
    | ok config => exact settles_catching_ok hconfig

theorem settles_rekey (visited : List (String × JointParams)) (outYaml : JointIdConfigMap) :
    Settles (rekey visited outYaml) (rekeyed visited outYaml) := by
  induction visited generalizing outYaml with
  | nil => exact .pure outYaml
  | cons entry rest ih =>
    obtain ⟨name, params⟩ := entry
    unfold rekey rekeyed
    cases params.find "id" with
    | none => exact (settles_modify _).bind fun _ ↦ .throw _
    | some text =>
      refine (settles_loadingValue _).bind fun id ↦ .ite (fun _ ↦ ?_) fun _ ↦ ih _
      exact (settles_modify _).bind fun _ ↦ .throw _

end VzletUr3e.Feetech
