import VzletUr3e.Rtde.Package

/-!
# The parser of RTDE packages

`RTDEParser` looks at the header of a package for its type, and parses the payload by it. It accepts
exactly the forms of packages (`parse_eq_some_iff`). The size in the header is no more than a lower
bound there.

A data package is parsed into one that was made before, which has its own protocol version. What
`serializePackage` writes is read back if that version is 2, and never in any other one, since the
recipe id is always written (`parse_serializePackage`).

## The forms

The parser is compared with `PayloadForm`, a description of the payloads that says nothing of how
they are read. The two directions are not alike: from an accepted payload to its form the branches
of the parser are taken one by one (`form_of_parsePayload`), and back the products are
(`parsePayload_of_form`). A data package has the only branch with a loop, and its equivalence is
proved in one piece (`parseWith_eq_some_iff`) and used in both.
-/

namespace VzletUr3e.Rtde

open ByteCodec

/-! ## The parser

A `Reader` takes bytes from the front and returns the others. Where the source reads all that is
left, the reader returns none. -/

/-- What is parsed. `accepted` is the answer to a protocol version, a start or a pause. -/
inductive Product
  | data (package : DataPackage)
  | textMessage (message source : List UInt8) (warningLevel : UInt8)
  | textMessage1 (messageType : UInt8) (message : List UInt8)
  | noTextMessage
  | urcontrolVersion (version : Fin 4 → UInt32)
  | accepted (packageType : UInt8) (accepted : UInt8)
  | setupInputs (recipeId : UInt8) (variableTypes : List UInt8)
  | setupOutputs2 (recipeId : UInt8) (variableTypes : List UInt8)
  | setupOutputs1 (variableTypes : List UInt8)
  | raw (packageType : UInt8) (bytes : List UInt8)

/-- `PackageType`. -/
def textMessageType : UInt8 := 77

def urcontrolVersionType : UInt8 := 118

def acceptedTypes : List UInt8 := [86, 83, 80]

def setupInputsType : UInt8 := 73

def setupOutputsType : UInt8 := 79

/-- `DataPackage::parseWith`. -/
def DataPackage.parseWith (package : DataPackage) : Reader DataPackage := fun bytes ↦ do
  let (recipeId, bytes) ←
    if package.protocolVersion = 2 then parseUInt8 bytes else some (package.recipeId, bytes)
  let (values, bytes) ← readRecord parse package.types bytes
  return ({ package with recipeId := recipeId, data := (package.data.map (·.1)).zip values }, bytes)

/-- `TextMessage::parseWith`. -/
def parseTextMessage (protocolVersion : UInt16) : Reader Product := fun bytes ↦
  if protocolVersion = 2 then do
    let (message, bytes) ← parse .string bytes
    let (source, bytes) ← parse .string bytes
    let (warningLevel, bytes) ← parseUInt8 bytes
    return (.textMessage message source warningLevel, bytes)
  else if protocolVersion = 1 then do
    let (messageType, bytes) ← parseUInt8 bytes
    return (.textMessage1 messageType bytes, [])
  else some (.noTextMessage, bytes)

/-- `ControlPackageSetupOutputs::parseWith`. -/
def parseSetupOutputs (protocolVersion : UInt16) : Reader Product := fun bytes ↦
  if protocolVersion = 2 then do
    let (recipeId, bytes) ← parseUInt8 bytes
    return (.setupOutputs2 recipeId bytes, [])
  else if protocolVersion = 1 then some (.setupOutputs1 bytes, [])
  else none

/-- The `parseWith` of the type of a package. -/
def parsePayload (protocolVersion : UInt16) (package : DataPackage) (packageType : UInt8) :
    Reader Product := fun bytes ↦
  if packageType = dataPackageType then do
    let (package, bytes) ← package.parseWith bytes
    return (.data package, bytes)
  else if packageType = textMessageType then parseTextMessage protocolVersion bytes
  else if packageType = urcontrolVersionType then do
    let (version, bytes) ← readArray parseUInt32 4 bytes
    return (.urcontrolVersion version, bytes)
  else if packageType ∈ acceptedTypes then do
    let (accepted, bytes) ← parseUInt8 bytes
    return (.accepted packageType accepted, bytes)
  else if packageType = setupInputsType then do
    let (recipeId, bytes) ← parseUInt8 bytes
    return (.setupInputs recipeId bytes, [])
  else if packageType = setupOutputsType then parseSetupOutputs protocolVersion bytes
  else some (.raw packageType bytes, [])

/-- `getPackageTypeFromHeader`. The size without the header is a `size_t`, so less than the header
is more than there can be. -/
def getPackageTypeFromHeader : Reader UInt8 := fun bytes ↦ do
  let (size, bytes) ← parseUInt16 bytes
  let (packageType, bytes) ← parseUInt8 bytes
  if 3 ≤ size.toNat ∧ size.toNat - 3 ≤ bytes.length then some (packageType, bytes) else none

/-- `parse`, with the data package that is filled. There is no result where it returns false, throws
or reads behind the end. -/
def RTDEParser.parse (protocolVersion : UInt16) (package : DataPackage) (bytes : List UInt8) :
    Option Product := do
  let (packageType, bytes) ← getPackageTypeFromHeader bytes
  let (product, bytes) ← parsePayload protocolVersion package packageType bytes
  if bytes = [] then some product else none

/-! ## The forms of packages

The product tells which type the header had, so a form is one of a product and its payload. The
protocol version of the parser counts for text messages and for the answer to a recipe of outputs; a
data package has a version of its own. -/

def Product.packageType : Product → UInt8
  | .data _ => dataPackageType
  | .textMessage _ _ _ => textMessageType
  | .textMessage1 _ _ => textMessageType
  | .noTextMessage => textMessageType
  | .urcontrolVersion _ => urcontrolVersionType
  | .accepted packageType _ => packageType
  | .setupInputs _ _ => setupInputsType
  | .setupOutputs2 _ _ => setupOutputsType
  | .setupOutputs1 _ => setupOutputsType
  | .raw packageType _ => packageType

/-- A package of the same recipe and version as the one that is filled. -/
def DataPackage.SameShape (package other : DataPackage) : Prop :=
  package.data.map (·.1) = other.data.map (·.1) ∧ package.types = other.types ∧
    package.protocolVersion = other.protocolVersion

/-- The forms of a data package. -/
def DataPackage.Form (package : DataPackage) (w : List UInt8) : Prop :=
  if package.protocolVersion = 2 then
    ∃ values, RecordForm Rtde.Form (package.data.map (·.2)) values ∧ w = package.recipeId :: values
  else RecordForm Rtde.Form (package.data.map (·.2)) w

/-- The forms of a payload. -/
def PayloadForm (protocolVersion : UInt16) (filled : DataPackage) : Product → List UInt8 → Prop
  | .data package, w => package.SameShape filled ∧ package.Form w ∧
      (filled.protocolVersion = 2 ∨ package.recipeId = filled.recipeId)
  | .textMessage message source warningLevel, w => protocolVersion = 2 ∧ ∃ first second,
      Form .string message first ∧ Form .string source second ∧
      w = first ++ second ++ [warningLevel]
  | .textMessage1 messageType message, w => protocolVersion = 1 ∧ w = messageType :: message
  | .noTextMessage, w => protocolVersion ≠ 2 ∧ protocolVersion ≠ 1 ∧ w = []
  | .urcontrolVersion version, w => w = writeArray serializeUInt32 4 version
  | .accepted packageType accepted, w => packageType ∈ acceptedTypes ∧ w = [accepted]
  | .setupInputs recipeId variableTypes, w => w = recipeId :: variableTypes
  | .setupOutputs2 recipeId variableTypes, w => protocolVersion = 2 ∧ w = recipeId :: variableTypes
  | .setupOutputs1 variableTypes, w => protocolVersion = 1 ∧ w = variableTypes
  | .raw packageType bytes, w => w = bytes ∧ packageType ∉ acceptedTypes ∧ packageType ∉
      [dataPackageType, textMessageType, urcontrolVersionType, setupInputsType, setupOutputsType]

variable {protocolVersion : UInt16} {filled : DataPackage} {bytes : List UInt8} {product : Product}

/-- What is read behind a byte. -/
theorem bind_parseUInt8_eq_some_iff {α : Type} {next : UInt8 × List UInt8 → Option α} {a : α} :
    (parseUInt8 bytes).bind next = some a ↔
      ∃ byte rest, bytes = byte :: rest ∧ next (byte, rest) = some a := by
  rw [lawful_uint8.recognizes.bind_eq_some_iff]
  constructor
  · rintro ⟨byte, w, rest, rfl, rfl, hnext⟩
    exact ⟨byte, rest, rfl, hnext⟩
  · rintro ⟨byte, rest, rfl, hnext⟩
    exact ⟨byte, [byte], rest, rfl, rfl, hnext⟩

/-- A header is accepted when the size in it lies between its own length and that of all bytes. -/
theorem getPackageTypeFromHeader_eq_some_iff {packageType : UInt8} {rest : List UInt8} :
    getPackageTypeFromHeader bytes = some (packageType, rest) ↔
      ∃ size : UInt16, 3 ≤ size.toNat ∧ size.toNat ≤ bytes.length ∧
        bytes = writeWord 2 size.toNat ++ packageType :: rest := by
  rw [getPackageTypeFromHeader, Option.bind_eq_bind, lawful_uint16.recognizes.bind_eq_some_iff]
  simp only [Option.bind_eq_bind, bind_parseUInt8_eq_some_iff, Option.ite_none_right_eq_some,
    Option.some.injEq, Prod.mk.injEq]
  constructor
  · rintro ⟨size, w, middle, rfl, rfl, packageType', rest', rfl, ⟨hmin, hmax⟩, rfl, rfl⟩
    refine ⟨size, hmin, ?_, rfl⟩
    simp only [List.length_append, length_writeWord, List.length_cons]
    omega
  · rintro ⟨size, hmin, hmax, rfl⟩
    simp only [List.length_append, length_writeWord, List.length_cons] at hmax
    exact ⟨size, _, _, rfl, rfl, packageType, rest, rfl, ⟨hmin, by omega⟩, rfl, rfl⟩

theorem DataPackage.map_snd_types (package : DataPackage) :
    (package.data.map (·.2)).map (·.1) = package.types := by
  rw [DataPackage.types, List.map_map]
  rfl

/-- The values of the types of a package, in their places. -/
theorem zip_eq_iff {package : DataPackage} {values : List Entry}
    (hvalues : values.map (·.1) = filled.types) :
    package.data = (filled.data.map (·.1)).zip values ↔
      package.data.map (·.1) = filled.data.map (·.1) ∧ package.data.map (·.2) = values := by
  have hlength : (filled.data.map (·.1)).length = values.length := by
    have hlength := congrArg List.length hvalues
    rw [List.length_map, DataPackage.types, List.length_map] at hlength
    rw [List.length_map, hlength]
  constructor
  · intro hdata
    rw [hdata]
    exact ⟨List.map_fst_zip hlength.le, List.map_snd_zip hlength.ge⟩
  · rintro ⟨hnames, rfl⟩
    rw [← hnames]
    exact List.zip_of_prod rfl rfl

/-- A data package is parsed into one of the same shape. Its values are a form of the record, and
the recipe id is read in version 2 only. -/
theorem parseWith_eq_some_iff {package : DataPackage} :
    filled.parseWith bytes = some (package, []) ↔
      PayloadForm protocolVersion filled (.data package) bytes := by
  -- the values are read in the same way in every version
  have hrecord : ∀ {recipeId : UInt8} {bytes : List UInt8},
      (readRecord parse filled.types bytes).bind (fun p ↦
        some ({ filled with recipeId := recipeId, data := (filled.data.map (·.1)).zip p.1 }, p.2))
        = some (package, []) ↔
      package.SameShape filled ∧ package.recipeId = recipeId ∧
        RecordForm Form (package.data.map (·.2)) bytes := by
    intro recipeId bytes
    rw [Option.bind_eq_some_iff]
    constructor
    · rintro ⟨⟨values, rest⟩, hread, hsome⟩
      obtain ⟨rfl, rfl⟩ := Prod.mk.inj (Option.some.inj hsome)
      obtain ⟨hvalues, w, hw, rfl⟩ := (readRecord_eq_some_iff fun i _ ↦ recognizes_parse i).mp hread
      let package : DataPackage :=
        { filled with recipeId := recipeId, data := (filled.data.map (·.1)).zip values }
      have hdata : package.data = (filled.data.map (·.1)).zip values := rfl
      obtain ⟨hnames, hmap⟩ := (zip_eq_iff hvalues).mp hdata
      refine ⟨⟨hnames, ?_, rfl⟩, rfl, ?_⟩
      · rw [← DataPackage.map_snd_types, hmap, hvalues]
      · rw [hmap, List.append_nil]
        exact hw
    · rintro ⟨⟨hnames, htypes, hversion⟩, rfl, hform⟩
      have hvalues : (package.data.map (·.2)).map (·.1) = filled.types := by
        rw [DataPackage.map_snd_types, htypes]
      refine ⟨(package.data.map (·.2), []), (readRecord_eq_some_iff fun i _ ↦
        recognizes_parse i).mpr ⟨hvalues, bytes, hform, (List.append_nil _).symm⟩, ?_⟩
      rw [← (zip_eq_iff hvalues).mpr ⟨hnames, rfl⟩, ← hversion]
  rw [DataPackage.parseWith, Option.bind_eq_bind]
  by_cases hversion : filled.protocolVersion = 2
  · rw [if_pos hversion, bind_parseUInt8_eq_some_iff]
    constructor
    · rintro ⟨recipeId, rest, rfl, hread⟩
      obtain ⟨hshape, rfl, hform⟩ := hrecord.mp hread
      refine ⟨hshape, ?_, .inl hversion⟩
      rw [DataPackage.Form, if_pos (hshape.2.2.trans hversion)]
      exact ⟨rest, hform, rfl⟩
    · rintro ⟨hshape, hform, -⟩
      rw [DataPackage.Form, if_pos (hshape.2.2.trans hversion)] at hform
      obtain ⟨values, hvalues, rfl⟩ := hform
      exact ⟨package.recipeId, values, rfl, hrecord.mpr ⟨hshape, rfl, hvalues⟩⟩
  · rw [if_neg hversion, Option.bind_some]
    refine hrecord.trans ?_
    constructor
    · rintro ⟨hshape, hid, hform⟩
      refine ⟨hshape, ?_, .inr hid⟩
      rw [DataPackage.Form, if_neg (fun h ↦ hversion (hshape.2.2.symm.trans h))]
      exact hform
    · rintro ⟨hshape, hform, hid⟩
      rw [DataPackage.Form, if_neg (fun h ↦ hversion (hshape.2.2.symm.trans h))] at hform
      exact ⟨hshape, hid.resolve_left hversion, hform⟩

theorem form_of_parseTextMessage (h : parseTextMessage protocolVersion bytes = some (product, [])) :
    product.packageType = textMessageType ∧ PayloadForm protocolVersion filled product bytes := by
  rw [parseTextMessage] at h
  split_ifs at h with htwo hone
  · obtain ⟨message, first, middle, hmessage, rfl, hnext⟩ := recognizes_string.bind_eq_some_iff.mp h
    obtain ⟨source, second, last, hsource, rfl, hlast⟩ :=
      recognizes_string.bind_eq_some_iff.mp hnext
    obtain ⟨warningLevel, rest, rfl, hsome⟩ := bind_parseUInt8_eq_some_iff.mp hlast
    obtain ⟨rfl, rfl⟩ := Prod.mk.inj (Option.some.inj hsome)
    exact ⟨rfl, htwo, first, second, hmessage, hsource, (List.append_assoc _ _ _).symm⟩
  · obtain ⟨messageType, rest, rfl, hsome⟩ := bind_parseUInt8_eq_some_iff.mp h
    obtain ⟨rfl, -⟩ := Prod.mk.inj (Option.some.inj hsome)
    exact ⟨rfl, hone, rfl⟩
  · obtain ⟨rfl, rfl⟩ := Prod.mk.inj (Option.some.inj h)
    exact ⟨rfl, htwo, hone, rfl⟩

/-- The answer to a recipe of outputs, which version 1 gives without an id. -/
theorem form_of_parseSetupOutputs
    (h : parseSetupOutputs protocolVersion bytes = some (product, [])) :
    product.packageType = setupOutputsType ∧ PayloadForm protocolVersion filled product bytes := by
  rw [parseSetupOutputs] at h
  split_ifs at h with htwo hone
  · obtain ⟨recipeId, rest, rfl, hsome⟩ := bind_parseUInt8_eq_some_iff.mp h
    obtain ⟨rfl, -⟩ := Prod.mk.inj (Option.some.inj hsome)
    exact ⟨rfl, htwo, rfl⟩
  · obtain ⟨rfl, -⟩ := Prod.mk.inj (Option.some.inj h)
    exact ⟨rfl, hone, rfl⟩

/-- The branch of a type parses payloads of that type. -/
theorem form_of_parsePayload {packageType : UInt8}
    (h : parsePayload protocolVersion filled packageType bytes = some (product, [])) :
    product.packageType = packageType ∧ PayloadForm protocolVersion filled product bytes := by
  -- the types are tried in the order of the source
  rw [parsePayload] at h
  split_ifs at h with hdata htext hversion haccepted hinputs houtputs
  · obtain ⟨⟨package, rest⟩, hread, hsome⟩ := Option.bind_eq_some_iff.mp h
    obtain ⟨rfl, rfl⟩ := Prod.mk.inj (Option.some.inj hsome)
    exact ⟨hdata.symm, parseWith_eq_some_iff.mp hread⟩
  · rw [htext]
    exact form_of_parseTextMessage h
  · obtain ⟨version, w, rest, rfl, rfl, hsome⟩ :=
      (lawful_uint32.array 4).recognizes.bind_eq_some_iff.mp h
    obtain ⟨rfl, rfl⟩ := Prod.mk.inj (Option.some.inj hsome)
    exact ⟨hversion.symm, List.append_nil _⟩
  · obtain ⟨accepted, rest, rfl, hsome⟩ := bind_parseUInt8_eq_some_iff.mp h
    obtain ⟨rfl, rfl⟩ := Prod.mk.inj (Option.some.inj hsome)
    exact ⟨rfl, haccepted, rfl⟩
  · obtain ⟨recipeId, rest, rfl, hsome⟩ := bind_parseUInt8_eq_some_iff.mp h
    obtain ⟨rfl, -⟩ := Prod.mk.inj (Option.some.inj hsome)
    exact ⟨hinputs.symm, rfl⟩
  · rw [houtputs]
    exact form_of_parseSetupOutputs h
  · obtain ⟨rfl, -⟩ := Prod.mk.inj (Option.some.inj h)
    exact ⟨rfl, rfl, haccepted, by simp [hdata, htext, hversion, hinputs, houtputs]⟩

/-- The payload of a type is parsed if it is a form of a payload of that type. -/
theorem parsePayload_of_form (h : PayloadForm protocolVersion filled product bytes) :
    parsePayload protocolVersion filled product.packageType bytes = some (product, []) := by
  rcases product
  case data package =>
    have hread : filled.parseWith bytes = some (package, []) := parseWith_eq_some_iff.mpr h
    rw [Product.packageType, parsePayload, if_pos rfl, hread]
    rfl
  case textMessage message source warningLevel =>
    obtain ⟨htwo, first, second, hmessage, hsource, rfl⟩ := h
    change parseTextMessage protocolVersion _ = _
    rw [parseTextMessage, if_pos htwo]
    refine recognizes_string.bind_eq_some_iff.mpr
      ⟨message, first, _, hmessage, List.append_assoc _ _ _, ?_⟩
    exact recognizes_string.bind_eq_some_iff.mpr ⟨source, second, _, hsource, rfl, rfl⟩
  case textMessage1 messageType message =>
    obtain ⟨rfl, rfl⟩ := h
    rfl
  case noTextMessage =>
    obtain ⟨htwo, hone, rfl⟩ := h
    change parseTextMessage protocolVersion _ = _
    rw [parseTextMessage, if_neg htwo, if_neg hone]
  case urcontrolVersion version =>
    obtain rfl := h
    rw [Product.packageType, parsePayload, if_neg (by decide), if_neg (by decide), if_pos rfl]
    exact (lawful_uint32.array 4).recognizes.bind_eq_some_iff.mpr
      ⟨version, _, [], rfl, (List.append_nil _).symm, rfl⟩
  case accepted packageType accepted =>
    obtain ⟨hmem, rfl⟩ := h
    simp only [acceptedTypes, List.mem_cons, List.not_mem_nil, or_false] at hmem
    rcases hmem with rfl | rfl | rfl <;> rfl
  case setupInputs recipeId variableTypes =>
    obtain rfl := h
    rfl
  case setupOutputs2 recipeId variableTypes =>
    obtain ⟨rfl, rfl⟩ := h
    rfl
  case setupOutputs1 variableTypes =>
    obtain ⟨rfl, rfl⟩ := h
    rfl
  case raw packageType raw =>
    obtain ⟨rfl, haccepted, hknown⟩ := h
    simp only [List.mem_cons, List.not_mem_nil, or_false, not_or] at hknown
    obtain ⟨hdata, htext, hversion, hinputs, houtputs⟩ := hknown
    rw [Product.packageType, parsePayload, if_neg hdata, if_neg htext, if_neg hversion,
      if_neg haccepted, if_neg hinputs, if_neg houtputs]

/-- The parser accepts the forms of packages, and nothing else. The size in the header is not more
than there are bytes, and may be less. -/
theorem parse_eq_some_iff :
    RTDEParser.parse protocolVersion filled bytes = some product ↔
      ∃ (size : UInt16) (payload : List UInt8), 3 ≤ size.toNat ∧ size.toNat ≤ bytes.length ∧
        bytes = writeWord 2 size.toNat ++ product.packageType :: payload ∧
        PayloadForm protocolVersion filled product payload := by
  rw [RTDEParser.parse, Option.bind_eq_bind, Option.bind_eq_some_iff]
  constructor
  · rintro ⟨⟨packageType, payload⟩, hheader, h⟩
    obtain ⟨⟨product', rest⟩, hpayload, h⟩ := Option.bind_eq_some_iff.mp h
    dsimp only at h
    split_ifs at h with hrest
    obtain rfl := Option.some.inj h
    rw [hrest] at hpayload
    obtain ⟨rfl, hform⟩ := form_of_parsePayload hpayload
    obtain ⟨size, hmin, hmax, hbytes⟩ := getPackageTypeFromHeader_eq_some_iff.mp hheader
    exact ⟨size, payload, hmin, hmax, hbytes, hform⟩
  · rintro ⟨size, payload, hmin, hmax, hbytes, hform⟩
    refine ⟨(product.packageType, payload),
      getPackageTypeFromHeader_eq_some_iff.mpr ⟨size, hmin, hmax, hbytes⟩, ?_⟩
    exact Option.bind_eq_some_iff.mpr
      ⟨(product, []), parsePayload_of_form hform, rfl⟩

/-! ## Packages that were serialized

No field of a recipe is a text, so all fields have fixed sizes, and the length of a package tells
whether a byte was read too many. The size in the header is a sum in 16 bits, which is right for
packages below 2 ^ 16 bytes. -/

/-- The bytes of all fields. -/
def DataPackage.dataSize (package : DataPackage) : ℕ := (package.types.map FieldType.size).sum

/-- What is written has the length of its types. -/
theorem length_writeRecord {values : List Entry} (h : ∀ entry ∈ values, entry.1 ≠ .string) :
    (writeRecord serialize values).length = ((values.map (·.1)).map FieldType.size).sum := by
  induction values with
  | nil => rfl
  | cons entry values ih =>
    obtain ⟨hentry, hvalues⟩ := List.forall_mem_cons.mp h
    rw [writeRecord, List.flatMap_cons, List.length_append, length_serialize hentry, ← writeRecord,
      ih hvalues, List.map_cons, List.map_cons, List.sum_cons]

/-- A `bool` has many forms, but all of them are one byte. -/
theorem length_of_form : ∀ {type : FieldType} {value : type.Value} {w : List UInt8},
    type ≠ .string → Form type value w → w.length = type.size := by
  intro type value w hstring hform
  rcases type
  case bool =>
    obtain ⟨byte, rfl, -⟩ := hform
    rfl
  case string => exact absurd rfl hstring
  all_goals
    rw [show w = serialize _ value from hform]
    exact length_serialize hstring value

/-- Every form of a record is as long as what is written of it. -/
theorem length_of_recordForm {values : List Entry} (h : ∀ entry ∈ values, entry.1 ≠ .string) :
    ∀ {w : List UInt8}, RecordForm Form values w →
      w.length = ((values.map (·.1)).map FieldType.size).sum := by
  induction values with
  | nil =>
    rintro w rfl
    rfl
  | cons entry values ih =>
    rintro w ⟨first, others, hfirst, hothers, rfl⟩
    obtain ⟨hentry, hvalues⟩ := List.forall_mem_cons.mp h
    rw [List.length_append, length_of_form hentry hfirst, ih hvalues hothers, List.map_cons,
      List.map_cons, List.sum_cons]

/-- The sum in 16 bits is right as long as the package is short enough for its header. -/
theorem toNat_payloadSize {package : DataPackage} (h : package.dataSize + 1 < 2 ^ 16) :
    package.payloadSize.toNat = package.dataSize + 1 := by
  have hfold : ∀ (types : List FieldType) (size : UInt16),
      size.toNat + (types.map FieldType.size).sum < 2 ^ 16 →
      (types.foldl (fun size type ↦ size + UInt16.ofNat type.size) size).toNat
        = size.toNat + (types.map FieldType.size).sum := by
    intro types
    induction types with
    | nil => exact fun _ _ ↦ rfl
    | cons type types ih =>
      intro size hlt
      rw [List.map_cons, List.sum_cons] at hlt ⊢
      have hadd : (size + UInt16.ofNat type.size).toNat = size.toNat + type.size := by
        rw [UInt16.toNat_add, UInt16.toNat_ofNat', Nat.mod_eq_of_lt (b := 2 ^ 16) (by omega),
          Nat.mod_eq_of_lt (by omega)]
      rw [List.foldl_cons, ih _ (by omega), hadd, add_assoc]
  rw [DataPackage.payloadSize, hfold _ _ (by rw [add_comm]; exact h), add_comm]
  rfl

/-- The names and types of a recipe are those of the package. -/
def DataPackage.OfRecipe (package : DataPackage) (recipe : List String) : Prop :=
  ∃ data, initEmpty recipe = some data ∧ package.data.map (·.1) = data.map (·.1) ∧
    package.types = data.map (·.2.1)

/-- There is no type of inputs or outputs that is a text. -/
theorem DataPackage.OfRecipe.ne_string {package : DataPackage} {recipe : List String}
    (h : package.OfRecipe recipe) : ∀ entry ∈ package.data.map (·.2), entry.1 ≠ .string := by
  obtain ⟨data, hdata, -, htypes⟩ := h
  intro entry hentry
  have hmem : entry.1 ∈ package.types := by
    rw [← DataPackage.map_snd_types]
    exact List.mem_map_of_mem hentry
  rw [htypes] at hmem
  obtain ⟨named, hnamed, heq⟩ := List.mem_map.mp hmem
  rw [← heq]
  exact (initEmpty_eq_some hdata).2 named hnamed

/-- Packages of one recipe have the same names and types. -/
theorem DataPackage.OfRecipe.sameShape {package other : DataPackage} {recipe : List String}
    (h : package.OfRecipe recipe) (h' : other.OfRecipe recipe) :
    package.data.map (·.1) = other.data.map (·.1) ∧ package.types = other.types := by
  obtain ⟨data, hdata, hnames, htypes⟩ := h
  obtain ⟨data', hdata', hnames', htypes'⟩ := h'
  obtain rfl : data = data' := Option.some.inj (hdata.symm.trans hdata')
  exact ⟨hnames.trans hnames'.symm, htypes.trans htypes'.symm⟩

/-- The header of a package that fits is parsed. -/
theorem getPackageTypeFromHeader_serializePackage {package : DataPackage} {recipe : List String}
    (h : package.OfRecipe recipe) (hsize : package.dataSize + 4 < 2 ^ 16) :
    getPackageTypeFromHeader package.serializePackage = some (dataPackageType,
      package.recipeId :: writeRecord serialize (package.data.map (·.2))) := by
  have hpayload := toNat_payloadSize (show package.dataSize + 1 < 2 ^ 16 by omega)
  have hlength : (writeRecord serialize (package.data.map (·.2))).length = package.dataSize := by
    rw [length_writeRecord h.ne_string, DataPackage.map_snd_types, DataPackage.dataSize]
  have hadd : (3 + package.payloadSize).toNat = package.dataSize + 4 := by
    rw [UInt16.toNat_add, hpayload]
    exact (Nat.mod_eq_of_lt (by simp only [UInt16.reduceToNat]; omega)).trans
      (by simp only [UInt16.reduceToNat]; omega)
  refine getPackageTypeFromHeader_eq_some_iff.mpr ⟨3 + package.payloadSize, by omega, ?_, ?_⟩
  · rw [DataPackage.serializePackage, serializeHeader]
    simp only [List.length_append, length_writeWord, List.length_cons, List.length_nil, hlength]
    omega
  · rw [DataPackage.serializePackage, serializeHeader, List.append_assoc]
    rfl

/-- Into a package of the same recipe whose protocol version is 2, what is sent is read back. -/
theorem parse_of_eq_two {recipe : List String} {package filled : DataPackage}
    (hpackage : package.OfRecipe recipe) (hfilled : filled.OfRecipe recipe)
    (hsize : package.dataSize + 4 < 2 ^ 16) (hversion : filled.protocolVersion = 2) :
    RTDEParser.parse protocolVersion filled package.serializePackage
      = some (.data { package with protocolVersion := filled.protocolVersion }) := by
  obtain ⟨hnames, htypes⟩ := hpackage.sameShape hfilled
  rw [RTDEParser.parse, getPackageTypeFromHeader_serializePackage hpackage hsize,
    Option.bind_eq_bind, Option.bind_some]
  dsimp only
  have hform : PayloadForm protocolVersion filled
      (.data { package with protocolVersion := filled.protocolVersion })
      (package.recipeId :: writeRecord serialize (package.data.map (·.2))) := by
    refine ⟨⟨hnames, htypes, rfl⟩, ?_, .inl hversion⟩
    rw [DataPackage.Form, if_pos hversion]
    exact ⟨_, recordForm_writeRecord fun entry hentry ↦
      form_serialize (hpackage.ne_string entry hentry) _, rfl⟩
  have hparse := parsePayload_of_form hform
  rw [Product.packageType] at hparse
  rw [hparse]
  rfl

/-- For another version, the recipe id is one byte too many. -/
theorem parse_of_ne_two {recipe : List String} {package filled : DataPackage}
    (hpackage : package.OfRecipe recipe) (hfilled : filled.OfRecipe recipe)
    (hsize : package.dataSize + 4 < 2 ^ 16) (hversion : filled.protocolVersion ≠ 2) :
    RTDEParser.parse protocolVersion filled package.serializePackage = none := by
  obtain ⟨-, htypes⟩ := hpackage.sameShape hfilled
  rw [RTDEParser.parse, getPackageTypeFromHeader_serializePackage hpackage hsize,
    Option.bind_eq_bind, Option.bind_some]
  dsimp only
  rw [parsePayload, if_pos rfl]
  rcases hread : filled.parseWith
      (package.recipeId :: writeRecord serialize (package.data.map (·.2))) with _ | ⟨read, rest⟩
  · rw [hread]
    rfl
  · rw [hread]
    change (if rest = [] then some (Product.data read) else none) = none
    rw [if_neg]
    rintro rfl
    -- the fields alone would be one byte longer than they are
    obtain ⟨⟨-, htypes', hversion'⟩, hform, -⟩ :
      PayloadForm protocolVersion filled (.data read) _ := parseWith_eq_some_iff.mp hread
    rw [DataPackage.Form, if_neg fun h ↦ hversion (hversion'.symm.trans h)] at hform
    have hstring : ∀ entry ∈ read.data.map (·.2), entry.1 ≠ .string := by
      intro entry hentry
      have hmem : entry.1 ∈ package.types := by
        rw [htypes, ← htypes', ← DataPackage.map_snd_types]
        exact List.mem_map_of_mem hentry
      rw [← DataPackage.map_snd_types] at hmem
      obtain ⟨other, hother, heq⟩ := List.mem_map.mp hmem
      rw [← heq]
      exact hpackage.ne_string other hother
    have hlength := length_of_recordForm hstring hform
    rw [DataPackage.map_snd_types, htypes', ← htypes, List.length_cons,
      length_writeRecord hpackage.ne_string, DataPackage.map_snd_types] at hlength
    omega

/-- What is serialized is read back into a package of the same recipe whose protocol version is 2,
and never into another one. -/
theorem parse_serializePackage {recipe : List String} {package filled : DataPackage}
    (hpackage : package.OfRecipe recipe) (hfilled : filled.OfRecipe recipe)
    (hsize : package.dataSize + 4 < 2 ^ 16) :
    RTDEParser.parse protocolVersion filled package.serializePackage =
      if filled.protocolVersion = 2 then
        some (.data { package with protocolVersion := filled.protocolVersion })
      else none := by
  split_ifs with hversion
  · exact parse_of_eq_two hpackage hfilled hsize hversion
  · exact parse_of_ne_two hpackage hfilled hsize hversion

theorem parse_serializePackage_timestamp :
    let package : DataPackage := ⟨1, [("timestamp", ⟨.double, 5⟩)], 2⟩
    let filled : DataPackage := ⟨0, [("timestamp", ⟨.double, 0⟩)], 2⟩
    RTDEParser.parse 1 filled package.serializePackage =
      if filled.protocolVersion = 2 then
        some (.data { package with protocolVersion := filled.protocolVersion })
      else none := by
  intro package filled
  have hdata : initEmpty ["timestamp"] = some filled.data := by decide +kernel
  exact parse_serializePackage ⟨_, hdata, rfl, rfl⟩ ⟨_, hdata, rfl, rfl⟩ (by decide)

end VzletUr3e.Rtde
