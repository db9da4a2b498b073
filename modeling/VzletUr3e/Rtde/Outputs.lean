import VzletUr3e.Rtde.Writer

/-!
# What the robot is sent

Two consequences of the way `RTDEWriter` fills its packages. The mask of a bank of digital outputs
selects a single pin, whatever was requested for the package before: of several pins that are
requested in time for one package, only the last one is changed (`only_last_pin`). And a field
without a mask that is left alone is sent with the value it had two packages ago, even if it was
given another one in between (`value_comes_back`).
-/

namespace VzletUr3e.Rtde

open DoubleBuffer Runs

/-! ## Pins

A request for a digital output assigns the mask of its bank as a whole, with the bit of its own pin,
and a request for anything else leaves the mask alone (`assigned_mask`). So the pins that a batch
assigns to a mask are those it was requested for, and the last assignment of a batch is what is
sent. -/

/-- The pin that a request selects in the bank of a mask. -/
def Request.pinOf (maskName : String) : Request → Option UInt8
  | .standardDigitalOutput outputPin _ =>
    if maskName = "standard_digital_output_mask" ∧ outputPin ≤ 7 then some outputPin else none
  | .configurableDigitalOutput outputPin _ =>
    if maskName = "configurable_digital_output_mask" ∧ outputPin ≤ 7 then some outputPin else none
  | .toolDigitalOutput outputPin _ =>
    if maskName = "tool_digital_output_mask" ∧ outputPin ≤ 1 then some outputPin else none
  | _ => none

/-- The masks of the banks of digital outputs. -/
def digitalMasks : List String :=
  ["standard_digital_output_mask", "configurable_digital_output_mask", "tool_digital_output_mask"]

/-- A request for a single output. -/
def Request.Single : Request → Prop
  | .package _ => False
  | _ => True

/-- A name that is not among the fields is not assigned. -/
theorem lookup_fieldsIn_eq_none {recipe : List String} {fields : List (String × Entry)}
    {name : String} (h : name ∉ fields.map (·.1)) :
    (fieldsIn recipe fields).reverse.lookup name = none := by
  rw [List.lookup_eq_none_iff]
  intro field hfield
  rw [List.mem_reverse] at hfield
  rw [bne_iff_ne]
  rintro rfl
  exact h (List.mem_map_of_mem (List.takeWhile_sublist _ |>.subset hfield))

/-- A digital output assigns the mask of its bank, if the bank has the pin. -/
theorem assigned_digitalOutput {recipe : List String} {maskName keyMask keyOutput : String}
    (hrecipe : maskName ∈ recipe) (houtput : maskName ≠ keyOutput) (lastPin outputPin : UInt8)
    (value : Bool) :
    (fieldsIn recipe ((sendDigitalOutput lastPin keyMask keyOutput outputPin value).getD
      [])).reverse.lookup maskName
      = if maskName = keyMask ∧ outputPin ≤ lastPin then some ⟨.uint8, pinToMask outputPin⟩
        else none := by
  rw [sendDigitalOutput]
  by_cases hpin : lastPin < outputPin
  · rw [if_pos hpin, if_neg fun h ↦ (UInt8.not_le.mpr hpin) h.2]
    rfl
  · rw [if_neg hpin, Option.getD_some]
    by_cases hmask : maskName = keyMask
    -- the mask is the first of the two fields
    · subst hmask
      have hselected : maskName = maskName ∧ outputPin ≤ lastPin := ⟨rfl, UInt8.not_lt.mp hpin⟩
      rw [if_pos hselected, fieldsIn, List.takeWhile_cons_of_pos (by simpa using hrecipe),
        List.reverse_cons, List.lookup_append, ← fieldsIn,
        lookup_fieldsIn_eq_none (by simpa using houtput), Option.none_or, List.lookup_cons,
        beq_self_eq_true]
    · have hother : ¬(maskName = keyMask ∧ outputPin ≤ lastPin) := fun h ↦ hmask h.1
      rw [if_neg hother, lookup_fieldsIn_eq_none (by simp [hmask, houtput])]

/-- A register assigns no mask. -/
theorem assigned_inputRegister {recipe : List String} {maskName : String}
    (hmask : isMask maskName = true) (type : FieldType) (key : String)
    (first last registerId : UInt32) (value : type.Value) :
    (fieldsIn recipe ((sendInputRegister type key first last registerId value).getD
      [])).reverse.lookup maskName = none := by
  rw [sendInputRegister]
  split_ifs
  · rfl
  · refine lookup_fieldsIn_eq_none ?_
    rw [Option.getD_some, List.map_singleton, List.mem_singleton]
    rintro rfl
    rw [isMask_append_toString] at hmask
    exact absurd hmask Bool.false_ne_true

/-- Neither do fields that are no masks of digital outputs. -/
theorem assigned_other {recipe names : List String} {maskName : String}
    (hbank : maskName ∈ digitalMasks) (hnames : ∀ name ∈ names, name ∉ digitalMasks)
    {fields : List (String × Entry)} (hfields : fields.map (·.1) ⊆ names) :
    (fieldsIn recipe fields).reverse.lookup maskName = none :=
  lookup_fieldsIn_eq_none fun hmem ↦ hnames maskName (hfields hmem) hbank

/-- A request for a single output assigns the mask of its own bank, with its pin only. -/
theorem assigned_mask {recipe : List String} {maskName : String} (hbank : maskName ∈ digitalMasks)
    (hrecipe : maskName ∈ recipe) {request : Request} (hsingle : request.Single) :
    assigned recipe maskName request
      = (request.pinOf maskName).map fun pin ↦ some ⟨.uint8, pinToMask pin⟩ := by
  have hmask : isMask maskName = true := by
    have hall : ∀ maskName ∈ digitalMasks, isMask maskName = true := by decide +kernel
    exact hall maskName hbank
  have hne : ∀ {name : String}, name ∉ digitalMasks → maskName ≠ name := by
    rintro name hname rfl
    exact hname hbank
  have hite : ∀ {p : Prop} [Decidable p] {pin : UInt8},
      (if p then some (⟨.uint8, pinToMask pin⟩ : Entry) else none).map some
        = (if p then some pin else none).map fun pin ↦ some ⟨.uint8, pinToMask pin⟩ := by
    intro p _ pin
    split_ifs <;> rfl
  -- one case for each kind of request: three of them select pins, and the others name other fields
  rcases request
  case package => exact hsingle.elim
  case standardDigitalOutput =>
    exact (congrArg (Option.map some) (assigned_digitalOutput hrecipe
      (hne (by decide +kernel)) 7 _ _)).trans hite
  case configurableDigitalOutput =>
    exact (congrArg (Option.map some) (assigned_digitalOutput hrecipe
      (hne (by decide +kernel)) 7 _ _)).trans hite
  case toolDigitalOutput =>
    exact (congrArg (Option.map some) (assigned_digitalOutput hrecipe
      (hne (by decide +kernel)) 1 _ _)).trans hite
  case inputBitRegister =>
    exact congrArg (Option.map some) (assigned_inputRegister hmask .bool _ _ _ _ _)
  case inputIntRegister =>
    exact congrArg (Option.map some) (assigned_inputRegister hmask .int32 _ _ _ _ _)
  case inputDoubleRegister =>
    exact congrArg (Option.map some) (assigned_inputRegister hmask .double _ _ _ _ _)
  case speedSlider speedSliderFraction =>
    have hnames : ∀ name ∈ ["speed_slider_mask", "speed_slider_fraction"], name ∉ digitalMasks := by
      decide +kernel
    refine congrArg (Option.map some) (assigned_other hbank hnames ?_)
    rw [Request.fields, sendSpeedSlider]
    split_ifs
    · exact List.nil_subset _
    · exact List.Subset.refl _
  case standardAnalogOutput outputPin value type =>
    have hnames : ∀ name ∈ ["standard_analog_output_mask", "standard_analog_output_type",
        "standard_analog_output_0", "standard_analog_output_1"], name ∉ digitalMasks := by
      decide +kernel
    refine congrArg (Option.map some) (assigned_other hbank hnames ?_)
    rw [Request.fields, sendStandardAnalogOutput.eq_def]
    split_ifs
    · exact List.nil_subset _
    · exact List.nil_subset _
    · rcases type <;> simp
  case externalForceTorque =>
    have hnames : ∀ name ∈ ["external_force_torque"], name ∉ digitalMasks := by decide +kernel
    exact congrArg (Option.map some) (assigned_other hbank hnames (List.Subset.refl _))

/-! ## What is lost, and what comes back

Both results read single fields off `RTDEWriter.exists_packed`: a mask has what its batch assigned
last, and a field without a mask what was assigned last in the batches of its buffer, of which every
other one is. -/

/-- The mask of a bank selects the last pin that was requested for the package, and no other one,
if the package is made of requests for single outputs. -/
theorem only_last_pin {recipe : List String} {recipeId : UInt8} {writer : RTDEWriter}
    (hstart : RTDEWriter.start recipe recipeId = some writer) {events : List (Event Request)}
    (hevents : ∀ request ∈ requests events, request.OfRecipe recipe) :
    ∃ packages : List DataPackage, writer.Packed recipe events packages ∧
      ∀ maskName ∈ digitalMasks, maskName ∈ recipe → ∀ (k : ℕ) (batch : List Request),
        (writer.cut events).batches[k]? = some batch → (∀ request ∈ batch, request.Single) →
        (packages[k]?).map (·.getData maskName) = some (some
          ⟨.uint8, ((batch.filterMap (Request.pinOf maskName)).getLast?).elim 0 pinToMask⟩) := by
  obtain ⟨packages, hpacked, hfields⟩ := RTDEWriter.exists_packed hstart hevents
  refine ⟨packages, hpacked, fun maskName hbank hname k batch hbatch hsingle ↦ ?_⟩
  have hmask : ∀ maskName ∈ digitalMasks, isMask maskName = true ∧
      emptyOf maskName = some ⟨.uint8, 0⟩ := by decide +kernel
  rw [← List.getElem?_map, hfields maskName hname, fieldsSent, if_pos (hmask maskName hbank).1,
    List.getElem?_map, hbatch, Option.map_some]
  -- what the batch assigns to the mask are its pins
  have hassigned : batch.filterMap (assigned recipe maskName)
      = (batch.filterMap (Request.pinOf maskName)).map fun pin ↦ some ⟨.uint8, pinToMask pin⟩ := by
    rw [List.map_filterMap]
    exact List.filterMap_congr fun request hrequest ↦
      assigned_mask hbank hname (hsingle request hrequest)
  rw [lastAssigned, hassigned, List.getLast?_map, (hmask maskName hbank).2]
  rcases (batch.filterMap (Request.pinOf maskName)).getLast? <;> rfl

/-- Pins 0 and 1 are requested for one package, which changes pin 1 alone. -/
theorem only_last_pin_twoPins :
    let package : DataPackage := ⟨1, [("standard_digital_output_mask", ⟨.uint8, 0⟩),
      ("standard_digital_output", ⟨.uint8, 0⟩)], 2⟩
    let writer : RTDEWriter :=
      ⟨["standard_digital_output_mask"], package, package, false, .waiting, []⟩
    let events : List (Event Request) := [.request (.standardDigitalOutput 0 true),
      .request (.standardDigitalOutput 1 true), .sender, .sender]
    ∃ packages : List DataPackage, (run RTDEWriter.step writer events).taken
        = packages.map DataPackage.serializePackage ∧
      packages.map (·.getData "standard_digital_output_mask") = [some ⟨.uint8, 2⟩] := by
  intro package writer events
  let recipe := ["standard_digital_output_mask", "standard_digital_output"]
  have hstart : RTDEWriter.start recipe 1 = some writer := by decide +kernel
  obtain ⟨packages, hpacked, hmask⟩ := @only_last_pin _ _ _ hstart events
    (List.forall_mem_cons.mpr ⟨trivial, List.forall_mem_singleton.mpr trivial⟩)
  have hbatches : (writer.cut events).batches
      = [[.standardDigitalOutput 0 true, .standardDigitalOutput 1 true]] := by decide +kernel
  have hfirst := hmask "standard_digital_output_mask" (by decide) (by decide) 0
    [.standardDigitalOutput 0 true, .standardDigitalOutput 1 true] (by rw [hbatches]; rfl)
    (List.forall_mem_cons.mpr ⟨trivial, List.forall_mem_singleton.mpr trivial⟩)
  refine ⟨packages, hpacked.taken, ?_⟩
  obtain ⟨sent, rfl⟩ := List.length_eq_one_iff.mp (hpacked.length.trans (by rw [hbatches]; rfl))
  exact congrArg ([·]) (Option.some.inj hfirst)

/-- A field without a mask that is not assigned for a package is sent with its value from two
packages ago, whatever was assigned in between. -/
theorem value_comes_back {recipe : List String} {recipeId : UInt8} {writer : RTDEWriter}
    (hstart : RTDEWriter.start recipe recipeId = some writer) {events : List (Event Request)}
    (hevents : ∀ request ∈ requests events, request.OfRecipe recipe) :
    ∃ packages : List DataPackage, writer.Packed recipe events packages ∧
      ∀ name ∈ recipe, isMask name = false → ∀ (k : ℕ) (first third : List Request) entry,
        (writer.cut events).batches[k]? = some first →
        lastAssigned (assigned recipe name) first = some entry →
        (writer.cut events).batches[k + 2]? = some third →
        lastAssigned (assigned recipe name) third = none →
        (packages[k + 2]?).map (·.getData name) = some entry := by
  obtain ⟨packages, hpacked, hfields⟩ := RTDEWriter.exists_packed hstart hevents
  refine ⟨packages, hpacked, ?_⟩
  intro name hname hmask k first third entry hfirst hentry hthird hnone
  -- the third batch went into the buffer of the first one
  obtain ⟨before, hsame⟩ :=
    @alternating_add_two _ k [] [] (writer.cut events).batches first third hfirst hthird
  rw [← List.getElem?_map, hfields name hname, fieldsSent, if_neg (by simp [hmask]),
    List.getElem?_map, hsame, Option.map_some, lastAssigned_append, hnone, Option.none_or,
    lastAssigned_append, hentry]
  rfl

/-- A register is set and reset, and the package for another register sets it again. -/
theorem value_comes_back_register :
    let package : DataPackage := ⟨1, [("input_bit_register_64", ⟨.bool, false⟩),
      ("input_bit_register_65", ⟨.bool, false⟩)], 2⟩
    let writer : RTDEWriter := ⟨[], package, package, false, .waiting, []⟩
    let events : List (Event Request) := [.request (.inputBitRegister 64 true), .sender, .sender,
      .sender, .request (.inputBitRegister 64 false), .sender, .sender, .sender,
      .request (.inputBitRegister 65 true), .sender, .sender, .sender]
    ∃ packages : List DataPackage, (run RTDEWriter.step writer events).taken
        = packages.map DataPackage.serializePackage ∧
      (packages[2]?).map (·.getData "input_bit_register_64") = some (some ⟨.bool, true⟩) := by
  intro package writer events
  let recipe := ["input_bit_register_64", "input_bit_register_65"]
  have hstart : RTDEWriter.start recipe 1 = some writer := by decide +kernel
  obtain ⟨packages, hpacked, hback⟩ := @value_comes_back _ _ _ hstart events
    (List.forall_mem_cons.mpr ⟨trivial, List.forall_mem_cons.mpr
      ⟨trivial, List.forall_mem_singleton.mpr trivial⟩⟩)
  have hbatches : (writer.cut events).batches = [[.inputBitRegister 64 true],
      [.inputBitRegister 64 false], [.inputBitRegister 65 true]] := by decide +kernel
  refine ⟨packages, hpacked.taken, hback "input_bit_register_64" (by decide) (by decide) 0
    [.inputBitRegister 64 true] [.inputBitRegister 65 true] _ (by rw [hbatches]; rfl)
    (by decide +kernel) (by rw [hbatches]; rfl) (by decide +kernel)⟩

end VzletUr3e.Rtde
