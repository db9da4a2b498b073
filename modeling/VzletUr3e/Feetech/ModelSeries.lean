import VzletUr3e.Feetech.Driver
import VzletUr3e.Library.LazyView

/-!
# The check of the servo models

`FeetechHardwareInterface::validate_model_series_` looks at the servos through a lazy view, whose
function reads the model number of a servo off the bus. The view is traversed once to see whether
all servos are known, and once more to see whether they are all STS servos. The second traversal
reads the bus again, and takes the value of each result without asking whether there is one: the
first traversal has asked, but about other reads.

The bus is any state with a way to read a model number. That of the driver is the serial port.
-/

namespace VzletUr3e.Feetech

open StateError LazyView

/-! ## Models -/

inductive ModelSeries
  | kSmcl
  | kSmbl
  | kSts
  | kScs
deriving DecidableEq, Repr

def servoModel (major minor : ℕ) (modelName : String) : ℤ × String :=
  ((minor <<< 8 ||| major : ℕ), modelName)

def kModels : List (ℤ × String) :=
  [servoModel 5 0 "SCSXX", servoModel 5 4 "SCS009", servoModel 5 8 "SCS2332",
    servoModel 5 12 "SCS45", servoModel 5 15 "SCS15", servoModel 5 16 "SCS315",
    servoModel 5 25 "SCS115", servoModel 5 35 "SCS215", servoModel 5 40 "SCS40",
    servoModel 5 60 "SCS6560", servoModel 5 240 "SCDZZ", servoModel 6 0 "SMXX-360M",
    servoModel 6 3 "SM30-360M", servoModel 6 8 "SM60-360M", servoModel 6 12 "SM80-360M",
    servoModel 6 16 "SM100-360M", servoModel 6 20 "SM150-360M", servoModel 6 24 "SM85-360M",
    servoModel 6 26 "SM60-360M", servoModel 8 0 "SM30BL", servoModel 8 1 "SM30BL",
    servoModel 8 2 "SM30BL", servoModel 8 3 "SM30BL", servoModel 8 4 "SM30BL",
    servoModel 8 5 "SM30BL", servoModel 8 6 "SM30BL", servoModel 8 7 "SM30BL",
    servoModel 8 8 "SM30BL", servoModel 8 9 "SM30BL", servoModel 8 10 "SM30BL",
    servoModel 8 11 "SM30BL", servoModel 8 12 "SM30BL", servoModel 8 13 "SM30BL",
    servoModel 8 14 "SM30BL", servoModel 8 15 "SM30BL", servoModel 8 16 "SM30BL",
    servoModel 8 17 "SM30BL", servoModel 8 18 "SM30BL", servoModel 8 19 "SM30BL",
    servoModel 8 25 "SM29BL(LJ)", servoModel 8 29 "SM29BL(FT)", servoModel 8 30 "SM30BL(FT)",
    servoModel 8 20 "SM30BL(LJ)", servoModel 8 40 "SM40BLHV", servoModel 8 42 "SM45BLHV",
    servoModel 8 44 "SM85BLHV", servoModel 8 120 "SM120BLHV", servoModel 8 220 "SM200BLHV",
    servoModel 9 0 "STSXX", servoModel 9 2 "STS3032", servoModel 9 3 "STS3215",
    servoModel 9 4 "STS3040", servoModel 9 5 "STS3020", servoModel 9 6 "STS3046",
    servoModel 9 20 "SCSXX-2", servoModel 9 15 "SCS15-2", servoModel 9 35 "SCS225",
    servoModel 9 40 "SCS40-2"]

def startsWith (str modelPrefix : String) : Bool := modelPrefix.toList.isPrefixOf str.toList

/-- `find`, when it does not return `npos`. -/
def contains (str text : String) : Bool := str.toList.tails.any (text.toList.isPrefixOf ·)

def getModelName (modelNumber : ℤ) : Except String String :=
  match kModels.lookup modelNumber with
  | some modelName => .ok modelName
  | none => .error s!"Unknown model_number [{modelNumber}]"

def getModelSeries (modelName : String) : Except String ModelSeries :=
  if startsWith modelName "STS" then .ok .kSts
  else if startsWith modelName "SC" then .ok .kScs
  else if startsWith modelName "SM" then
    if contains modelName "BL" then .ok .kSmbl else .ok .kSmcl
  else .error s!"Unknown model_name [{modelName}]"

/-! ## The check -/

def smsStsModelL : UInt8 := 3

def readModelNumber (id : UInt8) : Cpp ℤ := readWord id smsStsModelL

/-- What leaves the function uncaught. -/
inductive Uncaught
  /-- `bad_expected_access`, with the error that stood in the place of the value. -/
  | badExpectedAccess (error : String)
  | exception (e : Exception)
deriving DecidableEq, Repr

/-- `spdlog::error` for a message whose text is made while it is logged. -/
structure Logger (σ : Type) where
  error : {α : Type} → String → EStateM Uncaught σ α → EStateM Uncaught σ Unit

/-- What is thrown while the text is made does not get out: the logger reports it on its own. -/
def Logger.Catches {σ : Type} (logger : Logger σ) : Prop :=
  ∀ (α : Type) (message : String) (text : EStateM Uncaught σ α) (s : σ),
    ∃ s', logger.error message text s = .ok () s'

section Function

variable {σ : Type} (logger : Logger σ) (busRead : UInt8 → EStateM Fault σ ℤ)

/-- The function of the view `joint_model_series`. -/
def jointModelSeries (id : UInt8) : EStateM Uncaught σ (Except String ModelSeries) := fun s ↦
  match busRead id s with
  | .ok modelNumber s' => .ok (getModelName modelNumber >>= getModelSeries) s'
  | .error (.unexpected error) s' => .ok (.error error) s'
  | .error (.thrown e) s' => .error (.exception e) s'

variable {busRead} in
theorem jointModelSeries_of_ok {id : UInt8} {modelNumber : ℤ} {s s' : σ}
    (h : busRead id s = .ok modelNumber s') :
    jointModelSeries busRead id s = .ok (getModelName modelNumber >>= getModelSeries) s' := by
  rw [jointModelSeries, h]

/-- `series.value()`. -/
def seriesValue : Except String ModelSeries → EStateM Uncaught σ ModelSeries
  | .ok series => pure series
  | .error error => throw (.badExpectedAccess error)

/-- The function of the view `js`. -/
def jointModelValue (id : UInt8) : EStateM Uncaught σ ModelSeries := do
  let series ← jointModelSeries busRead id
  seriesValue series

/-- The traversal of `ranges::views::zip(joint_ids_, view)` that a log text makes. -/
def zipView {α : Type} (view : UInt8 → EStateM Uncaught σ α) (jointIds : List UInt8) :
    EStateM Uncaught σ (List (UInt8 × α)) :=
  jointIds.mapM fun id ↦ do
    let value ← view id
    return (id, value)

/-- `FeetechHardwareInterface::validate_model_series_`. -/
def validateModelSeries (jointIds : List UInt8) : EStateM Uncaught σ CallbackReturn := do
  if ← anyOf (fun series ↦ !series.toBool) (jointModelSeries busRead) jointIds then
    logger.error
      "FeetechHardware::validate_model_series_ [One of the joints has an error]. Input: \x7b\x7d"
      (zipView (jointModelSeries busRead) jointIds)
    return .error
  if ← anyOf (fun series ↦ series ≠ .kSts) (jointModelValue busRead) jointIds then
    logger.error
      "FeetechHardware::validate_model_series_ [Only STS series is supported]. Input (id, series): \x7b\x7d"
      (zipView (jointModelValue busRead) jointIds)
    return .error
  return .success

end Function

/-! ## What the traversals see -/

variable {σ : Type} {logger : Logger σ} {busRead : UInt8 → EStateM Fault σ ℤ}
  {jointIds : List UInt8} {s s' : σ}

/-- The servo was read, and its model is known. -/
def HasSeries (result : Except String ModelSeries) : Prop := ∃ series, result = .ok series

/-- It is an STS servo. -/
def IsSts (result : Except String ModelSeries) : Prop := result = .ok .kSts

theorem not_toBool_iff {result : Except String ModelSeries} :
    (!result.toBool) = false ↔ HasSeries result := by
  rcases result with error | series
  · exact iff_of_false (by simp [Except.toBool]) (by rintro ⟨_, ⟨⟩⟩)
  · exact iff_of_true rfl ⟨series, rfl⟩

/-- The first search finds nothing when all servos have a series. -/
theorem first_eq_false_iff :
    anyOf (fun series ↦ !series.toBool) (jointModelSeries busRead) jointIds s
      = .ok false s' ↔ Evaluates (jointModelSeries busRead) HasSeries jointIds s s' := by
  rw [anyOf_eq_false_iff]
  exact evaluates_congr fun _ _ _ ↦ exists_congr fun _ ↦ and_congr_right fun _ ↦ not_toBool_iff

/-- The value of a result that has one. -/
theorem jointModelValue_eq_ok_iff {id : UInt8} {series : ModelSeries} :
    jointModelValue busRead id s = .ok series s' ↔
      jointModelSeries busRead id s = .ok (.ok series) s' := by
  rw [jointModelValue, bind_eq_ok_iff]
  constructor
  · rintro ⟨error | series', s₁, h, hvalue⟩
    · cases hvalue
    · cases hvalue
      exact h
  · exact fun h ↦ ⟨_, s', h, rfl⟩

/-- The second traversal goes on as long as it sees STS servos. -/
theorem value_iff_isSts (id : UInt8) (s s' : σ) :
    (∃ series, jointModelValue busRead id s = .ok series s' ∧
        (decide (series ≠ .kSts)) = false) ↔
      ∃ result, jointModelSeries busRead id s = .ok result s' ∧ IsSts result := by
  constructor
  · rintro ⟨series, h, hsts⟩
    obtain rfl : series = .kSts := not_not.mp (of_decide_eq_false hsts)
    exact ⟨_, jointModelValue_eq_ok_iff.mp h, rfl⟩
  · rintro ⟨_, h, rfl⟩
    exact ⟨_, jointModelValue_eq_ok_iff.mpr h, rfl⟩

/-- No read of the first traversal lets an exception out, and when it has a series for every servo,
the second one has a series again for every servo that it reads: it stops behind the first one that
is no STS servo. -/
structure ReadsAgain (busRead : UInt8 → EStateM Fault σ ℤ) (jointIds : List UInt8) (s : σ) :
    Prop where
  first : ∀ id s₁, Reaches (jointModelSeries busRead) HasSeries jointIds s id s₁ →
    ∃ result s₂, jointModelSeries busRead id s₁ = .ok result s₂
  second : ∀ s₁, Evaluates (jointModelSeries busRead) HasSeries jointIds s s₁ →
    ∀ id s₂, Reaches (jointModelSeries busRead) IsSts jointIds s₁ id s₂ →
      ∃ series s₃, jointModelSeries busRead id s₂ = .ok (.ok series) s₃

/-- `validate_model_series_` returns. It returns `SUCCESS` exactly when all servos have a series and
are all read as STS servos behind that, and `ERROR` otherwise. -/
structure Validates (logger : Logger σ) (busRead : UInt8 → EStateM Fault σ ℤ)
    (jointIds : List UInt8) (s : σ) : Prop where
  returns : ∃ r s', validateModelSeries logger busRead jointIds s = .ok r s'
  success : ∀ s', validateModelSeries logger busRead jointIds s = .ok .success s' ↔
    ∃ s₁, Evaluates (jointModelSeries busRead) HasSeries jointIds s s₁ ∧
      Evaluates (jointModelSeries busRead) IsSts jointIds s₁ s'
  otherwise : ∀ r s', validateModelSeries logger busRead jointIds s = .ok r s' →
    r = .success ∨ r = .error

/-! ## Runs of the check -/

theorem validate_of_first_error {e : Uncaught}
    (h : anyOf (fun series ↦ !series.toBool) (jointModelSeries busRead) jointIds s
      = .error e s') : validateModelSeries logger busRead jointIds s = .error e s' := by
  rw [validateModelSeries, bind_of_error h]

theorem validate_of_first_true (hlog : logger.Catches)
    (h : anyOf (fun series ↦ !series.toBool) (jointModelSeries busRead) jointIds s
      = .ok true s') :
    ∃ s'', validateModelSeries logger busRead jointIds s = .ok .error s'' := by
  rw [validateModelSeries, bind_of_ok h, if_pos rfl]
  obtain ⟨s'', hs''⟩ := hlog _ _ _ s'
  rw [bind_of_ok hs'']
  exact ⟨s'', rfl⟩

theorem validate_of_second_error {s₁ : σ} {e : Uncaught}
    (hfirst : anyOf (fun series ↦ !series.toBool) (jointModelSeries busRead) jointIds s
      = .ok false s₁)
    (h : anyOf (fun series ↦ series ≠ .kSts) (jointModelValue busRead) jointIds s₁
      = .error e s') : validateModelSeries logger busRead jointIds s = .error e s' := by
  rw [validateModelSeries, bind_of_ok hfirst, if_neg Bool.false_ne_true, bind_of_error h]

theorem validate_of_second_true {s₁ : σ} (hlog : logger.Catches)
    (hfirst : anyOf (fun series ↦ !series.toBool) (jointModelSeries busRead) jointIds s
      = .ok false s₁)
    (h : anyOf (fun series ↦ series ≠ .kSts) (jointModelValue busRead) jointIds s₁
      = .ok true s') :
    ∃ s'', validateModelSeries logger busRead jointIds s = .ok .error s'' := by
  rw [validateModelSeries, bind_of_ok hfirst, if_neg Bool.false_ne_true, bind_of_ok h, if_pos rfl]
  obtain ⟨s'', hs''⟩ := hlog _ _ _ s'
  rw [bind_of_ok hs'']
  exact ⟨s'', rfl⟩

theorem validate_of_second_false {s₁ : σ}
    (hfirst : anyOf (fun series ↦ !series.toBool) (jointModelSeries busRead) jointIds s
      = .ok false s₁)
    (h : anyOf (fun series ↦ series ≠ .kSts) (jointModelValue busRead) jointIds s₁
      = .ok false s') :
    validateModelSeries logger busRead jointIds s = .ok .success s' := by
  rw [validateModelSeries, bind_of_ok hfirst, if_neg Bool.false_ne_true, bind_of_ok h,
    if_neg Bool.false_ne_true]
  rfl

/-- How the check can end. -/
theorem validate_cases (hlog : logger.Catches) :
    (∃ s', validateModelSeries logger busRead jointIds s = .ok .error s') ∨
    (∃ s₁ s', validateModelSeries logger busRead jointIds s = .ok .success s' ∧
      anyOf (fun series ↦ !series.toBool) (jointModelSeries busRead) jointIds s
        = .ok false s₁ ∧
      anyOf (fun series ↦ series ≠ .kSts) (jointModelValue busRead) jointIds s₁
        = .ok false s') ∨
    ∃ e s', validateModelSeries logger busRead jointIds s = .error e s' := by
  rcases hfirst : anyOf (fun series ↦ !series.toBool) (jointModelSeries busRead) jointIds s
    with ⟨_ | _, s₁⟩ | ⟨e, s₁⟩
  · rcases hsecond : anyOf (fun series ↦ series ≠ .kSts) (jointModelValue busRead) jointIds
      s₁ with ⟨_ | _, s₂⟩ | ⟨e, s₂⟩
    · exact .inr (.inl ⟨s₁, s₂, validate_of_second_false hfirst hsecond, hfirst, hsecond⟩)
    · exact .inl (validate_of_second_true hlog hfirst hsecond)
    · exact .inr (.inr ⟨e, s₂, validate_of_second_error hfirst hsecond⟩)
  · exact .inl (validate_of_first_true hlog hfirst)
  · exact .inr (.inr ⟨e, s₁, validate_of_first_error hfirst⟩)

/-- The second search finds nothing when all servos are STS servos. -/
theorem second_eq_false_iff :
    anyOf (fun series ↦ series ≠ .kSts) (jointModelValue busRead) jointIds s
      = .ok false s' ↔ Evaluates (jointModelSeries busRead) IsSts jointIds s s' := by
  rw [anyOf_eq_false_iff]
  exact evaluates_congr value_iff_isSts

/-- A value fails when there is none. -/
theorem exists_jointModelValue_error_iff {id : UInt8} :
    (∃ e s', jointModelValue busRead id s = .error e s') ↔
      ¬∃ series s', jointModelSeries busRead id s = .ok (.ok series) s' := by
  rw [jointModelValue]
  rcases h : jointModelSeries busRead id s with ⟨error | series, s₁⟩ | ⟨e, s₁⟩
  · rw [bind_of_ok h]
    exact iff_of_true ⟨_, s₁, rfl⟩ (by rintro ⟨_, _, ⟨⟩⟩)
  · rw [bind_of_ok h]
    exact iff_of_false (by rintro ⟨_, _, ⟨⟩⟩) (not_not.mpr ⟨series, s₁, rfl⟩)
  · rw [bind_of_error h]
    exact iff_of_true ⟨e, s₁, rfl⟩ (by rintro ⟨_, _, ⟨⟩⟩)

/-- Without an exception the bus answers as it should. -/
theorem readsAgain_of_returns
    (h : ∀ e s', validateModelSeries logger busRead jointIds s ≠ .error e s') :
    ReadsAgain busRead jointIds s := by
  constructor
  · intro id s₁ hreaches
    rcases hid : jointModelSeries busRead id s₁ with ⟨result, s₂⟩ | ⟨e, s₂⟩
    · exact ⟨result, s₂, rfl⟩
    · have hreaches' := (reaches_congr fun _ _ _ ↦ exists_congr fun _ ↦ and_congr_right fun _ ↦
        not_toBool_iff).mpr hreaches
      exact absurd (validate_of_first_error (anyOf_eq_error_iff.mpr ⟨id, s₁, hreaches', hid⟩))
        (h e s₂)
  · intro s₁ hall id s₂ hreaches
    by_contra hnone
    obtain ⟨e, s₃, hid⟩ := exists_jointModelValue_error_iff.mpr hnone
    have hreaches' := (reaches_congr value_iff_isSts).mpr hreaches
    exact absurd (validate_of_second_error (first_eq_false_iff.mpr hall)
      (anyOf_eq_error_iff.mpr ⟨id, s₂, hreaches', hid⟩)) (h e s₃)

/-- If the bus answers so, nothing is thrown. -/
theorem ReadsAgain.returns (h : ReadsAgain busRead jointIds s) (hlog : logger.Catches) :
    ∃ r s', validateModelSeries logger busRead jointIds s = .ok r s' := by
  rcases hfirst : anyOf (fun series ↦ !series.toBool) (jointModelSeries busRead) jointIds s
    with ⟨_ | _, s₁⟩ | ⟨e, s₁⟩
  · rcases hsecond : anyOf (fun series ↦ series ≠ .kSts) (jointModelValue busRead) jointIds
      s₁ with ⟨_ | _, s₂⟩ | ⟨e, s₂⟩
    · exact ⟨_, _, validate_of_second_false hfirst hsecond⟩
    · exact ⟨_, validate_of_second_true hlog hfirst hsecond⟩
    · obtain ⟨id, s₃, hreaches, hid⟩ := anyOf_eq_error_iff.mp hsecond
      have hagain := h.second s₁ (first_eq_false_iff.mp hfirst) id s₃
        ((reaches_congr value_iff_isSts).mp hreaches)
      exact absurd hagain (exists_jointModelValue_error_iff.mp ⟨e, s₂, hid⟩)
  · exact ⟨_, validate_of_first_true hlog hfirst⟩
  · obtain ⟨id, s₂, hreaches, hid⟩ := anyOf_eq_error_iff.mp hfirst
    obtain ⟨result, s₃, hok⟩ := h.first id s₂ ((reaches_congr fun _ _ _ ↦ exists_congr fun _ ↦
      and_congr_right fun _ ↦ not_toBool_iff).mp hreaches)
    rw [hid] at hok
    cases hok

theorem Validates.readsAgain (h : Validates logger busRead jointIds s) :
    ReadsAgain busRead jointIds s := by
  obtain ⟨r, s', hreturns⟩ := h.returns
  refine @readsAgain_of_returns σ logger _ _ _ fun e s'' hthrown ↦ ?_
  rw [hreturns] at hthrown
  cases hthrown

/-- **When the models are checked.** With a logger that catches what the making of its texts throws,
`validate_model_series_` keeps its word exactly when the reads of the second traversal, up to the
first servo that is no STS servo, find a series again, and no exception comes from the bus. -/
theorem validates_iff (hlog : logger.Catches) :
    Validates logger busRead jointIds s ↔ ReadsAgain busRead jointIds s := by
  refine ⟨Validates.readsAgain, fun h ↦ ?_⟩
  refine ⟨h.returns hlog, fun s' ↦ ?_, fun r s' hr ↦ ?_⟩
  · constructor
    · intro hsuccess
      rcases @validate_cases σ logger busRead jointIds s hlog with
        ⟨s'', herror⟩ | ⟨s₁, s'', hsuccess', hfirst, hsecond⟩ | ⟨e, s'', hthrown⟩
      · rw [herror] at hsuccess
        cases hsuccess
      · rw [hsuccess'] at hsuccess
        cases hsuccess
        exact ⟨s₁, first_eq_false_iff.mp hfirst, second_eq_false_iff.mp hsecond⟩
      · rw [hthrown] at hsuccess
        cases hsuccess
    · rintro ⟨s₁, hfirst, hsecond⟩
      exact validate_of_second_false (first_eq_false_iff.mpr hfirst)
        (second_eq_false_iff.mpr hsecond)
  · rcases @validate_cases σ logger busRead jointIds s hlog with
      ⟨s'', herror⟩ | ⟨s₁, s'', hsuccess, -⟩ | ⟨e, s'', hthrown⟩
    · rw [herror] at hr
      cases hr
      exact .inr rfl
    · rw [hsuccess] at hr
      cases hr
      exact .inl rfl
    · rw [hthrown] at hr
      cases hr

/-! ## A servo that answers once -/

/-- A logger that drops what it cannot log. -/
def catchingLogger : Logger σ where
  error _ text s :=
    match text s with
    | .ok _ s' => .ok () s'
    | .error _ s' => .ok () s'

theorem catchingLogger_catches : (catchingLogger : Logger σ).Catches := by
  intro α message text s
  rcases h : text s with ⟨a, s'⟩ | ⟨e, s'⟩
  · exact ⟨s', by simp only [catchingLogger, h]⟩
  · exact ⟨s', by simp only [catchingLogger, h]⟩

/-- The reply of servo 1 that it is an STS3215. -/
def modelReply : StatusPacket := ⟨1, 4, 0, [9, 3], 0xee⟩

/-- The line on which it arrives the given number of times. -/
def modelLine : ℕ → List RxEvent
  | 0 => []
  | times + 1 => ([0xff, 0xff] ++ modelReply.bytes).map .byte ++ modelLine times

/-- A reply on the line is read, and the rest of the line stays. -/
theorem read_modelLine {port : SerialPort} {times : ℕ} (hport : port.WritesSucceed)
    (hrx : port.rx = modelLine (times + 1)) :
    ∃ port', jointModelSeries readModelNumber 1 port = .ok (.ok .kSts) port' ∧
      port'.WritesSucceed ∧ port'.rx = modelLine times := by
  have htakes : TakesPacket 2 port.rx modelReply (modelLine times) :=
    ⟨rfl, [], by simp, by decide, by rw [hrx, modelLine]; simp⟩
  have hread := (@readWord_eq_ok_iff 1 smsStsModelL port _ _).mpr
    ⟨hport.canWrite 1, modelReply, modelLine times, htakes, by decide, rfl, rfl⟩
  have hseries : (getModelName (fromSts ⟨modelReply.data.getD 0 0, modelReply.data.getD 1 0⟩)
      >>= getModelSeries) = .ok .kSts := by decide
  have hresult := jointModelSeries_of_ok hread
  rw [hseries] at hresult
  refine ⟨_, hresult, ⟨hport.isOpen, fun k hk ↦ ?_⟩, rfl⟩
  exact hport.acceptsAll k (Nat.le_of_succ_le hk)

/-- Without one there is no series. -/
theorem not_read_silence {port : SerialPort} (hrx : port.rx = modelLine 0) :
    ¬∃ series port', jointModelSeries readModelNumber 1 port = .ok (.ok series) port' := by
  rintro ⟨series, port', h⟩
  rcases hread : readModelNumber 1 port with ⟨modelNumber, port''⟩ | ⟨error | e, port''⟩
  · obtain ⟨-, p, rest, htakes, -⟩ := readWord_eq_ok_iff.mp hread
    obtain ⟨noise, -, -, hline⟩ := htakes.found
    rw [hrx, modelLine] at hline
    exact absurd (congrArg List.length hline) (by simp)
  · rw [jointModelSeries, hread] at h
    cases h
  · rw [jointModelSeries, hread] at h
    cases h

/-- A servo that does not answer a second time ends the check with an exception. -/
theorem servo_answers_once :
    ¬Validates catchingLogger readModelNumber [1] (openPort (modelLine 1)) := by
  obtain ⟨port, hread, -, hrx⟩ := read_modelLine (openPort_writesSucceed (modelLine 1)) rfl
  generalize openPort (modelLine 1) = s at hread
  intro h
  have hall : Evaluates (jointModelSeries readModelNumber) HasSeries [1] s port :=
    .cons hread ⟨.kSts, rfl⟩ (.nil port)
  exact not_read_silence hrx (h.readsAgain.second port hall 1 port (reaches_head 1))

/-- One that does is accepted. -/
theorem servo_answers_twice :
    Validates catchingLogger readModelNumber [1] (openPort (modelLine 2)) := by
  obtain ⟨port, hread, hport, hrx⟩ := read_modelLine (openPort_writesSucceed (modelLine 2)) rfl
  obtain ⟨port', hread', -⟩ := read_modelLine hport hrx
  generalize openPort (modelLine 2) = s at hread
  refine (validates_iff catchingLogger_catches).mpr ⟨fun id s₁ hreaches ↦ ?_, fun s₁ hall id s₂
    hreaches ↦ ?_⟩
  · obtain ⟨rfl, rfl⟩ := reaches_singleton_iff.mp hreaches
    exact ⟨_, port, hread⟩
  · obtain ⟨rfl, rfl⟩ := reaches_singleton_iff.mp hreaches
    rcases hall with _ | ⟨hread₁, -, _ | _⟩
    rw [hread] at hread₁
    cases hread₁
    exact ⟨_, port', hread'⟩

end VzletUr3e.Feetech
