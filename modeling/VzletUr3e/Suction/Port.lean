import VzletUr3e.Library.Runs
import VzletUr3e.Library.StateError
import VzletUr3e.Suction.Receive

/-!
# Opening and closing the port

`on_configure` opens the device and sets it up, `on_cleanup` closes it. There are four ways out of
an opening that fails, and three of them close the device again. The fourth is the exception of
`baud_to_constant`: it leaves the device open, although it is not set up.

What the device answers is part of a call. The settings themselves are left out, apart from the
speed that has to be in the table.
-/

namespace VzletUr3e.Suction

open Runs StateError

/-! ## The functions -/

/-- The speeds of `termios.h` that `baud_to_constant` knows. -/
inductive BaudConstant
  | b9600
  | b19200
  | b38400
  | b57600
  | b115200
  | b230400
deriving DecidableEq, Repr

/-- `baud_to_constant`, with the text of its exception. -/
def baudToConstant (baud : ℤ) : Except String BaudConstant :=
  if baud = 9600 then .ok .b9600
  else if baud = 19200 then .ok .b19200
  else if baud = 38400 then .ok .b38400
  else if baud = 57600 then .ok .b57600
  else if baud = 115200 then .ok .b115200
  else if baud = 230400 then .ok .b230400
  else .error ("Unsupported baud rate: " ++ toString baud)

/-- The results of `::open`, `::tcgetattr` and `::tcsetattr`, as far as they are called. -/
structure Opening where
  opened : ℤ
  tcgetattr : ℤ
  tcsetattr : ℤ
deriving DecidableEq, Repr

/-- `rclcpp_lifecycle`'s `CallbackReturn`. -/
inductive CallbackReturn
  | success
  | error
deriving DecidableEq, Repr

/-- Code of the interface, which may throw. -/
abbrev Method := EStateM String Driver

def setFd (fd : ℤ) : Method Unit :=
  modify fun d ↦ { d with system := { d.system with fd := fd } }

/-- `close_uart`. -/
def closeUart : Method Unit := do
  if 0 ≤ (← get).system.fd then setFd (-1)

/-- An exception, or a value. -/
def orThrow {α : Type} : Except String α → Method α
  | .ok a => pure a
  | .error what => throw what

/-- `configure_uart`. -/
def configureUart (baudRate : ℤ) (o : Opening) : Method Bool := do
  if o.tcgetattr ≠ 0 then return false
  let _baudConstant ← orThrow (baudToConstant baudRate)
  if o.tcsetattr ≠ 0 then return false
  return true

/-- `open_uart`. -/
def openUart (baudRate : ℤ) (o : Opening) : Method Bool := do
  closeUart
  setFd o.opened
  if (← get).system.fd < 0 then return false
  if ¬ (← configureUart baudRate o) then
    closeUart
    return false
  return true

/-- `SuctionGripperSystem::on_configure`. -/
def onConfigure (baudRate : ℤ) (o : Opening) : Method CallbackReturn := do
  if ¬ (← openUart baudRate o) then return .error
  return .success

/-- `SuctionGripperSystem::on_cleanup`. -/
def onCleanup : Method CallbackReturn := do
  closeUart
  return .success

/-! ## What they do -/

/-- The driver with another file descriptor. -/
def Driver.withFd (d : Driver) (fd : ℤ) : Driver := { d with system := { d.system with fd := fd } }

/-- Closing leaves no descriptor. -/
theorem closeUart_apply (d : Driver) :
    closeUart d = .ok () (if 0 ≤ d.system.fd then d.withFd (-1) else d) := by
  by_cases h : 0 ≤ d.system.fd
  · rw [if_pos h]
    exact congrFun (if_pos h) d
  · rw [if_neg h]
    exact congrFun (if_neg h) d

/-- An opening puts its own descriptor in the place of the old one. -/
theorem openUart_apply (baudRate : ℤ) (o : Opening) (d : Driver) :
    openUart baudRate o d = (do
      if o.opened < 0 then return false
      if ¬ (← configureUart baudRate o) then
        closeUart
        return false
      return true : Method Bool) (d.withFd o.opened) := by
  rw [openUart, bind_of_ok (closeUart_apply d)]
  split <;> rfl

theorem configureUart_of_getAttr {baudRate : ℤ} {o : Opening} (h : o.tcgetattr ≠ 0) (d : Driver) :
    configureUart baudRate o d = .ok false d := by
  rw [configureUart, if_pos h]
  rfl

theorem configureUart_of_throw {baudRate : ℤ} {o : Opening} {what : String} (h : o.tcgetattr = 0)
    (hbaud : baudToConstant baudRate = .error what) (d : Driver) :
    configureUart baudRate o d = .error what d := by
  rw [configureUart, if_neg (not_not.mpr h), hbaud]
  rfl

theorem configureUart_of_baud {baudRate : ℤ} {o : Opening} {constant : BaudConstant}
    (h : o.tcgetattr = 0) (hbaud : baudToConstant baudRate = .ok constant) (d : Driver) :
    configureUart baudRate o d = .ok (decide (o.tcsetattr = 0)) d := by
  rw [configureUart, if_neg (not_not.mpr h), hbaud]
  by_cases hset : o.tcsetattr = 0
  · simp [hset, orThrow]
  · simp [hset, orThrow]

/-- The ways of `on_configure`. -/
inductive ConfigureCase (baudRate : ℤ) (o : Opening) (d : Driver) :
    EStateM.Result String Driver CallbackReturn → Prop
  /-- The device does not open. -/
  | notOpened : o.opened < 0 → ConfigureCase baudRate o d (.ok .error (d.withFd o.opened))
  /-- It opens and cannot be set up, and is closed again. -/
  | notSet : 0 ≤ o.opened →
    o.tcgetattr ≠ 0 ∨ (∃ constant, baudToConstant baudRate = .ok constant) ∧ o.tcsetattr ≠ 0 →
    ConfigureCase baudRate o d (.ok .error (d.withFd (-1)))
  /-- It opens, and the speed is not in the table. -/
  | thrown {what : String} : 0 ≤ o.opened → o.tcgetattr = 0 →
    baudToConstant baudRate = .error what →
    ConfigureCase baudRate o d (.error what (d.withFd o.opened))
  | configured {constant : BaudConstant} : 0 ≤ o.opened → o.tcgetattr = 0 → o.tcsetattr = 0 →
    baudToConstant baudRate = .ok constant →
    ConfigureCase baudRate o d (.ok .success (d.withFd o.opened))

/-- **Each configuration goes one of these ways.** -/
theorem configureCase (baudRate : ℤ) (o : Opening) (d : Driver) :
    ConfigureCase baudRate o d (onConfigure baudRate o d) := by
  -- behind `configure_uart`, the device stays open or is closed as that says
  have hclose : 0 ≤ o.opened → ∀ configured : Bool,
      configureUart baudRate o (d.withFd o.opened) = .ok configured (d.withFd o.opened) →
      onConfigure baudRate o d = if configured then .ok .success (d.withFd o.opened)
        else .ok .error (d.withFd (-1)) := by
    intro hopen configured hset
    have happly : openUart baudRate o d
        = .ok configured (if configured then d.withFd o.opened else d.withFd (-1)) := by
      rw [openUart_apply, if_neg (not_lt.mpr hopen), bind_of_ok hset]
      cases configured with
      | false =>
        change (closeUart >>= fun _ ↦ return false) (d.withFd o.opened) = _
        rw [bind_of_ok (closeUart_apply _), if_pos (by exact hopen)]
        rfl
      | true => rfl
    rw [onConfigure, bind_of_ok happly]
    cases configured <;> rfl
  by_cases hopen : o.opened < 0
  · have happly : openUart baudRate o d = .ok false (d.withFd o.opened) := by
      rw [openUart_apply, if_pos hopen]
      rfl
    rw [onConfigure, bind_of_ok happly]
    exact .notOpened hopen
  rw [not_lt] at hopen
  by_cases hget : o.tcgetattr = 0
  · rcases hbaud : baudToConstant baudRate with what | constant
    · have happly : openUart baudRate o d = .error what (d.withFd o.opened) := by
        rw [openUart_apply, if_neg (not_lt.mpr hopen)]
        exact bind_of_error (configureUart_of_throw hget hbaud _)
      rw [onConfigure, bind_of_error happly]
      exact .thrown hopen hget hbaud
    · rw [hclose hopen _ (configureUart_of_baud hget hbaud _)]
      by_cases hset : o.tcsetattr = 0
      · rw [if_pos (decide_eq_true hset)]
        exact .configured hopen hget hset hbaud
      · rw [if_neg (by simp [hset])]
        exact .notSet hopen (.inr ⟨⟨constant, hbaud⟩, hset⟩)
  · rw [hclose hopen _ (configureUart_of_getAttr hget _)]
    exact .notSet hopen (.inl hget)

theorem onCleanup_apply (d : Driver) :
    onCleanup d = .ok .success (if 0 ≤ d.system.fd then d.withFd (-1) else d) := by
  rw [onCleanup, bind_of_ok (closeUart_apply d)]
  rfl

/-! ## Calls -/

inductive PortCall
  | configure (o : Opening)
  | cleanup
deriving DecidableEq, Repr

def PortCall.run (baudRate : ℤ) : PortCall → Method CallbackReturn
  | .configure o => onConfigure baudRate o
  | .cleanup => onCleanup

/-- The call has returned `SUCCESS`. -/
def Returned (result : EStateM.Result String Driver CallbackReturn) : Prop :=
  ∃ d, result = .ok .success d

/-- The call is an `on_configure` that returns `SUCCESS`. -/
def PortCall.Completes (baudRate : ℤ) (c : PortCall) (d : Driver) : Prop :=
  ∃ o, c = .configure o ∧ Returned (onConfigure baudRate o d)

/-- The driver behind the call, whether it has returned or thrown. -/
def PortCall.after (baudRate : ℤ) (c : PortCall) (d : Driver) : Driver :=
  finalState (c.run baudRate d)

/-- Behind the call, the descriptor is one exactly if the call is an `on_configure` that has
returned `SUCCESS`, and otherwise neither `read` nor `write` returns `OK`. -/
structure CallMeets (baudRate : ℤ) (d : Driver) (c : PortCall) : Prop where
  isOpen_iff : 0 ≤ (c.after baudRate d).system.fd ↔ c.Completes baudRate d
  read_ok : ∀ arrived, ((c.after baudRate d).read arrived).2 = .ok → c.Completes baudRate d
  write_ok : ∀ command outcomes,
    ({ (c.after baudRate d).system with command := command }.write outcomes).2.2 = some .ok →
      c.Completes baudRate d

/-- The speeds of the table. -/
def baudRates : List ℤ := [9600, 19200, 38400, 57600, 115200, 230400]

/-- The call does not come to the table, or finds the speed there. -/
def PortCall.Fits (baudRate : ℤ) : PortCall → Prop
  | .configure o => baudRate ∈ baudRates ∨ o.opened < 0 ∨ o.tcgetattr ≠ 0
  | .cleanup => True

theorem baudToConstant_eq_ok_iff {baud : ℤ} :
    (∃ constant, baudToConstant baud = .ok constant) ↔ baud ∈ baudRates := by
  unfold baudToConstant
  simp only [baudRates, List.mem_cons, List.not_mem_nil, or_false]
  split_ifs <;> simp_all

/-- The descriptor decides about `read` and `write`. -/
theorem callMeets_iff {baudRate : ℤ} {d : Driver} {c : PortCall} : CallMeets baudRate d c ↔
    (0 ≤ (c.after baudRate d).system.fd ↔ c.Completes baudRate d) := by
  refine ⟨CallMeets.isOpen_iff, fun h ↦ ⟨h, fun arrived hread ↦ ?_,
    fun command outcomes hwrite ↦ ?_⟩⟩
  · refine h.mp (le_of_not_gt fun hlt ↦ ?_)
    rw [Driver.read, if_pos hlt] at hread
    cases hread
  · refine h.mp (le_of_not_gt fun hlt ↦ ?_)
    rw [System.write_of_closed (by exact hlt)] at hwrite
    cases hwrite

/-- **One call** meets this exactly when it fits the table. -/
theorem callMeets_iff_fits (baudRate : ℤ) (d : Driver) (c : PortCall) :
    CallMeets baudRate d c ↔ c.Fits baudRate := by
  rw [callMeets_iff]
  cases c with
  | cleanup =>
    have hclosed : (PortCall.cleanup.after baudRate d).system.fd < 0 := by
      change (finalState (onCleanup d)).system.fd < 0
      rw [onCleanup_apply, finalState_ok]
      split_ifs with h
      · exact (by decide : (-1 : ℤ) < 0)
      · exact not_le.mp h
    refine iff_of_true (iff_of_false (not_le.mpr hclosed) ?_) trivial
    rintro ⟨o, ⟨⟩, -⟩
  | configure o =>
    have hcase := configureCase baudRate o d
    have hafter : (PortCall.configure o).after baudRate d = finalState (onConfigure baudRate o d) :=
      rfl
    have hcompletes : (PortCall.configure o).Completes baudRate d ↔
        Returned (onConfigure baudRate o d) := by
      constructor
      · rintro ⟨o', ⟨⟩, h⟩
        exact h
      · exact fun h ↦ ⟨o, rfl, h⟩
    rw [hafter, hcompletes]
    change _ ↔ baudRate ∈ baudRates ∨ o.opened < 0 ∨ o.tcgetattr ≠ 0
    generalize onConfigure baudRate o d = r at hcase
    cases hcase with
    | notOpened hopen =>
      refine iff_of_true (iff_of_false (not_le.mpr hopen) ?_) (.inr (.inl hopen))
      rintro ⟨d', ⟨⟩⟩
    | notSet hopen hset =>
      refine iff_of_true (iff_of_false (by decide : ¬(0 : ℤ) ≤ -1) ?_) ?_
      · rintro ⟨d', ⟨⟩⟩
      · rcases hset with hget | ⟨hbaud, -⟩
        · exact .inr (.inr hget)
        · exact .inl (baudToConstant_eq_ok_iff.mp hbaud)
    | thrown hopen hget hbaud =>
      have hnot : baudRate ∉ baudRates := by
        intro hmem
        obtain ⟨constant, hok⟩ := baudToConstant_eq_ok_iff.mpr hmem
        rw [hbaud] at hok
        cases hok
      refine iff_of_false (fun h ↦ ?_) ?_
      · obtain ⟨d', ⟨⟩⟩ := h.mp hopen
      · rintro (h | h | h)
        · exact hnot h
        · omega
        · exact h hget
    | configured hopen hget hset hbaud =>
      exact iff_of_true (iff_of_true hopen ⟨_, rfl⟩) (.inl (baudToConstant_eq_ok_iff.mp ⟨_, hbaud⟩))

/-- The call leaves the driver in the state `d'`. -/
def PortNext (baudRate : ℤ) (d : Driver) (c : PortCall) (d' : Driver) : Prop :=
  d' = c.after baudRate d

/-- **An open port is configured.** From any state, the descriptor is one behind every call exactly
when that call has configured the port, if and only if no `on_configure` comes to the table of
speeds with a speed that is not there. -/
theorem open_iff_configured_iff (baudRate : ℤ) (d : Driver) (calls : List PortCall) :
    Along (PortNext baudRate) (CallMeets baudRate) d calls ↔ ∀ c ∈ calls, c.Fits baudRate := by
  induction calls generalizing d with
  | nil => exact iff_of_true (along_nil d) (by simp)
  | cons c calls ih =>
    rw [along_cons_iff, List.forall_mem_cons, callMeets_iff_fits]
    refine and_congr_right fun _ ↦ ⟨fun h ↦ (ih _).mp (h _ rfl), ?_⟩
    rintro h d' rfl
    exact (ih _).mpr h

/-- The interface before the first call. -/
def Driver.initial (initialValue : Double) : Driver :=
  ⟨⟨-1, initialValue, initialValue, .nan⟩, []⟩

/-- With 250000 baud, the exception leaves the device open, and `read` returns `OK`. -/
theorem unsupported_speed_leaves_open :
    ¬ Along (PortNext 250000) (CallMeets 250000) (Driver.initial (.finite 0))
      [.configure ⟨3, 0, 0⟩] := by
  intro h
  obtain ⟨hmeets, -⟩ := along_cons_iff.mp h
  obtain ⟨o, ⟨⟩, d, hreturned⟩ := hmeets.read_ok [] (by rfl)
  cases hreturned

end VzletUr3e.Suction
