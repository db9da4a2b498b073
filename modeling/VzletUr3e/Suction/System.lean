import Mathlib

/-!
# The suction gripper's hardware interface

`SuctionGripperSystem` turns a commanded number into one of two text lines for the relay board. It
sends a line only when the thresholded command differs from the one it has sent last, and sends one
in any case after an activation. A line goes out through as many `::write` calls as the device
needs; their outcomes are the environment's, one list for each call of the interface.
-/

namespace VzletUr3e.Suction

/-! ## Doubles -/

/-- A double, as far as it is compared here. -/
inductive Double
  | nan
  | negInf
  | finite (q : ℚ)
  | posInf
deriving DecidableEq, Repr

namespace Double

def isNaN : Double → Bool
  | nan => true
  | _ => false

/-- `x >= q`. -/
def ge : Double → ℚ → Bool
  | nan, _ => false
  | negInf, _ => false
  | finite x, q => q ≤ x
  | posInf, _ => true

/-- `x > q`. -/
def gt : Double → ℚ → Bool
  | nan, _ => false
  | negInf, _ => false
  | finite x, q => q < x
  | posInf, _ => true

/-- `x == y`. A NaN is not equal to itself. -/
def eq : Double → Double → Bool
  | nan, _ => false
  | x, y => x = y

end Double

/-! ## Sending a line -/

/-- The result of one `::write` on the device. -/
inductive WriteResult
  /-- A number of bytes, at most those that were offered, were taken. -/
  | accepted (n : ℕ)
  /-- `EAGAIN` or `EWOULDBLOCK`. -/
  | again
  /-- Any other error. -/
  | failed
deriving DecidableEq, Repr

/-- The bytes the device has taken of `data`, and the result once there is one. With no results of
`::write` left the loop is still running. -/
def sendLine : List Char → List WriteResult → List Char × Option Bool
  | [], _ => ([], some true)
  | _ :: _, [] => ([], none)
  | d :: data, .again :: rest => sendLine (d :: data) rest
  | _ :: _, .failed :: _ => ([], some false)
  | d :: data, .accepted n :: rest =>
    let (sent, result) := sendLine ((d :: data).drop n) rest
    ((d :: data).take n ++ sent, result)

/-- What is taken is always a front part of the line, and all of it exactly in case of success. -/
theorem sendLine_spec (data : List Char) (outcomes : List WriteResult) :
    (sendLine data outcomes).1 <+: data ∧
      ((sendLine data outcomes).2 = some true ↔ (sendLine data outcomes).1 = data) := by
  induction outcomes generalizing data with
  | nil => cases data <;> simp [sendLine]
  | cons o rest ih =>
    cases data with
    | nil => simp [sendLine]
    | cons d data =>
      cases o with
      | again => exact ih (d :: data)
      | failed => simp [sendLine]
      | accepted n =>
        -- the loop goes on behind the bytes that were taken
        obtain ⟨hstart, hiff⟩ := ih ((d :: data).drop n)
        have hsplit : (d :: data).take n ++ (d :: data).drop n = d :: data :=
          List.take_append_drop n (d :: data)
        refine ⟨?_, ?_⟩
        · have h := (List.prefix_append_right_inj ((d :: data).take n)).mpr hstart
          rwa [hsplit] at h
        · refine hiff.trans ⟨fun h ↦ ?_, fun h ↦ ?_⟩
          · exact (congrArg ((d :: data).take n ++ ·) h).trans hsplit
          · exact List.append_cancel_left (h.trans hsplit.symm)

/-! ## The interface -/

/-- `hardware_interface::return_type`. -/
inductive ReturnType
  | ok
  | error
deriving DecidableEq, Repr

structure System where
  fd : ℤ
  command : Double
  state : Double
  lastSentLogic : Double
deriving DecidableEq, Repr

/-- The commanded number, thresholded. -/
def thresholded (command : Double) : Double := if command.ge (1 / 2) then .finite 1 else .finite 0

def uartCmd (logic : Double) : String := if logic.gt (1 / 2) then "pneumo1\n" else "pneumo0\n"

/-- The last line that went out stands for the same command. -/
def System.alreadySent (s : System) (logic : Double) : Bool :=
  !s.lastSentLogic.isNaN && logic.eq s.lastSentLogic

/-- `SuctionGripperSystem::write`: the system afterwards, the bytes that the device has taken, and
the result once there is one. -/
def System.write (s : System) (outcomes : List WriteResult) :
    System × List Char × Option ReturnType :=
  if s.fd < 0 then (s, [], some .error)
  else
    let logic := thresholded s.command
    if s.alreadySent logic then (s, [], some .ok)
    else
      match sendLine (uartCmd logic).toList outcomes with
      | (sent, some true) => ({ s with lastSentLogic := logic, state := logic }, sent, some .ok)
      | (sent, some false) => (s, sent, some .error)
      | (sent, none) => (s, sent, none)

/-- `SuctionGripperSystem::on_activate`: it pushes the command once, and succeeds when that does. -/
def System.onActivate (s : System) (outcomes : List WriteResult) :
    System × List Char × Option ReturnType :=
  { s with lastSentLogic := .nan }.write outcomes

/-! ### The ways of a write -/

variable {s : System} {outcomes : List WriteResult}

theorem System.write_of_closed (h : s.fd < 0) : s.write outcomes = (s, [], some .error) := by
  rw [write, if_pos h]

theorem System.write_of_alreadySent (h0 : ¬ s.fd < 0)
    (h : s.alreadySent (thresholded s.command) = true) :
    s.write outcomes = (s, [], some .ok) := by
  rw [write, if_neg h0]
  exact if_pos h

/-- Where the interface sends, success needs the whole line. -/
theorem System.write_of_sent (h0 : ¬ s.fd < 0)
    (h : ¬ s.alreadySent (thresholded s.command) = true)
    (hsent : (sendLine (uartCmd (thresholded s.command)).toList outcomes).2 = some true) :
    s.write outcomes
      = ({ s with lastSentLogic := thresholded s.command, state := thresholded s.command },
          (uartCmd (thresholded s.command)).toList, some .ok) := by
  obtain ⟨-, hall⟩ := sendLine_spec (uartCmd (thresholded s.command)).toList outcomes
  have hpair : sendLine (uartCmd (thresholded s.command)).toList outcomes
      = ((uartCmd (thresholded s.command)).toList, some true) :=
    Prod.ext (hall.mp hsent) hsent
  rw [write, if_neg h0]
  simp only [if_neg h, hpair]

theorem System.write_of_cut (h0 : ¬ s.fd < 0)
    (h : ¬ s.alreadySent (thresholded s.command) = true)
    (hcut : (sendLine (uartCmd (thresholded s.command)).toList outcomes).2 ≠ some true) :
    ∃ result, result ≠ some .ok ∧ s.write outcomes
      = (s, (sendLine (uartCmd (thresholded s.command)).toList outcomes).1, result) := by
  rw [write, if_neg h0]
  simp only [if_neg h]
  generalize sendLine (uartCmd (thresholded s.command)).toList outcomes = r at hcut
  obtain ⟨sent, result⟩ := r
  match result with
  | none => exact ⟨none, by simp, rfl⟩
  | some false => exact ⟨some .error, by simp, rfl⟩
  | some true => exact absurd rfl hcut

/-- The system after `on_init` and a successful `on_configure`. -/
def System.configured (fd : ℤ) (initialValue : Double) : System :=
  ⟨fd, initialValue, initialValue, .nan⟩

end VzletUr3e.Suction
